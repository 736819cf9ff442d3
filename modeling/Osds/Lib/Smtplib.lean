import Osds.Lib.Text
import Osds.Lib.Triples
import Mathlib.Data.List.Dedup

-- An SMTP client as `smtplib` has it, against any server.
namespace Smtplib
open Blocks

inductive Mechanism where
  | cramMd5 | plain | login
  deriving DecidableEq, Repr

def Mechanism.name : Mechanism → String
  | .cramMd5 => "CRAM-MD5"
  | .plain => "PLAIN"
  | .login => "LOGIN"

inductive Line where
  | ehlo | helo | starttls
  | auth (mechanism : Mechanism) (initial : Option String)
  | answer (text : String)
  | mail (sender : String) (options : List String)
  | rcpt (recipient : String)
  | data
  | body (message : String)
  | rset | quit
  deriving DecidableEq, Repr

inductive Reply where
  | line (code : Int) (text : List String)
  | overlong
  | dropped
  deriving DecidableEq, Repr

structure Exchange where
  line : Line
  sealed : Bool
  reply : Reply
  deriving DecidableEq, Repr

inductive Trouble where
  | os (name : String)
  | value (name : String)
  deriving DecidableEq, Repr

-- A server, and the network before it. A handshake that succeeds has verified the
-- certificate and the host.
structure Peer where
  connects : Option Trouble
  banner : Reply
  handshake : List Exchange → Option Trouble
  reply : List Exchange → Line → Bool → Reply

inductive Error where
  | connectError | heloError | notSupported
  | responseException (code : Int)
  | authenticationError | senderRefused | recipientsRefused
  | dataError (code : Int)
  | exception | serverDisconnected
  | other (trouble : Trouble)
  deriving DecidableEq, Repr

structure Smtp where
  log : List Exchange
  sock : Bool
  sealed : Bool
  -- helo_resp or ehlo_resp is not None
  greeted : Bool
  features : List (String × String)
  doesEsmtp : Bool

abbrev Client := Block Smtp Error

structure Library where
  decode : List String → Option String
  hmacMd5 : String → String → String

def MAXCHALLENGE : Nat := 5

def close : Client Unit := writes fun s => {s with sock := false}

section features

def isAlphanumeric (c : Char) : Bool := 'a' ≤ c && c ≤ 'z' || 'A' ≤ c && c ≤ 'Z' || '0' ≤ c && c ≤ '9'

def putFeature (features : List (String × String)) (feature parameters : String) : List (String × String) :=
  if feature = "auth" then (feature,(features.lookup feature).getD "" ++ " " ++ parameters) :: features
  else (feature,parameters) :: features

def addFeature (features : List (String × String)) (line : String) : List (String × String) :=
  let word := line.toList.takeWhile fun c => isAlphanumeric c || c = '-'
  let rest := line.toList.drop word.length
  let feature := String.ofList (word.map Char.toLower)
  if feature = "auth" ∧ rest.head? = some '=' then putFeature features "auth" (String.ofList rest.tail)
  else if (word.head?.map isAlphanumeric).getD false then putFeature features feature (Text.strip (String.ofList rest))
  else features

end features

section commands

variable (peer : Peer)

def docmd (line : Line) : Client (Int × List String) :=
  ⟨fun s =>
    if s.sock then
      let reply := peer.reply s.log line s.sealed
      let sent := {s with log := s.log ++ [⟨line,s.sealed,reply⟩]}
      match reply with
      | .line code text => (.ok (code,text),sent)
      | .overlong => (.error (.responseException 500),{sent with sock := false})
      | .dropped => (.error .serverDisconnected,{sent with sock := false})
    else (.error .serverDisconnected,s)⟩

def ehlo : Client Int := do
  writes fun s => {s with features := []}
  let (code,text) ← docmd peer .ehlo
  if code = -1 ∧ "\n".intercalate text = "" then
    close
    raise .serverDisconnected
  else if code ≠ 250 then
    writes fun s => {s with greeted := true}
    pure code
  else
    writes fun s => {s with greeted := true,doesEsmtp := true,features := text.tail.foldl addFeature []}
    pure code

def helo : Client Int := do
  let (code,_) ← docmd peer .helo
  writes fun s => {s with greeted := true}
  pure code

def ehloOrHeloIfNeeded : Client Unit := do
  if ← reads (·.greeted) then pure ()
  else
    let code ← ehlo peer
    if 200 ≤ code ∧ code ≤ 299 then pure ()
    else
      let code ← helo peer
      if 200 ≤ code ∧ code ≤ 299 then pure () else raise .heloError

def hasExtn (feature : String) : Client Bool := reads fun s => (s.features.lookup feature).isSome

-- What the server said before the handshake is forgotten.
def starttls : Client Unit := do
  ehloOrHeloIfNeeded peer
  if ← hasExtn "starttls" then
    let (code,_) ← docmd peer .starttls
    if code = 220 then
      match peer.handshake (← reads (·.log)) with
      | some trouble => do
          close
          raise (.other trouble)
      | none => writes fun s => {s with sealed := true,greeted := false,features := [],doesEsmtp := false}
    else raise (.responseException code)
  else raise .notSupported

def encoded (text : String) : Client String :=
  if Text.ascii text then pure text else raise (.other (.value "UnicodeEncodeError"))

end commands

section login

variable (library : Library) (peer : Peer) (user password : String)

def authObject (mechanism : Mechanism) (count : Nat) (challenge : Option String) : Option String :=
  match mechanism with
  | .cramMd5 => challenge.map fun text => user ++ " " ++ library.hmacMd5 password text
  | .plain => some ("\x00" ++ user ++ "\x00" ++ password)
  | .login => some (if challenge = none ∨ count < 2 then user else password)

def respond (mechanism : Mechanism) (remaining : Nat) (text : List String) : Client (Int × List String) := do
  match library.decode text with
  | none => raise (.other (.value "Error"))
  | some challenge =>
      let _ ← encoded (if mechanism = .cramMd5 then password else "")
      let response ← encoded ((authObject library user password mechanism (MAXCHALLENGE + 1 - remaining) (some challenge)).getD "")
      docmd peer (.answer response)

def challenged (mechanism : Mechanism) : Nat → List String → Client Int
  | 0,text => do
      let _ ← respond library peer user password mechanism 0 text
      raise .exception
  | remaining + 1,text => do
      let (code,text) ← respond library peer user password mechanism (remaining + 1) text
      if code = 334 then challenged mechanism remaining text else pure code

def converse (mechanism : Mechanism) : Client Int :=
  match authObject library user password mechanism 0 none with
  | some initial => do
      let response ← encoded initial
      let (code,text) ← docmd peer (.auth mechanism (some response))
      if code = 334 then challenged library peer user password mechanism (MAXCHALLENGE - 1) text else pure code
  | none => do
      let (code,text) ← docmd peer (.auth mechanism none)
      if code = 334 then challenged library peer user password mechanism MAXCHALLENGE text else pure code

def auth (mechanism : Mechanism) : Client Unit := do
  let code ← converse library peer user password mechanism
  if code = 235 ∨ code = 503 then pure () else raise .authenticationError

def tryEach : List Mechanism → Client Unit
  | [] => raise .authenticationError
  | mechanism :: rest =>
      handle (auth library peer user password mechanism) fun e => if e = .authenticationError then tryEach rest else raise e

def mechanisms (advertised : String) : List Mechanism :=
  [Mechanism.cramMd5,.plain,.login].filter fun mechanism =>
    mechanism.name ∈ (advertised.toList.splitOnP Text.isBlank).map String.ofList

def login : Client Unit := do
  ehloOrHeloIfNeeded peer
  match (← reads (·.features)).lookup "auth" with
  | none => raise .notSupported
  | some advertised =>
      if mechanisms advertised = [] then raise .exception else tryEach library peer user password (mechanisms advertised)

end login

def breaks (address : String) : Bool := address.toList.any fun c => c = '\r' || c = '\n'

-- No address breaks a line: a header does not take one that does.
structure Email where
  sender : String
  recipients : List String
  unbroken : (sender :: recipients).any breaks = false
  -- the flat text, or what writing it raises
  flat : Bool → Except Trouble String

section sending

variable (peer : Peer)

def rset : Client Unit := handle (do let _ ← docmd peer .rset) fun e => if e = .serverDisconnected then pure () else raise e

def giveUp (code : Int) (e : Error) : Client Unit := (if code = 421 then close else rset peer) >>= fun _ => raise e

def mail (sender : String) (options : List String) : Client Int := do
  let esmtp ← reads (·.doesEsmtp)
  let utf8 ← hasExtn "smtputf8"
  if esmtp ∧ "SMTPUTF8" ∈ options ∧ ¬utf8 then raise .notSupported
  else
    let (code,_) ← docmd peer (.mail sender (if esmtp then options else []))
    pure code

def rcptEach : List String → Client (List String)
  | [] => pure []
  | recipient :: rest => do
      let (code,_) ← docmd peer (.rcpt recipient)
      if code = 421 then
        close
        raise .recipientsRefused
      else
        let refused ← rcptEach rest
        pure (if code ≠ 250 ∧ code ≠ 251 then recipient :: refused else refused)

def data (message : String) : Client Int := do
  let (code,_) ← docmd peer .data
  if code ≠ 354 then raise (.dataError code)
  else
    let (code,_) ← docmd peer (.body message)
    pure code

def sendmail (sender : String) (recipients : List String) (message : String) (mailOptions : List String) : Client Unit := do
  ehloOrHeloIfNeeded peer
  let esmtp ← reads (·.doesEsmtp)
  let sized ← hasExtn "size"
  let options := if esmtp then (if sized then ["size=" ++ toString message.utf8ByteSize] else []) ++ mailOptions else []
  let code ← mail peer sender options
  if code ≠ 250 then giveUp peer code .senderRefused
  else
    let refused ← rcptEach peer recipients
    if refused.dedup.length = recipients.length then
      rset peer
      raise .recipientsRefused
    else
      let code ← data peer message
      if code ≠ 250 then giveUp peer code (.dataError code) else pure ()

def sendMessage (email : Email) : Client Unit := do
  ehloOrHeloIfNeeded peer
  let international := !(email.sender :: email.recipients).all Text.ascii
  let utf8 ← hasExtn "smtputf8"
  if international ∧ ¬utf8 then raise .notSupported
  else match email.flat international with
    | .error trouble => raise (.other trouble)
    | .ok message => sendmail peer email.sender email.recipients message (if international then ["SMTPUTF8","BODY=8BITMIME"] else [])

def connect (sealed : Bool) : Client Unit :=
  match peer.connects with
  | some trouble => raise (.other trouble)
  | none =>
      match if sealed then peer.handshake [] else none with
      | some trouble => raise (.other trouble)
      | none => do
          writes fun s => {s with sock := true,sealed := sealed}
          match peer.banner with
          | .dropped => do
              close
              raise .serverDisconnected
          | .overlong => do
              close
              raise (.responseException 500)
          | .line code _ =>
              if code = 220 then pure ()
              else do
                close
                raise .connectError

def leave : Client Unit :=
  closing
    (handle (do
      let (code,_) ← docmd peer .quit
      if code = 221 then pure () else raise (.responseException code))
      fun e => if e = .serverDisconnected then pure () else raise e)
    close

end sending

def Smtp.new : Smtp := ⟨[],false,false,false,[],false⟩

end Smtplib

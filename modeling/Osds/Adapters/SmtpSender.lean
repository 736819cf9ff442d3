import Osds.Adapters.WebhookEndpoint
import Osds.Audit.MailDrain
import Osds.Lib.SmtpSessions
import Osds.Tenants.MailPassword

namespace Osds.Adapters.SmtpSender
open Audit (Result)
open Audit.MailDrain (Answer)
open Blocks
open Smtplib
open Tenants.MailPassword (SMTP_SECURITY_MODES textAt usernameOf isSecurity)
open Tenants.SettingsSaves (Fields truthy)
open WebhookEndpoint (Context)

structure MailMessage where
  messageId : String
  kind : String
  toAddress : String
  subject : String
  bodyText : String
  deriving DecidableEq, Repr

section configuration

variable (config : Fields)

def stripped (key : String) : Option String := (textAt config key).map Text.strip

def available : Option Bool := do
  let host ← stripped config "host"
  if host = "" then pure false
  else
    let fromEmail ← stripped config "from_email"
    if fromEmail = "" then pure false
    else if !isSecurity (config.lookup "security") then pure false
    else
      let username ← stripped config "username"
      pure !(username ≠ "" && config.lookup "security" = some (.str "none"))

def hostOf : String := (stripped config "host").getD ""

def fromOf : String := (stripped config "from_email").getD ""

def portOf : Json :=
  match config.lookup "port" with
  | some port => if truthy (some port) then port else .num 587
  | none => .num 587

def securityOf : String :=
  match config.lookup "security" with
  | some (.str mode) => mode
  | _ => ""

end configuration

def className : Error → String
  | .connectError => "SMTPConnectError"
  | .heloError => "SMTPHeloError"
  | .notSupported => "SMTPNotSupportedError"
  | .responseException _ => "SMTPResponseException"
  | .authenticationError => "SMTPAuthenticationError"
  | .senderRefused => "SMTPSenderRefused"
  | .recipientsRefused => "SMTPRecipientsRefused"
  | .dataError _ => "SMTPDataError"
  | .exception => "SMTPException"
  | .serverDisconnected => "SMTPServerDisconnected"
  | .other (.os name) => name
  | .other (.value name) => name

-- A `ValueError` is not caught.
def concluded : Except Error Unit → Except String Result
  | .ok _ => .ok {status := .ok}
  | .error (.other (.value name)) => .error name
  | .error .recipientsRefused => .ok {status := .failed,reason := className .recipientsRefused,permanent := true}
  | .error (.dataError code) => .ok {status := .failed,reason := className (.dataError code),permanent := 500 ≤ code && code < 600}
  | .error e => .ok {status := .failed,reason := className e}

section sender

variable (library : Library) (peer : Peer) (security username password : String)

def secured : Client Unit := if security = "starttls" then starttls peer else pure ()

def signedIn : Client Unit := if username ≠ "" then login library peer username password else pure ()

def session (email : Email) : Client Unit :=
  connect peer (security = "tls") >>= fun _ =>
    closing (secured peer security >>= fun _ => signedIn library peer username password >>= fun _ => sendMessage peer email) (leave peer)

end sender

-- What there is at a host and a port, and the message that is composed, or the class of
-- what composing it raises.
structure World where
  library : Library
  peer : String → Json → Peer
  compose : String → MailMessage → Except String Email

section send

variable (world : World) (ctx : Context) (message : MailMessage)

def delivered (email : Email) : Except Error Unit × Smtp :=
  (session world.library (world.peer (hostOf ctx.config) (portOf ctx.config)) (securityOf ctx.config) (usernameOf ctx.config)
    (if usernameOf ctx.config ≠ "" then (ctx.secret "password").getD "" else "") email).run Smtp.new

def send : Answer × List Exchange :=
  match available ctx.config with
  | none => (.returned (.error "AttributeError"),[])
  | some false => (.unconfigured "smtp is not configured for this tenant",[])
  | some true =>
      match world.compose (fromOf ctx.config) message with
      | .error name => (.returned (.error name),[])
      | .ok email =>
          let (outcome,left) := delivered world ctx email
          (.returned (concluded outcome),left.log)

end send

def credential : Line → Bool
  | .auth _ _ => true
  | .answer _ => true
  | _ => false

-- A line that goes out: of the mail itself, or of a login there is a name for. Without
-- TLS nothing but a greeting and a farewell does, unless the settings ask for none; and
-- then there is no login.
structure Guarded (security username : String) (email : Email) (x : Exchange) : Prop where
  own : x.line.about email ∨ credential x.line = true ∧ username ≠ ""
  sealed : x.sealed = true ∨ x.line.opening = true ∨ x.line = .quit ∨ security = "none"
  credentials : credential x.line = true → x.sealed = true

section guarded

variable {library : Library} {peer : Peer} {security username password : String} {email : Email}

def AllGuarded (security username : String) (email : Email) (s : Smtp) : Prop := ∀ x ∈ s.log, Guarded security username email x

theorem silent_guarded {s : Smtp} (silent : s.log = []) : AllGuarded security username email s := by
  unfold AllGuarded
  rw [silent]
  exact List.forall_mem_nil _

theorem opening_guarded {x : Exchange} (opening : x.line.opening = true) : Guarded security username email x := by
  obtain ⟨line,sealed,reply⟩ := x
  cases line <;> first | exact ⟨.inl trivial,.inr (.inl rfl),nofun⟩ | cases opening

theorem about_guarded {x : Exchange} (about : x.line.about email) (sealed : x.sealed = true ∨ security = "none") :
    Guarded security username email x := by
  obtain ⟨line,_,reply⟩ := x
  refine ⟨.inl about,sealed.imp id fun none_ => .inr (.inr none_),?_⟩
  cases line <;> first | exact about.elim | exact nofun

theorem available_secure {config : Fields} (ready : available config = some true) :
    securityOf config ∈ SMTP_SECURITY_MODES ∧ (usernameOf config ≠ "" → securityOf config ≠ "none") := by
  unfold available at ready
  cases host : stripped config "host" with
  | none => simp [host] at ready
  | some host' =>
      cases fromEmail : stripped config "from_email" with
      | none =>
          simp only [host,fromEmail,Option.bind_eq_bind,Option.bind_some,Option.bind_none] at ready
          split at ready <;> cases ready
      | some from_ =>
          simp only [host,fromEmail,Option.bind_eq_bind,Option.bind_some] at ready
          split at ready
          · cases ready
          split at ready
          · cases ready
          split at ready
          · cases ready
          · next known =>
              obtain ⟨name,said,open_⟩ := Option.bind_eq_some_iff.mp ready
              obtain ⟨text,listed,rfl⟩ := Option.map_eq_some_iff.mp said
              unfold usernameOf securityOf
              rw [listed]
              cases chosen : config.lookup "security" with
              | none => simp [chosen,isSecurity] at known
              | some value =>
                  cases value with
                  | str mode =>
                      simp only [chosen,isSecurity,Bool.not_eq_true,Bool.not_eq_false',decide_eq_true_eq] at known open_
                      refine ⟨known,fun named none_ => ?_⟩
                      simp only [Option.getD_some] at named none_
                      simp [named,none_] at open_
                  | _ => simp [chosen,isSecurity] at known

def Ready (security username : String) (email : Email) (s : Smtp) : Prop :=
  AllGuarded security username email s ∧ (s.sealed = true ∨ security = "none")

theorem secured_ready (offered : security ∈ SMTP_SECURITY_MODES) :
    Triple (fun s => s.log = [] ∧ s.sock = true ∧ s.sealed = decide (security = "tls")) (secured peer security)
      (fun _ => Ready security username email) (fun _ => AllGuarded security username email) := by
  unfold secured
  by_cases starts : security = "starttls"
  · subst starts
    refine triple_weaken starttls_at ?_ ?_ ?_
    · exact fun s fresh => ⟨fresh.1,fresh.2.1,fresh.2.2⟩
    · exact fun _ s kept => ⟨fun x listed => opening_guarded (kept.2.2 x listed),.inl kept.2.1⟩
    · exact fun _ s kept x listed => opening_guarded (kept.2.2 x listed)
  · rw [if_neg starts]
    refine triple_pure ?_
    rintro s ⟨log,_,sealed⟩
    refine ⟨silent_guarded log,?_⟩
    simp only [SMTP_SECURITY_MODES,List.mem_cons,List.not_mem_nil,or_false] at offered
    rcases offered with none_ | start | tls
    · exact .inr none_
    · exact absurd start starts
    · exact .inl (sealed.trans (decide_eq_true tls))

theorem signedIn_ready (closed : username ≠ "" → security ≠ "none") :
    Triple (Ready security username email) (signedIn library peer username password) (fun _ => Ready security username email)
      (fun _ => AllGuarded security username email) := by
  unfold signedIn
  by_cases named : username = ""
  · rw [if_neg (not_not.mpr named)]
    exact triple_pure fun _ ready => ready
  · rw [if_pos named]
    let kind : Line → Prop := fun line => line.opening = true ∨ credential line = true
    have modest : Modest kind (login library peer username password) :=
      modest_login (.inl rfl) (.inl rfl) (fun _ _ => .inr rfl) (fun _ => .inr rfl)
    have kept : Triple (Ready security username email) (login library peer username password) (fun _ => Ready security username email)
        (fun _ => Ready security username email) := by
      refine keeps_triple modest.adds ?_
      rintro s t ⟨guarded,ready⟩ added
      have sealed : s.sealed = true := ready.resolve_right (closed named)
      refine ⟨adds_all added guarded fun x same line => ?_,.inl (added.1.trans sealed)⟩
      rcases line with opening | line
      · exact opening_guarded opening
      · exact ⟨.inr ⟨line,named⟩,.inl (same.trans sealed),fun _ => same.trans sealed⟩
    exact triple_weaken kept (fun _ ready => ready) (fun _ _ ready => ready) fun _ _ ready => ready.1

theorem session_guarded (offered : security ∈ SMTP_SECURITY_MODES) (closed : username ≠ "" → security ≠ "none") :
    AllGuarded security username email ((session library peer security username password email).run Smtp.new).2 := by
  have sends : Triple (Ready security username email) (sendMessage peer email) (fun _ => AllGuarded security username email)
      (fun _ => AllGuarded security username email) := by
    refine keeps_triple (adds_sendMessage fun line (about : line.about email) => about) ?_
    rintro s t ⟨guarded,ready⟩ added
    exact adds_all added guarded fun x same about => about_guarded about (ready.imp same.trans id)
  have leaves : Triple (AllGuarded security username email) (leave peer) (fun _ => AllGuarded security username email)
      (fun _ => AllGuarded security username email) := by
    have quits : Keeps (Adds (· = .quit)) (leave peer) := adds_leave rfl
    refine keeps_triple quits ?_
    intro s t guarded added
    refine adds_all added guarded fun x _ line => ⟨.inl (by rw [line]; trivial),.inr (.inr (.inl line)),?_⟩
    rw [line]
    exact nofun
  have guarded : Triple (· = Smtp.new) (session library peer security username password email)
      (fun _ => AllGuarded security username email) (fun _ => AllGuarded security username email) := by
    refine triple_bind (triple_weaken (connect_at _) (fun _ is => is) (fun _ _ fresh => fresh) ?_) fun _ => ?_
    · exact fun e s failed => silent_guarded failed.2
    · exact triple_closing (triple_bind (secured_ready offered) fun _ => triple_bind (signedIn_ready closed) fun _ => sends)
        (fun _ => leaves) fun _ => leaves
  exact triple_run guarded rfl

end guarded

theorem lines_guarded (world : World) (ctx : Context) (message : MailMessage) : ∀ x ∈ (send world ctx message).2,
    available ctx.config = some true ∧ ∃ email, world.compose (fromOf ctx.config) message = .ok email ∧
      Guarded (securityOf ctx.config) (usernameOf ctx.config) email x := by
  intro x listed
  unfold send at listed
  split at listed
  · cases listed
  · cases listed
  · next ready =>
      split at listed
      · cases listed
      · next email composed =>
          obtain ⟨offered,closed⟩ := available_secure ready
          exact ⟨ready,email,composed,session_guarded offered closed x listed⟩

def welcome : Peer where
  connects := none
  banner := .line 220 []
  handshake := fun _ => none
  reply := fun _ line sealed =>
    match line with
    | .ehlo => .line 250 ["mail.example",if sealed then "AUTH PLAIN" else "STARTTLS"]
    | .starttls => .line 220 []
    | .auth _ _ => .line 235 []
    | .data => .line 354 []
    | .quit => .line 221 []
    | _ => .line 250 []

def plainMail (fromEmail : String) (message : MailMessage) : Except String Email :=
  if unbroken : [fromEmail,message.toAddress].any breaks = false then
    .ok ⟨fromEmail,[message.toAddress],unbroken,fun _ => .ok message.bodyText⟩
  else .error "ValueError"

def welcoming : World := ⟨⟨fun _ => none,fun _ _ => ""⟩,fun _ _ => welcome,plainMail⟩

def mailbox : Context :=
  ⟨[("host",.str "mail.example"),("from_email",.str "a@example"),("security",.str "starttls"),("username",.str "u")],fun _ => some "p"⟩

theorem login_guarded : Guarded "starttls" "u" ⟨"a@example",["b@example"],by decide,fun _ => .ok "Hi"⟩
    ⟨.auth .plain (some "\x00u\x00p"),true,.line 235 []⟩ := by
  obtain ⟨_,email,composed,guarded⟩ := lines_guarded welcoming mailbox ⟨"m","code","b@example","Hello","Hi"⟩
    ⟨.auth .plain (some "\x00u\x00p"),true,.line 235 []⟩ (by decide)
  cases composed
  exact guarded

def succeeded : Answer → Bool
  | .returned (.ok result) => result.status = .ok
  | _ => false

def refused : Answer → Bool
  | .returned (.ok result) => result.status = .failed && result.permanent
  | _ => false

section told

variable {library : Library} {peer : Peer} {security username password : String} {email : Email}

theorem opening_unmailed {log : List Exchange} (opening : ∀ x ∈ log, x.line.opening = true) : mailed log = [] := by
  refine List.filter_eq_nil_iff.mpr fun x listed => ?_
  have kind := opening x listed
  cases line : x.line <;> simp [line,Line.opening,Line.mailing] at kind ⊢

theorem early_told {e : Error} {log : List Exchange} (plain : e.refuses = false) (none_ : log = []) : Told (.error e) log := by
  subst none_
  have judged := course_judged (.early plain)
  refine ⟨iff_of_false nofun ?_,iff_of_false (by simp [plain_passing plain]) ?_⟩
  · exact fun taken => nomatch judged.accepted.mpr taken.1
  · exact fun refused => absurd (judged.permanent.mpr ⟨refused.1,refused.2.1⟩) (by simp [plain_passing plain])

theorem session_told : Triple (· = Smtp.new) (session library peer security username password email)
    (fun _ s => Told (.ok ()) s.log) (fun e s => Told (.error e) s.log) := by
  refine triple_bind (triple_weaken (connect_at _) (fun _ is => is) (fun _ _ fresh => fresh) ?_) fun _ => ?_
  · exact fun e s failed => early_told failed.1 failed.2
  have early : ∀ (e : Error) (s : Smtp), e.refuses = false ∧ mailed s.log = [] → Went (.error e) s :=
    fun e s failed => went_said failed.2 (.early failed.1)
  have securing : Triple (fun s => s.log = [] ∧ s.sock = true ∧ s.sealed = decide (security = "tls")) (secured peer security)
      (fun _ => At []) (fun e => Went (.error e)) := by
    unfold secured
    by_cases starts : security = "starttls"
    · subst starts
      refine triple_weaken starttls_at ?_ ?_ ?_
      · exact fun s fresh => ⟨fresh.1,fresh.2.1,fresh.2.2⟩
      · exact fun _ s kept => ⟨kept.1,opening_unmailed kept.2.2⟩
      · exact fun e s kept => early e s ⟨kept.1,opening_unmailed kept.2.2⟩
    · rw [if_neg starts]
      exact triple_pure fun s fresh => ⟨fresh.2.1,by rw [fresh.1]; rfl⟩
  have signing : Triple (At []) (signedIn library peer username password) (fun _ => At []) (fun e => Went (.error e)) := by
    unfold signedIn
    split
    · exact triple_weaken (modest_at (modest_login rfl rfl (fun _ _ => rfl) (fun _ => rfl))) (fun _ at_ => at_) (fun _ _ at_ => at_) early
    · exact triple_pure fun _ at_ => at_
  exact told_left (triple_bind securing fun _ => triple_bind signing fun _ => sendMessage_went email)

theorem delivered_told (world : World) (ctx : Context) (email : Email) :
    Told (delivered world ctx email).1 (delivered world ctx email).2.log := by
  exact triple_outcome (fun outcome (s : Smtp) => Told outcome s.log) session_told rfl

theorem concluded_told (outcome : Except Error Unit) :
    (succeeded (.returned (concluded outcome)) = true ↔ outcome = .ok ()) ∧
      (refused (.returned (concluded outcome)) = true ↔ permanent outcome = true) := by
  cases outcome with
  | ok _ => simp [succeeded,refused,concluded,permanent]
  | error e =>
      cases e with
      | other trouble => cases trouble <;> simp [succeeded,refused,concluded,permanent]
      | _ => simp [succeeded,refused,concluded,permanent]

theorem send_cases (world : World) (ctx : Context) (message : MailMessage) :
    (send world ctx message).2 = [] ∧ succeeded (send world ctx message).1 = false ∧ refused (send world ctx message).1 = false ∨
      ∃ email, send world ctx message = (.returned (concluded (delivered world ctx email).1),(delivered world ctx email).2.log) := by
  unfold send
  split
  · exact .inl ⟨rfl,rfl,rfl⟩
  · exact .inl ⟨rfl,rfl,rfl⟩
  · split
    · exact .inl ⟨rfl,rfl,rfl⟩
    · next email _ => exact .inr ⟨email,rfl⟩

theorem send_told (world : World) (ctx : Context) (message : MailMessage) :
    (succeeded (send world ctx message).1 = true ↔ Accepted (send world ctx message).2 ∧ Parted (send world ctx message).2) ∧
      (refused (send world ctx message).1 = true ↔
        (RecipientsRefused (send world ctx message).2 ∨ DataRefused (send world ctx message).2) ∧
          ¬Torn (send world ctx message).2 ∧ Parted (send world ctx message).2) := by
  rcases send_cases world ctx message with ⟨silent,failed,passing⟩ | ⟨email,said⟩
  · have told : Told (.error .exception) [] := early_told rfl rfl
    rw [silent,failed,passing,← told.accepted,← told.permanent]
    simp [permanent]
  · have told := delivered_told world ctx email
    obtain ⟨taken,passed⟩ := concluded_told (delivered world ctx email).1
    rw [said]
    exact ⟨taken.trans told.accepted,passed.trans told.permanent⟩

end told

end Osds.Adapters.SmtpSender

import Osds.Claims.Models
import Osds.Directory.Imports
import Osds.Lib.Fallible
import Osds.Lib.Lists
import Osds.Lib.Runs
import Mathlib.Algebra.GroupWithZero.Nat
import Mathlib.Data.List.Pairwise

namespace Osds.Directory.LeadCapture
open Audit
open Claims (hour)

def LEAD_CONSENT_CHANNEL : String := "contact_by_business"
def NAME_MAX : Nat := 100
def MESSAGE_MIN : Nat := 10
def MESSAGE_MAX : Nat := 1000
def DUPLICATE_WINDOW : Time := 1 * hour

-- Scores in thousandths.
def SPAM_THRESHOLD : Nat := 800

-- Unicode's letters, what `storable_ip` makes of an address, the version of the
-- consent wording, and the public id the p-th call draws, which no other does.
structure Setup extends Imports.Values where
  isAlpha : Char → Bool
  isUpper : Char → Bool
  storableIp : Option String → Option String
  textVersion : String
  leadId : Nat → String
  distinct : Function.Injective leadId

section text

def isControl (c : Char) : Bool :=
  c.toNat ≤ 0x08 || c.toNat = 0x0b || c.toNat = 0x0c || (0x0e ≤ c.toNat && c.toNat ≤ 0x1f) || c.toNat = 0x7f

def newlines : List Char → List Char
  | '\r' :: '\n' :: rest => '\n' :: newlines rest
  | '\r' :: rest => '\n' :: newlines rest
  | c :: rest => c :: newlines rest
  | [] => []

def collapse : Nat → List Char → List Char
  | _,[] => []
  | run,'\n' :: rest => if run < 2 then '\n' :: collapse (run+1) rest else collapse run rest
  | _,c :: rest => c :: collapse 0 rest

def cleanMessage (value : String) : String :=
  Text.strip (String.ofList (collapse 0 (newlines (value.toList.filter (!isControl ·)))))

-- A letter of a pattern that ignores case; the long s is an s to it.
def sameLetter (pattern c : Char) : Bool := c.toLower = pattern || (pattern = 's' && c = 'ſ')

def startsWith : List Char → List Char → Bool
  | [],_ => true
  | _,[] => false
  | p :: pattern,c :: text => sameLetter p c && startsWith pattern text

def linkAt (text : List Char) : Option Nat :=
  if startsWith "https://".toList text then some 8
  else if startsWith "http://".toList text then some 7
  else if startsWith "www.".toList text then some 4
  else none

def links : Nat → List Char → Nat
  | _,[] => 0
  | skip+1,_ :: rest => links skip rest
  | 0,c :: rest =>
      match linkAt (c :: rest) with
      | some n => 1 + links (n-1) rest
      | none => links 0 rest

def runAt : List Char → Bool
  | c :: rest => c ≠ '\n' && (rest.take 7).length = 7 && (rest.take 7).all (· = c)
  | [] => false

structure SpamVerdict where
  score : Nat
  signals : List String
  deriving DecidableEq, Repr

variable (setup : Setup)

def shouting (message : List Char) : Bool :=
  let letters := message.filter setup.isAlpha
  20 ≤ letters.length && 7 * letters.length < 10 * letters.countP setup.isUpper

def spamScore (name message : String) : SpamVerdict :=
  let found := links 0 message.toList
  let signal := fun (here : Bool) (weight : Nat) (name : String) => if here then [(weight,name)] else []
  let signals := signal (found ≠ 0) (min (350 * found) 700) "links_in_message" ++
    signal (shouting setup message.toList) 200 "shouting" ++
    signal (message.toList.tails.any runAt) 200 "repeated_characters" ++
    signal (links 0 name.toList ≠ 0 || name.toList.contains '@') 300 "link_or_address_in_name"
  ⟨min (signals.map (·.1)).sum 1000,signals.map (·.2)⟩

end text

-- The form as it arrives. `enabled` is the tenant's switch and `allowed` the rate
-- limiter's answer.
structure Request where
  tenant : TenantId
  enabled : Bool
  allowed : Bool
  listing : ListingId
  kind : String
  contact : Json
  message : String
  consent : Json
  sourcePage : String
  ip : Option String

structure Inquiry where
  tenant : TenantId
  enabled : Bool
  listing : ListingId
  kind : String
  name : String
  email : String
  phone : Option String
  message : String
  granted : Bool
  sourcePage : String
  ip : Option String
  deriving DecidableEq, Repr

inductive Failure where
  | schemaError (message : String)
  | rateLimited
  | consentRequired (channel : String)
  | doesNotExist
  | integrityError
  | dataError
  -- anything else that raises in the transaction
  | raised
  deriving DecidableEq, Repr

def truthy : Json → Bool
  | .null => false
  | .bool b => b
  | .num n => n ≠ 0
  | .instant _ => true
  | .str s => s ≠ ""
  | .arr items => !items.isEmpty
  | .obj fields => !fields.isEmpty

def requireMapping (field : String) : Json → Except Failure (List (String × Json))
  | .obj fields => .ok fields
  | _ => .error (.schemaError (field ++ " must be an object"))

def requireText (field : String) : Option Json → Except Failure (Option String)
  | none | some .null => .ok none
  | some (.str s) => .ok (some s)
  | some _ => .error (.schemaError (field ++ " must be text"))

def required (message : String) : Option String → Except Failure String
  | some value => if value = "" then .error (.schemaError message) else .ok value
  | none => .error (.schemaError message)

def kinds : List String := ["contact_form","phone_reveal","quote_request","booking","message"]

def clip (n : Nat) (text : String) : String := String.ofList (text.toList.take n)

def grants (consent : List (String × Json)) : Bool :=
  match consent.lookup LEAD_CONSENT_CHANNEL with
  | some (.obj entry) => truthy ((entry.lookup "granted").getD .null)
  | _ => false

section create

variable (setup : Setup)

def accept (r : Request) : Except Failure Inquiry := do
  let contact ← requireMapping "contact" r.contact
  let consent ← requireMapping "consent" r.consent
  let email ← requireText "email" (contact.lookup "email")
  let name ← requireText "name" (contact.lookup "name")
  let phone ← requireText "phone" (contact.lookup "phone_e164")
  let email ← required "email is required" (email.bind (Imports.email setup.toValues))
  let name ← required "name is required" ((name.bind Imports.text).map (clip NAME_MAX))
  let phone ← match phone with
    | none => pure (some "")
    | some phone => if phone = "" then pure (some "") else
        match Imports.phoneE164 setup.toValues phone with
        | .ok phone => pure phone
        | .error message => throw (.schemaError message)
  let text := cleanMessage r.message
  if text.length < MESSAGE_MIN ∨ MESSAGE_MAX < text.length then
    throw (.schemaError "the message must be 10 to 1000 characters")
  if r.kind ∉ kinds then
    throw (.schemaError "kind is not one of booking, contact_form, message, phone_reveal, quote_request")
  if r.allowed = false then throw .rateLimited
  pure ⟨r.tenant,r.enabled,r.listing,r.kind,name,email,phone,text,grants consent,clip 500 r.sourcePage,r.ip⟩

structure Lead where
  publicId : String
  tenant : TenantId
  listing : ListingId
  kind : String
  name : String
  email : String
  phoneE164 : String
  message : String
  spamScore : Nat
  markedSpam : Bool
  sourcePage : String
  createdAt : Time
  writer : Nat
  deriving DecidableEq, Repr

structure Consent where
  lead : String
  channel : String
  granted : Bool
  grantedAt : Time
  ip : Option String
  textVersion : String
  writer : Nat
  deriving DecidableEq, Repr

structure Emitted where
  event : OutboxEvent
  writer : Nat

structure Notice where
  toAddress : String
  lead : String
  writer : Nat
  deriving DecidableEq, Repr

def visitor : Actor := ⟨"visitor",some ""⟩

def captured (x : Lead) (c : Consent) : OutboxEvent :=
  ⟨x.tenant,x.publicId,visitor,"",
    .leadCaptured x.publicId x.kind x.name x.email x.phoneE164 x.message (x.spamScore/1000) x.listing x.sourcePage
      [⟨c.channel,c.granted,some c.grantedAt,c.ip,c.textVersion⟩]⟩

def markedSpam (x : Lead) (signals : List String) : OutboxEvent :=
  ⟨x.tenant,x.publicId,⟨"system",some ""⟩,"",.leadMarkedSpam x.publicId "system" signals⟩

def leadOf (p : Nat) (i : Inquiry) (createdAt : Time) : Except Failure Lead :=
  let verdict := spamScore setup i.name i.message
  match i.phone with
  | none => .error .integrityError
  | some phone =>
      if 254 < i.email.length then .error .dataError
      else .ok ⟨setup.leadId p,i.tenant,i.listing,i.kind,i.name,i.email,phone,i.message,verdict.score,
        decide (SPAM_THRESHOLD ≤ verdict.score),i.sourcePage,createdAt,p⟩

def consentOf (i : Inquiry) (now : Time) (x : Lead) : Consent :=
  ⟨x.publicId,LEAD_CONSENT_CHANNEL,true,now,setup.storableIp i.ip,setup.textVersion,x.writer⟩

end create

structure Row where
  visibility : Visibility
  status : ListingStatus
  deriving DecidableEq, Repr

-- What a transaction has written.
structure Writes where
  lead : Lead
  consent : Consent
  events : List Emitted
  notices : List Notice

inductive Phase where
  | waiting
  -- holds the listing's lock and has read the clock
  | locked (now : Time)
  -- found no duplicate
  | fresh (now : Time)
  | inserted (now : Time) (lead : Lead)
  | consented (now : Time) (lead : Lead) (consent : Consent)
  | emitted (now : Time) (lead : Lead) (consent : Consent)
  | finished (writes : Writes)
  | duplicate (lead : String)

structure Txn where
  inquiry : Inquiry
  phase : Phase

inductive Answer where
  | created (lead : String)
  | duplicate (lead : String)
  | refused (f : Failure)
  deriving DecidableEq, Repr

structure Desk where
  clock : Time
  listings : ListingId → Option Row
  leads : List Lead
  consents : List Consent
  events : List Emitted
  notices : List Notice
  txns : Nat → Option Txn
  answers : Nat → Option Answer
  nextCall : Nat

inductive Action where
  | wait (time : Nat)
  -- another command writes the listing's row
  | edit (listing : ListingId) (row : Option Row)
  | createLead (r : Request)
  | next (p : Nat)
  -- the transaction's next statement raises, or its connection is lost
  | raise (p : Nat)

def Phase.holds : Phase → Bool
  | .waiting => false
  | _ => true

namespace Desk

def start (clock : Time) : Desk := ⟨clock,fun _ => none,[],[],[],[],fun _ => none,fun _ => none,0⟩

def locked (s : Desk) (l : ListingId) : Bool :=
  (List.range s.nextCall).any fun q => (s.txns q).any fun t => t.inquiry.listing = l && t.phase.holds

def goto (s : Desk) (p : Nat) (t : Txn) (phase : Phase) : Desk :=
  {s with txns := Function.update s.txns p (some {t with phase := phase})}

def answer (s : Desk) (p : Nat) (a : Answer) : Desk :=
  {s with txns := Function.update s.txns p none,answers := Function.update s.answers p (some a)}

def matching (i : Inquiry) (now : Time) (x : Lead) : Bool :=
  x.listing = i.listing && x.email = i.email && x.message = i.message && decide (now - DUPLICATE_WINDOW < x.createdAt)

def commit (s : Desk) (p : Nat) (w : Writes) : Desk :=
  {s.answer p (.created w.lead.publicId) with
    leads := s.leads ++ [w.lead]
    consents := s.consents ++ [w.consent]
    events := s.events ++ w.events
    notices := s.notices ++ w.notices}

-- What `notify_for_lead` queues for the listing, or that it raises: its own module
-- says whom it tells.
abbrev Notify := Desk → ListingId → Time → Option (List String)

def advance (setup : Setup) (notify : Notify) (s : Desk) (p : Nat) (t : Txn) : Desk :=
  let i := t.inquiry
  match t.phase with
  | .waiting =>
      if i.enabled = false then s.answer p (.refused (.schemaError "inquiries are not enabled for this directory"))
      else if s.locked i.listing then s
      else match s.listings i.listing with
        | none => s.answer p (.refused .doesNotExist)
        | some row =>
            if row.visibility ≠ .published ∨ row.status = .suspended then
              s.answer p (.refused (.schemaError "this listing is not accepting inquiries"))
            else if i.granted = false then s.answer p (.refused (.consentRequired LEAD_CONSENT_CHANNEL))
            else s.goto p t (.locked s.clock)
  | .locked now =>
      match (s.leads.filter (matching i now)).getLast? with
      | some existing => s.goto p t (.duplicate existing.publicId)
      | none => s.goto p t (.fresh now)
  | .fresh now =>
      match leadOf setup p i s.clock with
      | .ok lead => s.goto p t (.inserted now lead)
      | .error f => s.answer p (.refused f)
  | .inserted now lead => s.goto p t (.consented now lead (consentOf setup i now lead))
  | .consented now lead consent => s.goto p t (.emitted now lead consent)
  | .emitted now lead consent =>
      let event : Emitted := ⟨captured lead consent,p⟩
      if lead.markedSpam then
        let signals := (spamScore setup i.name i.message).signals
        s.goto p t (.finished ⟨lead,consent,[event,⟨markedSpam lead signals,p⟩],[]⟩)
      else match notify s i.listing now with
        | some told => s.goto p t (.finished ⟨lead,consent,[event],told.map fun to_ => ⟨to_,lead.publicId,p⟩⟩)
        | none => s.answer p (.refused .raised)
  | .finished w => s.commit p w
  | .duplicate lead => s.answer p (.duplicate lead)

def step (setup : Setup) (notify : Notify) (s : Desk) : Action → Desk
  | .wait time => {s with clock := s.clock + time}
  | .edit l row => if s.locked l then s else {s with listings := Function.update s.listings l row}
  | .createLead r =>
      let p := s.nextCall
      match accept setup r with
      | .error f => {s with answers := Function.update s.answers p (some (.refused f)),nextCall := p+1}
      | .ok inquiry => {s with txns := Function.update s.txns p (some ⟨inquiry,.waiting⟩),nextCall := p+1}
  | .next p =>
      match s.txns p with
      | some t => advance setup notify s p t
      | none => s
  | .raise p => if (s.txns p).isSome then s.answer p (.refused .raised) else s

end Desk
open Desk

def sameInquiry (x y : Lead) : Prop := x.listing = y.listing ∧ x.email = y.email ∧ x.message = y.message

def about (lead : String) (type : EventType) (e : Emitted) : Bool := e.event.subject = lead && e.event.type = type

-- The rows of a lead: one consent, granted, and one event with its data; and marked
-- as spam, one event that says so and no notice.
structure Recorded (setup : Setup) (s : Desk) (x : Lead) : Prop where
  captured : ∃ c, s.consents.filter (·.lead = x.publicId) = [c] ∧ c.granted = true ∧
    (s.events.filter (about x.publicId .leadCaptured)).map (·.event) = [captured x c]
  spam : if x.markedSpam then
      (s.events.filter (about x.publicId .leadMarkedSpam)).map (·.event) =
          [markedSpam x (spamScore setup x.name x.message).signals] ∧
        s.notices.filter (·.lead = x.publicId) = []
    else s.events.filter (about x.publicId .leadMarkedSpam) = []

structure Captured (setup : Setup) (s : Desk) : Prop where
  -- leads that say the same are an hour apart
  apart : s.leads.Pairwise fun x y => sameInquiry x y →
    x.createdAt + DUPLICATE_WINDOW ≤ y.createdAt ∨ y.createdAt + DUPLICATE_WINDOW ≤ x.createdAt
  recorded : ∀ x ∈ s.leads, Recorded setup s x
  -- a call that was refused, or returned the lead there was, has left nothing
  silent : ∀ p a, s.answers p = some a → (∀ lead, a ≠ .created lead) →
    (∀ x ∈ s.leads, x.writer ≠ p) ∧ (∀ c ∈ s.consents, c.writer ≠ p) ∧ (∀ e ∈ s.events, e.writer ≠ p) ∧
      ∀ n ∈ s.notices, n.writer ≠ p

def Clear (s : Desk) (i : Inquiry) (now : Time) : Prop :=
  ∀ x ∈ s.leads, x.listing = i.listing → x.email = i.email → x.message = i.message → x.createdAt + DUPLICATE_WINDOW ≤ now

section valid

variable {setup : Setup} {notify : Notify} {s s' : Desk} {p : Nat} {t : Txn}

structure Inserted (setup : Setup) (s : Desk) (p : Nat) (i : Inquiry) (now : Time) (x : Lead) : Prop where
  clear : Clear s i now
  of_ : ∃ createdAt, leadOf setup p i createdAt = .ok x ∧ now ≤ createdAt

def Finished (setup : Setup) (p : Nat) (i : Inquiry) (now : Time) (w : Writes) : Prop :=
  w.consent = consentOf setup i now w.lead ∧
    if w.lead.markedSpam then
      w.events = [⟨captured w.lead w.consent,p⟩,⟨markedSpam w.lead (spamScore setup i.name i.message).signals,p⟩] ∧
        w.notices = []
    else w.events = [⟨captured w.lead w.consent,p⟩] ∧ ∀ n ∈ w.notices, n.lead = w.lead.publicId ∧ n.writer = p

-- What a transaction has read still stands, and what it wrote is of its own call.
def Stands (setup : Setup) (s : Desk) (p : Nat) (i : Inquiry) : Phase → Prop
  | .waiting | .duplicate _ => True
  | .locked now => now ≤ s.clock
  | .fresh now => now ≤ s.clock ∧ Clear s i now
  | .inserted now x => Inserted setup s p i now x
  | .consented now x c => Inserted setup s p i now x ∧ c = consentOf setup i now x
  | .emitted now x c => Inserted setup s p i now x ∧ c = consentOf setup i now x
  | .finished w => ∃ now, Inserted setup s p i now w.lead ∧ Finished setup p i now w

def Owned (setup : Setup) (s : Desk) (lead : String) (writer : Nat) : Prop :=
  lead = setup.leadId writer ∧ ∃ made, s.answers writer = some (.created made)

structure Valid (setup : Setup) (s : Desk) : Prop where
  apart : s.leads.Pairwise fun x y => sameInquiry x y → x.createdAt + DUPLICATE_WINDOW ≤ y.createdAt
  recorded : ∀ x ∈ s.leads, Recorded setup s x
  leads : ∀ x ∈ s.leads, Owned setup s x.publicId x.writer
  consents : ∀ c ∈ s.consents, Owned setup s c.lead c.writer
  events : ∀ e ∈ s.events, Owned setup s e.event.subject e.writer
  notices : ∀ n ∈ s.notices, Owned setup s n.lead n.writer
  txns : ∀ p t, s.txns p = some t → p < s.nextCall ∧ s.answers p = none ∧ Stands setup s p t.inquiry t.phase
  alone : ∀ p q t u, s.txns p = some t → s.txns q = some u → t.phase.holds → u.phase.holds →
    t.inquiry.listing = u.inquiry.listing → p = q
  later : ∀ p, s.nextCall ≤ p → s.answers p = none

theorem leadOf_exact : leadOf setup p i createdAt = .ok x → x.publicId = setup.leadId p ∧ x.writer = p ∧
    x.listing = i.listing ∧ x.email = i.email ∧ x.message = i.message ∧ x.name = i.name ∧ x.createdAt = createdAt := by
  intro made
  unfold leadOf at made
  dsimp only at made
  split at made
  · cases made
  · split at made
    · cases made
    · cases made
      exact ⟨rfl,rfl,rfl,rfl,rfl,rfl,rfl⟩

theorem stands_kept {phase : Phase} (s s' : Desk) (leads : s'.leads = s.leads) (later : s.clock ≤ s'.clock)
    (stands : Stands setup s p i phase) : Stands setup s' p i phase := by
  have clear : ∀ now, Clear s i now → Clear s' i now := by
    intro now clear x there
    rw [leads] at there
    exact clear x there
  have inserted : ∀ now x, Inserted setup s p i now x → Inserted setup s' p i now x :=
    fun now x inserted => ⟨clear now inserted.clear,inserted.of_⟩
  cases phase with
  | waiting => trivial
  | duplicate lead => trivial
  | locked now => exact Int.le_trans stands later
  | fresh now => exact ⟨Int.le_trans stands.1 later,clear now stands.2⟩
  | inserted now x => exact inserted now x stands
  | consented now x c => exact ⟨inserted now x stands.1,stands.2⟩
  | emitted now x c => exact ⟨inserted now x stands.1,stands.2⟩
  | finished w =>
      obtain ⟨now,before,finished⟩ := stands
      exact ⟨now,inserted now w.lead before,finished⟩

theorem recorded_kept (s s' : Desk) (consents : s'.consents = s.consents) (events : s'.events = s.events)
    (notices : s'.notices = s.notices) (recorded : Recorded setup s x) : Recorded setup s' x := by
  obtain ⟨captured,spam⟩ := recorded
  rw [← consents,← events] at captured
  rw [← events,← notices] at spam
  exact ⟨captured,spam⟩

theorem locked_false (free : s.locked l = false) (below : q < s.nextCall) (present : s.txns q = some u)
    (same : u.inquiry.listing = l) : u.phase.holds = false := by
  have none_ := List.any_eq_false.mp free q (List.mem_range.mpr below)
  simpa [present,same] using none_

theorem valid_goto {phase : Phase} (valid : Valid setup s) (present : s.txns p = some t)
    (free : t.phase.holds = true ∨ s.locked t.inquiry.listing = false) (stands : Stands setup s p t.inquiry phase) :
    Valid setup (s.goto p t phase) := by
  obtain ⟨below,unanswered,_⟩ := valid.txns p t present
  have other : ∀ q u, (s.goto p t phase).txns q = some u → (q = p ∧ u = {t with phase := phase}) ∨ (q ≠ p ∧ s.txns q = some u) := by
    intro q u there
    change Function.update s.txns p _ q = some u at there
    by_cases equal : q = p
    · subst equal
      rw [Function.update_self] at there
      exact .inl ⟨rfl,(Option.some.inj there).symm⟩
    · rw [Function.update_of_ne equal] at there
      exact .inr ⟨equal,there⟩
  -- whoever else holds the lock would have kept this one waiting
  have mine : ∀ q u, q ≠ p → s.txns q = some u → u.phase.holds → u.inquiry.listing = t.inquiry.listing → False := by
    intro q u apart there holds same
    rcases free with held | free
    · exact apart (valid.alone q p u t there present holds held same)
    · have none_ := locked_false free (valid.txns q u there).1 there same
      rw [holds] at none_
      cases none_
  refine ⟨valid.apart,fun x there => recorded_kept s _ rfl rfl rfl (valid.recorded x there),valid.leads,valid.consents,
    valid.events,valid.notices,?_,?_,valid.later⟩
  · intro q u there
    rcases other q u there with ⟨rfl,rfl⟩ | ⟨_,there⟩
    · exact ⟨below,unanswered,stands_kept s _ rfl (Int.le_refl _) stands⟩
    · obtain ⟨below,unanswered,stands⟩ := valid.txns q u there
      exact ⟨below,unanswered,stands_kept s _ rfl (Int.le_refl _) stands⟩
  · intro q r u v first second holds also same
    rcases other q u first with ⟨rfl,rfl⟩ | ⟨apart,there⟩
    · rcases other r v second with ⟨rfl,rfl⟩ | ⟨apart',there'⟩
      · rfl
      · exact (mine r v apart' there' also same.symm).elim
    · rcases other r v second with ⟨rfl,rfl⟩ | ⟨apart',there'⟩
      · exact (mine q u apart there holds same).elim
      · exact valid.alone q r u v there there' holds also same

theorem owned_answered (owned : Owned setup s lead writer) (unanswered : s.answers p = none) (a : Answer) :
    Owned setup (s.answer p a) lead writer := by
  obtain ⟨named,made,answered⟩ := owned
  have apart : writer ≠ p := by
    intro equal
    rw [equal,unanswered] at answered
    cases answered
  refine ⟨named,made,?_⟩
  change Function.update s.answers p (some a) writer = _
  rw [Function.update_of_ne apart]
  exact answered

theorem answer_txns (a : Answer) (there : (s.answer p a).txns q = some u) : q ≠ p ∧ s.txns q = some u := by
  change Function.update s.txns p none q = some u at there
  by_cases equal : q = p
  · rw [equal,Function.update_self] at there
    cases there
  · rw [Function.update_of_ne equal] at there
    exact ⟨equal,there⟩

theorem valid_answer (valid : Valid setup s) (present : s.txns p = some t) (a : Answer) :
    Valid setup (s.answer p a) := by
  obtain ⟨below,unanswered,_⟩ := valid.txns p t present
  refine ⟨valid.apart,fun x there => recorded_kept s _ rfl rfl rfl (valid.recorded x there),?_,?_,?_,?_,?_,?_,?_⟩
  · exact fun x there => owned_answered (valid.leads x there) unanswered a
  · exact fun c there => owned_answered (valid.consents c there) unanswered a
  · exact fun e there => owned_answered (valid.events e there) unanswered a
  · exact fun n there => owned_answered (valid.notices n there) unanswered a
  · intro q u there
    obtain ⟨apart,there⟩ := answer_txns _ there
    obtain ⟨below,unanswered,stands⟩ := valid.txns q u there
    refine ⟨below,?_,stands_kept s _ rfl (Int.le_refl _) stands⟩
    change Function.update s.answers p (some a) q = none
    rw [Function.update_of_ne apart]
    exact unanswered
  · intro q r u v first second
    exact valid.alone q r u v (answer_txns a first).2 (answer_txns a second).2
  · intro q above
    change Function.update s.answers p (some a) q = none
    rw [Function.update_of_ne (by rintro rfl; exact absurd below (Nat.not_lt.mpr above))]
    exact valid.later q above

theorem owned_apart (owned : Owned setup s lead writer) (unanswered : s.answers p = none) :
    lead ≠ setup.leadId p ∧ writer ≠ p := by
  obtain ⟨named,made,answered⟩ := owned
  have apart : writer ≠ p := by
    intro equal
    rw [equal,unanswered] at answered
    cases answered
  exact ⟨fun equal => apart (setup.distinct (named.symm.trans equal)),apart⟩

structure Own (lead : String) (p : Nat) (w : Writes) : Prop where
  consent : w.consent.lead = lead ∧ w.consent.writer = p
  events : ∀ e ∈ w.events, e.event.subject = lead ∧ e.writer = p
  notices : ∀ n ∈ w.notices, n.lead = lead ∧ n.writer = p

theorem finished_own (inserted : Inserted setup s p i now w.lead) (finished : Finished setup p i now w) :
    Own (setup.leadId p) p w := by
  obtain ⟨createdAt,made,_⟩ := inserted.of_
  obtain ⟨named,wrote,_⟩ := leadOf_exact made
  obtain ⟨consent,branch⟩ := finished
  refine ⟨?_,?_,?_⟩
  · rw [consent]
    exact ⟨named,wrote⟩
  · intro e there
    split at branch
    · rw [branch.1] at there
      rcases List.mem_cons.mp there with rfl | there
      · exact ⟨named,rfl⟩
      · rw [List.mem_singleton.mp there]
        exact ⟨named,rfl⟩
    · rw [branch.1,List.mem_singleton] at there
      rw [there]
      exact ⟨named,rfl⟩
  · intro n there
    split at branch
    · rw [branch.2] at there
      cases there
    · rw [← named]
      exact branch.2 n there

theorem recorded_grown (own : Own lead p w) (apart : x.publicId ≠ lead) (recorded : Recorded setup s x) :
    Recorded setup (s.commit p w) x := by
  have events : ∀ type, (s.commit p w).events.filter (about x.publicId type) = s.events.filter (about x.publicId type) := by
    intro type
    change (s.events ++ w.events).filter _ = _
    rw [List.filter_append,Lists.filter_none w.events,List.append_nil]
    intro e there
    have other : e.event.subject ≠ x.publicId := fun equal => apart (equal.symm.trans (own.events e there).1)
    simp [about,other]
  have consents : (s.commit p w).consents.filter (·.lead = x.publicId) = s.consents.filter (·.lead = x.publicId) := by
    change (s.consents ++ [w.consent]).filter _ = _
    rw [List.filter_append,Lists.filter_none [w.consent],List.append_nil]
    intro c there
    rw [List.mem_singleton.mp there,own.consent.1]
    exact decide_eq_false (fun equal => apart equal.symm)
  have notices : (s.commit p w).notices.filter (·.lead = x.publicId) = s.notices.filter (·.lead = x.publicId) := by
    change (s.notices ++ w.notices).filter _ = _
    rw [List.filter_append,Lists.filter_none w.notices,List.append_nil]
    intro n there
    rw [(own.notices n there).1]
    exact decide_eq_false (fun equal => apart equal.symm)
  obtain ⟨captured,spam⟩ := recorded
  refine ⟨?_,?_⟩
  · rw [consents,events]
    exact captured
  · rw [events,notices]
    exact spam

theorem recorded_new (valid : Valid setup s) (unanswered : s.answers p = none)
    (inserted : Inserted setup s p i now w.lead) (finished : Finished setup p i now w) :
    Recorded setup (s.commit p w) w.lead := by
  obtain ⟨createdAt,made,_⟩ := inserted.of_
  obtain ⟨named,_,_,_,message,name,_⟩ := leadOf_exact made
  have own := finished_own inserted finished
  have events : ∀ type, (s.commit p w).events.filter (about w.lead.publicId type) =
      w.events.filter (about w.lead.publicId type) := by
    intro type
    change (s.events ++ w.events).filter _ = _
    rw [List.filter_append,Lists.filter_none s.events,List.nil_append]
    intro e there
    have other := (owned_apart (valid.events e there) unanswered).1
    rw [← named] at other
    simp [about,other]
  have consents : (s.commit p w).consents.filter (·.lead = w.lead.publicId) = [w.consent] := by
    change (s.consents ++ [w.consent]).filter _ = _
    rw [List.filter_append,Lists.filter_none s.consents,List.nil_append]
    · exact List.filter_eq_self.mpr (by simp [own.consent.1,named])
    · intro c there
      rw [named]
      exact decide_eq_false (owned_apart (valid.consents c there) unanswered).1
  have notices : (s.commit p w).notices.filter (·.lead = w.lead.publicId) = w.notices := by
    change (s.notices ++ w.notices).filter _ = _
    rw [List.filter_append,Lists.filter_none s.notices,List.nil_append]
    · refine List.filter_eq_self.mpr (fun n there => ?_)
      rw [(own.notices n there).1,named]
      exact decide_eq_true rfl
    · intro n there
      rw [named]
      exact decide_eq_false (owned_apart (valid.notices n there) unanswered).1
  obtain ⟨consent,branch⟩ := finished
  refine ⟨⟨w.consent,consents,by rw [consent]; rfl,?_⟩,?_⟩
  · rw [events]
    split at branch
    · rw [branch.1]
      simp [about,captured,LeadCapture.markedSpam,OutboxEvent.type,Payload.type]
    · rw [branch.1]
      simp [about,captured,OutboxEvent.type,Payload.type]
  · rw [events,notices]
    split at branch
    · next spam =>
        rw [if_pos spam,branch.1,branch.2,message,name]
        simp [about,captured,LeadCapture.markedSpam,OutboxEvent.type,Payload.type]
    · next plain =>
        rw [if_neg plain,branch.1]
        simp [about,captured,OutboxEvent.type,Payload.type]

theorem valid_commit (valid : Valid setup s) (present : s.txns p = some t) (finished : t.phase = .finished w) :
    Valid setup (s.commit p w) := by
  obtain ⟨below,unanswered,stands⟩ := valid.txns p t present
  rw [finished] at stands
  obtain ⟨now,inserted,written⟩ := stands
  have own := finished_own inserted written
  have ended := valid_answer valid present (.created w.lead.publicId)
  obtain ⟨createdAt,made,timely⟩ := inserted.of_
  obtain ⟨named,wrote,listing,email,message,_,created⟩ := leadOf_exact made
  have mine : ∀ lead, lead = setup.leadId p → Owned setup (s.commit p w) lead p :=
    fun lead equal => ⟨equal,w.lead.publicId,Function.update_self ..⟩
  refine ⟨?_,?_,?_,?_,?_,?_,?_,ended.alone,ended.later⟩
  · refine List.pairwise_append.mpr ⟨valid.apart,List.pairwise_singleton _ _,?_⟩
    intro x there y new same
    rw [List.mem_singleton.mp new] at same ⊢
    obtain ⟨where_,who,text⟩ := same
    have old := inserted.clear x there (where_.trans listing) (who.trans email) (text.trans message)
    rw [created]
    exact Int.le_trans old timely
  · intro x there
    rcases List.mem_append.mp there with old | new
    · exact recorded_grown own (owned_apart (valid.leads x old) unanswered).1 (valid.recorded x old)
    · rw [List.mem_singleton.mp new]
      exact recorded_new valid unanswered inserted written
  · intro x there
    rcases List.mem_append.mp there with old | new
    · exact ended.leads x old
    · rw [List.mem_singleton.mp new,wrote]
      exact mine _ named
  · intro c there
    rcases List.mem_append.mp there with old | new
    · exact ended.consents c old
    · rw [List.mem_singleton.mp new,own.consent.2]
      exact mine _ own.consent.1
  · intro e there
    rcases List.mem_append.mp there with old | new
    · exact ended.events e old
    · rw [(own.events e new).2]
      exact mine _ (own.events e new).1
  · intro n there
    rcases List.mem_append.mp there with old | new
    · exact ended.notices n old
    · rw [(own.notices n new).2]
      exact mine _ (own.notices n new).1
  -- the lead is on the listing whose lock the transaction held
  · intro q u there
    obtain ⟨apart,there'⟩ := answer_txns (.created w.lead.publicId) there
    obtain ⟨below',_,stands⟩ := valid.txns q u there'
    refine ⟨below',(ended.txns q u there).2.1,?_⟩
    have elsewhere : u.phase.holds → u.inquiry.listing ≠ t.inquiry.listing := by
      intro holds same
      have held : t.phase.holds = true := by rw [finished]; rfl
      exact apart (valid.alone q p u t there' present holds held same)
    have clear : ∀ now, u.phase.holds → Clear s u.inquiry now → Clear (s.commit p w) u.inquiry now := by
      intro now holds clear x there where_
      rcases List.mem_append.mp there with old | new
      · exact clear x old where_
      · rw [List.mem_singleton.mp new,listing] at where_
        exact (elsewhere holds where_.symm).elim
    generalize u.phase = phase at stands clear
    cases phase with
    | waiting => trivial
    | duplicate lead => trivial
    | locked now => exact stands
    | fresh now => exact ⟨stands.1,clear now rfl stands.2⟩
    | inserted now x => exact ⟨clear now rfl stands.clear,stands.of_⟩
    | consented now x c => exact ⟨⟨clear now rfl stands.1.clear,stands.1.of_⟩,stands.2⟩
    | emitted now x c => exact ⟨⟨clear now rfl stands.1.clear,stands.1.of_⟩,stands.2⟩
    | finished w' =>
        obtain ⟨now,before,finished⟩ := stands
        exact ⟨now,⟨clear now rfl before.clear,before.of_⟩,finished⟩

theorem advance_valid (notify : Notify) (valid : Valid setup s) (present : s.txns p = some t) :
    Valid setup (advance setup notify s p t) := by
  obtain ⟨_,_,stands⟩ := valid.txns p t present
  cases phase : t.phase with
  | waiting =>
      unfold advance
      dsimp only
      rw [phase]
      dsimp only
      split
      · exact valid_answer valid present _
      · split
        · exact valid
        · next free =>
            have free : s.locked t.inquiry.listing = false := by simpa using free
            split
            · exact valid_answer valid present _
            · split
              · exact valid_answer valid present _
              · split
                · exact valid_answer valid present _
                · exact valid_goto valid present (.inr free) (Int.le_refl _)
  | locked now =>
      rw [phase] at stands
      unfold advance
      dsimp only
      rw [phase]
      dsimp only
      split
      · exact valid_goto valid present (.inl (by rw [phase]; rfl)) trivial
      · next none_ =>
          refine valid_goto valid present (.inl (by rw [phase]; rfl)) ⟨stands,?_⟩
          -- none was found that is younger
          intro x there listing email message
          have old := List.filter_eq_nil_iff.mp (List.getLast?_eq_none_iff.mp none_) x there
          simp only [matching,listing,email,message,decide_true,Bool.true_and,decide_eq_true_eq] at old
          exact Int.add_le_of_le_sub_right (Int.not_lt.mp old)
  | fresh now =>
      rw [phase] at stands
      unfold advance
      dsimp only
      rw [phase]
      dsimp only
      split
      · next x made =>
          exact valid_goto valid present (.inl (by rw [phase]; rfl)) ⟨stands.2,s.clock,made,stands.1⟩
      · exact valid_answer valid present _
  | inserted now x =>
      rw [phase] at stands
      unfold advance
      dsimp only
      rw [phase]
      exact valid_goto valid present (.inl (by rw [phase]; rfl)) ⟨stands,rfl⟩
  | consented now x c =>
      rw [phase] at stands
      unfold advance
      dsimp only
      rw [phase]
      exact valid_goto valid present (.inl (by rw [phase]; rfl)) stands
  | emitted now x c =>
      rw [phase] at stands
      obtain ⟨inserted,rfl⟩ := stands
      unfold advance
      dsimp only
      rw [phase]
      dsimp only
      split
      · next spam =>
          refine valid_goto valid present (.inl (by rw [phase]; rfl)) ⟨now,inserted,rfl,?_⟩
          rw [if_pos spam]
          exact ⟨rfl,rfl⟩
      · next plain =>
          split
          · refine valid_goto valid present (.inl (by rw [phase]; rfl)) ⟨now,inserted,rfl,?_⟩
            rw [if_neg plain]
            refine ⟨rfl,?_⟩
            intro n there
            obtain ⟨to_,_,rfl⟩ := List.mem_map.mp there
            exact ⟨rfl,rfl⟩
          · exact valid_answer valid present _
  | finished w =>
      unfold advance
      dsimp only
      rw [phase]
      exact valid_commit valid present phase
  | duplicate lead =>
      unfold advance
      dsimp only
      rw [phase]
      exact valid_answer valid present _

theorem valid_kept (s s' : Desk) (valid : Valid setup s) (leads : s'.leads = s.leads) (consents : s'.consents = s.consents)
    (events : s'.events = s.events) (notices : s'.notices = s.notices)
    (answers : ∀ q < s.nextCall, s'.answers q = s.answers q) (later : s.nextCall ≤ s'.nextCall)
    (clock : s.clock ≤ s'.clock) (unanswered : ∀ q, s'.nextCall ≤ q → s'.answers q = none)
    (txns : ∀ q u, s'.txns q = some u → s.txns q = some u ∨
      u.phase = .waiting ∧ q < s'.nextCall ∧ s'.answers q = none) : Valid setup s' := by
  have owned : ∀ lead writer, Owned setup s lead writer → Owned setup s' lead writer := by
    intro lead writer owned
    obtain ⟨named,made,answered⟩ := owned
    refine ⟨named,made,?_⟩
    have below : writer < s.nextCall := by
      by_contra above
      rw [valid.later writer (Nat.not_lt.mp above)] at answered
      cases answered
    rw [answers writer below]
    exact answered
  refine ⟨?_,?_,?_,?_,?_,?_,?_,?_,unanswered⟩
  · rw [leads]; exact valid.apart
  · rw [leads]; exact fun x there => recorded_kept s s' consents events notices (valid.recorded x there)
  · rw [leads]; exact fun x there => owned _ _ (valid.leads x there)
  · rw [consents]; exact fun c there => owned _ _ (valid.consents c there)
  · rw [events]; exact fun e there => owned _ _ (valid.events e there)
  · rw [notices]; exact fun n there => owned _ _ (valid.notices n there)
  · intro q u there
    rcases txns q u there with old | ⟨waiting,below,none_⟩
    · obtain ⟨below,none_,stands⟩ := valid.txns q u old
      exact ⟨Nat.lt_of_lt_of_le below later,(answers q below).trans none_,stands_kept s s' leads clock stands⟩
    · refine ⟨below,none_,?_⟩
      rw [waiting]
      trivial
  · intro q r u v first second holds also
    rcases txns q u first with old | ⟨waiting,_⟩
    · rcases txns r v second with old' | ⟨waiting,_⟩
      · exact valid.alone q r u v old old' holds also
      · rw [waiting] at also
        cases also
    · rw [waiting] at holds
      cases holds

theorem step_valid (notify : Notify) (action : Action) (valid : Valid setup s) :
    Valid setup (step setup notify s action) := by
  cases action with
  | wait time =>
      have later : s.clock ≤ s.clock + time := Int.le_add_of_nonneg_right (Int.natCast_nonneg time)
      exact valid_kept s _ valid rfl rfl rfl rfl (fun _ _ => rfl) (Nat.le_refl _) later valid.later
        (fun _ _ there => .inl there)
  | edit l row =>
      unfold Desk.step
      dsimp only
      split
      · exact valid
      · exact valid_kept s _ valid rfl rfl rfl rfl (fun _ _ => rfl) (Nat.le_refl _) (Int.le_refl _) valid.later
          (fun _ _ there => .inl there)
  | createLead r =>
      unfold Desk.step
      dsimp only
      split
      · next f _ =>
          refine valid_kept s _ valid rfl rfl rfl rfl ?_ (Nat.le_succ _) (Int.le_refl _) ?_ (fun _ _ there => .inl there)
          · exact fun q below => Function.update_of_ne (Nat.ne_of_lt below) ..
          · intro q above
            change Function.update s.answers s.nextCall _ q = none
            rw [Function.update_of_ne (Nat.ne_of_gt above)]
            exact valid.later q (Nat.le_of_succ_le above)
      · next inquiry _ =>
          refine valid_kept s _ valid rfl rfl rfl rfl (fun _ _ => rfl) (Nat.le_succ _) (Int.le_refl _) ?_ ?_
          · exact fun q above => valid.later q (Nat.le_of_succ_le above)
          · intro q u there
            change Function.update s.txns s.nextCall _ q = some u at there
            by_cases equal : q = s.nextCall
            · subst equal
              rw [Function.update_self] at there
              rw [← Option.some.inj there]
              exact .inr ⟨rfl,Nat.lt_succ_self _,valid.later s.nextCall (Nat.le_refl _)⟩
            · rw [Function.update_of_ne equal] at there
              exact .inl there
  | next p =>
      unfold Desk.step
      dsimp only
      split
      · next t present => exact advance_valid notify valid present
      · exact valid
  | raise p =>
      unfold Desk.step
      dsimp only
      split
      · next present =>
          obtain ⟨t,there⟩ := Option.isSome_iff_exists.mp present
          exact valid_answer valid there _
      · exact valid

theorem start_valid (clock : Time) : Valid setup (start clock) := by
  refine ⟨.nil,?_,?_,?_,?_,?_,?_,?_,fun _ _ => rfl⟩
  · intro x there
    cases there
  · intro x there
    cases there
  · intro c there
    cases there
  · intro e there
    cases there
  · intro n there
    cases there
  · intro p t there
    cases there
  · intro p q t u there
    cases there

theorem Valid.captured (valid : Valid setup s) : Captured setup s := by
  refine ⟨valid.apart.imp fun apart same => .inl (apart same),valid.recorded,?_⟩
  intro p a answered other
  have quiet : ∀ lead writer, Owned setup s lead writer → writer ≠ p := by
    intro lead writer owned equal
    obtain ⟨_,made,answer⟩ := owned
    rw [equal,answered] at answer
    exact other made (Option.some.inj answer)
  exact ⟨fun x there => quiet _ _ (valid.leads x there),fun c there => quiet _ _ (valid.consents c there),
    fun e there => quiet _ _ (valid.events e there),fun n there => quiet _ _ (valid.notices n there)⟩

end valid

-- Over every interleaving of calls, whatever the notices do and whoever else writes
-- the listings.
theorem leads_captured (setup : Setup) (notify : Notify) (clock : Time) (actions : List Action) :
    Captured setup (Runs.run (step setup notify) (start clock) actions) :=
  (Runs.run_invariant (step setup notify) (fun _ action valid => step_valid notify action valid) (start_valid clock)
    actions).captured

end Osds.Directory.LeadCapture

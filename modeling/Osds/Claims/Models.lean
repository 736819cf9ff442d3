import Osds.Directory.Listings
import Osds.Lib.Text

namespace Osds.Claims
open Directory Audit

abbrev ClaimId := String

inductive ClaimStatus where
  | pendingVerification | approved | rejected | abandoned | disputed | superseded
  deriving DecidableEq, Repr

def ClaimStatus.value : ClaimStatus → String
  | .pendingVerification => "pending_verification"
  | .approved => "approved"
  | .rejected => "rejected"
  | .abandoned => "abandoned"
  | .disputed => "disputed"
  | .superseded => "superseded"

inductive Method where
  | manual | phoneOtp | domainEmail | gbpOauth | postcard
  deriving DecidableEq, Repr

def Method.value : Method → String
  | .manual => "manual"
  | .phoneOtp => "phone_otp"
  | .domainEmail => "domain_email"
  | .gbpOauth => "gbp_oauth"
  | .postcard => "postcard"

-- A claim on a listing; a blank code hash is none, and `updatedAt` moves only
-- with a save of the whole row.
structure Claim where
  publicId : ClaimId
  listing : ListingId
  claimant : DirectoryUser
  status : ClaimStatus := .pendingVerification
  method : Method
  roleClaimed : String
  verificationStartedAt : Option Time := none
  expiresAt : Option Time := none
  attempts : Nat := 0
  codeHash : Option String := none
  codeMessage : Option Nat := none
  manualMethodUsed : String := ""
  verifiedBy : Option String := none
  verifiedAt : Option Time := none
  verificationNotes : String := ""
  evidenceRef : String := ""
  decidedAt : Option Time := none
  decidedBy : Option String := none
  rejectionReason : String := ""
  requestedMethod : Method
  reviewReason : String
  createdAt : Time
  updatedAt : Time
  deriving DecidableEq, Repr

-- The counters of one claimant on one listing; a pair without a row has these.
structure Guard where
  wrongEntries : Nat := 0
  cooldowns : Nat := 0
  cooldownUntil : Option Time := none
  verificationLockedAt : Option Time := none
  rejections : Nat := 0
  claimBlockedAt : Option Time := none
  lastCodeSentAt : Option Time := none
  codesSentWindowStart : Option Time := none
  codesSentInWindow : Nat := 0
  deriving DecidableEq, Repr

inductive ItemType where
  | claimDispute | verificationLock | claimBlock
  deriving DecidableEq, Repr

def ItemType.value : ItemType → String
  | .claimDispute => "claim_dispute"
  | .verificationLock => "verification_lock"
  | .claimBlock => "claim_block"

structure ModerationItem where
  publicId : String
  itemType : ItemType
  isOpen : Bool := true
  listing : ListingId
  claimant : DirectoryUser
  claim : ClaimId
  rules : List String
  createdAt : Time
  decision : String := ""
  decidedBy : Option String := none
  decidedAt : Option Time := none
  rationale : String := ""
  deriving DecidableEq, Repr

inductive MailStatus where
  | pending | sent | dead | expired
  deriving DecidableEq, Repr

structure Mail where
  kind : String
  toAddress : String
  subject : String
  createdAt : Time
  expiresAt : Time
  status : MailStatus := .pending
  deriving DecidableEq, Repr

structure IssuedCode where
  claim : ClaimId
  code : String
  expiresAt : Time
  deriving DecidableEq, Repr

structure Rows where
  listings : ListingId → Option Listing
  users : List DirectoryUser
  claims : List Claim
  guards : ListingId → String → Guard
  items : List ModerationItem
  -- every code ever issued, the newest first: for the statements only
  codes : List IssuedCode

-- A message's id is its place in the list.
structure Tables extends Rows where
  mail : List Mail
  outbox : List OutboxEvent

inductive ClaimError where
  | schema (message : String)
  | consentRequired (channel : String)
  | verificationRefused (reason : String)
  | reviewRefused (reason : String)
  | doesNotExist | integrityError | dataError
  | valueError (message : String)
  deriving DecidableEq, Repr

-- What the libraries and the keyed hash make of a text, and the host of a
-- listing's website that an address may be at; reading the website may raise.
structure Platform where
  lower : String → String
  hashCode : ClaimId → String → String
  domainEmailHost : Listing → Except ClaimError (Option String)
  addressHost : String → Option String

structure Office where
  tenant : TenantId
  name : String
  enabledMethods : List Method
  domainEmailMinutes : Option Int
  emailAvailable : Bool
  consentText : String
  -- the addresses of those who may decide a claim
  recipients : List String

def second : Time := 1000000
def minute : Time := 60 * second
def hour : Time := 60 * minute
def days (n : Nat) : Time := n * 24 * hour

def REJECTION_BLOCK_THRESHOLD : Nat := 3
def ANTI_HIJACK_NOTICE_TTL : Time := days 7
def REJECTION_NOTICE_TTL : Time := days 7
def LOSER_REASON : String := "Another claim for this listing was approved."
def OPERATOR_NOTICE_KIND : String := "claim.review_notice"
def OPERATOR_NOTICE_TTL : Time := 48 * hour
def OPERATOR_NOTICE_THROTTLE : Time := 15 * minute
def ALREADY_CLEARED : String := "already_cleared"
def COOLDOWN_MINUTES : Time := 15
def MAX_WRONG_ENTRIES : Nat := 5
def MAX_COOLDOWNS : Nat := 3
def MIN_SECONDS_BETWEEN_SENDS : Time := 60
def MAX_SENDS_PER_WINDOW : Nat := 5
def SEND_WINDOW : Time := 24 * hour

namespace Rows

def claim (r : Rows) (id : ClaimId) : Option Claim := r.claims.find? (·.publicId = id)

def user (r : Rows) (email : String) : Option DirectoryUser := r.users.find? (·.email = email)

def item (r : Rows) (id : String) : Option ModerationItem := r.items.find? (·.publicId = id)

def updateClaim (r : Rows) (id : ClaimId) (change : Claim → Claim) : Rows :=
  {r with claims := r.claims.map fun c => if c.publicId = id then change c else c}

def updateItem (r : Rows) (id : String) (change : ModerationItem → ModerationItem) : Rows :=
  {r with items := r.items.map fun i => if i.publicId = id then change i else i}

def updateGuard (r : Rows) (listing : ListingId) (claimant : String) (change : Guard → Guard) : Rows :=
  {r with guards := fun l u => if l = listing ∧ u = claimant then change (r.guards l u) else r.guards l u}

end Rows

namespace Tables

def updateClaim (t : Tables) (id : ClaimId) (change : Claim → Claim) : Tables :=
  {t with toRows := t.toRows.updateClaim id change}

def updateItem (t : Tables) (id : String) (change : ModerationItem → ModerationItem) : Tables :=
  {t with toRows := t.toRows.updateItem id change}

def updateGuard (t : Tables) (listing : ListingId) (claimant : String) (change : Guard → Guard) : Tables :=
  {t with toRows := t.toRows.updateGuard listing claimant change}

def emit (t : Tables) (tenant : TenantId) (subject : String) (actor : Actor) (payload : Payload) : Tables :=
  {t with outbox := t.outbox ++ [⟨tenant,subject,actor,"",payload⟩]}

def listingName (t : Tables) (id : ListingId) : String := ((t.listings id).map (·.name)).getD ""

-- A message is stored iff its subject and address fit their columns.
def enqueue (t : Tables) (kind toAddress subject : String) (now expiresAt : Time) : Except ClaimError Tables :=
  if subject.length ≤ 200 ∧ toAddress.length ≤ 254 then
    .ok {t with mail := t.mail ++ [{kind := kind,toAddress := toAddress,subject := subject,createdAt := now,expiresAt := expiresAt}]}
  else .error .dataError

def enqueueAll (t : Tables) (kind subject : String) (now expiresAt : Time) : List String → Except ClaimError Tables
  | [] => .ok t
  | address :: rest => do
      let t' ← t.enqueue kind address subject now expiresAt
      enqueueAll t' kind subject now expiresAt rest

def expirePendingCode (t : Tables) (message : Option Nat) (now : Time) : Tables :=
  match message with
  | none => t
  | some n => {t with mail := t.mail.modify n fun m => if m.status = .pending then {m with expiresAt := now} else m}

end Tables

def claimRef (c : Claim) : ClaimRef := ⟨c.publicId,c.listing,c.status.value,c.method.value⟩

def visitor (u : DirectoryUser) : Actor := ⟨"visitor",some u.id⟩

def matchesItem (itemType : ItemType) (c : Claim) (i : ModerationItem) : Bool :=
  i.isOpen && i.itemType = itemType &&
    (if itemType = .claimDispute then i.claim = c.publicId else i.listing = c.listing && i.claimant.id = c.claimant.id)

def openItem (o : Office) (t : Tables) (itemType : ItemType) (c : Claim) (rules : List String) (actor : Actor)
    (newId : String) (now : Time) : Except ClaimError Tables :=
  if t.items.any (matchesItem itemType c) then .ok t
  else if t.items.any (·.publicId = newId) then .error .integrityError
  else
    let i : ModerationItem := {publicId := newId,itemType := itemType,listing := c.listing,claimant := c.claimant,
                               claim := c.publicId,rules := rules,createdAt := now}
    .ok (({t with items := t.items ++ [i]} : Tables).emit o.tenant newId actor
      (.moderationQueued itemType.value newId (some c.publicId) c.listing rules "normal"))

def decideItem (o : Office) (t : Tables) (i : ModerationItem) (decision operator rationale : String) (actor : Actor)
    (now : Time) : Tables :=
  (t.updateItem i.publicId fun i =>
    {i with isOpen := false,decision := decision,decidedBy := some operator,decidedAt := some now,rationale := rationale}).emit
      o.tenant i.publicId actor (.moderationDecided i.itemType.value i.publicId (some i.claim) decision rationale)

def openDispute (r : Rows) (id : ClaimId) : Option ModerationItem :=
  r.items.find? fun i => i.claim = id && i.itemType = .claimDispute && i.isOpen

def decideClaimItem (o : Office) (t : Tables) (id : ClaimId) (decision operator rationale : String) (actor : Actor)
    (now : Time) : Tables :=
  match openDispute t.toRows id with
  | none => t
  | some i => decideItem o t i decision operator rationale actor now

def noticeDue (o : Office) (t : Tables) (now : Time) : List String :=
  o.recipients.filter fun address => ¬t.mail.any fun m =>
    m.kind = OPERATOR_NOTICE_KIND && m.toAddress = address && decide (now - OPERATOR_NOTICE_THROTTLE < m.createdAt)

def notifyOperators (o : Office) (t : Tables) (now : Time) : Except ClaimError Tables :=
  t.enqueueAll OPERATOR_NOTICE_KIND ("Claims waiting for review on " ++ o.name) now (now + OPERATOR_NOTICE_TTL)
    (noticeDue o t now)

def dispute (o : Office) (t : Tables) (c : Claim) (actor : Actor) (newItem : String) (now : Time) :
    Except ClaimError Tables := do
  let moved := t.updateClaim c.publicId fun c => {c with status := .disputed,reviewReason := "disputed"}
  let told := moved.emit o.tenant c.publicId actor (.claimDisputed c.publicId c.listing)
  let queued ← openItem o told .claimDispute c ["duplicate_claim"] actor newItem now
  notifyOperators o queued now

def assignOwner (t : Tables) (id : ListingId) (user : DirectoryUser) : Tables :=
  {t with listings := fun l => if l = id then
    (t.listings l).map fun row => {row with owner := some user,status := .claimed} else t.listings l}

def maskEmail (email : String) : String :=
  let chars := email.toList
  let local_ := chars.takeWhile (· ≠ '@')
  let domain := chars.drop (local_.length + 1)
  match local_ with
  | [] => email
  | c :: _ => if domain = [] then email else String.ofList ([c] ++ "••••".toList ++ ['@'] ++ domain)

section review

variable (p : Platform) (o : Office)

def existingContacts (c : Claim) (l : Listing) : List String :=
  let raw := [l.projection.contact.email.getD "",(l.owner.map (·.email)).getD ""]
  ((raw.map fun address => p.lower (Text.strip address)).filter fun address =>
    address ≠ "" ∧ address ≠ c.claimant.email).eraseDups

def notifyExistingContacts (t : Tables) (c : Claim) (l : Listing) (now : Time) : Except ClaimError Tables :=
  t.enqueueAll "claim.existing_contact_notice" ("Your listing " ++ l.name ++ " was just claimed") now
    (now + ANTI_HIJACK_NOTICE_TTL) (existingContacts p c l)

def mailRejection (t : Tables) (c : Claim) (now : Time) : Except ClaimError Tables :=
  t.enqueue "claim.rejected" c.claimant.email ("Update on your claim for " ++ t.listingName c.listing) now
    (now + REJECTION_NOTICE_TTL)

def rejectLoser (t : Tables) (c : Claim) (now : Time) : Except ClaimError Tables :=
  let lost := t.updateClaim c.publicId fun c =>
    {c with status := .rejected,decidedAt := some now,rejectionReason := LOSER_REASON,codeHash := none}
  let expired := lost.expirePendingCode c.codeMessage now
  let told := expired.emit o.tenant c.publicId ⟨"system",some "claim.approve"⟩
    (.claimRejected (claimRef {c with status := .rejected}) LOSER_REASON "system")
  mailRejection told c now

def rejectLosers (t : Tables) (now : Time) : List ClaimId → Except ClaimError Tables
  | [] => .ok t
  | id :: rest =>
      match t.claim id with
      | none => rejectLosers t now rest
      | some c => do
          let t' ← rejectLoser o t c now
          rejectLosers t' now rest

structure Manual where
  operator : String
  methodUsed : String
  notes : String
  evidenceRef : String
  deriving DecidableEq, Repr

def approved (c : Claim) (manual : Option Manual) (now : Time) : Claim :=
  let decided := {c with status := .approved,decidedAt := some now,codeHash := none}
  match manual with
  | none => decided
  | some m =>
      {decided with
        method := .manual
        manualMethodUsed := m.methodUsed
        verificationNotes := m.notes
        evidenceRef := m.evidenceRef
        verifiedBy := some m.operator
        verifiedAt := some now
        decidedBy := some m.operator}

def approvalOf (c : Claim) (manual : Option Manual) (now : Time) : Approval :=
  match manual with
  | some m => .manual m.methodUsed m.operator now m.notes (if m.evidenceRef = "" then none else some m.evidenceRef)
  | none => .verified c.method.value c.verifiedAt

def ownerPatch (c : Claim) (previous : Option DirectoryUser) : List PatchOp :=
  [.replace "/status" (.str "claimed"),
    if previous.isSome then .replace "/owner_id" (.str c.claimant.id) else .add "/owner_id" (.str c.claimant.id)]

def approvalEvents (t : Tables) (c : Claim) (l : Listing) (actor : Actor) (manual : Option Manual) (now : Time) : Tables :=
  let contacts := existingContacts p c l
  let decided := approved c manual now
  let claimed := t.emit o.tenant c.publicId actor
    (.claimApproved c.publicId c.listing decided.method.value l.owner.isSome (contacts ≠ []) (approvalOf decided manual now))
  let owned := claimed.emit o.tenant c.listing actor
    (.listingOwnerAssigned c.listing c.claimant.id c.publicId (l.owner.map (·.id)))
  let updated := owned.emit o.tenant c.listing actor (.listingUpdated (ownerPatch c l.owner) l.typeKey)
  if contacts = [] then updated
  else updated.emit o.tenant c.publicId actor
    (.claimNotifiedExistingContacts c.publicId c.listing (contacts.map maskEmail))

-- `olds` are the approved claims a transfer retires, `losers` the pending ones
-- that no other transaction holds.
def approveClaim (t : Tables) (c : Claim) (l : Listing) (actor : Actor) (manual : Option Manual)
    (olds losers : List ClaimId) (now : Time) : Except ClaimError Tables := do
  let retired := olds.foldl (fun t old => t.updateClaim old fun c => {c with status := .superseded}) t
  let expired := retired.expirePendingCode c.codeMessage now
  let decided := expired.updateClaim c.publicId fun c => approved c manual now
  let owned := assignOwner decided c.listing c.claimant
  let notified ← notifyExistingContacts p owned c l now
  let lost ← rejectLosers o (approvalEvents p o notified c l actor manual now) now losers
  match manual with
  | none => pure lost
  | some m => pure (decideClaimItem o lost c.publicId "approved" m.operator m.notes actor now)

end review

end Osds.Claims

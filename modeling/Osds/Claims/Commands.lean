import Osds.Claims.Models
import Osds.Lib.RowLocks

namespace Osds.Claims
open Directory Audit

inductive LockKey where
  | listing (id : ListingId)
  | claim (id : ClaimId)
  | guard (listing : ListingId) (claimant : String)
  | user (email : String)
  | item (id : String)
  deriving DecidableEq, Repr

-- A listing's lock also protects which of its claims are approved; a claim's, its
-- open dispute.
structure ListingRow where
  listing : Option Listing
  approved : List ClaimId

structure ClaimRow where
  claim : Option Claim
  dispute : Option ModerationItem

abbrev Row : LockKey → Type
  | .listing _ => ListingRow
  | .claim _ => ClaimRow
  | .guard .. => Guard
  | .user _ => Option DirectoryUser
  | .item _ => Option ModerationItem

def approvedClaims (r : Rows) (id : ListingId) : List Claim :=
  r.claims.filter fun c => c.listing = id && c.status = .approved

def rowOf (r : Rows) : (k : LockKey) → Row k
  | .listing id => ⟨r.listings id,(approvedClaims r id).map (·.publicId)⟩
  | .claim id => ⟨r.claim id,openDispute r id⟩
  | .guard l u => r.guards l u
  | .user email => r.user email
  | .item id => r.item id

abbrev Script := RowLocks.Script LockKey Row Tables ClaimError

def lockEach (ks : List LockKey) (next : Script) : Script := ks.foldr (fun k rest => .lock k fun _ => rest) next

def refusedReview (reason : String) : Script := .refuse (.reviewRefused reason)

def refusedVerification (reason : String) : Script := .refuse (.verificationRefused reason)

def disputeKey (row : ClaimRow) : List LockKey := row.dispute.toList.map fun i => .item i.publicId

def MODERATOR : Nat := 1
def EDITOR : Nat := 2
def ADMIN : Nat := 4

structure Operator where
  id : String
  -- of an active membership
  role : Option Nat
  deriving DecidableEq, Repr

def Operator.may (op : Operator) (role : Nat) : Bool := op.role.any (role ≤ ·)

def Operator.actor (op : Operator) : Actor := ⟨if op.may ADMIN then "admin" else "staff",some op.id⟩

def isOpenClaim (c : Claim) : Bool := c.status = .pendingVerification || c.status = .disputed

structure Submission where
  listing : ListingId
  method : Method
  email : String
  name : String
  phoneE164 : String
  roleClaimed : String
  consent : List (String × Bool)
  ip : Option String
  -- what the command draws
  claimId : ClaimId
  userId : String
  itemId : String
  code : String
  now : Time
  deriving DecidableEq, Repr

structure Review where
  operator : Operator
  methodUsed : String
  notes : String
  evidenceRef : String
  transfer : Bool
  itemId : String
  now : Time
  deriving DecidableEq, Repr

structure Rejection where
  operator : Operator
  reason : String
  itemId : String
  now : Time
  deriving DecidableEq, Repr

structure Ruling where
  operator : Operator
  rationale : String
  now : Time
  deriving DecidableEq, Repr

def CONSENT_CHANNELS : List String := ["marketing_email","marketing_sms","automated_calls"]

def MANUAL_METHODS : List String := ["phone","email","postcard","website","social","in_person","document","other"]

section eligibility

variable (p : Platform) (o : Office)

def domainEmailIneligibility (l : Listing) (locked : Bool) (email : String) : Except ClaimError (Option String) :=
  match p.domainEmailHost l with
  | .error error => .error error
  | .ok none => .ok (some "no_website")
  | .ok (some host) =>
      if locked then .ok (some "locked")
      else if ¬o.emailAvailable then .ok (some "mail_unavailable")
      else if p.addressHost email = some host then .ok none
      else .ok (some "address_mismatch")

def resolveDomainEmailTtl : Time :=
  match o.domainEmailMinutes with
  | none => 24 * hour
  | some minutes => if 15 ≤ minutes ∧ minutes ≤ 48 * 60 then minutes * minute else 24 * hour

inductive StartResult where
  | sent (windowStart : Time) (sentInWindow : Nat)
  | ineligible (reason : String)
  | cooldown | cap
  deriving DecidableEq, Repr

def startResult (c : Claim) (l : Listing) (g : Guard) (now : Time) : Except ClaimError StartResult :=
  match domainEmailIneligibility p o l g.verificationLockedAt.isSome c.claimant.email with
  | .error error => .error error
  | .ok (some reason) => .ok (.ineligible reason)
  | .ok none =>
      if g.cooldownUntil.any (now < ·) then .ok .cooldown
      else if g.lastCodeSentAt.any (now - · < MIN_SECONDS_BETWEEN_SENDS * second) then .ok .cap
      else
        let fresh := g.codesSentWindowStart.all (SEND_WINDOW ≤ now - ·)
        let sentInWindow := if fresh then 0 else g.codesSentInWindow
        if MAX_SENDS_PER_WINDOW ≤ sentInWindow then .ok .cap
        else .ok (.sent (if fresh then now else g.codesSentWindowStart.getD now) sentInWindow)

def flipToManual (reason : String) (c : Claim) : Claim :=
  {c with
    method := .manual
    codeHash := none
    reviewReason := if c.reviewReason = "" then reason else c.reviewReason}

def verificationFailed (t : Tables) (c : Claim) (reason : String) (attempt cooldowns : Option Nat) : Tables :=
  t.emit o.tenant c.publicId (visitor c.claimant) (.claimVerificationFailed (claimRef c) reason attempt cooldowns)

def tellUnlessDisputed (t : Tables) (c : Claim) (now : Time) : Except ClaimError Tables :=
  if c.status = .disputed then .ok t else notifyOperators o t now

def sendCode (t : Tables) (c : Claim) (l : Listing) (windowStart : Time) (sentInWindow : Nat) (code : String) (now : Time) :
    Except ClaimError Tables := do
  let expired := t.expirePendingCode c.codeMessage now
  let expiresAt := now + resolveDomainEmailTtl o
  let codeHash := p.hashCode c.publicId code
  let message := expired.mail.length
  let queued ← expired.enqueue "claim.verification_code" c.claimant.email ("Your verification code for " ++ l.name) now
    expiresAt
  let issued := queued.updateClaim c.publicId fun c =>
    {c with
      codeHash := some codeHash
      verificationStartedAt := some now
      expiresAt := some expiresAt
      codeMessage := some message}
  let counted := issued.updateGuard c.listing c.claimant.id fun g =>
    {g with
      lastCodeSentAt := some now
      codesSentWindowStart := some windowStart
      codesSentInWindow := sentInWindow + 1}
  let told := counted.emit o.tenant c.publicId (visitor c.claimant)
    (.claimVerificationStarted (claimRef c) expiresAt (maskEmail c.claimant.email))
  pure {told with codes := ⟨c.publicId,code,expiresAt⟩ :: told.codes}

def start (t : Tables) (c : Claim) (l : Listing) (g : Guard) (code : String) (now : Time) : Except ClaimError Tables :=
  match startResult p o c l g now with
  | .error error => .error error
  | .ok (.ineligible reason) => do
      let flipped := (t.updateClaim c.publicId (flipToManual reason)).expirePendingCode c.codeMessage now
      let told ← tellUnlessDisputed o flipped c now
      pure (verificationFailed o told (flipToManual reason c) "ineligible" none none)
  | .ok .cooldown | .ok .cap => .ok t
  | .ok (.sent windowStart sentInWindow) => sendCode p o t c l windowStart sentInWindow code now

end eligibility

section scripts

variable (p : Platform) (o : Office)

def isVerifiable (c : Claim) : Bool := c.status = .pendingVerification || c.status = .disputed

-- The row of a claim's pair, then the claim: no check reads either before its lock.
def lockPair (id : ClaimId) (next : Guard → ClaimRow → Claim → Script) : Script :=
  .read (.claim id) fun seen =>
    match seen.claim with
    | none => .refuse .doesNotExist
    | some seen =>
        .lock (.guard seen.listing seen.claimant.id) fun g =>
          .lock (.claim id) fun row =>
            match row.claim with
            | none => .refuse .doesNotExist
            | some c => next g row c

def resendScript (id : ClaimId) (code : String) (now : Time) : Script :=
  lockPair id fun g _ c =>
    if ¬isVerifiable c then refusedVerification "status"
    else if c.method ≠ .domainEmail then refusedVerification "method"
    else if c.verifiedAt.isSome then refusedVerification "verified"
    else .read (.listing c.listing) fun l =>
      match l.listing with
      | none => .refuse .doesNotExist
      | some l =>
          match startResult p o c l g now with
          | .error error => .refuse error
          | .ok .cooldown => refusedVerification "cooldown"
          | .ok .cap => refusedVerification "cap"
          | _ => .commit fun t => start p o t c l g code now

def verifyRefusal (c : Claim) (g : Guard) (now : Time) : Option String :=
  if ¬isVerifiable c then some "status"
  else if c.method ≠ .domainEmail then some "method"
  else if c.verifiedAt.isSome then some "verified"
  else if g.verificationLockedAt.isSome then some "locked"
  else if g.cooldownUntil.any (now < ·) then some "cooldown"
  else if c.codeHash.isNone then some "no_active_code"
  else if c.expiresAt.any (· ≤ now) then some "expired"
  else none

def verified (now : Time) (c : Claim) : Claim := {c with verifiedAt := some now,codeHash := none}

def wrongGuard (g : Guard) (now : Time) : Guard :=
  if g.wrongEntries + 1 < MAX_WRONG_ENTRIES then {g with wrongEntries := g.wrongEntries + 1}
  else
    {g with
      wrongEntries := 0
      cooldownUntil := some (now + COOLDOWN_MINUTES * minute)
      cooldowns := g.cooldowns + 1
      verificationLockedAt := if MAX_COOLDOWNS ≤ g.cooldowns + 1 then some now else g.verificationLockedAt}

def wrongReason (g : Guard) : String :=
  if g.wrongEntries + 1 < MAX_WRONG_ENTRIES then "wrong_code"
  else if g.cooldowns + 1 < MAX_COOLDOWNS then "cooldown"
  else "locked"

def wrongClaim (g : Guard) (c : Claim) : Claim :=
  if g.wrongEntries + 1 < MAX_WRONG_ENTRIES then {c with attempts := c.attempts + 1}
  else if g.cooldowns + 1 < MAX_COOLDOWNS then {c with attempts := c.attempts + 1,codeHash := none}
  else
    {c with
      attempts := c.attempts + 1
      codeHash := none
      method := .manual
      reviewReason := if c.reviewReason = "" then "locked" else c.reviewReason}

def wrongCode (t : Tables) (c : Claim) (g : Guard) (itemId : String) (now : Time) : Except ClaimError Tables := do
  let counted := (t.updateClaim c.publicId (wrongClaim g)).updateGuard c.listing c.claimant.id fun _ => wrongGuard g now
  let failed := verificationFailed o counted (wrongClaim g c) (wrongReason g) (some (g.wrongEntries + 1))
    (some (wrongGuard g now).cooldowns)
  if wrongReason g = "locked" then do
    let queued ← openItem o (failed.expirePendingCode c.codeMessage now) .verificationLock c
      ["verification_cooldowns_exhausted"] (visitor c.claimant) itemId now
    tellUnlessDisputed o queued c now
  else pure failed

-- The pending claims on a listing but this one.
def isLoser (listing : ListingId) (winner : ClaimId) : (k : LockKey) → Row k → Bool
  | .claim id,row => id ≠ winner && row.claim.any fun c => c.listing = listing && c.status = .pendingVerification
  | _,_ => false

def claimIds (ks : List LockKey) : List ClaimId :=
  ks.filterMap fun k => match k with | .claim id => some id | _ => none

-- The locks of an approval, past the claim's and the listing's: the claims it
-- retires, the losers, and the open items it decides.
def approvalScript (c : Claim) (row : ListingRow) (l : Listing) (actor : Actor) (manual : Option Manual)
    (items : List LockKey) (before : Tables → Tables) (now : Time) : Script :=
  let olds := row.approved.filter (· ≠ c.publicId)
  lockEach (olds.map .claim) <|
    .skipLocked (isLoser c.listing c.publicId) fun ks =>
      lockEach items <|
        .commit fun t => approveClaim p o (before t) c l actor manual olds (claimIds ks) now

def resolveScript (c : Claim) (itemId : String) (now : Time) : Script :=
  let accept := fun t : Tables => t.updateClaim c.publicId (verified now)
  .lock (.listing c.listing) fun row =>
    match row.listing with
    | none => .refuse .doesNotExist
    | some l =>
        if l.status = .suspended then .commit fun t => .ok (accept t)
        else if l.status = .claimed then
          .lock (.item itemId) fun _ => .commit fun t => dispute o (accept t) c (visitor c.claimant) itemId now
        else approvalScript p o (verified now c) row l (visitor c.claimant) none [] accept now

def verifyScript (id : ClaimId) (code itemId : String) (now : Time) : Script :=
  lockPair id fun g _ c =>
    match verifyRefusal c g now with
    | some reason => refusedVerification reason
    | none =>
        if c.codeHash ≠ some (p.hashCode id code) then
          lockEach (if wrongReason g = "locked" then [.item itemId] else [])
            (.commit fun t => wrongCode o t c g itemId now)
        else if c.status = .disputed then .commit fun t => .ok (t.updateClaim id (verified now))
        else resolveScript p o c itemId now

def approveScript (id : ClaimId) (r : Review) : Script :=
  if ¬r.operator.may EDITOR then refusedReview "forbidden"
  else if Text.strip r.notes = "" then refusedReview "notes_required"
  else if r.methodUsed ∉ MANUAL_METHODS then refusedReview "method_used_invalid"
  else .lock (.claim id) fun claimRow =>
    match claimRow.claim with
    | none => .refuse .doesNotExist
    | some c =>
        if ¬isOpenClaim c then refusedReview "status"
        else .lock (.listing c.listing) fun row =>
          match row.listing with
          | none => .refuse .doesNotExist
          | some l =>
              if l.status = .suspended then refusedReview "listing_suspended"
              else if c.status = .pendingVerification ∧ l.status = .claimed then
                .lock (.item r.itemId) fun _ => .commit fun t => dispute o t c r.operator.actor r.itemId r.now
              else if l.status = .claimed ∧ ¬r.transfer then refusedReview "transfer_unconfirmed"
              else if 500 < (Text.strip r.evidenceRef).length then .refuse .dataError
              else
                let manual : Manual := ⟨r.operator.id,r.methodUsed,Text.strip r.notes,Text.strip r.evidenceRef⟩
                approvalScript p o c row l r.operator.actor (some manual) (disputeKey claimRow) (fun t => t) r.now

def rejected (operator reason : String) (now : Time) (c : Claim) : Claim :=
  {c with
    status := .rejected
    decidedAt := some now
    decidedBy := some operator
    rejectionReason := reason
    codeHash := none}

def blocks (g : Guard) : Bool := REJECTION_BLOCK_THRESHOLD ≤ g.rejections + 1 && g.claimBlockedAt.isNone

def rejectedGuard (g : Guard) (now : Time) : Guard :=
  {g with
    rejections := g.rejections + 1
    claimBlockedAt := if blocks g then some now else g.claimBlockedAt}

def reject (t : Tables) (c : Claim) (g : Guard) (r : Rejection) : Except ClaimError Tables := do
  let reason := Text.strip r.reason
  let after := rejected r.operator.id reason r.now c
  let decided := (t.expirePendingCode c.codeMessage r.now).updateClaim c.publicId (rejected r.operator.id reason r.now)
  let counted := decided.updateGuard c.listing c.claimant.id fun _ => rejectedGuard g r.now
  let told := counted.emit o.tenant c.publicId r.operator.actor (.claimRejected (claimRef after) reason r.operator.id)
  let closed := decideClaimItem o told c.publicId "rejected" r.operator.id reason r.operator.actor r.now
  let queued ← if blocks g then openItem o closed .claimBlock c ["repeated_rejection"] r.operator.actor r.itemId r.now
    else .ok closed
  mailRejection queued c r.now

def rejectScript (id : ClaimId) (r : Rejection) : Script :=
  if ¬r.operator.may EDITOR then refusedReview "forbidden"
  else if Text.strip r.reason = "" then refusedReview "reason_required"
  else lockPair id fun g row c =>
    if ¬isOpenClaim c then refusedReview "status"
    else lockEach (disputeKey row ++ if blocks g then [.item r.itemId] else [])
      (.commit fun t => reject o t c g r)

def decideQueued (t : Tables) (i : ModerationItem) (decision : String) (clear : Guard → Guard)
    (stands : Bool) (r : Ruling) : Tables :=
  let cleared := if stands then t.updateGuard i.listing i.claimant.id clear else t
  decideItem o cleared i (if stands then decision else ALREADY_CLEARED) r.operator.id (Text.strip r.rationale)
    r.operator.actor r.now

def unlockedGuard (g : Guard) : Guard :=
  {g with verificationLockedAt := none,cooldowns := 0,wrongEntries := 0,cooldownUntil := none}

def unblockedGuard (g : Guard) : Guard := {g with claimBlockedAt := none}

def queueScript (itemType : ItemType) (id : String) (r : Ruling)
    (change : Tables → ModerationItem → Guard → Tables) : Script :=
  if ¬r.operator.may MODERATOR then refusedReview "forbidden"
  else if Text.strip r.rationale = "" then refusedReview "rationale_required"
  else .read (.item id) fun seen =>
    match seen with
    | none => .refuse .doesNotExist
    | some seen =>
        if seen.itemType ≠ itemType then refusedReview "wrong_type"
        else .lock (.guard seen.listing seen.claimant.id) fun g =>
          .lock (.item id) fun row =>
            match row with
            | none => .refuse .doesNotExist
            | some i =>
                if ¬i.isOpen then refusedReview "item_not_open"
                else .commit fun t => .ok (change t i g)

def unlockScript (id : String) (r : Ruling) : Script :=
  queueScript .verificationLock id r fun t i g =>
    decideQueued o t i "unlocked" unlockedGuard g.verificationLockedAt.isSome r

def unblockScript (id : String) (r : Ruling) : Script :=
  queueScript .claimBlock id r fun t i g => decideQueued o t i "unblocked" unblockedGuard g.claimBlockedAt.isSome r

def newClaim (s : Submission) (u : DirectoryUser) (method : Method) (reviewReason : String) : Claim :=
  {publicId := s.claimId
   listing := s.listing
   claimant := u
   method := method
   roleClaimed := s.roleClaimed
   requestedMethod := s.method
   reviewReason := reviewReason
   createdAt := s.now
   updatedAt := s.now}

def consents (s : Submission) : List ConsentEntry :=
  CONSENT_CHANNELS.map fun channel =>
    let granted := (s.consent.lookup channel).getD false
    ⟨channel,granted,if granted then some s.now else none,if granted then s.ip else none,o.consentText⟩

def mintUser (t : Tables) (s : Submission) (u : DirectoryUser) (minted : Bool) : Except ClaimError Tables :=
  if ¬minted then .ok t
  else if t.users.any (·.id = u.id) then .error .integrityError
  else if 254 < u.email.length ∨ 200 < s.name.length then .error .dataError
  else .ok (({t with users := t.users ++ [u]} : Tables).emit o.tenant u.id (visitor u)
    (.userCreated u.id u.email s.name s.phoneE164 "claim.submit"))

def createClaim (t : Tables) (s : Submission) (c : Claim) : Except ClaimError Tables :=
  if 40 < c.roleClaimed.length then .error .dataError
  else .ok (({t with claims := t.claims ++ [c]} : Tables).emit o.tenant c.publicId (visitor c.claimant)
    (.claimSubmitted (claimRef c) c.claimant.id s.name s.email s.phoneE164 s.roleClaimed (consents o s)))

-- The rest of a submission: `seen` is the listing as the page loaded it, and a
-- `domain_email` claim starts with the rows it has locked and read by then.
def submit (t : Tables) (s : Submission) (u : DirectoryUser) (minted : Bool) (c : Claim) (seen : Listing)
    (starting : Option (Listing × Guard)) : Except ClaimError Tables := do
  let met ← mintUser o t s u minted
  let created ← createClaim o met s c
  let started ← match starting with
    | none => .ok created
    | some (l,g) => start p o created c l g s.code s.now
  let flipped := starting.any fun (l,g) => match startResult p o c l g s.now with | .ok (.ineligible _) => true | _ => false
  if seen.status = .claimed then dispute o started c (visitor u) s.itemId s.now
  else if c.method = .manual ∨ flipped then notifyOperators o started s.now
  else .ok started

def inserting (s : Submission) (seen : Listing) (next : Script) : Script :=
  .lock (.claim s.claimId) fun row =>
    if row.claim.isSome then .refuse .integrityError
    else lockEach (if seen.status = .claimed then [.item s.itemId] else []) next

def submitAs (s : Submission) (seen : Listing) (u : DirectoryUser) (minted : Bool) : Script :=
  .read (.guard s.listing u.id) fun g =>
    if g.claimBlockedAt.isSome then .refuse (.schema "this address is blocked from claiming this listing")
    else if s.method = .domainEmail then
      .read (.guard s.listing u.id) fun g =>
        match domainEmailIneligibility p o seen g.verificationLockedAt.isSome s.email with
        | .error error => .refuse error
        | .ok (some reason) => inserting s seen <| .commit fun t => submit p o t s u minted (newClaim s u .manual reason) seen none
        | .ok none =>
            inserting s seen <| .lock (.guard s.listing u.id) fun g => .read (.listing s.listing) fun l =>
              match l.listing with
              | none => .refuse .doesNotExist
              | some l => .commit fun t => submit p o t s u minted (newClaim s u .domainEmail "") seen (some (l,g))
    else inserting s seen <| .commit fun t =>
      submit p o t s u minted (newClaim s u s.method (if s.method = .manual then "chosen" else "")) seen none

def submitScript (s : Submission) : Script :=
  if s.method ∉ o.enabledMethods then
    .refuse (.schema ("verification method '" ++ s.method.value ++ "' is not enabled for this tenant"))
  else match CONSENT_CHANNELS.find? (fun channel => (s.consent.lookup channel).isNone) with
    | some channel => .refuse (.consentRequired channel)
    | none =>
        .read (.listing s.listing) fun seen =>
          match seen.listing with
          | none => .refuse .doesNotExist
          | some seen =>
              .read (.user s.email) fun found =>
                match found with
                | some u => submitAs p o s seen u false
                | none =>
                    .lock (.user s.email) fun found =>
                      match found with
                      | some u => submitAs p o s seen u false
                      | none => submitAs p o s seen ⟨s.userId,s.email⟩ true

structure ListingWrite where
  tenant : TenantId
  typeKey : String
  projection : Projection
  visibility : Visibility
  currentTier : Option TierId

def ListingWrite.apply (w : ListingWrite) (old : Option Listing) : Listing :=
  match old with
  | some l => {l with projection := w.projection,visibility := w.visibility,currentTier := w.currentTier}
  | none => ⟨w.tenant,w.typeKey,w.projection,.unclaimed,w.visibility,w.currentTier,none⟩

def writeScript (id : ListingId) (w : ListingWrite) : Script :=
  .lock (.listing id) fun _ =>
    .commit fun t => .ok {t with listings := fun l => if l = id then some (w.apply (t.listings l)) else t.listings l}

inductive Command where
  | submit (o : Office) (s : Submission)
  | resend (o : Office) (id : ClaimId) (code : String) (now : Time)
  | verify (o : Office) (id : ClaimId) (code itemId : String) (now : Time)
  | approve (o : Office) (id : ClaimId) (r : Review)
  | reject (o : Office) (id : ClaimId) (r : Rejection)
  | unlock (o : Office) (id : String) (r : Ruling)
  | unblock (o : Office) (id : String) (r : Ruling)
  | writeListing (id : ListingId) (w : ListingWrite)

def script : Command → Script
  | .submit o s => submitScript p o s
  | .resend o id code now => resendScript p o id code now
  | .verify o id code itemId now => verifyScript p o id code itemId now
  | .approve o id r => approveScript p o id r
  | .reject o id r => rejectScript o id r
  | .unlock o id r => unlockScript o id r
  | .unblock o id r => unblockScript o id r
  | .writeListing id w => writeScript id w

end scripts

end Osds.Claims

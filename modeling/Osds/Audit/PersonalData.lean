import Osds.Audit.Redaction
import Osds.Lib.Noninterference

namespace Osds.Audit
open Directory

section blank

variable (granted : Granted) (marked : List String)

def textOf (allowed : Bool) (value : String) : String := if allowed then value else ""

-- A projection without its contact block and its private custom fields.
def contactless (p : Projection) : Projection :=
  if granted.contact then p
  else {p with contact := ⟨none,none,none,[]⟩,customFields := setNull marked p.customFields}

def blankProjection (p : Projection) : Projection :=
  {contactless granted marked p with provenanceNotes := if granted.message then p.provenanceNotes else none}

def blankConsent (c : ConsentEntry) : ConsentEntry := {c with ip := if granted.contact then c.ip else none}

def opPath : PatchOp → String
  | .add path _ => path
  | .replace path _ => path
  | .remove path => path
  | .removed path _ => path

def mapValue (f : Json → Json) : PatchOp → PatchOp
  | .add path value => .add path (f value)
  | .replace path value => .replace path (f value)
  | .remove path => .remove path
  | .removed path value => .removed path (f value)

def nullInside : Json → Json
  | .obj fields => .obj (setNull marked fields)
  | value => value

def notesPointer : String := "/provenance/notes"

def inContact (path : String) : Bool := path = "/contact" || "/contact/".toList.isPrefixOf path.toList

def inPrivateField (path : String) : Bool := marked.any fun key => path = "/custom_fields/" ++ key

def blankOp (op : PatchOp) : PatchOp :=
  if !granted.contact && (inContact (opPath op) || inPrivateField marked (opPath op)) then mapValue (fun _ => .null) op
  else if !granted.contact && opPath op = "/custom_fields" then mapValue (nullInside marked) op
  else if !granted.message && opPath op = notesPointer then mapValue (fun _ => .null) op
  else op

def blankApproval : Approval → Approval
  | .manual methodUsed verifiedBy verifiedAt notes evidenceRef =>
      .manual methodUsed verifiedBy verifiedAt (textOf granted.message notes)
        (if granted.message then evidenceRef else none)
  | approval => approval

end blank

-- The fields of the event's listing type that are not public.
def privateKeys (types : List ListingType) (type : String) : List String :=
  ((types.find? fun t => type ≠ "" && t.key = type).map fun t => (t.fields.filter (!·.isPublic)).map (·.key)).getD []

-- A payload with the personal data that `granted` does not cover blanked, and
-- its shape kept. Reason codes that core sets are not personal data.
def blank (types : List ListingType) (granted : Granted) : Payload → Payload
  | .entitlementCanceled entitlementId listingId atPeriodEnd reason canceledBy =>
      .entitlementCanceled entitlementId listingId atPeriodEnd (textOf granted.message reason) canceledBy
  | .entitlementOverridden entitlementId listingId adminId reason prior to_ =>
      .entitlementOverridden entitlementId listingId adminId (textOf granted.message reason) prior to_
  | .billingSubscriptionCanceled listingId atPeriodEnd reason canceledBy =>
      .billingSubscriptionCanceled listingId atPeriodEnd (textOf granted.message reason) canceledBy
  | .billingRefundIssued listingId amount currency reason =>
      .billingRefundIssued listingId amount currency (textOf granted.message reason)
  | .listingCreated projection type =>
      .listingCreated (blankProjection granted (privateKeys types type) projection) type
  | .listingUpdated changes type =>
      .listingUpdated (changes.map (blankOp granted (privateKeys types type))) type
  | .listingPublished before type projection =>
      .listingPublished before type (blankProjection granted (privateKeys types type) projection)
  | .claimSubmitted claim claimantId name email phoneE164 roleClaimed consent =>
      .claimSubmitted claim claimantId (textOf granted.contact name) (textOf granted.contact email)
        (textOf granted.contact phoneE164) roleClaimed (consent.map (blankConsent granted))
  | .claimApproved claimId listingId method transfer existingContactsNotified approval =>
      .claimApproved claimId listingId method transfer existingContactsNotified (blankApproval granted approval)
  | .claimRejected claim reason decidedBy => .claimRejected claim (textOf granted.message reason) decidedBy
  | .userCreated userId email name phoneE164 createdBy =>
      .userCreated userId (textOf granted.contact email) (textOf granted.contact name)
        (textOf granted.contact phoneE164) createdBy
  | .leadCaptured leadId kind name email phoneE164 message spamScore listingId sourcePage consent =>
      .leadCaptured leadId kind (textOf granted.contact name) (textOf granted.contact email)
        (textOf granted.contact phoneE164) (textOf granted.message message) spamScore listingId sourcePage
        (consent.map (blankConsent granted))
  | .moderationDecided itemType itemId claimId decision rationale =>
      .moderationDecided itemType itemId claimId decision (textOf granted.message rationale)
  | .importCompleted batchId status created updated skipped suppressed errors =>
      .importCompleted batchId status created updated skipped suppressed (if granted.contact then errors else [])
  | .staffInvited operatorId role status email existing grantedBy =>
      .staffInvited operatorId role status (textOf granted.contact email) existing grantedBy
  | .tenantSettingsChanged changes changedBy =>
      .tenantSettingsChanged (if granted.contact then changes else changes.map (mapValue fun _ => .null)) changedBy
  | payload => payload

-- The personal data that the classification overlooks.
def overlooked : Payload → List Json
  | .listingPublished _ _ p => [p.contact.json,.obj p.customFields,.ofOption .str p.provenanceNotes]
  | .listingCreated p _ => [.ofOption .str p.provenanceNotes]
  | .listingUpdated changes _ => changes.map fun op => if opPath op = notesPointer then opJson op else .null
  | .billingRefundIssued _ _ _ reason => [.str reason]
  | _ => []

theorem blank_type : (blank types granted p).type = p.type := by
  cases p <;> rfl

def Overlooking : List EventType := [.listingPublished,.listingCreated,.listingUpdated,.billingRefundIssued]

end Osds.Audit

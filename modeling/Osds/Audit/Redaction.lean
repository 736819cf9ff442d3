import Osds.Audit.Wire
import Osds.Directory.Site
import Mathlib.Data.List.Dedup
import Mathlib.Data.List.Sort

namespace Osds.Audit
open Directory

inductive Scope where
  | contact
  | message
  deriving DecidableEq

structure Granted where
  contact : Bool
  message : Bool
  deriving DecidableEq

def Granted.has (granted : Granted) : Scope → Bool
  | .contact => granted.contact
  | .message => granted.message

def RULES : List (EventType × List (List String × Scope)) :=
  [(.userCreated,[(["user","email"],.contact),(["user","name"],.contact),(["user","phone_e164"],.contact)]),
    (.claimSubmitted,[(["claimant","name"],.contact),(["claimant","email"],.contact),
      (["claimant","phone_e164"],.contact),(["consent","*","ip"],.contact)]),
    (.leadCaptured,[(["lead","name"],.contact),(["lead","email"],.contact),(["lead","phone_e164"],.contact),
      (["lead","message"],.message),(["consent","*","ip"],.contact)]),
    (.listingCreated,[(["contact"],.contact)]),
    (.listingUpdated,[]),
    (.staffInvited,[(["operator","email"],.contact)]),
    (.claimApproved,[(["manual_verification","notes"],.message),
      (["manual_verification","evidence_ref"],.message)]),
    (.claimRejected,[(["reason"],.message)]),
    (.moderationDecided,[(["rationale"],.message)]),
    (.billingSubscriptionCanceled,[(["reason"],.message)]),
    (.entitlementCanceled,[(["reason"],.message)]),
    (.entitlementOverridden,[(["reason"],.message)]),
    (.importCompleted,[(["errors"],.contact)]),
    (.tenantSettingsChanged,[])]

def PATCH_RULES : List (EventType × List (String × Scope)) :=
  [(.listingUpdated,[("/contact",.contact)]),(.tenantSettingsChanged,[("/",.contact)])]

def NO_PII : List EventType :=
  [.claimVerificationStarted,.claimVerificationFailed,.claimDisputed,.claimNotifiedExistingContacts,
    .listingOwnerAssigned,.listingPublished,.listingUnpublished,.listingTierChanged,
    .staffAccepted,.leadMarkedSpam,.moderationQueued,
    .tenantCreated,.tenantDomainVerified,.importStarted,.importRolledBack,
    .billingCheckoutStarted,.billingSubscriptionStarted,.billingSubscriptionChanged,
    .billingPaymentSucceeded,.billingPaymentFailed,.billingRefundIssued,
    .entitlementStarted,.entitlementTrialConverted,.entitlementDunningStarted,.entitlementRecovered,
    .entitlementDowngraded,.entitlementRestored,.entitlementRenewalDue,.entitlementExpired]

def LISTING_EVENTS : List EventType := [.listingCreated,.listingUpdated]

abbrev Fields := List (String × Json)

abbrev Withheld := Json × List String

def nullPath : List String → String → Json → Withheld
  | key :: rest,trail,.obj fields =>
      let visited := fields.map fun (name,value) =>
        if key = "*" ∨ key = name then
          match rest with
          | [] => ((name,Json.null),[trail ++ name])
          | _ :: _ =>
              let below := nullPath rest (trail ++ name ++ ".") value
              ((name,below.1),below.2)
        else ((name,value),[])
      (.obj (visited.map (·.1)),visited.flatMap (·.2))
  | _,_,node => (node,[])

def redactRules (granted : Granted) : List (List String × Scope) → Withheld → Withheld
  | [],out => out
  | (path,scope) :: rest,out =>
      redactRules granted rest <|
        if granted.has scope then out
        else
          let next := nullPath path "" out.1
          (next.1,out.2 ++ next.2)

def under (path parent : String) : Bool :=
  parent = "/" || path = parent || (parent ++ "/").toList.isPrefixOf path.toList

def setField (key : String) (value : Json) (fields : Fields) : Fields :=
  fields.map fun field => if field.1 = key then (key,value) else field

def setNull (keys : List String) (fields : Fields) : Fields :=
  fields.map fun field => if field.1 ∈ keys then (field.1,.null) else field

def held (keys : List String) (fields : Fields) : List String := (fields.map (·.1)).filter (· ∈ keys)

def thirdPart (path : String) : Option String := ((path.toList.splitOn '/')[2]?).map String.ofList

section patch

variable (rules : List (String × Scope)) (granted : Granted) (privateCustomFields : List String)

def opWithheld (path : String) : Bool :=
  rules.any (fun rule => under path rule.1 && !granted.has rule.2) ||
    (!granted.contact && "/custom_fields/".toList.isPrefixOf path.toList &&
      (thirdPart path).any (· ∈ privateCustomFields))

-- str(op.get("path", "")); the text of anything but a string begins with no slash, and
-- which it is makes no difference.
def opText (fields : Fields) : String :=
  match fields.lookup "path" with
  | some (.str path) => path
  | _ => ""

def redactOp (index : Nat) : Json → Withheld
  | .obj fields =>
      let where_ := "changes[" ++ toString index ++ "].value"
      match fields.lookup "value" with
      | some value =>
          if opWithheld rules granted privateCustomFields (opText fields) then (.obj (setField "value" .null fields),[where_])
          else if !granted.contact && opText fields = "/custom_fields" then
            match value with
            | .obj custom => (.obj (setField "value" (.obj (setNull privateCustomFields custom)) fields),
                (held privateCustomFields custom).map fun key => where_ ++ "." ++ key)
            | _ => (.obj fields,[])
          else (.obj fields,[])
      | none => (.obj fields,[])
  | op => (op,[])

def redactPatch : Withheld → Withheld
  | (.obj fields,seen) =>
      match fields.lookup "changes" with
      | some (.arr changes) =>
          let visited := changes.mapIdx (redactOp rules granted privateCustomFields)
          (.obj (setField "changes" (.arr (visited.map (·.1))) fields),seen ++ visited.flatMap (·.2))
      | _ => (.obj fields,seen)
  | out => out

end patch

def redactCustomFields (privateCustomFields : List String) : Withheld → Withheld
  | (.obj fields,seen) =>
      match fields.lookup "custom_fields" with
      | some (.obj custom) => (.obj (setField "custom_fields" (.obj (setNull privateCustomFields custom)) fields),
          seen ++ (held privateCustomFields custom).map fun key => "custom_fields." ++ key)
      | _ => (.obj fields,seen)
  | out => out

def redactJson (granted : Granted) (privateCustomFields : List String) (type : EventType) (data : Json) : Withheld :=
  let out : Withheld := (data,[])
  let ruled :=
    match RULES.lookup type with
    | some rules =>
        let out := redactRules granted rules out
        match PATCH_RULES.lookup type with
        | some patch => redactPatch patch granted privateCustomFields out
        | none => out
    | none => if type ∈ NO_PII ∨ granted.contact ∧ granted.message then out else (.obj [],["data"])
  if type ∈ LISTING_EVENTS ∧ !granted.contact then redactCustomFields privateCustomFields ruled else ruled

def redactData (granted : Granted) (privateCustomFields : List String) (type : EventType) (data : Fields) : Withheld :=
  redactJson granted privateCustomFields type (.obj data)

def sortedSet (paths : List String) : List String := paths.dedup.insertionSort (· ≤ ·)

def redact (granted : Granted) (privateCustomFields : List String) (type : EventType) (envelope data : Fields) : Fields :=
  let out := redactData granted privateCustomFields type data
  setField "data" out.1 envelope ++ [("redacted",.arr ((sortedSet out.2).map .str))]

def markedPrivate (types : List ListingType) (key : String) : List String :=
  if key = "" then []
  else
    match types.find? (·.key = key) with
    | none => []
    | some t => (t.fields.filter fun f => f.key ≠ "" && !f.isPublic).map (·.key)

-- `types` are the tenant's listing types as the drain finds them.
def privateCustomFields (types : List ListingType) (e : OutboxRow) : List String :=
  if e.type ∈ LISTING_EVENTS then
    match e.payload.data.lookup "type" with
    | some (.str key) => markedPrivate types key
    | _ => []
  else []

def attemptEnvelope (types : List ListingType) (granted : Granted) (e : OutboxRow) : Json :=
  .obj (redact granted (if granted.contact then [] else privateCustomFields types e) e.type (toWire e) e.payload.data)

end Osds.Audit

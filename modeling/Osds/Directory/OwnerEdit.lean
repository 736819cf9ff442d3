import Osds.Directory.CustomFields
import Osds.Lib.JsonPlaces

namespace Osds.Directory.OwnerEdit
open Audit (TenantId)
open Payloads Fallible JsonPlaces CustomFields

section stored

variable {env : Environment} {r : Request} {creating : Bool} {s : Store} {row new : Row} {rows : List Row} {newId : ListingId}

def Kept (env : Environment) (row : Row) : Prop := rowOf env (load row) = row

def Stored (env : Environment) (store : Store) : Prop := ∀ row ∈ store.rows, Kept env row

theorem filed_kept (o : Object) (categories : List String) : Kept env (filed env o categories) :=
  Listing.ext rfl rfl rfl (funext fun _ => cell_cell) rfl rfl (reload_reloadItems _) (reload_reloadFields _)
    (reload_reloadFields _) (reload_reloadFields _) (reload_reloadFields _) rfl rfl rfl rfl

theorem place_kept (kept : ∀ old ∈ rows, Kept env old) (fresh : Kept env new) : ∀ old ∈ place creating new rows, Kept env old := by
  intro old there
  unfold place at there
  split at there
  · rcases List.mem_append.mp there with before | added
    · exact kept old before
    · exact List.mem_singleton.mp added ▸ fresh
  · obtain ⟨was,before,rfl⟩ := List.mem_map.mp there
    split
    · exact fresh
    · exact kept was before

theorem upsert_stored (stored : Stored env s) : Stored env (upsertListing env s r newId).1 := by
  cases answer : upsertListing env s r newId with
  | mk s' outcome =>
      cases outcome with
      | error failure => exact upsert_refused answer ▸ stored
      | ok outcome =>
          obtain ⟨_,_,_,_,_,_,wrote,rows,_⟩ := accepted_parts answer
          obtain ⟨applied,categories,_,_,_,_,kept,_⟩ := write_exact.mp wrote
          obtain ⟨_,rfl⟩ := keep_exact.mp kept
          unfold Stored
          rw [rows]
          exact place_kept stored (filed_kept applied categories)

end stored

-- The only keys an owner's changes may hold.
def FREE_KEYS : List String := ["description","phone_e164","custom_fields"]

def OPERATOR_ONLY_KEYS : List String :=
  ["name","slug","categories","website","email","address_line1","address_line2","locality","region","postal_code","country",
    "lat","lon","geo_precision","location","contact"]

inductive Reason where
  | operatorOnly | notAccepted | customField | notOwner | listingSuspended
  deriving DecidableEq, Repr

structure User where
  pk : Nat
  publicId : String

-- The listing and its type are those of the caller's object.
structure Call where
  tenant : TenantId
  user : User
  listing : ListingId
  type : Payloads.ListingType
  changes : Fields

-- A refusal of the guard, or what the upsert or an operation raises.
inductive Ended where
  | refused (reason : Reason) (fields : List Doc)
  | failed (failure : Failure)

-- The row of the command log for a refused attempt: keys, never values.
structure Attempt where
  tenant : TenantId
  actor : Audit.Actor
  listing : ListingId
  keys : List String
  blocked : Bool
  reason : Reason
  fields : List Doc

structure State (env : Environment) where
  store : Store
  stored : Stored env store
  owner : ListingId → Option Nat
  suspended : ListingId → Bool
  log : List Attempt

section edit

variable {env : Environment} (s : State env) (c : Call)

def actor : Audit.Actor := ⟨"owner",some c.user.publicId⟩

def editableCustomKeys (type : Payloads.ListingType) : List String := (type.fields.filter (·.isPublic)).map (·.key)

def custom : Doc := ((c.changes.lookup "custom_fields").getD .null).orElse (.obj [])

-- set(custom). A number has no items, and a list or a dict among them no hash.
def customItems : Option (List Doc) :=
  match custom c with
  | .obj fields => some (fields.map fun field => .str field.1)
  | .arr items => if items.all (·.isScalar) then some items else none
  | .str text => some (text.toList.map fun letter => .str (String.singleton letter))
  | _ => none

def isEditable (type : Payloads.ListingType) : Doc → Bool
  | .str key => key ∈ editableCustomKeys type
  | _ => false

def keysOf : List String := c.changes.map Prod.fst

def sorted (keys : List String) : List String := keys.dedup.insertionSort (· ≤ ·)

def number : Doc → Option Rat
  | .bool b => some (if b then 1 else 0)
  | .int n => some n
  | .float x => some x.value
  | _ => none

def lighter (a b : Doc) : Prop := (number a).getD 0 ≤ (number b).getD 0

instance : DecidableRel lighter := fun _ _ => inferInstanceAs (Decidable (_ ≤ _))

-- sorted(set(items)). A text, a number and None cannot be compared with one another.
def sortedItems (items : List Doc) : Option (List Doc) :=
  match items.mapM (·.string) with
  | some texts => some ((sorted texts).map .str)
  | none =>
      if items.all fun d => (number d).isSome then
        some ((items.eraseDupsBy fun a b => number a == number b).insertionSort lighter)
      else if items.all (·.isNull) then some [.null]
      else none

def refuse {α : Type} (reason : Reason) (fields : List Doc) : Except Ended α :=
  if (keysOf c).any ('\x00' ∈ ·.toList) then .error (.failed (.raised .dataError))
  else match sortedItems fields with
    | none => .error (.failed (.raised .badType))
    | some sorted =>
        if sorted.all (·.storable) then .error (.refused reason sorted) else .error (.failed (.raised .dataError))

def attempt (reason : Reason) (fields : List Doc) : Attempt :=
  ⟨c.tenant,actor c,c.listing,sorted (keysOf c),reason = .notOwner,reason,fields⟩

def blankToNone : Doc → Doc
  | .str text => if Text.strip text = "" then .null else .str text
  | d => d

def payload (fields : Fields) : Fields :=
  [("id",.str c.listing)] ++ ((c.changes.lookup "description").map fun d => ("description",blankToNone d)).toList ++
    ((c.changes.lookup "phone_e164").map fun d => ("contact",.obj [("phone_e164",blankToNone d)])).toList ++
    ((c.changes.lookup "custom_fields").map fun _ => ("custom_fields",.obj (Dict.mapValues blankToNone fields))).toList

-- What is no dict has no items.
def payloadOf : Except Ended Fields :=
  match custom c with
  | .obj fields => .ok (payload c fields)
  | _ => .error (.failed (.raised .badType))

def fresh : Option Row := s.store.rows.find? fun row => row.tenant = c.tenant && row.publicId = c.listing

-- The first transaction: the scope of the keys, and the ownership as it is now.
def check : Except Ended Fields :=
  if (keysOf c).any (· ∈ OPERATOR_ONLY_KEYS) then
    refuse c .operatorOnly (((keysOf c).filter (· ∈ OPERATOR_ONLY_KEYS)).map .str)
  else if (keysOf c).any (· ∉ FREE_KEYS) then refuse c .notAccepted (((keysOf c).filter (· ∉ FREE_KEYS)).map .str)
  else match customItems c with
    | none => .error (.failed (.raised .badType))
    | some items =>
        if items.any (!isEditable c.type ·) then refuse c .customField (items.filter (!isEditable c.type ·))
        else if (fresh s c).isNone ∨ s.owner c.listing ≠ some c.user.pk then refuse c .notOwner []
        else if s.suspended c.listing then refuse c .listingSuspended []
        else payloadOf c

def request (payload : Fields) : Request :=
  ⟨c.tenant,c.type,payload,actor c,"owner_submission","","",true,false,false⟩

-- The check and the upsert are two transactions, and between them others may commit.
def ownerUpdateListing (between : State env → State env) (newId : ListingId) : State env × Except Ended Outcome :=
  match check s c with
  | .error (.refused reason fields) =>
      ({s with log := s.log ++ [attempt c reason fields]},.error (.refused reason fields))
  | .error (.failed failure) => (s,.error (.failed failure))
  | .ok payload =>
      let now := between s
      let done := upsertListing env now.store (request c payload) newId
      ({now with store := done.1,stored := upsert_stored now.stored},done.2.mapError .failed)

end edit

section lane

variable {env : Environment} (between : State env → State env) (s : State env) (c : Call) (newId : ListingId)

def Owned : Prop := ∃ row ∈ s.store.rows, row.tenant = c.tenant ∧ row.publicId = c.listing ∧
  s.owner c.listing = some c.user.pk ∧ s.suspended c.listing = false

def named : List String :=
  match custom c with
  | .obj fields => fields.map Prod.fst
  | _ => []

def isPublicKey (type : Payloads.ListingType) (key : String) : Bool := type.fields.any fun f => f.key = key && f.isPublic

-- What the mapping names of what an owner may change, as places of the projection.
def lane : List Place :=
  ((keysOf c).filter (· = "description")).map (fun _ => [.key "description"]) ++
    ((keysOf c).filter (· = "phone_e164")).map (fun _ => [.key "contact",.key "phone_e164"]) ++
    ((named c).filter (isPublicKey c.type)).map fun key => [.key "custom_fields",.key key]

def Beside (places : List Place) (p : Place) : Prop := ∀ q ∈ places, ¬p <+: q ∧ ¬q <+: p

def shows (store : Store) (listing : ListingId) (p : Place) : Option Json :=
  (store.projection listing).bind fun fields => value p (.obj fields)

def current : State env := if (check s c).toOption.isSome then between s else s

structure InLane : Prop where
  accepted : ∀ s' outcome, ownerUpdateListing s c between newId = (s',.ok outcome) →
    Owned s c ∧ (∀ key ∈ keysOf c, key ∈ FREE_KEYS) ∧ (∀ key ∈ named c, isPublicKey c.type key) ∧
      ∀ listing p, (listing = c.listing → Beside (lane c) p) → shows s'.store listing p = shows (between s).store listing p
  refused : ∀ s' ended, ownerUpdateListing s c between newId = (s',.error ended) →
    s'.store = (current between s c).store ∧ s'.owner = (current between s c).owner ∧
      s'.suspended = (current between s c).suspended

end lane

section payload

variable {env : Environment} {s : State env} {c : Call} {fields given : Fields} {key : String}

theorem payload_description : (payload c fields).lookup "description" = (c.changes.lookup "description").map blankToNone := by
  unfold payload
  cases c.changes.lookup "description" <;> cases c.changes.lookup "phone_e164" <;> cases c.changes.lookup "custom_fields" <;> rfl

theorem payload_contact : (payload c fields).lookup "contact" =
    (c.changes.lookup "phone_e164").map fun d => .obj [("phone_e164",blankToNone d)] := by
  unfold payload
  cases c.changes.lookup "description" <;> cases c.changes.lookup "phone_e164" <;> cases c.changes.lookup "custom_fields" <;> rfl

theorem payload_custom : (payload c fields).lookup "custom_fields" =
    (c.changes.lookup "custom_fields").map fun _ => .obj (Dict.mapValues blankToNone fields) := by
  unfold payload
  cases c.changes.lookup "description" <;> cases c.changes.lookup "phone_e164" <;> cases c.changes.lookup "custom_fields" <;> rfl

theorem payload_other (other : key ∉ ["id","description","contact","custom_fields"]) : (payload c fields).lookup key = none := by
  refine lookup_none_of_not_mem fun there => other ?_
  have keys : ((payload c fields).map Prod.fst).Sublist ["id","description","contact","custom_fields"] := by
    unfold payload
    cases c.changes.lookup "description" <;> cases c.changes.lookup "phone_e164" <;> cases c.changes.lookup "custom_fields" <;>
      simp
  exact keys.subset there

theorem refuse_failed {α : Type} {reason : Reason} {names : List Doc} {a : α} : refuse c reason names ≠ .ok a := by
  unfold refuse
  split
  · exact fun absurd => by cases absurd
  · split
    · exact fun absurd => by cases absurd
    · split
      · exact fun absurd => by cases absurd
      · exact fun absurd => by cases absurd

theorem editable_exact {type : Payloads.ListingType} : key ∈ editableCustomKeys type ↔ isPublicKey type key := by
  unfold editableCustomKeys isPublicKey
  simp only [List.mem_map,List.mem_filter,List.any_eq_true,Bool.and_eq_true,decide_eq_true_eq]
  exact exists_congr fun f => ⟨fun ⟨⟨there,open_⟩,same⟩ => ⟨there,same,open_⟩,fun ⟨there,same,open_⟩ => ⟨⟨there,open_⟩,same⟩⟩

theorem fresh_owned (there : ¬((fresh s c).isNone ∨ s.owner c.listing ≠ some c.user.pk)) (active : ¬s.suspended c.listing = true) :
    Owned s c := by
  rw [not_or,not_not] at there
  obtain ⟨found,owner⟩ := there
  cases here : fresh s c with
  | none => exact absurd (congrArg Option.isNone here) found
  | some row =>
      have held := (Bool.and_eq_true _ _ ▸ List.find?_some here : _ ∧ _)
      exact ⟨row,List.mem_of_find?_eq_some here,of_decide_eq_true held.1,of_decide_eq_true held.2,owner,Bool.eq_false_iff.mpr active⟩

theorem check_passed (passed : check s c = .ok given) : (∀ key ∈ keysOf c, key ∈ FREE_KEYS) ∧
    (∀ key ∈ named c, isPublicKey c.type key) ∧ Owned s c ∧ ∃ fields, custom c = .obj fields ∧ given = payload c fields := by
  unfold check at passed
  split at passed
  next => exact absurd passed refuse_failed
  next =>
    split at passed
    next => exact absurd passed refuse_failed
    next free =>
      split at passed
      next => cases passed
      next items read =>
        split at passed
        next => exact absurd passed refuse_failed
        next editable =>
          split at passed
          next => exact absurd passed refuse_failed
          next there =>
            split at passed
            next => exact absurd passed refuse_failed
            next active =>
              unfold payloadOf at passed
              split at passed
              next fields dict =>
                have named_ : (named c).map .str = items := by
                  unfold customItems at read
                  unfold named
                  rw [dict] at read ⊢
                  exact (List.map_map ..).trans (Option.some.inj read)
                refine ⟨?_,?_,fresh_owned there active,fields,dict,(Except.ok.inj passed).symm⟩
                · intro key listed
                  exact Decidable.byContradiction fun outside => free (List.any_eq_true.mpr ⟨key,listed,decide_eq_true outside⟩)
                · intro key listed
                  have there : Doc.str key ∈ items := named_ ▸ List.mem_map_of_mem listed
                  by_contra private_
                  refine editable (List.any_eq_true.mpr ⟨_,there,?_⟩)
                  have outside : isEditable c.type (.str key) = false := decide_eq_false fun inside => private_ (editable_exact.mp inside)
                  rw [outside]
                  rfl
              next => cases passed

end payload

section frame

variable {c : Call} {row new : Row} {p rest : Place} {key : String}

def touch (row : Row) (description phone : String) (fields : Fields) : Row :=
  {row with
    texts := fun
      | .description => description
      | .phoneE164 => phone
      | column => row.texts column
    customFields := fields}

structure Touched (c : Call) (row new : Row) : Prop where
  rest : new = touch row (new.texts .description) (new.texts .phoneE164) new.customFields
  description : "description" ∉ keysOf c → new.texts .description = row.texts .description
  phone : "phone_e164" ∉ keysOf c → new.texts .phoneE164 = row.texts .phoneE164
  custom : ∀ key, key ∉ named c → new.customFields.lookup key = row.customFields.lookup key
  unnamed : named c = [] → new.customFields = row.customFields

theorem lane_description (named_ : "description" ∈ keysOf c) : [.key "description"] ∈ lane c := by
  unfold lane
  exact List.mem_append_left _ (List.mem_append_left _ (List.mem_map.mpr ⟨_,List.mem_filter.mpr ⟨named_,rfl⟩,rfl⟩))

theorem lane_phone (named_ : "phone_e164" ∈ keysOf c) : [.key "contact",.key "phone_e164"] ∈ lane c := by
  unfold lane
  exact List.mem_append_left _ (List.mem_append_right _ (List.mem_map.mpr ⟨_,List.mem_filter.mpr ⟨named_,rfl⟩,rfl⟩))

theorem lane_custom (named_ : key ∈ named c) (editable : isPublicKey c.type key) :
    [.key "custom_fields",.key key] ∈ lane c := by
  unfold lane
  exact List.mem_append_right _ (List.mem_map.mpr ⟨_,List.mem_filter.mpr ⟨named_,editable⟩,rfl⟩)

theorem value_alike {fields fields' : List (String × Json)}
    (alike : List.Forall₂ (fun x y => x.1 = y.1 ∧ (x.1 = key → value rest x.2 = value rest y.2)) fields fields') :
    value (.key key :: rest) (.obj fields) = value (.key key :: rest) (.obj fields') :=
  lookup_pairwise (fun name x y => name = key → x.bind (value rest) = y.bind (value rest)) (fun _ _ => rfl) alike key rfl

theorem value_custom (touched : Touched c row new) (editable : ∀ key ∈ named c, isPublicKey c.type key)
    (beside : Beside (lane c) (.key "custom_fields" :: rest)) :
    value rest (.obj (Doc.jsonFields new.customFields)) = value rest (.obj (Doc.jsonFields row.customFields)) := by
  cases rest with
  | nil =>
      have none_ : named c = [] := by
        rw [List.eq_nil_iff_forall_not_mem]
        intro key there
        exact (beside _ (lane_custom there (editable key there))).1 ⟨[.key key],rfl⟩
      rw [touched.unnamed none_]
  | cons step rest =>
      cases step with
      | item n => rfl
      | key name =>
          have outside : name ∉ named c := fun there => (beside _ (lane_custom there (editable name there))).2 ⟨rest,rfl⟩
          show ((Doc.jsonFields new.customFields).lookup name).bind (value rest) =
            ((Doc.jsonFields row.customFields).lookup name).bind (value rest)
          rw [jsonFields_values,jsonFields_values,Dict.lookup_mapValues,Dict.lookup_mapValues,touched.custom name outside]

def contactOf (row : Row) (phone : String) : List (String × Json) :=
  [("phone_e164",blankNull (.str phone)),("email",blankNull (.str (row.texts .email))),
    ("website",blankNull (.str (row.texts .website))),("social",.arr (Doc.jsonItems row.social))]

theorem value_contact (touched : Touched c row new) (beside : Beside (lane c) (.key "contact" :: rest)) :
    value rest (.obj (contactOf row (new.texts .phoneE164))) = value rest (.obj (contactOf row (row.texts .phoneE164))) := by
  cases rest with
  | nil =>
      have outside : "phone_e164" ∉ keysOf c := fun there => (beside _ (lane_phone there)).1 ⟨[.key "phone_e164"],rfl⟩
      rw [touched.phone outside]
  | cons step rest =>
      cases step with
      | item n => rfl
      | key name =>
          refine value_alike (.cons ⟨rfl,?_⟩ (.cons ⟨rfl,fun _ => rfl⟩ (.cons ⟨rfl,fun _ => rfl⟩ (.cons ⟨rfl,fun _ => rfl⟩ .nil))))
          intro here
          subst here
          have outside : "phone_e164" ∉ keysOf c := fun there => (beside _ (lane_phone there)).2 ⟨rest,rfl⟩
          rw [touched.phone outside]

theorem touch_same : touch row (row.texts .description) (row.texts .phoneE164) row.customFields = row :=
  Listing.ext rfl rfl rfl (funext fun column => by cases column <;> rfl) rfl rfl rfl rfl rfl rfl rfl rfl rfl rfl rfl

theorem touched_shown (touched : Touched c row new) (editable : ∀ key ∈ named c, isPublicKey c.type key)
    (beside : Beside (lane c) p) : value p (.obj (project (load new))) = value p (.obj (project (load row))) := by
  cases p with
  | nil =>
      have same : new = row := by
        rw [touched.rest,touched.description fun there => (beside _ (lane_description there)).1 List.nil_prefix,
          touched.phone fun there => (beside _ (lane_phone there)).1 List.nil_prefix,
          touched.unnamed (List.eq_nil_iff_forall_not_mem.mpr fun key there =>
            (beside _ (lane_custom there (editable key there))).1 List.nil_prefix)]
        exact touch_same
      rw [same]
  | cons step rest =>
      cases step with
      | item n => rfl
      | key name =>
          have shown : value (.key name :: rest) (.obj (project (load (touch row (new.texts .description) (new.texts .phoneE164)
              new.customFields)))) = value (.key name :: rest) (.obj (project (load row))) := by
            refine value_alike ?_
            refine .cons ⟨rfl,fun _ => rfl⟩ (.cons ⟨rfl,fun _ => rfl⟩ (.cons ⟨rfl,?_⟩ ?_))
            · intro here
              subst here
              have outside : "description" ∉ keysOf c := fun there => (beside _ (lane_description there)).2 ⟨rest,rfl⟩
              exact congrArg (fun text => value rest (blankNull (.str text))) (touched.description outside)
            refine .cons ⟨rfl,fun _ => rfl⟩ (.cons ⟨rfl,fun _ => rfl⟩ (.cons ⟨rfl,?_⟩ ?_))
            · intro here
              subst here
              exact value_contact touched beside
            refine .cons ⟨rfl,fun _ => rfl⟩ (.cons ⟨rfl,fun _ => rfl⟩ (.cons ⟨rfl,fun _ => rfl⟩ (.cons ⟨rfl,fun _ => rfl⟩ (.cons ⟨rfl,?_⟩ ?_))))
            · intro here
              subst here
              have kept := value_custom touched editable beside
              exact kept
            exact .cons ⟨rfl,fun _ => rfl⟩ .nil
          rw [← touched.rest] at shown
          exact shown

end frame

section edited

variable {env : Environment} {s : Store} {c : Call} {fields : Fields} {row : Row} {applied : Object} {newId : ListingId}

theorem payload_location : objectAt (payload c fields) "location" = [] := by
  unfold objectAt
  rw [payload_other (by decide)]

theorem contact_other {key : String} (other : key ≠ "phone_e164") : (objectAt (payload c fields) "contact").lookup key = none := by
  unfold objectAt
  rw [payload_contact]
  cases c.changes.lookup "phone_e164" with
  | none => rfl
  | some d =>
      refine lookup_none_of_not_mem fun there => other ?_
      exact List.mem_singleton.mp there

theorem valueOf_other {column : Column} (description : column = .description → "description" ∉ keysOf c)
    (phone : column = .phoneE164 → "phone_e164" ∉ keysOf c) : valueOf (payload c fields) column = none := by
  cases column with
  | description =>
      show (payload c fields).lookup "description" = none
      rw [payload_description,lookup_none_of_not_mem (description rfl)]
      rfl
  | phoneE164 =>
      show (objectAt (payload c fields) "contact").lookup "phone_e164" = none
      unfold objectAt
      rw [payload_contact,lookup_none_of_not_mem (phone rfl)]
      rfl
  | slug =>
      show (payload c fields).lookup "slug" = none
      exact payload_other (by decide)
  | name =>
      show (payload c fields).lookup "name" = none
      exact payload_other (by decide)
  | email => exact contact_other (by decide)
  | website => exact contact_other (by decide)
  | geoPrecision => rfl
  | _ =>
      unfold valueOf
      rw [payload_location]
      rfl

theorem kept_text (kept : Kept env row) (column : Column) : column.cell env (.str (row.texts column)) = row.texts column :=
  congrFun (congrArg Listing.texts kept) column

section applied

variable (given : Applied env (request c (payload c fields)) false (load row) applied)
include given

theorem applied_geo : applied.lat = row.lat ∧ applied.lon = row.lon ∧ applied.texts .geoPrecision = .str (row.texts .geoPrecision) := by
  have located := given.geo
  unfold locate request at located
  dsimp only at located
  rw [payload_location] at located
  obtain ⟨lat,lon,precise⟩ := Geo.mk.inj (Except.ok.inj (Except.ok.inj located))
  exact ⟨lat.symm,lon.symm,precise.symm⟩

theorem applied_text {column : Column} (description : column = .description → "description" ∉ keysOf c)
    (phone : column = .phoneE164 → "phone_e164" ∉ keysOf c) : applied.texts column = .str (row.texts column) := by
  by_cases precise : column = .geoPrecision
  · rw [precise]
    exact (applied_geo given).2.2
  · have assigned := given.texts column precise
    unfold assign request at assigned
    dsimp only at assigned
    rw [valueOf_other description phone] at assigned
    exact (Except.ok.inj assigned).symm

theorem applied_social : applied.social = row.social := by
  have set := given.social
  unfold applySocial request at set
  dsimp only at set
  rw [contact_other (by decide)] at set
  exact (Except.ok.inj set).symm

theorem applied_blobs : applied.externalProfiles = row.externalProfiles ∧ applied.attributes = row.attributes := by
  have profiles := given.externalProfiles
  have attributes := given.attributes
  unfold applyBlob request at profiles attributes
  dsimp only at profiles attributes
  rw [payload_other (by decide)] at profiles attributes
  exact ⟨(Except.ok.inj profiles).symm,(Except.ok.inj attributes).symm⟩

theorem applied_reviews : applied.reviewsDisabled = row.reviewsDisabled := by
  have set := given.reviewsDisabled
  unfold request at set
  dsimp only at set
  rw [payload_other (by decide)] at set
  exact set

theorem applied_custom_fields (kept : Kept env row) (dict : custom c = .obj fields) :
    (∀ key, key ∉ named c → (Doc.reloadFields env.shown applied.customFields).lookup key = row.customFields.lookup key) ∧
      (named c = [] → Doc.reloadFields env.shown applied.customFields = row.customFields) := by
  have reloaded : Doc.reloadFields env.shown row.customFields = row.customFields := congrArg Listing.customFields kept
  have keys : named c = fields.map Prod.fst := by
    unfold named
    rw [dict]
  cases there : c.changes.lookup "custom_fields" with
  | none =>
      have set := given.customFields
      unfold applyCustomFields request at set
      dsimp only at set
      rw [payload_custom,there] at set
      have same : applied.customFields = row.customFields := (Except.ok.inj set).symm
      rw [same,reloaded]
      exact ⟨fun _ _ => rfl,fun _ => rfl⟩
  | some d =>
      have listed : (request c (payload c fields)).payload.lookup "custom_fields" = some (.obj (Dict.mapValues blankToNone fields)) := by
        unfold request
        dsimp only
        rw [payload_custom,there]
        rfl
      constructor
      · intro key outside
        rw [keys] at outside
        have unnamed : (Dict.mapValues blankToNone fields).lookup key = none := by
          rw [Dict.lookup_mapValues,lookup_none_of_not_mem outside]
          rfl
        rw [← reloaded,reloadFields_values,reloadFields_values,Dict.lookup_mapValues,Dict.lookup_mapValues,
          merge_keeps listed given.customFields unnamed]
        rfl
      · intro none_
        rw [keys,List.map_eq_nil_iff] at none_
        obtain ⟨cleaned,validated,merged⟩ := (applied_custom listed).mp given.customFields
        have nothing : cleaned = [] := by
          rw [List.eq_nil_iff_forall_not_mem]
          intro change inside
          obtain ⟨f,_,_,raw,found,_⟩ := (mem_cleaned validated change).mp inside
          rw [none_] at found
          cases found
        rw [nothing] at merged
        rw [← merged]
        exact reloaded

theorem edited_touched (kept : Kept env row) (dict : custom c = .obj fields) :
    Touched c row (filed env applied row.categories) := by
  obtain ⟨tenant,publicId,typeId⟩ := applied_ids given
  obtain ⟨lat,lon,_⟩ := applied_geo given
  obtain ⟨profiles,attributes⟩ := applied_blobs given
  obtain ⟨untouched,unnamed⟩ := applied_custom_fields given kept dict
  have cell {column : Column} (description : column = .description → "description" ∉ keysOf c)
      (phone : column = .phoneE164 → "phone_e164" ∉ keysOf c) : (filed env applied row.categories).texts column = row.texts column := by
    show column.cell env (applied.texts column) = row.texts column
    rw [applied_text given description phone,kept_text kept]
  have reviews := applied_reviews given
  have media : applied.media = row.media := congrArg Listing.media given.rest
  have source : applied.source = row.source := congrArg Listing.source given.rest
  have notes : applied.provenanceNotes = row.provenanceNotes := congrArg Listing.provenanceNotes given.rest
  refine ⟨?_,fun outside => cell (fun _ => outside) (fun absurd => by cases absurd),
    fun outside => cell (fun absurd => by cases absurd) fun _ => outside,untouched,unnamed⟩
  refine Listing.ext tenant publicId typeId (funext fun column => ?_) lat lon ?_ ?_ ?_ rfl ?_ rfl reviews source notes
  · cases column with
    | description => rfl
    | phoneE164 => rfl
    | _ => exact cell (fun absurd => by cases absurd) (fun absurd => by cases absurd)
  · exact (congrArg (Doc.reloadItems env.shown) (applied_social given)).trans (congrArg Listing.social kept)
  · exact (congrArg (Doc.reloadFields env.shown) profiles).trans (congrArg Listing.externalProfiles kept)
  · exact (congrArg (Doc.reloadFields env.shown) attributes).trans (congrArg Listing.attributes kept)
  · exact (congrArg (Doc.reloadFields env.shown) media).trans (congrArg Listing.media kept)

end applied

theorem matched_row {found : Option Row} {s : Store} (matched : matchListing env s (request c (payload c fields)) = .ok found)
    (creatable : found = none → checkCreate env (request c (payload c fields)) = .ok ()) :
    ∃ row, found = some row ∧ row ∈ s.rows ∧ row.publicId = c.listing := by
  have id_ : idOf (request c (payload c fields)) = .str c.listing := rfl
  have slugless : (request c (payload c fields)).payload.lookup "slug" = none := payload_other (by decide)
  cases found with
  | none =>
      have created := creatable rfl
      unfold checkCreate at created
      rw [slugless,if_pos (.inl Bool.false_ne_true)] at created
      cases created
  | some row =>
      refine ⟨row,rfl,matchListing_mem matched,?_⟩
      unfold matchListing at matched
      rw [id_] at matched
      split at matched
      · split at matched
        next => cases matched
        next old here =>
          split at matched
          next =>
            cases matched
            have held := (Bool.and_eq_true _ _ ▸ List.find?_some here : _ ∧ _)
            exact of_decide_eq_true held.2
          next => cases matched
      · have unslugged : slugOf env (request c (payload c fields)) = .null := by
          unfold slugOf
          rw [slugless]
          rfl
        rw [unslugged] at matched
        cases matched

theorem find_other {rows : List Row} {new : Row} {listing : ListingId} (apart : listing ≠ new.publicId) :
    (place false new rows).find? (·.publicId = listing) = rows.find? (·.publicId = listing) := by
  show (rows.map fun old => if old.publicId = new.publicId then new else old).find? (·.publicId = listing) = _
  induction rows with
  | nil => rfl
  | cons head rest ih =>
      rw [List.map_cons,List.find?_cons,List.find?_cons,ih]
      by_cases same : head.publicId = new.publicId
      · rw [if_pos same,decide_eq_false (Ne.symm apart),decide_eq_false fun equal => apart (equal.symm.trans same)]
      · rw [if_neg same]

theorem find_own {rows : List Row} (unique : Unique rows) (there : row ∈ rows) :
    rows.find? (·.publicId = row.publicId) = some row := by
  cases found : rows.find? (·.publicId = row.publicId) with
  | none => exact absurd (decide_eq_true rfl) (List.find?_eq_none.mp found row there)
  | some other =>
      have same := List.find?_some found
      exact congrArg some (List.inj_on_of_nodup_map unique.1 (List.mem_of_find?_eq_some found) there (of_decide_eq_true same))

theorem upsert_shown {s s' : Store} {outcome : Outcome} (stored : Stored env s) (dict : custom c = .obj fields)
    (editable : ∀ key ∈ named c, isPublicKey c.type key)
    (done : upsertListing env s (request c (payload c fields)) newId = (s',.ok outcome)) (listing : ListingId) (p : Place)
    (beside : listing = c.listing → Beside (lane c) p) : shows s' listing p = shows s listing p := by
  obtain ⟨_,_,found,written,after,matched,wrote,rows,_,creatable⟩ := accepted_parts done
  obtain ⟨row,rfl,there,own⟩ := matched_row matched creatable
  obtain ⟨applied,categories,given,_,_,chosen,kept,_⟩ := write_exact.mp wrote
  obtain ⟨_,rfl⟩ := keep_exact.mp kept
  have categories_ : categories = row.categories := by
    unfold setCategories request at chosen
    dsimp only at chosen
    rw [payload_other (by decide)] at chosen
    exact (Except.ok.inj chosen).symm.trans (congrArg Listing.categories given.rest)
  have touched : Touched c row (filed env applied categories) := categories_ ▸ edited_touched given (stored row there) dict
  have same : (filed env applied categories).publicId = row.publicId := (applied_ids given).2.1
  have placed : s'.rows = place false (filed env applied categories) s.rows := rows
  unfold shows Store.projection
  rw [placed]
  by_cases here : listing = c.listing
  · have before : s.rows.find? (·.publicId = listing) = some row := by
      rw [here,← own]
      exact find_own s.unique there
    have now : (place false (filed env applied categories) s.rows).find? (·.publicId = listing) = some (filed env applied categories) :=
      find_replaced before (decide_eq_true ((same.trans own).trans here.symm)) same
    rw [before,now]
    exact touched_shown touched editable (beside here)
  · rw [find_other fun equal => here (equal.trans (same.trans own))]

end edited

section law

variable {env : Environment} (between : State env → State env) (s : State env) (c : Call) (newId : ListingId)

-- An owner's edit stays in its lane, whatever the mapping, the listings and what the
-- others commit before the upsert.
theorem owner_edit_in_lane : InLane between s c newId := by
  constructor
  · intro s' outcome accepted
    unfold ownerUpdateListing at accepted
    split at accepted
    next => cases (Prod.mk.inj accepted).2
    next => cases (Prod.mk.inj accepted).2
    next given passed =>
      obtain ⟨free,editable,owned,fields,dict,rfl⟩ := check_passed passed
      refine ⟨owned,free,editable,?_⟩
      cases done : upsertListing env (between s).store (request c (payload c fields)) newId with
      | mk store answer =>
          obtain ⟨rfl,ended⟩ := Prod.mk.inj accepted
          dsimp only
          rw [done] at ended ⊢
          cases answer with
          | error failure => cases ended
          | ok outcome => exact upsert_shown (between s).stored dict editable done
  · intro s' ended refused
    unfold ownerUpdateListing at refused
    unfold current
    split at refused
    next stopped =>
      obtain ⟨rfl,_⟩ := Prod.mk.inj refused
      rw [stopped]
      exact ⟨rfl,rfl,rfl⟩
    next stopped =>
      obtain ⟨rfl,_⟩ := Prod.mk.inj refused
      rw [stopped]
      exact ⟨rfl,rfl,rfl⟩
    next given passed =>
      rw [passed]
      cases done : upsertListing env (between s).store (request c given) newId with
      | mk store answer =>
          obtain ⟨rfl,failed⟩ := Prod.mk.inj refused
          dsimp only
          rw [done] at failed ⊢
          cases answer with
          | error failure => exact ⟨upsert_refused done,rfl,rfl⟩
          | ok outcome => cases failed

end law

section runs

def cafeState : State asRead where
  store := (upsertListing asRead empty
    ⟨1,cafes,[("slug",.str "cafe"),("name",.str "Cafe")],⟨"operator",none⟩,"manual","","",true,false,false⟩ "lst_1").1
  stored := upsert_stored fun _ there => by cases there
  owner listing := if listing = "lst_1" then some 7 else none
  suspended _ := false
  log := []

def described : Call := ⟨1,⟨7,"usr_7"⟩,"lst_1",cafes,[("description",.str " Vegan. ")]⟩

example : (ownerUpdateListing cafeState described id "lst_2").2.toOption = some .updated ∧
    (ownerUpdateListing cafeState {described with user := ⟨8,"usr_8"⟩} id "lst_2").2.toOption = none := by decide +kernel

end runs

end Osds.Directory.OwnerEdit

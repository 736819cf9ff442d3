import Osds.Directory.Patch
import Osds.Directory.Site
import Osds.Lib.Text
import Mathlib.Data.List.AList

namespace Osds.Directory.Imports
open Audit

-- What reading a text takes from the libraries: Unicode's decimal digits and cases,
-- Django's `slugify`, the decimal a text names, rounded to six places, or that it names
-- a NaN, and the coercion of a custom field's text, which never leaves None.
structure Values where
  isDecimal : Char → Bool
  lower : String → String
  upper : String → String
  slugify : String → String
  decimal6 : String → Option Rat
  isNaN : String → Bool
  coerce : FieldDescriptor → String → Except String {value : Json // value ≠ .null}

section normalize

variable (v : Values)

def text (value : String) : Option String :=
  if Text.strip value = "" then none else some (Text.strip value)

def email (value : String) : Option String := (text value).map v.lower

def country (value : String) : Option String := (text value).map v.upper

def slug (value : String) : String := ((text value).map v.slugify).getD ""

def schemeChar (c : Char) : Bool := c.isAlphanum || c = '+' || c = '.' || c = '-'

def website (value : String) : Option String :=
  (text value).map fun value =>
    let chars := value.toList
    let scheme := chars.takeWhile schemeChar
    let after := chars.drop scheme.length
    let host := (after.drop 3).takeWhile (· ≠ '/')
    let rest := (after.drop 3).drop host.length
    if scheme.head?.any Char.isAlpha ∧ after.take 3 = [':','/','/'] ∧ host ≠ [] ∧ '\n' ∉ rest then
      v.lower (String.ofList (scheme ++ [':','/','/'] ++ host)) ++ String.ofList (if rest = ['/'] then [] else rest)
    else value

def phoneError : String := "phone is not a valid E.164 number"

def phoneE164 (value : String) : Except String (Option String) :=
  match text value with
  | none => .ok none
  | some value =>
      let kept := value.toList.filter fun c => v.isDecimal c || c = '+'
      let cleaned := if kept.head? = some '+' then '+' :: kept.dropWhile (· = '+') else kept
      let digits := cleaned.drop 1
      if cleaned.head? = some '+' ∧ 8 ≤ digits.length ∧ digits.length ≤ 15 ∧ digits.all v.isDecimal then
        .ok (some (String.ofList cleaned))
      else .error phoneError

end normalize

-- One row of a file as a payload of `listing.upsert`: the texts its mapped columns
-- hold. A column that is empty or not mapped is left out.
structure Payload where
  id : Option String := none
  slug : Option String := none
  name : Option String := none
  description : Option String := none
  reviewsDisabled : Option String := none
  categories : Option (List String) := none
  location : List (String × String) := []
  contact : List (String × String) := []
  customFields : List (String × String) := []
  deriving DecidableEq, Repr

-- jsonb has no NUL.
def Payload.storable (p : Payload) : Bool :=
  ([p.id,p.slug,p.name,p.description,p.reviewsDisabled].filterMap (fun value => value) ++ p.categories.getD [] ++
    (p.location ++ p.contact ++ p.customFields).map Prod.snd).all fun value => '\x00' ∉ value.toList

def splitTarget (target : String) : Option (String × String) :=
  let head := target.toList.takeWhile (· ≠ '.')
  match target.toList.drop head.length with
  | [] => none
  | _ :: leaf => some (String.ofList head,String.ofList leaf)

def Payload.set (p : Payload) (target value : String) : Payload :=
  if target = "categories" then
    {p with categories := some (((value.splitOn "|").map Text.strip).filter (· ≠ ""))}
  else match splitTarget target with
    | some (head,leaf) =>
        if head = "location" then {p with location := p.location ++ [(leaf,value)]}
        else if head = "contact" then {p with contact := p.contact ++ [(leaf,value)]}
        else if head = "custom_fields" then {p with customFields := p.customFields ++ [(leaf,value)]}
        else p
    | none =>
        if target = "id" then {p with id := some value}
        else if target = "slug" then {p with slug := some value}
        else if target = "name" then {p with name := some value}
        else if target = "description" then {p with description := some value}
        else if target = "reviews_disabled" then {p with reviewsDisabled := some value}
        else p

-- dict(zip(headers, cells)): of two columns with one header the later one counts.
def cellOf (headers cells : List String) (header : String) : String :=
  (((headers.zip cells).reverse.lookup header).map Text.strip).getD ""

def buildPayload (cells headers : List String) (mapping : List (String × String)) : Payload :=
  mapping.foldl (fun p (header,target) =>
    let value := cellOf headers cells header
    if value = "" then p else p.set target value) {}

-- What a listing type fixes while a file is read: its schema, and its categories
-- in the order in which `project` sorts their slugs.
structure TypeSetup where
  fields : List FieldDescriptor
  categories : List String
  ordered : categories.Pairwise (· < ·)

-- The tenants' types, whether a payload's fingerprint is a suppression key, and whether
-- the search vector of a listing with a payload applied is short enough for its column.
structure Setup where
  type : TenantId → String → TypeSetup
  suppressed : TenantId → Payload → Bool
  vectorFits : Projection → Payload → Bool

def asRead : Values where
  isDecimal := Char.isDigit
  lower := fun value => value
  upper := fun value => value
  slugify := fun value => value
  decimal6 := fun _ => none
  isNaN := fun _ => false
  coerce := fun _ value => .ok ⟨.str value,nofun⟩

def plain : Setup := ⟨fun _ _ => ⟨[],[],.nil⟩,fun _ _ => false,fun _ _ => true⟩

inductive BatchStatus where
  | mapping | pending | processing | completed | rolledBack | failed
  deriving DecidableEq, Repr

structure ImportBatch where
  publicId : String
  tenant : TenantId
  typeKey : String
  source : String
  startedBy : Option String
  status : BatchStatus
  hasHeader : Bool
  detectedHeaders : List String
  columnMapping : List (String × String)
  rowCount : Nat
  processedRowCount : Nat
  createdCount : Nat
  updatedCount : Nat
  skippedCount : Nat
  suppressedCount : Nat
  errorCount : Nat
  errors : List Json
  notes : List Json

def ImportBatch.actor (b : ImportBatch) : Actor :=
  match b.startedBy with
  | some operator => ⟨"staff",some operator⟩
  | none => ⟨"system",none⟩

inductive ImportAction where
  | created | updated
  deriving DecidableEq, Repr

structure ImportRow where
  batch : String
  listing : ListingId
  action : ImportAction
  preImage : Option Projection
  nulled : Bool

inductive UpsertOutcome where
  | applied | rejected
  deriving DecidableEq, Repr

structure UpsertLog where
  tenant : TenantId
  idempotencyKey : String
  outcome : Option UpsertOutcome
  replay : Bool
  deriving DecidableEq, Repr

structure Tables where
  listings : AList (fun _ : ListingId => Listing)
  provenance : List ImportRow
  claimed : List ListingId
  leads : List ListingId
  log : List UpsertLog
  outbox : List OutboxEvent

-- What the database, or a column's own check, refuses to store.
inductive DbError where
  | integrityError | dataError | validationError | operationalError
  deriving DecidableEq, Repr

def SameSlot (a b : Listing) : Prop :=
  a.tenant = b.tenant ∧ a.typeKey = b.typeKey ∧ a.projection.slug = b.projection.slug

instance (a b : Listing) : Decidable (SameSlot a b) := inferInstanceAs (Decidable (_ ∧ _ ∧ _))

-- geo_precision is "none" iff both coordinates are null.
def Location.Matched (l : Location) : Prop :=
  l.geoPrecision = "none" ∧ l.lat = none ∧ l.lon = none ∨
    l.geoPrecision ≠ "none" ∧ l.lat.isSome ∧ l.lon.isSome

instance (l : Location) : Decidable (Location.Matched l) := inferInstanceAs (Decidable (_ ∨ _))

def fitsText (width : Nat) (value : Option String) : Prop := ∀ t ∈ value, t.length ≤ width

instance (width : Nat) (value : Option String) : Decidable (fitsText width value) :=
  inferInstanceAs (Decidable (∀ t ∈ value,_))

def fitsDegree (value : Option Rat) : Prop := ∀ q ∈ value, -1000 < q ∧ q < 1000

instance (value : Option Rat) : Decidable (fitsDegree value) := inferInstanceAs (Decidable (∀ q ∈ value,_))

def Fits (p : Projection) : Prop :=
  (∀ column ∈ [(200,some p.slug),(255,some p.name),(255,p.location.addressLine1),(255,p.location.addressLine2),
      (120,p.location.locality),(120,p.location.region),(20,p.location.postalCode),(2,p.location.country),
      (10,some p.location.geoPrecision),(16,p.contact.phoneE164),(254,p.contact.email),(200,p.contact.website),
      (20,some p.source)],fitsText column.1 column.2) ∧
    fitsDegree p.location.lat ∧ fitsDegree p.location.lon

instance (p : Projection) : Decidable (Fits p) := inferInstanceAs (Decidable (_ ∧ _ ∧ _))

def Tables.save (t : Tables) (publicId : ListingId) (l : Listing) : Except DbError Tables :=
  if ¬Fits l.projection then .error .dataError
  else if ¬Location.Matched l.projection.location then .error .integrityError
  else if t.listings.entries.any (fun e => e.1 ≠ publicId ∧ SameSlot e.2 l) then .error .integrityError
  else .ok {t with listings := t.listings.insert publicId l}

def chosen (type : TypeSetup) (slugs : List String) : List String := type.categories.filter (· ∈ slugs)

-- What every write leaves true of a stored listing, and the database does not check.
structure Stored (setup : Setup) (l : Listing) : Prop where
  fits : Fits l.projection
  matched : Location.Matched l.projection.location
  precise : l.projection.location.geoPrecision ≠ ""
  clean : l.projection.Clean
  categories : chosen (setup.type l.tenant l.typeKey) l.projection.categories = l.projection.categories

structure Tables.Valid (setup : Setup) (t : Tables) : Prop where
  stored : ∀ publicId l, t.listings.lookup publicId = some l → Stored setup l
  unique : ∀ a b l m, t.listings.lookup a = some l → t.listings.lookup b = some m → SameSlot l m → a = b
  recorded : ∀ r ∈ t.provenance, r.listing ∈ t.listings
  once : (t.provenance.map (fun r => (r.batch,r.listing))).Nodup
  claimed : ∀ publicId ∈ t.claimed, publicId ∈ t.listings
  leads : ∀ publicId ∈ t.leads, publicId ∈ t.listings

end Osds.Directory.Imports

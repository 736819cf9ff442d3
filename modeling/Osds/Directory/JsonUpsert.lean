import Osds.Directory.Payloads
import Osds.Directory.Imports
import Mathlib.Data.List.Infix

namespace Osds.Directory.Payloads
open Audit

inductive Raised where
  | integrityError | dataError | validationError | badType
  deriving DecidableEq, Repr

inductive Failure where
  | rejectedField (field : String)
  | schema (errors : List String)
  | suppressed (keyHash : String)
  | raised (error : Raised)
  deriving DecidableEq, Repr

def Failure.refusal : Failure → Bool
  | .raised _ => false
  | _ => true

def schemaError (message : String) : Except Failure α := .error (.schema [message])

-- What an upsert takes from the libraries: `str` of a value that is no text, the digits
-- of a large float, the numbers, dates, addresses and links a text names; and the check
-- against the keys of deleted listings, which reads no listing. What `slugify` leaves of
-- a text are letters, digits, dashes and underscores.
structure Environment extends Imports.Values where
  slugified : ∀ s, (slugify s).toList.all isSlugChar = true
  str : Doc → String
  shown : Double → Int
  integer : String → Option Int
  decimal : String → Option String
  isoDate : String → Option String
  isUrl : String → Bool
  isEmail : String → Bool
  checkSuppressed : TenantId → Fields → Except Failure Unit

section normalize
variable (env : Environment)

def Environment.plain : Doc → String
  | .str s => s
  | d => env.str d

def ofOption (value : Option String) : Doc := value.elim .null .str

-- A normaliser that only reads texts lets an empty value of another type through.
def ofText (read : String → Except Failure (Option String)) : Doc → Except Failure Doc
  | .str s => (read s).map ofOption
  | d => if d.truthy then .error (.raised .badType) else .ok d

def text : Doc → Doc
  | .str s => ofOption (Imports.text s)
  | d => d

def email (d : Doc) : Except Failure Doc := ofText (fun s => .ok (Imports.email env.toValues s)) d

def country (d : Doc) : Except Failure Doc := ofText (fun s => .ok (Imports.country env.toValues s)) d

def website (d : Doc) : Except Failure Doc := ofText (fun s => .ok (Imports.website env.toValues s)) d

def phoneE164 (d : Doc) : Except Failure Doc :=
  ofText (fun s => match Imports.phoneE164 env.toValues s with
    | .ok phone => .ok phone
    | .error message => schemaError message) d

def slug (d : Doc) : Doc := if (text d).truthy then .str (env.slugify (env.plain (text d))) else text d

def decimal6 (d : Doc) : Except Failure (Option (Option Rat)) :=
  if d.string = some "" ∨ d.isNull then .ok none
  else match env.decimal6 (env.plain d) with
    | some q => .ok (some (some q))
    | none => if env.isNaN (env.plain d) then .ok (some none) else schemaError "coordinate is not a valid number"

end normalize

inductive Column where
  | slug | name | description | addressLine1 | addressLine2 | locality | region | postalCode | country | geoPrecision
  | phoneE164 | email | website
  deriving DecidableEq, Repr

def Column.all : List Column :=
  [.slug,.name,.description,.addressLine1,.addressLine2,.locality,.region,.postalCode,.country,.geoPrecision,.phoneE164,
    .email,.website]

def Column.width : Column → Option Nat
  | .slug => some 200
  | .name => some 255
  | .description => none
  | .addressLine1 => some 255
  | .addressLine2 => some 255
  | .locality => some 120
  | .region => some 120
  | .postalCode => some 20
  | .country => some 2
  | .geoPrecision => some 10
  | .phoneE164 => some 16
  | .email => some 254
  | .website => some 200

-- A listing whose text attributes are `T`: texts in a row of the table, and any value
-- in an object that was assigned to.
@[ext]
structure Listing (T : Type) where
  tenant : TenantId
  publicId : ListingId
  typeId : Nat
  texts : Column → T
  lat : Option Rat
  lon : Option Rat
  social : List Doc
  externalProfiles : Fields
  attributes : Fields
  customFields : Fields
  media : Fields
  categories : List String
  reviewsDisabled : Bool
  source : String
  provenanceNotes : String

abbrev Row := Listing String
abbrev Object := Listing Doc

def load (row : Row) : Object := {row with texts := fun c => .str (row.texts c)}

-- The type a request names, with the slugs of its categories. `validate_type_schema`
-- lets no key in twice.
structure ListingType where
  id : Nat
  key : String
  fields : List FieldDescriptor
  distinct : (fields.map (·.key)).Nodup
  categories : List String

structure Request where
  tenant : TenantId
  type : ListingType
  payload : Fields
  actor : Actor
  source : String
  origin : String
  traceId : String
  enforceRequired : Bool
  mustCreate : Bool
  suppressionCheck : Bool

def blankNull (d : Doc) : Json := if d.string = some "" then .null else d.json

def project (o : Object) : List (String × Json) :=
  [("slug",(o.texts .slug).json),
    ("name",(o.texts .name).json),
    ("description",blankNull (o.texts .description)),
    ("categories",.arr ((o.categories.insertionSort (· ≤ ·)).map .str)),
    ("location",.obj [("address_line1",blankNull (o.texts .addressLine1)),
      ("address_line2",blankNull (o.texts .addressLine2)),
      ("locality",blankNull (o.texts .locality)),
      ("region",blankNull (o.texts .region)),
      ("postal_code",blankNull (o.texts .postalCode)),
      ("country",blankNull (o.texts .country)),
      ("lat",.ofOption .num o.lat),
      ("lon",.ofOption .num o.lon),
      ("geo_precision",(o.texts .geoPrecision).json)]),
    ("contact",.obj [("phone_e164",blankNull (o.texts .phoneE164)),
      ("email",blankNull (o.texts .email)),
      ("website",blankNull (o.texts .website)),
      ("social",.arr (Doc.jsonItems o.social))]),
    ("external_profiles",(Doc.obj o.externalProfiles).json),
    ("attributes",(Doc.obj o.attributes).json),
    ("media",.obj [("logo",((o.media.lookup "logo").getD .null).json),
      ("cover",((o.media.lookup "cover").getD .null).json),
      ("gallery",((o.media.lookup "gallery").getD (.arr [])).json)]),
    ("reviews_disabled",.bool o.reviewsDisabled),
    ("custom_fields",.obj (Doc.jsonFields o.customFields)),
    ("provenance",.obj [("source",.str o.source),("notes",blankNull (.str o.provenanceNotes))])]

section payload
variable (env : Environment) (r : Request)

def objectAt (payload : Fields) (key : String) : Fields :=
  match payload.lookup key with
  | some (.obj fields) => fields
  | _ => []

-- A text or a list can be asked whether a key is in it, and fails when it is.
def checkObject (keys : List String) (value : Doc) : Except Failure Unit :=
  if ¬value.truthy then .ok ()
  else match value with
    | .obj _ => .ok ()
    | .str s => if keys.any (fun key => key.toList <:+: s.toList) then .error (.raised .badType) else .ok ()
    | .arr items => if items.any (fun item => item.string.any (· ∈ keys)) then .error (.raised .badType) else .ok ()
    | _ => .error (.raised .badType)

def locationKeys : List String :=
  ["address_line1","address_line2","locality","region","postal_code","country","lat","lon","geo_precision"]

def contactKeys : List String := ["phone_e164","email","website","social"]

def valueOf (payload : Fields) : Column → Option Doc
  | .slug => payload.lookup "slug"
  | .name => payload.lookup "name"
  | .description => payload.lookup "description"
  | .addressLine1 => (objectAt payload "location").lookup "address_line1"
  | .addressLine2 => (objectAt payload "location").lookup "address_line2"
  | .locality => (objectAt payload "location").lookup "locality"
  | .region => (objectAt payload "location").lookup "region"
  | .postalCode => (objectAt payload "location").lookup "postal_code"
  | .country => (objectAt payload "location").lookup "country"
  -- set with the coordinates
  | .geoPrecision => none
  | .phoneE164 => (objectAt payload "contact").lookup "phone_e164"
  | .email => (objectAt payload "contact").lookup "email"
  | .website => (objectAt payload "contact").lookup "website"

-- A list or a dict has no hash, so it cannot be looked up among the reserved slugs.
def readSlug (d : Doc) : Except Failure Doc :=
  let raw := env.lower (Text.strip (env.plain (d.orElse (.str ""))))
  let value := slug env d
  if ¬value.isScalar then .error (.raised .badType)
  else if raw.toList ∈ RESERVED_SLUGS ∨ value.string.any (·.toList ∈ RESERVED_SLUGS) then
    schemaError ("'" ++ env.plain d ++ "' is a reserved slug")
  else .ok value

def readName (d : Doc) : Except Failure Doc :=
  if (text d).truthy then .ok (text d) else schemaError "name cannot be empty"

def orBlank (value : Except Failure Doc) : Except Failure Doc := value.map (·.orElse (.str ""))

def read : Column → Doc → Except Failure Doc
  | .slug,d => readSlug env d
  | .name,d => readName d
  | .country,d => orBlank (country env d)
  | .phoneE164,d => orBlank (phoneE164 env d)
  | .email,d => orBlank (email env d)
  | .website,d => orBlank (website env d)
  | _,d => orBlank (.ok (text d))

def assign (o : Object) (c : Column) : Except Failure Doc :=
  match valueOf r.payload c with
  | none => .ok (o.texts c)
  | some d => read env c d

def coordinate (loc : Fields) (key : String) (old : Option Rat) : Except Failure (Option (Option Rat)) :=
  match loc.lookup key with
  | none => .ok (old.map some)
  | some d => decimal6 env d

def precision (loc : Fields) (old : Doc) : Except Failure Doc :=
  let explicit := (loc.lookup "geo_precision").getD .null
  if explicit.string = some "none" then schemaError "geo_precision cannot be 'none' when coordinates are present"
  else if explicit.truthy then .ok explicit
  else .ok (if old.string = some "none" then .str "locality" else old)

structure Geo where
  lat : Option Rat
  lon : Option Rat
  precision : Doc

-- With a NaN the row cannot be saved: that raises when all of the payload is applied.
def applyGeo (loc : Fields) (old : Geo) : Except Failure (Except Failure Geo) := do
  let lat ← coordinate env loc "lat" old.lat
  let lon ← coordinate env loc "lon" old.lon
  match lat,lon with
  | some lat,some lon =>
      let value ← precision loc old.precision
      match lat,lon with
      | some lat,some lon => pure (.ok ⟨some lat,some lon,value⟩)
      | _,_ => pure (.error (.raised .validationError))
  | _,_ => pure (.ok ⟨none,none,.str "none"⟩)

def locate (old : Geo) : Except Failure (Except Failure Geo) :=
  let loc := objectAt r.payload "location"
  if (loc.lookup "lat").isSome ∨ (loc.lookup "lon").isSome ∨ (loc.lookup "geo_precision").isSome then applyGeo env loc old
  else .ok (.ok old)

def applySocial (old : List Doc) : Except Failure (List Doc) :=
  match (objectAt r.payload "contact").lookup "social" with
  | none => .ok old
  | some .null => .ok []
  | some (.arr items) => .ok items
  | some _ => schemaError "contact.social must be a list"

def applyBlob (blob : String) (old : Fields) : Except Failure Fields :=
  match r.payload.lookup blob with
  | none => .ok old
  | some .null => .ok []
  | some (.obj fields) => .ok fields
  | some _ => schemaError (blob ++ " must be an object")

def integer : Doc → Option Int
  | .int n => some n
  | .bool b => some (if b then 1 else 0)
  | .float x => some (x.value.num.tdiv x.value.den)
  | .str s => env.integer (Text.strip s)
  | _ => none

def boolean (raw : Doc) : Option Bool :=
  if [Doc.bool true,.str "true",.str "True",.str "1",.int 1].any raw.same then some true
  else if [Doc.bool false,.str "false",.str "False",.str "0",.int 0].any raw.same then some false
  else none

def orMessage (value : Option Doc) (message : String) : Except String (Option Doc) :=
  match value with
  | some value => .ok (some value)
  | none => .error message

def chosenOptions (f : FieldDescriptor) : Doc → Except String (Option Doc)
  | .arr items =>
      let values := items.map fun item => Text.strip (env.plain item)
      let bad := values.filter (· ∉ f.options.getD [])
      if bad = [] then .ok (some (.arr (values.map .str))) else .error ("not allowed: " ++ ", ".intercalate bad)
  | _ => .error "must be a list"

def coerce (f : FieldDescriptor) (raw : Doc) : Except String (Option Doc) :=
  let value := Text.strip (env.plain raw)
  if f.type = "text" ∨ f.type = "long_text" then .ok (if value = "" then none else some (.str value))
  else if f.type = "integer" then orMessage ((integer env raw).map .int) "must be a whole number"
  else if f.type = "decimal" then orMessage ((env.decimal value).map .str) "must be a number"
  else if f.type = "boolean" then orMessage ((boolean raw).map .bool) "must be true or false"
  else if f.type = "date" then orMessage ((env.isoDate value).map .str) "must be a date (YYYY-MM-DD)"
  else if f.type = "url" then orMessage (if env.isUrl value then some (.str value) else none) "must be a valid URL"
  else if f.type = "email" then
    orMessage (if env.isEmail (env.lower value) then some (.str (env.lower value)) else none) "must be a valid email address"
  else if f.type = "select" then
    orMessage (if value ∈ f.options.getD [] then some (.str value) else none) "is not one of the allowed options"
  else if f.type = "multi_select" then chosenOptions env f raw
  else .error ("unknown field type '" ++ f.type ++ "'")

def cleared : Doc → Bool
  | .null => true
  | .str s => Text.strip s = ""
  | _ => false

def isRequired (f : FieldDescriptor) (demanded : Bool) : List String :=
  if demanded ∧ f.required then ["'" ++ f.label ++ "' is required"] else []

def fieldVerdict (creating : Bool) (values : Fields) (f : FieldDescriptor) : List String × List (String × Option Doc) :=
  match values.lookup f.key with
  | some raw =>
      if cleared raw then (isRequired f r.enforceRequired,[(f.key,none)])
      else match coerce env f raw with
        | .ok value => ([],[(f.key,value)])
        | .error message => (["'" ++ f.label ++ "' " ++ message],[])
  | none => (isRequired f (creating && r.enforceRequired),[])

def unknownField (name : String) : String := "'" ++ name ++ "' is not a field on this listing type"

def validateCustomFields (creating : Bool) (values : Fields) : Except Failure (List (String × Option Doc)) :=
  let unknown := (values.filter fun (key,_) => ¬r.type.fields.any (·.key = key)).map fun (key,_) => unknownField key
  let verdicts := r.type.fields.map (fieldVerdict env r creating values)
  let errors := unknown ++ verdicts.flatMap Prod.fst
  if errors = [] then .ok (verdicts.flatMap Prod.snd) else .error (.schema errors)

-- What is no dict has no `get`, which a schema without fields does not ask for: then
-- each item is an unknown field.
def undictable (d : Doc) : Failure :=
  if r.type.fields.isEmpty then
    match d with
    | .arr items => if items.all (·.isScalar) then .schema (items.map fun item => unknownField (env.plain item)) else .raised .badType
    | .str s => .schema (s.toList.map fun letter => unknownField (String.singleton letter))
    | _ => .raised .badType
  else .raised .badType

def applyCustomFields (creating : Bool) (old : Fields) : Except Failure Fields :=
  match r.payload.lookup "custom_fields" with
  | none => .ok old
  | some (.obj values) => (validateCustomFields env r creating values).map (·.foldl Dict.set old)
  | some d =>
      if d.truthy then .error (undictable env r d)
      else (validateCustomFields env r creating []).map (·.foldl Dict.set old)

def applyPayload (creating : Bool) (o : Object) : Except Failure Object := do
  let name ← assign env r o .name
  let slug ← assign env r o .slug
  let description ← assign env r o .description
  let reviewsDisabled := ((r.payload.lookup "reviews_disabled").map Doc.truthy).getD o.reviewsDisabled
  checkObject locationKeys ((r.payload.lookup "location").getD .null)
  let addressLine1 ← assign env r o .addressLine1
  let addressLine2 ← assign env r o .addressLine2
  let locality ← assign env r o .locality
  let region ← assign env r o .region
  let postalCode ← assign env r o .postalCode
  let country ← assign env r o .country
  let located ← locate env r ⟨o.lat,o.lon,o.texts .geoPrecision⟩
  checkObject contactKeys ((r.payload.lookup "contact").getD .null)
  let phoneE164 ← assign env r o .phoneE164
  let email ← assign env r o .email
  let website ← assign env r o .website
  let social ← applySocial r o.social
  let externalProfiles ← applyBlob r "external_profiles" o.externalProfiles
  let attributes ← applyBlob r "attributes" o.attributes
  let customFields ← applyCustomFields env r creating o.customFields
  let geo ← located
  pure {o with
    texts := fun
      | .slug => slug
      | .name => name
      | .description => description
      | .addressLine1 => addressLine1
      | .addressLine2 => addressLine2
      | .locality => locality
      | .region => region
      | .postalCode => postalCode
      | .country => country
      | .geoPrecision => geo.precision
      | .phoneE164 => phoneE164
      | .email => email
      | .website => website
    lat := geo.lat
    lon := geo.lon
    social := social
    externalProfiles := externalProfiles
    attributes := attributes
    customFields := customFields
    reviewsDisabled := reviewsDisabled}

end payload

section save
variable (env : Environment)

-- A text column stores the `str` of its value; blanks beyond its width are cut off.
def Column.cell (c : Column) (d : Doc) : String :=
  match c.width with
  | none => env.plain d
  | some width => String.ofList ((env.plain d).toList.take width)

def Column.refuses (c : Column) (d : Doc) : Option Raised :=
  if d.isNull then some .integrityError
  else if (c.width.map fun width => ((env.plain d).toList.drop width).all (· = ' ')).getD true then none
  else some .dataError

def Matched (row : Row) : Prop :=
  row.texts .geoPrecision = "none" ∧ row.lat = none ∧ row.lon = none ∨
    row.texts .geoPrecision ≠ "none" ∧ row.lat.isSome ∧ row.lon.isSome

instance (row : Row) : Decidable (Matched row) := inferInstanceAs (Decidable (_ ∨ _))

def rowOf (o : Object) : Row :=
  {o with
    texts := fun c => c.cell env (o.texts c)
    social := Doc.reloadItems env.shown o.social
    externalProfiles := Doc.reloadFields env.shown o.externalProfiles
    attributes := Doc.reloadFields env.shown o.attributes
    customFields := Doc.reloadFields env.shown o.customFields
    media := Doc.reloadFields env.shown o.media}

def saveRow (o : Object) : Except Failure Row :=
  match Column.all.findSome? fun c => c.refuses env (o.texts c) with
  | some error => .error (.raised error)
  | none =>
      if ¬Imports.fitsDegree o.lat ∨ ¬Imports.fitsDegree o.lon then .error (.raised .dataError)
      else if ¬Matched (rowOf env o) then .error (.raised .integrityError)
      else .ok (rowOf env o)

end save

def Unique (rows : List Row) : Prop :=
  (rows.map (·.publicId)).Nodup ∧ (rows.map fun row => (row.tenant,row.typeId,row.texts .slug)).Nodup

instance (rows : List Row) : Decidable (Unique rows) := inferInstanceAs (Decidable (_ ∧ _))

inductive Emitted where
  | created (fields : List (String × Json)) (typeKey : String)
  | updated (changes : List PatchOp) (typeKey : String)

structure Event where
  tenant : TenantId
  subject : ListingId
  actor : Actor
  origin : String
  traceId : String
  data : Emitted

structure Store where
  rows : List Row
  unique : Unique rows
  outbox : List Event

def Store.keep (s : Store) (rows : List Row) : Except Failure Store :=
  if unique : Unique rows then .ok {s with rows := rows,unique := unique} else .error (.raised .integrityError)

def Store.emit (s : Store) (r : Request) (subject : ListingId) (data : Emitted) : Store :=
  {s with outbox := s.outbox ++ [⟨r.tenant,subject,r.actor,r.origin,r.traceId,data⟩]}

def Store.projection (s : Store) (publicId : ListingId) : Option (List (String × Json)) :=
  (s.rows.find? (·.publicId = publicId)).map fun row => project (load row)

inductive Outcome where
  | created | updated | unchanged
  deriving DecidableEq, Repr

section upsert
variable (env : Environment) (s : Store) (r : Request)

-- Every truthy item must be the slug of a category; a text has its letters for items
-- and a dict its keys.
def wantedSlugs (slugs : Doc) : Except Failure (List String) :=
  if ¬slugs.truthy then .ok []
  else match slugs with
    | .str text => .ok (text.toList.map (String.singleton ·))
    | .obj fields => .ok ((fields.map Prod.fst).filter (· ≠ ""))
    | .arr items =>
        match (items.filter (·.truthy)).find? (·.string.isNone) with
        | none => .ok ((items.filter (·.truthy)).filterMap (·.string))
        | some item => if item.isScalar then schemaError ("unknown category: " ++ env.plain item) else .error (.raised .badType)
    | _ => .error (.raised .badType)

def resolveCategories (slugs : Doc) : Except Failure (List String) := do
  let wanted ← wantedSlugs env slugs
  match (wanted.filter (· ∉ r.type.categories)).dedup.insertionSort (· ≤ ·) with
  | [] => pure (r.type.categories.filter (· ∈ wanted))
  | missing => .error (.schema (missing.map ("unknown category: " ++ ·)))

def setCategories (old : List String) : Except Failure (List String) :=
  match r.payload.lookup "categories" with
  | none => .ok old
  | some slugs => resolveCategories env r slugs

-- `Value` has no type for a list or a dict, and `join` takes texts only.
def recomputeSearchVector (o : Object) : Except Failure Unit :=
  if (o.texts .name).isScalar ∧ (o.texts .description).isScalar ∧ (o.texts .locality).string.isSome ∧
      (o.texts .region).string.isSome then .ok ()
  else .error (.raised .badType)

def newListing (newId : ListingId) : Object :=
  {tenant := r.tenant
   publicId := newId
   typeId := r.type.id
   texts := fun c => if c = .geoPrecision then .str "none" else .str ""
   lat := none
   lon := none
   social := []
   externalProfiles := []
   attributes := []
   customFields := []
   media := []
   categories := []
   reviewsDisabled := false
   source := r.source
   provenanceNotes := ""}

def place (creating : Bool) (row : Row) (rows : List Row) : List Row :=
  if creating then rows ++ [row] else rows.map fun old => if old.publicId = row.publicId then row else old

def write (creating : Bool) (o : Object) : Except Failure (Store × Object) := do
  let applied ← applyPayload env r creating o
  let row ← saveRow env applied
  let _ ← s.keep (place creating row s.rows)
  let categories ← setCategories env r applied.categories
  let written ← s.keep (place creating {row with categories := categories} s.rows)
  recomputeSearchVector applied
  pure (written,{applied with categories := categories})

def rejectedKeys : List String := ["tier","status","visibility","media"]

def checkRejected : Except Failure Unit :=
  match rejectedKeys.find? (fun key => (r.payload.lookup key).isSome) with
  | some key => .error (.rejectedField key)
  | none => .ok ()

def idOf : Doc := (r.payload.lookup "id").getD .null

def slugOf : Doc := slug env ((r.payload.lookup "slug").getD .null)

def byId (row : Row) : Bool := row.tenant = r.tenant && row.publicId = env.plain (idOf r)

def bySlug (row : Row) : Bool :=
  row.tenant = r.tenant && row.typeId = r.type.id && row.texts .slug = env.plain (slugOf env r)

def matchListing : Except Failure (Option Row) :=
  if (idOf r).truthy then
    match s.rows.find? (byId env r) with
    | none => schemaError ("no listing with id " ++ env.plain (idOf r))
    | some row => if row.typeId = r.type.id then .ok (some row) else .error (.rejectedField "listing_type")
  else if (slugOf env r).truthy then .ok (s.rows.find? (bySlug env r))
  else .ok none

def checkCreate : Except Failure Unit :=
  if ¬((r.payload.lookup "slug").getD .null).truthy ∨ ¬((r.payload.lookup "name").getD .null).truthy then
    schemaError "slug and name are required to create a listing"
  else if r.suppressionCheck then env.checkSuppressed r.tenant r.payload
  else .ok ()

def create (newId : ListingId) : Except Failure (Store × Outcome) := do
  checkCreate env r
  let (written,after) ← write env s r true (newListing r newId)
  pure (written.emit r newId (.created (project after) r.type.key),.created)

def update (row : Row) : Except Failure (Store × Outcome) := do
  if r.mustCreate then schemaError ("a listing with slug '" ++ row.texts .slug ++ "' already exists")
  else
    let (written,after) ← write env s r false (load row)
    let changes := diff (project (load row)) (project after)
    if changes.isEmpty then pure (written,.unchanged)
    else pure (written.emit r row.publicId (.updated changes r.type.key),.updated)

def applyUpsert (newId : ListingId) : Except Failure (Store × Outcome) := do
  checkRejected r
  match ← matchListing env s r with
  | none => create env s r newId
  | some row => update env s r row

def upsertListing (newId : ListingId) : Store × Except Failure Outcome :=
  if ¬(Doc.obj r.payload).storable then (s,.error (.raised .dataError))
  else match applyUpsert env s r newId with
    | .ok (written,outcome) => (written,.ok outcome)
    | .error failure => (s,.error failure)

end upsert

end Osds.Directory.Payloads

import Osds.Directory.Imports
import Osds.Lib.Fallible

namespace Osds.Directory.Imports
open Audit

inductive UpsertError where
  | schema (errors : List String)
  | rejectedField (field : String)
  | suppressed
  -- anything else: what the database refused
  | raised (error : DbError)
  deriving DecidableEq, Repr

inductive Upserted where
  | created | updated | unchanged
  deriving DecidableEq, Repr

section payload

variable (v : Values)

def schemaError (message : String) : Except UpsertError α := .error (.schema [message])

def applyName (payload : Payload) (p : Projection) : Except UpsertError Projection :=
  match payload.name with
  | none => .ok p
  | some value =>
      match text value with
      | none => schemaError "name cannot be empty"
      | some name => .ok {p with name := name}

def applySlug (payload : Payload) (p : Projection) : Except UpsertError Projection :=
  match payload.slug with
  | none => .ok p
  | some value =>
      let raw := v.lower (Text.strip value)
      if raw.toList ∈ RESERVED_SLUGS ∨ (slug v value).toList ∈ RESERVED_SLUGS then
        schemaError ("'" ++ value ++ "' is a reserved slug")
      else .ok {p with slug := slug v value}

def applyDescription (payload : Payload) (p : Projection) : Projection :=
  {p with
    description := match payload.description with
      | none => p.description
      | some value => text value
    reviewsDisabled := match payload.reviewsDisabled with
      | none => p.reviewsDisabled
      | some value => value ≠ ""}

def placed (read : String → Option String) (loc : List (String × String)) (key : String) (old : Option String) :
    Option String :=
  match loc.lookup key with
  | none => old
  | some value => read value

def applyAddress (loc : List (String × String)) (l : Location) : Location :=
  {l with
    addressLine1 := placed text loc "address_line1" l.addressLine1
    addressLine2 := placed text loc "address_line2" l.addressLine2
    locality := placed text loc "locality" l.locality
    region := placed text loc "region" l.region
    postalCode := placed text loc "postal_code" l.postalCode
    country := placed (country v) loc "country" l.country}

def degree (loc : List (String × String)) (key : String) (old : Option Rat) : Except UpsertError (Option (Option Rat)) :=
  match loc.lookup key with
  | none => .ok (old.map some)
  | some value =>
      if value = "" then .ok none
      else match v.decimal6 value with
        | some q => .ok (some (some q))
        | none => if v.isNaN value then .ok (some none) else schemaError "coordinate is not a valid number"

def precision (loc : List (String × String)) (old : String) : Except UpsertError String :=
  match loc.lookup "geo_precision" with
  | some explicit =>
      if explicit = "none" then schemaError "geo_precision cannot be 'none' when coordinates are present"
      else if explicit ≠ "" then .ok explicit
      else .ok (if old = "none" then "locality" else old)
  | none => .ok (if old = "none" then "locality" else old)

def applyGeo (loc : List (String × String)) (l : Location) : Except UpsertError (Location × Bool) := do
  let lat ← degree v loc "lat" l.lat
  let lon ← degree v loc "lon" l.lon
  if lat.isSome ∧ lon.isSome then
    let geoPrecision ← precision loc l.geoPrecision
    pure ({l with lat := lat.join,lon := lon.join,geoPrecision := geoPrecision},lat.join.isNone || lon.join.isNone)
  else pure ({l with lat := none,lon := none,geoPrecision := "none"},false)

def applyLocation (payload : Payload) (p : Projection) : Except UpsertError (Projection × Bool) := do
  let loc := payload.location
  let addressed := applyAddress v loc p.location
  if (loc.lookup "lat").isSome ∨ (loc.lookup "lon").isSome ∨ (loc.lookup "geo_precision").isSome then
    let (geo,nan) ← applyGeo v loc addressed
    pure ({p with location := geo},nan)
  else pure ({p with location := addressed},false)

def applyPhone (payload : Payload) (c : Contact) : Except UpsertError Contact :=
  match payload.contact.lookup "phone_e164" with
  | none => .ok c
  | some value =>
      match phoneE164 v value with
      | .ok phone => .ok {c with phoneE164 := phone}
      | .error message => schemaError message

def applyContact (payload : Payload) (p : Projection) : Except UpsertError Projection := do
  let phoned ← applyPhone v payload p.contact
  pure {p with contact := {phoned with
    email := placed (email v) payload.contact "email" phoned.email
    website := placed (website v) payload.contact "website" phoned.website}}

def fieldVerdict (creating : Bool) (values : List (String × String)) (f : FieldDescriptor) :
    List String × List (String × Option {value : Json // value ≠ .null}) :=
  match values.lookup f.key with
  | some raw =>
      if Text.strip raw = "" then
        (if f.required then ["'" ++ f.label ++ "' is required"] else [],[(f.key,none)])
      else match v.coerce f raw with
        | .ok value => ([],[(f.key,some value)])
        | .error message => (["'" ++ f.label ++ "' " ++ message],[])
  | none => (if creating ∧ f.required then ["'" ++ f.label ++ "' is required"] else [],[])

def validateCustomFields (fields : List FieldDescriptor) (values : List (String × String)) (creating : Bool) :
    Except UpsertError (List (String × Option {value : Json // value ≠ .null})) :=
  let unknown := (values.filter (fun (key,_) => ¬fields.any (·.key = key))).map
    (fun (key,_) => "'" ++ key ++ "' is not a field on this listing type")
  let verdicts := fields.map (fieldVerdict v creating values)
  let errors := unknown ++ verdicts.flatMap Prod.fst
  if errors = [] then .ok (verdicts.flatMap Prod.snd) else .error (.schema errors)

def setField (current : List (String × Json)) : String × Option {value : Json // value ≠ .null} → List (String × Json)
  | (key,none) => current.filter (·.1 ≠ key)
  | (key,some value) =>
      if current.any (·.1 = key) then current.map (fun field => if field.1 = key then (key,value.val) else field)
      else current ++ [(key,value.val)]

def applyCustomFields (type : TypeSetup) (payload : Payload) (creating : Bool) (p : Projection) :
    Except UpsertError Projection :=
  if payload.customFields = [] then .ok p
  else match validateCustomFields v type.fields payload.customFields creating with
    | .error e => .error e
    | .ok cleaned => .ok {p with customFields := cleaned.foldl setField p.customFields}

def applyPayload (type : TypeSetup) (payload : Payload) (creating : Bool) (p : Projection) :
    Except UpsertError (Projection × Bool) := do
  let named ← applyName payload p
  let slugged ← applySlug v payload named
  let (located,nan) ← applyLocation v payload (applyDescription payload slugged)
  let contacted ← applyContact v payload located
  let applied ← applyCustomFields v type payload creating contacted
  pure (applied,nan)

def missingCategories (type : TypeSetup) (slugs : List String) : List String :=
  (slugs.filter (fun slug => slug ≠ "" ∧ slug ∉ type.categories)).dedup.insertionSort (· ≤ ·)

def applyCategories (type : TypeSetup) (payload : Payload) (p : Projection) : Except UpsertError Projection :=
  match payload.categories with
  | none => .ok p
  | some slugs =>
      match missingCategories type slugs with
      | [] => .ok {p with categories := chosen type (slugs.filter (· ≠ ""))}
      | missing => .error (.schema (missing.map ("unknown category: " ++ ·)))

end payload

def blankMedia : Json := .obj [("logo",.null),("cover",.null),("gallery",.arr [])]

-- A new row with every column's default.
def newListing (tenant : TenantId) (typeKey : String) : Listing :=
  {tenant := tenant
   typeKey := typeKey
   projection :=
     {slug := ""
      name := ""
      description := none
      categories := []
      location := ⟨none,none,none,none,none,none,none,none,"none"⟩
      contact := ⟨none,none,none,[]⟩
      externalProfiles := []
      attributes := []
      media := blankMedia
      reviewsDisabled := false
      customFields := []
      source := "csv_import"
      provenanceNotes := none}
   status := .unclaimed
   visibility := .draft
   currentTier := none
   owner := none}

-- First touch wins: a row that is there keeps its action and its pre-image.
def recordImportRow (t : Tables) (batch : String) (publicId : ListingId) (action : ImportAction)
    (preImage : Option Projection) : Tables :=
  if t.provenance.any (fun r => r.batch = batch ∧ r.listing = publicId) then t
  else {t with provenance := t.provenance ++ [⟨batch,publicId,action,preImage,false⟩]}

section upsert

variable (setup : Setup) (v : Values) (t : Tables) (b : ImportBatch)

def matchListing (payload : Payload) : Except UpsertError (Option (ListingId × Listing)) :=
  match payload.id.filter (· ≠ "") with
  | some publicId =>
      match (t.listings.lookup publicId).filter (fun l => l.tenant = b.tenant) with
      | none => schemaError ("no listing with id " ++ publicId)
      | some l => if l.typeKey = b.typeKey then .ok (some (publicId,l)) else .error (.rejectedField "listing_type")
  | none =>
      let wanted := slug v (payload.slug.getD "")
      if wanted = "" then .ok none
      else .ok ((t.listings.entries.find? (fun e =>
        e.2.tenant = b.tenant ∧ e.2.typeKey = b.typeKey ∧ e.2.projection.slug = wanted)).map (fun e => (e.1,e.2)))

def checkCreate (payload : Payload) : Except UpsertError Unit :=
  if payload.slug.getD "" = "" ∨ payload.name.getD "" = "" then
    schemaError "slug and name are required to create a listing"
  else if (text (payload.name.getD "")).isSome ∧ setup.suppressed b.tenant payload then .error .suppressed
  else .ok ()

def saved : Except DbError α → Except UpsertError α
  | .ok a => .ok a
  | .error e => .error (.raised e)

def emit (subject : ListingId) (payload : Audit.Payload) : Tables :=
  {t with outbox := t.outbox ++ [⟨b.tenant,subject,b.actor,"",payload⟩]}

-- A NaN is refused before any statement.
def saveRow (publicId : ListingId) (l : Listing) (nan creating : Bool) : Except DbError Tables :=
  if nan then .error .validationError
  else if creating ∧ publicId ∈ t.listings then .error .integrityError
  else t.save publicId l

def recomputeSearchVector (before : Projection) (payload : Payload) : Except UpsertError Unit :=
  if setup.vectorFits before payload then .ok () else .error (.raised .operationalError)

def write (publicId : ListingId) (l : Listing) (payload : Payload) (creating : Bool) :
    Except UpsertError (Tables × Projection) := do
  let type := setup.type b.tenant b.typeKey
  let (applied,nan) ← applyPayload v type payload creating l.projection
  let t' ← saved (saveRow t publicId {l with projection := applied} nan creating)
  let after ← applyCategories type payload applied
  recomputeSearchVector setup l.projection payload
  pure ({t' with listings := t'.listings.insert publicId {l with projection := after}},after)

-- `newId` is the public id a new row draws.
def create (payload : Payload) (newId : ListingId) : Except UpsertError (Tables × Upserted) := do
  checkCreate setup b payload
  let (t',after) ← write setup v t b newId (newListing b.tenant b.typeKey) payload true
  pure (emit (recordImportRow t' b.publicId newId .created none) b newId (.listingCreated after b.typeKey),.created)

def update (payload : Payload) (publicId : ListingId) (l : Listing) : Except UpsertError (Tables × Upserted) := do
  let before := l.projection
  let (t',after) ← write setup v t b publicId l payload false
  let changes := diff before.fields after.fields
  if changes.isEmpty then pure (t',.unchanged)
  else pure (emit (recordImportRow t' b.publicId publicId .updated (some before)) b publicId
    (.listingUpdated changes b.typeKey),.updated)

def applyUpsert (payload : Payload) (newId : ListingId) : Except UpsertError (Tables × Upserted) := do
  match ← matchListing v t b payload with
  | none => create setup v t b payload newId
  | some (publicId,l) => update setup v t b payload publicId l

inductive RowEnd where
  | done (outcome : Upserted)
  | replayed
  | failed (error : UpsertError)
  deriving DecidableEq, Repr

def rowKey (n : Nat) : String := "csv:" ++ b.publicId ++ ":row_" ++ toString n

def logged (t : Tables) (tenant : TenantId) (key : String) (outcome : Option UpsertOutcome) (replay : Bool) : Tables :=
  {t with log := t.log ++ [⟨tenant,key,outcome,replay⟩]}

def upsertListing (payload : Payload) (n : Nat) (newId : ListingId) : Tables × RowEnd :=
  let key := rowKey b n
  if t.log.any (fun row => row.tenant = b.tenant ∧ row.idempotencyKey = key ∧ row.outcome = some .applied) then
    (logged t b.tenant key (some .applied) true,.replayed)
  -- the log row comes first, with the payload
  else if ¬payload.storable then (t,.failed (.raised .dataError))
  else match applyUpsert setup v t b payload newId with
    | .ok (t',outcome) => (logged t' b.tenant key (some .applied) false,.done outcome)
    | .error (.raised e) => (logged t b.tenant key none false,.failed (.raised e))
    | .error e => (logged t b.tenant key (some .rejected) false,.failed e)

end upsert

structure Kept (p q : Projection) : Prop where
  social : q.contact.social = p.contact.social
  profiles : q.externalProfiles = p.externalProfiles
  attributes : q.attributes = p.attributes
  media : q.media = p.media
  source : q.source = p.source
  precise : p.location.geoPrecision ≠ "" → q.location.geoPrecision ≠ ""
  clean : p.Clean → q.Clean

theorem Kept.refl (p : Projection) : Kept p p := ⟨rfl,rfl,rfl,rfl,rfl,fun h => h,fun h => h⟩

theorem Kept.trans {p q r : Projection} (first : Kept p q) (second : Kept q r) : Kept p r :=
  ⟨second.social.trans first.social,second.profiles.trans first.profiles,second.attributes.trans first.attributes,
    second.media.trans first.media,second.source.trans first.source,fun h => second.precise (first.precise h),fun h => second.clean (first.clean h)⟩

section payload

variable {v : Values} {payload : Payload} {p q : Projection}

theorem applyName_kept (applied : applyName payload p = .ok q) : Kept p q ∧ q.categories = p.categories := by
  unfold applyName at applied
  split at applied
  · cases applied
    exact ⟨.refl p,rfl⟩
  · split at applied
    · cases applied
    · cases applied
      exact ⟨⟨rfl,rfl,rfl,rfl,rfl,fun h => h,fun h => h⟩,rfl⟩

theorem applySlug_kept (applied : applySlug v payload p = .ok q) : Kept p q ∧ q.categories = p.categories := by
  unfold applySlug at applied
  split at applied
  · cases applied
    exact ⟨.refl p,rfl⟩
  · dsimp only at applied
    split at applied
    · cases applied
    · cases applied
      exact ⟨⟨rfl,rfl,rfl,rfl,rfl,fun h => h,fun h => h⟩,rfl⟩

theorem applyDescription_kept : Kept p (applyDescription payload p) := ⟨rfl,rfl,rfl,rfl,rfl,fun h => h,fun h => h⟩

theorem precision_ne (given : precision loc old = .ok new) (nonempty : old ≠ "") : new ≠ "" := by
  have fallback : (if old = "none" then "locality" else old) ≠ "" := by
    split
    · decide
    · exact nonempty
  unfold precision at given
  split at given
  · split at given
    · cases given
    · split at given
      · next explicit =>
          cases given
          exact explicit
      · cases given
        exact fallback
  · cases given
    exact fallback

theorem applyGeo_precise (applied : applyGeo v loc l = .ok (m,nan)) (nonempty : l.geoPrecision ≠ "") : m.geoPrecision ≠ "" := by
  obtain ⟨lat,_,rest⟩ := Fallible.bind_exact.mp applied
  obtain ⟨lon,_,rest⟩ := Fallible.bind_exact.mp rest
  split at rest
  · obtain ⟨new,given,rest⟩ := Fallible.bind_exact.mp rest
    cases rest
    exact precision_ne given nonempty
  · cases rest
    exact (by decide : "none" ≠ "")

theorem applyLocation_kept (applied : applyLocation v payload p = .ok (q,nan)) : Kept p q ∧ q.categories = p.categories := by
  unfold applyLocation at applied
  dsimp only at applied
  split at applied
  · obtain ⟨⟨geo,_⟩,set_,rest⟩ := Fallible.bind_exact.mp applied
    cases rest
    exact ⟨⟨rfl,rfl,rfl,rfl,rfl,fun nonempty => applyGeo_precise set_ nonempty,fun h => h⟩,rfl⟩
  · cases applied
    exact ⟨⟨rfl,rfl,rfl,rfl,rfl,fun h => h,fun h => h⟩,rfl⟩

theorem applyContact_kept (applied : applyContact v payload p = .ok q) : Kept p q ∧ q.categories = p.categories := by
  obtain ⟨phoned,set_,rest⟩ := Fallible.bind_exact.mp applied
  have social : phoned.social = p.contact.social := by
    unfold applyPhone at set_
    split at set_
    · cases set_
      rfl
    · split at set_ <;> cases set_
      rfl
  cases rest
  exact ⟨⟨social,rfl,rfl,rfl,rfl,fun h => h,fun h => h⟩,rfl⟩

theorem setField_clean {current : List (String × Json)} (clean : ∀ field ∈ current, field.2 ≠ .null)
    (change : String × Option {value : Json // value ≠ .null}) : ∀ field ∈ setField current change, field.2 ≠ .null := by
  obtain ⟨key,value⟩ := change
  intro field present
  cases value with
  | none => exact clean field (List.mem_of_mem_filter present)
  | some value =>
      unfold setField at present
      dsimp only at present
      split at present
      · obtain ⟨old,listed,equal⟩ := List.mem_map.mp present
        split at equal
        · rw [← equal]
          exact value.property
        · rw [← equal]
          exact clean old listed
      · rcases List.mem_append.mp present with listed | new
        · exact clean field listed
        · rw [List.mem_singleton.mp new]
          exact value.property

theorem setFields_clean {current : List (String × Json)} (clean : ∀ field ∈ current, field.2 ≠ .null)
    (changes : List (String × Option {value : Json // value ≠ .null})) :
    ∀ field ∈ changes.foldl setField current, field.2 ≠ .null := by
  induction changes generalizing current with
  | nil => exact clean
  | cons change rest ih => exact ih (setField_clean clean change)

theorem applyCustomFields_kept (applied : applyCustomFields v type payload creating p = .ok q) :
    Kept p q ∧ q.categories = p.categories := by
  unfold applyCustomFields at applied
  split at applied
  · cases applied
    exact ⟨.refl p,rfl⟩
  · split at applied
    · cases applied
    · next cleaned _ =>
        cases applied
        exact ⟨⟨rfl,rfl,rfl,rfl,rfl,fun h => h,fun clean => setFields_clean clean cleaned⟩,rfl⟩

theorem applyPayload_kept (applied : applyPayload v type payload creating p = .ok (q,nan)) :
    Kept p q ∧ q.categories = p.categories := by
  obtain ⟨named,first,rest⟩ := Fallible.bind_exact.mp applied
  obtain ⟨slugged,second,rest⟩ := Fallible.bind_exact.mp rest
  obtain ⟨⟨located,_⟩,third,rest⟩ := Fallible.bind_exact.mp rest
  obtain ⟨contacted,fourth,rest⟩ := Fallible.bind_exact.mp rest
  obtain ⟨_,fifth,rest⟩ := Fallible.bind_exact.mp rest
  cases rest
  have name := applyName_kept first
  have slug := applySlug_kept second
  have location := applyLocation_kept third
  have contact := applyContact_kept fourth
  have fields := applyCustomFields_kept fifth
  refine ⟨?_,?_⟩
  · exact name.1.trans (slug.1.trans (applyDescription_kept.trans (location.1.trans (contact.1.trans fields.1))))
  · rw [fields.2,contact.2,location.2]
    exact slug.2.trans name.2

theorem chosen_chosen (type : TypeSetup) (slugs : List String) : chosen type (chosen type slugs) = chosen type slugs := by
  unfold chosen
  apply List.filter_congr
  intro slug listed
  simp [listed]

theorem applyCategories_kept (applied : applyCategories type payload p = .ok q) : Kept p q ∧
    q = {p with categories := q.categories} ∧
      (chosen type p.categories = p.categories → chosen type q.categories = q.categories) := by
  unfold applyCategories at applied
  split at applied
  · cases applied
    exact ⟨.refl p,rfl,fun h => h⟩
  · split at applied
    · cases applied
      exact ⟨⟨rfl,rfl,rfl,rfl,rfl,fun h => h,fun h => h⟩,rfl,fun _ => chosen_chosen type _⟩
    · cases applied

end payload

theorem mem_entries_exact {listings : AList (fun _ : ListingId => Listing)} {e : (_ : ListingId) × Listing} :
    e ∈ listings.entries ↔ listings.lookup e.1 = some e.2 := by
  exact AList.mem_lookup_iff.symm

theorem Tables.save_exact {t : Tables} : t.save publicId l = .ok t' ↔ Fits l.projection ∧
    Location.Matched l.projection.location ∧
    (∀ other m, t.listings.lookup other = some m → SameSlot m l → other = publicId) ∧
    t' = {t with listings := t.listings.insert publicId l} := by
  unfold Tables.save
  by_cases fits : Fits l.projection
  · by_cases matched : Location.Matched l.projection.location
    · by_cases taken : t.listings.entries.any (fun e => e.1 ≠ publicId ∧ SameSlot e.2 l)
      · rw [if_neg (not_not_intro fits),if_neg (not_not_intro matched),if_pos taken]
        refine iff_of_false nofun ?_
        intro free
        obtain ⟨e,listed,clash⟩ := List.any_eq_true.mp taken
        have both := of_decide_eq_true clash
        exact both.1 (free.2.2.1 e.1 e.2 (mem_entries_exact.mp listed) both.2)
      · rw [if_neg (not_not_intro fits),if_neg (not_not_intro matched),if_neg taken]
        have free : ∀ other m, t.listings.lookup other = some m → SameSlot m l → other = publicId := by
          intro other m stored slot
          by_contra differ
          have listed : (⟨other,m⟩ : (_ : ListingId) × Listing) ∈ t.listings.entries := mem_entries_exact.mpr stored
          exact taken (List.any_eq_true.mpr ⟨_,listed,decide_eq_true ⟨differ,slot⟩⟩)
        constructor
        · intro accepted
          exact ⟨fits,matched,free,(Except.ok.inj accepted).symm⟩
        · intro all
          rw [all.2.2.2]
    · rw [if_neg (not_not_intro fits),if_pos matched]
      exact iff_of_false nofun (fun all => matched all.2.1)
  · rw [if_pos fits]
    exact iff_of_false nofun (fun all => fits all.1)

section upsert

variable {setup : Setup} {v : Values} {t t' : Tables} {b : ImportBatch}

theorem saved_exact {x : Except DbError α} : saved x = .ok a ↔ x = .ok a := by
  cases x with
  | error e => exact iff_of_false nofun nofun
  | ok a' => exact ⟨fun equal => congrArg Except.ok (Except.ok.inj equal),fun equal => congrArg Except.ok (Except.ok.inj equal)⟩

theorem saveRow_exact : saveRow t publicId l nan creating = .ok t' ↔
    nan = false ∧ ¬(creating = true ∧ publicId ∈ t.listings) ∧ t.save publicId l = .ok t' := by
  unfold saveRow
  cases nan with
  | true => exact iff_of_false (fun absurd => by cases absurd) (fun all => by cases all.1)
  | false =>
      rw [if_neg Bool.false_ne_true]
      by_cases there : creating = true ∧ publicId ∈ t.listings
      · rw [if_pos there]
        exact iff_of_false (fun absurd => by cases absurd) (fun all => all.2.1 there)
      · rw [if_neg there]
        exact ⟨fun done => ⟨rfl,there,done⟩,fun all => all.2.2⟩

structure Wrote (setup : Setup) (t : Tables) (b : ImportBatch) (publicId : ListingId) (l : Listing) (creating : Bool)
    (after : Projection) : Prop where
  kept : Kept l.projection after
  fits : Fits after
  matched : Location.Matched after.location
  free : ∀ other m, t.listings.lookup other = some m → SameSlot m {l with projection := after} → other = publicId
  fresh : creating → publicId ∉ t.listings
  categories : chosen (setup.type b.tenant b.typeKey) l.projection.categories = l.projection.categories →
    chosen (setup.type b.tenant b.typeKey) after.categories = after.categories

theorem write_wrote (done : write setup v t b publicId l payload creating = .ok (t',after)) :
    Wrote setup t b publicId l creating after ∧
      t' = {t with listings := t.listings.insert publicId {l with projection := after}} := by
  obtain ⟨⟨applied,nan⟩,first,rest⟩ := Fallible.bind_exact.mp done
  obtain ⟨t₁,second,rest⟩ := Fallible.bind_exact.mp rest
  obtain ⟨final,third,rest⟩ := Fallible.bind_exact.mp rest
  obtain ⟨_,_,rest⟩ := Fallible.bind_exact.mp rest
  cases rest
  have row := saved_exact.mp second
  obtain ⟨_,new,row⟩ := saveRow_exact.mp row
  obtain ⟨fits,matched,free,equal⟩ := Tables.save_exact.mp row
  obtain ⟨payload,categories⟩ := applyPayload_kept first
  obtain ⟨last,only,picked⟩ := applyCategories_kept third
  refine ⟨⟨payload.trans last,?_,?_,?_,?_,?_⟩,?_⟩
  · rw [only]
    exact fits
  · rw [only]
    exact matched
  · rw [only]
    exact free
  · intro creating there
    exact new ⟨creating,there⟩
  · intro before
    rw [categories] at picked
    exact picked before
  · rw [equal]
    dsimp only
    rw [AList.insert_insert]

theorem matchListing_found (matched : matchListing v t b payload = .ok (some (publicId,l))) :
    t.listings.lookup publicId = some l ∧ l.tenant = b.tenant ∧ l.typeKey = b.typeKey := by
  unfold matchListing at matched
  split at matched
  · split at matched
    · cases matched
    · next found =>
        split at matched
        · next type =>
            cases matched
            obtain ⟨stored,tenant⟩ := Option.filter_eq_some_iff.mp found
            exact ⟨stored,of_decide_eq_true tenant,type⟩
        · cases matched
  · dsimp only at matched
    split at matched
    · cases matched
    · obtain ⟨e,found,equal⟩ := Option.map_eq_some_iff.mp (Except.ok.inj matched)
      have listed := mem_entries_exact.mp (List.mem_of_find?_eq_some found)
      have holds := List.find?_some found
      have named := of_decide_eq_true holds
      cases equal
      exact ⟨listed,named.1,named.2.1⟩

-- The tables that only a batch's own writes move.
structure Beside (t t' : Tables) : Prop where
  claimed : t'.claimed = t.claimed
  leads : t'.leads = t.leads

inductive Effect (setup : Setup) (t : Tables) (b : ImportBatch) (t' : Tables) : Prop where
  | quiet (listings : t'.listings = t.listings) (provenance : t'.provenance = t.provenance)
  | created (publicId : ListingId) (after : Projection)
      (wrote : Wrote setup t b publicId (newListing b.tenant b.typeKey) true after)
      (listings : t'.listings = t.listings.insert publicId {newListing b.tenant b.typeKey with projection := after})
      (provenance : t'.provenance = (recordImportRow t b.publicId publicId .created none).provenance)
  | wrote (publicId : ListingId) (l : Listing) (after : Projection)
      (present : t.listings.lookup publicId = some l)
      (tenant : l.tenant = b.tenant)
      (type : l.typeKey = b.typeKey)
      (wrote : Wrote setup t b publicId l false after)
      (listings : t'.listings = t.listings.insert publicId {l with projection := after})
      (provenance : diff l.projection.fields after.fields = [] ∧ t'.provenance = t.provenance ∨
        t'.provenance = (recordImportRow t b.publicId publicId .updated (some l.projection)).provenance)

theorem recordImportRow_provenance (listings : AList (fun _ : ListingId => Listing)) :
    (recordImportRow {t with listings := listings} batch publicId action preImage).provenance =
      (recordImportRow t batch publicId action preImage).provenance := by
  unfold recordImportRow
  dsimp only
  split <;> rfl

theorem recordImportRow_listings : (recordImportRow t batch publicId action preImage).listings = t.listings := by
  unfold recordImportRow
  split <;> rfl

theorem recordImportRow_claimed : (recordImportRow t batch publicId action preImage).claimed = t.claimed := by
  unfold recordImportRow
  split <;> rfl

theorem recordImportRow_leads : (recordImportRow t batch publicId action preImage).leads = t.leads := by
  unfold recordImportRow
  split <;> rfl

theorem recordImportRow_log : (recordImportRow t batch publicId action preImage).log = t.log := by
  unfold recordImportRow
  split <;> rfl

theorem recordImportRow_outbox : (recordImportRow t batch publicId action preImage).outbox = t.outbox := by
  unfold recordImportRow
  split <;> rfl

def Emits (types : List EventType) (t t' : Tables) : Prop :=
  ∃ events, t'.outbox = t.outbox ++ events ∧ ∀ e ∈ events, e.type ∈ types

theorem Emits.none (same : t'.outbox = t.outbox) : Emits types t t' :=
  ⟨[],by rw [same,List.append_nil],List.forall_mem_nil _⟩

theorem Emits.one {e : OutboxEvent} (listed : e.type ∈ types) (added : t'.outbox = t.outbox ++ [e]) : Emits types t t' := by
  refine ⟨[e],added,?_⟩
  intro other present
  rw [List.mem_singleton.mp present]
  exact listed

theorem applyUpsert_emits {outcome : Upserted} (applied : applyUpsert setup v t b payload newId = .ok (t',outcome)) :
    t'.log = t.log ∧ Emits [.listingCreated,.listingUpdated] t t' := by
  obtain ⟨found,matched,rest⟩ := Fallible.bind_exact.mp applied
  cases found with
  | none =>
      obtain ⟨_,_,rest⟩ := Fallible.bind_exact.mp rest
      obtain ⟨⟨t₁,after⟩,written,rest⟩ := Fallible.bind_exact.mp rest
      obtain ⟨_,tables⟩ := write_wrote written
      subst tables
      cases rest
      refine ⟨recordImportRow_log,.one ?_ (congrArg (· ++ _) recordImportRow_outbox)⟩
      exact List.mem_cons_self
  | some match_ =>
      obtain ⟨publicId,l⟩ := match_
      obtain ⟨⟨t₁,after⟩,written,rest⟩ := Fallible.bind_exact.mp rest
      obtain ⟨_,tables⟩ := write_wrote written
      subst tables
      dsimp only at rest
      split at rest
      · cases rest
        exact ⟨rfl,.none rfl⟩
      · cases rest
        refine ⟨recordImportRow_log,.one ?_ (congrArg (· ++ _) recordImportRow_outbox)⟩
        exact List.mem_cons_of_mem _ List.mem_cons_self

theorem applyUpsert_effect {outcome : Upserted} (applied : applyUpsert setup v t b payload newId = .ok (t',outcome)) :
    Effect setup t b t' ∧ Beside t t' := by
  obtain ⟨found,matched,rest⟩ := Fallible.bind_exact.mp applied
  cases found with
  | none =>
      obtain ⟨_,_,rest⟩ := Fallible.bind_exact.mp rest
      obtain ⟨⟨t₁,after⟩,written,rest⟩ := Fallible.bind_exact.mp rest
      obtain ⟨wrote,tables⟩ := write_wrote written
      subst tables
      cases rest
      refine ⟨.created newId after wrote ?_ (recordImportRow_provenance _),?_,?_⟩
      · exact recordImportRow_listings
      · exact recordImportRow_claimed
      · exact recordImportRow_leads
  | some match_ =>
      obtain ⟨publicId,l⟩ := match_
      obtain ⟨present,tenant,type⟩ := matchListing_found matched
      obtain ⟨⟨t₁,after⟩,written,rest⟩ := Fallible.bind_exact.mp rest
      obtain ⟨wrote,tables⟩ := write_wrote written
      subst tables
      dsimp only at rest
      split at rest
      · next none_ =>
          cases rest
          have unchanged : diff l.projection.fields after.fields = [] := List.isEmpty_iff.mp none_
          exact ⟨.wrote publicId l after present tenant type wrote rfl (.inl ⟨unchanged,rfl⟩),rfl,rfl⟩
      · cases rest
        refine ⟨.wrote publicId l after present tenant type wrote ?_ (.inr (recordImportRow_provenance _)),?_,?_⟩
        · exact recordImportRow_listings
        · exact recordImportRow_claimed
        · exact recordImportRow_leads

def Applied (t : Tables) (b : ImportBatch) (n : Nat) : Prop :=
  ∃ row ∈ t.log, row.tenant = b.tenant ∧ row.idempotencyKey = rowKey b n ∧ row.outcome = some .applied

inductive Ends (setup : Setup) (v : Values) (t : Tables) (b : ImportBatch) (payload : Payload) (n : Nat) (newId : ListingId) :
    Tables × RowEnd → Prop where
  | replayed (prior : Applied t b n) :
      Ends setup v t b payload n newId (logged t b.tenant (rowKey b n) (some .applied) true,.replayed)
  | unlogged (fresh : ¬Applied t b n) (nul : payload.storable = false) :
      Ends setup v t b payload n newId (t,.failed (.raised .dataError))
  | done {t' : Tables} {outcome : Upserted} (fresh : ¬Applied t b n) (storable : payload.storable = true)
      (applied : applyUpsert setup v t b payload newId = .ok (t',outcome)) :
      Ends setup v t b payload n newId (logged t' b.tenant (rowKey b n) (some .applied) false,.done outcome)
  | failed {e : UpsertError} {conclusion : Option UpsertOutcome} (fresh : ¬Applied t b n) (storable : payload.storable = true)
      (refused : applyUpsert setup v t b payload newId = .error e)
      (concluded : conclusion = if e matches .raised _ then none else some .rejected) :
      Ends setup v t b payload n newId (logged t b.tenant (rowKey b n) conclusion false,.failed e)

theorem upsertListing_ends (setup : Setup) (v : Values) (t : Tables) (b : ImportBatch) (payload : Payload) (n : Nat)
    (newId : ListingId) : Ends setup v t b payload n newId (upsertListing setup v t b payload n newId) := by
  unfold upsertListing
  dsimp only
  split
  · next prior =>
      obtain ⟨row,listed,same⟩ := List.any_eq_true.mp prior
      exact .replayed ⟨row,listed,of_decide_eq_true same⟩
  · next none_ =>
      have fresh : ¬Applied t b n := by
        intro prior
        obtain ⟨row,listed,same⟩ := prior
        exact none_ (List.any_eq_true.mpr ⟨row,listed,decide_eq_true same⟩)
      split
      · next nul => exact .unlogged fresh (Bool.eq_false_iff.mpr nul)
      · next kept =>
          have storable : payload.storable = true := by
            by_contra nul
            exact kept nul
          split
          · next applied => exact .done fresh storable applied
          · next refused => exact .failed fresh storable refused rfl
          · next e other refused =>
              refine .failed fresh storable refused ?_
              cases e with
              | raised d => exact (other d rfl).elim
              | _ => rfl

theorem upsertListing_effect (setup : Setup) (v : Values) (t : Tables) (b : ImportBatch) (payload : Payload) (n : Nat)
    (newId : ListingId) : Effect setup t b (upsertListing setup v t b payload n newId).1 ∧
      Beside t (upsertListing setup v t b payload n newId).1 := by
  have ends := upsertListing_ends setup v t b payload n newId
  generalize upsertListing setup v t b payload n newId = result at ends ⊢
  cases ends with
  | replayed => exact ⟨.quiet rfl rfl,rfl,rfl⟩
  | unlogged => exact ⟨.quiet rfl rfl,rfl,rfl⟩
  | done _ _ applied =>
      obtain ⟨effect,beside⟩ := applyUpsert_effect applied
      refine ⟨?_,beside.claimed,beside.leads⟩
      cases effect with
      | quiet listings provenance => exact .quiet listings provenance
      | created publicId after wrote listings provenance => exact .created publicId after wrote listings provenance
      | wrote publicId l after present tenant type wrote listings provenance =>
          exact .wrote publicId l after present tenant type wrote listings provenance
  | failed => exact ⟨.quiet rfl rfl,rfl,rfl⟩

-- A call logs one row, one that says applied being a replay if an applied one was there;
-- or none when the log cannot take its payload.
theorem upsertListing_log (setup : Setup) (v : Values) (t : Tables) (b : ImportBatch) (payload : Payload) (n : Nat)
    (newId : ListingId) : (upsertListing setup v t b payload n newId).1.log = t.log ∨ ∃ outcome replay,
      (upsertListing setup v t b payload n newId).1.log = t.log ++ [⟨b.tenant,rowKey b n,outcome,replay⟩] ∧
      (outcome = some .applied → (replay = true ↔ Applied t b n)) := by
  have ends := upsertListing_ends setup v t b payload n newId
  generalize upsertListing setup v t b payload n newId = result at ends ⊢
  cases ends with
  | replayed prior => exact .inr ⟨some .applied,true,rfl,fun _ => iff_of_true rfl prior⟩
  | unlogged => exact .inl rfl
  | done fresh _ applied =>
      refine .inr ⟨some .applied,false,?_,fun _ => iff_of_false Bool.false_ne_true fresh⟩
      unfold logged
      dsimp only
      rw [(applyUpsert_emits applied).1]
  | @failed _ conclusion fresh => exact .inr ⟨conclusion,false,rfl,fun _ => iff_of_false Bool.false_ne_true fresh⟩

theorem upsertListing_emits (setup : Setup) (v : Values) (t : Tables) (b : ImportBatch) (payload : Payload) (n : Nat)
    (newId : ListingId) : Emits [.listingCreated,.listingUpdated] t (upsertListing setup v t b payload n newId).1 := by
  have ends := upsertListing_ends setup v t b payload n newId
  generalize upsertListing setup v t b payload n newId = result at ends ⊢
  cases ends with
  | replayed => exact .none rfl
  | unlogged => exact .none rfl
  | done _ _ applied =>
      obtain ⟨events,added,types⟩ := (applyUpsert_emits applied).2
      exact ⟨events,added,types⟩
  | failed => exact .none rfl

theorem recordImportRow_mem {r : ImportRow} (present : r ∈ (recordImportRow t batch publicId action preImage).provenance) :
    r ∈ t.provenance ∨ r = ⟨batch,publicId,action,preImage,false⟩ := by
  unfold recordImportRow at present
  split at present
  · exact .inl present
  · rcases List.mem_append.mp present with old | new
    · exact .inl old
    · exact .inr (List.mem_singleton.mp new)

theorem recordImportRow_once (once : (t.provenance.map (fun r => (r.batch,r.listing))).Nodup) :
    ((recordImportRow t batch publicId action preImage).provenance.map (fun r => (r.batch,r.listing))).Nodup := by
  unfold recordImportRow
  split
  · exact once
  · next absent =>
      rw [List.map_append,List.nodup_append]
      refine ⟨once,List.nodup_singleton _,?_⟩
      intro a old b new equal
      obtain ⟨r,listed,pair⟩ := List.mem_map.mp old
      rw [List.map_singleton,List.mem_singleton] at new
      have same : (r.batch,r.listing) = (batch,publicId) := pair.trans (equal.trans new)
      exact absent (List.any_eq_true.mpr ⟨r,listed,decide_eq_true ⟨congrArg Prod.fst same,congrArg Prod.snd same⟩⟩)

theorem Wrote.stored (wrote : Wrote setup t b publicId l creating after) (tenant : l.tenant = b.tenant)
    (type : l.typeKey = b.typeKey) (precise : l.projection.location.geoPrecision ≠ "") (clean : l.projection.Clean)
    (categories : chosen (setup.type b.tenant b.typeKey) l.projection.categories = l.projection.categories) :
    Stored setup {l with projection := after} := by
  refine ⟨wrote.fits,wrote.matched,wrote.kept.precise precise,wrote.kept.clean clean,?_⟩
  dsimp only
  rw [tenant,type]
  exact wrote.categories categories

theorem Tables.Valid.put (valid : t.Valid setup) (stored : Stored setup l)
    (free : ∀ other m, t.listings.lookup other = some m → SameSlot m l → other = publicId)
    (listings : t'.listings = t.listings.insert publicId l) (beside : Beside t t')
    (recorded : ∀ r ∈ t'.provenance, r ∈ t.provenance ∨ r.listing = publicId)
    (once : (t'.provenance.map (fun r => (r.batch,r.listing))).Nodup) : t'.Valid setup := by
  have kept : ∀ other, other ∈ t.listings → other ∈ t'.listings := by
    intro other there
    rw [listings]
    exact (AList.mem_insert _).mpr (.inr there)
  have found : ∀ other m, t'.listings.lookup other = some m →
      other = publicId ∧ m = l ∨ other ≠ publicId ∧ t.listings.lookup other = some m := by
    intro other m stored
    rw [listings] at stored
    by_cases equal : other = publicId
    · subst equal
      rw [AList.lookup_insert] at stored
      exact .inl ⟨rfl,(Option.some.inj stored).symm⟩
    · rw [AList.lookup_insert_ne equal] at stored
      exact .inr ⟨equal,stored⟩
  refine ⟨?_,?_,?_,once,?_,?_⟩
  · intro other m there
    rcases found other m there with ⟨_,equal⟩ | ⟨_,old⟩
    · rw [equal]
      exact stored
    · exact valid.stored other m old
  · intro a b m n first second slot
    rcases found a m first with ⟨here,equal⟩ | ⟨differ,old⟩
    · rcases found b n second with ⟨there,_⟩ | ⟨_,old⟩
      · exact here.trans there.symm
      · subst equal
        have back : SameSlot n m := ⟨slot.1.symm,slot.2.1.symm,slot.2.2.symm⟩
        exact here.trans (free b n old back).symm
    · rcases found b n second with ⟨there,equal⟩ | ⟨_,old'⟩
      · subst equal
        exact (free a m old slot).trans there.symm
      · exact valid.unique a b m n old old' slot
  · intro r there
    rcases recorded r there with old | new
    · exact kept _ (valid.recorded r old)
    · rw [new,listings]
      exact (AList.mem_insert _).mpr (.inl rfl)
  · intro other there
    rw [beside.claimed] at there
    exact kept other (valid.claimed other there)
  · intro other there
    rw [beside.leads] at there
    exact kept other (valid.leads other there)

theorem Effect.valid (effect : Effect setup t b t') (beside : Beside t t') (valid : t.Valid setup) : t'.Valid setup := by
  cases effect with
  | quiet listings provenance =>
      refine ⟨?_,?_,?_,?_,?_,?_⟩
      · rw [listings]; exact valid.stored
      · rw [listings]; exact valid.unique
      · rw [listings,provenance]; exact valid.recorded
      · rw [provenance]; exact valid.once
      · rw [listings,beside.claimed]; exact valid.claimed
      · rw [listings,beside.leads]; exact valid.leads
  | created publicId after wrote listings provenance =>
      have stored := wrote.stored rfl rfl (by decide : "none" ≠ "") (List.forall_mem_nil _)
        (List.filter_eq_nil_iff.mpr (fun _ _ => by simp [newListing]))
      refine valid.put stored wrote.free listings beside ?_ ?_
      · intro r there
        rw [provenance] at there
        rcases recordImportRow_mem there with old | new
        · exact .inl old
        · exact .inr (by rw [new])
      · rw [provenance]
        exact recordImportRow_once valid.once
  | wrote publicId l after present tenant type wrote listings provenance =>
      have before := valid.stored publicId l present
      have categories := before.categories
      rw [tenant,type] at categories
      have stored := wrote.stored tenant type before.precise before.clean categories
      refine valid.put stored wrote.free listings beside ?_ ?_
      · intro r there
        rcases provenance with ⟨_,same⟩ | recorded
        · rw [same] at there
          exact .inl there
        · rw [recorded] at there
          rcases recordImportRow_mem there with old | new
          · exact .inl old
          · exact .inr (by rw [new])
      · rcases provenance with ⟨_,same⟩ | recorded
        · rw [same]
          exact valid.once
        · rw [recorded]
          exact recordImportRow_once valid.once

theorem upsertListing_valid (setup : Setup) (v : Values) (b : ImportBatch) (payload : Payload) (n : Nat)
    (newId : ListingId) (valid : t.Valid setup) : (upsertListing setup v t b payload n newId).1.Valid setup := by
  obtain ⟨effect,beside⟩ := upsertListing_effect setup v t b payload n newId
  exact effect.valid beside valid

end upsert

end Osds.Directory.Imports

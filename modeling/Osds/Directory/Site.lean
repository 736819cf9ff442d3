import Osds.Directory.Listings
import Osds.Directory.Slug

namespace Osds.Directory
open Audit

-- ^[a-z][a-z0-9_]*$, where the end may stand before a last line break.
def isFieldKey (text : List Char) : Bool :=
  match if text.getLast? = some '\n' then text.dropLast else text with
  | [] => false
  | first :: rest => first.isLower && rest.all fun c => c.isLower || c.isDigit || c = '_'

structure FieldDescriptor where
  key : String
  keyed : isFieldKey key.toList = true
  label : String
  type : String
  required : Bool
  isPublic : Bool
  searchable : Bool
  options : Option (List String)
  deriving DecidableEq

def FieldDescriptor.json (f : FieldDescriptor) : Json :=
  .obj ([("key",.str f.key),
    ("label",.str f.label),
    ("type",.str f.type),
    ("required",.bool f.required),
    ("public",.bool f.isPublic),
    ("searchable",.bool f.searchable)] ++
    f.options.toList.map fun options => ("options",.arr (options.map .str)))

structure ListingType where
  id : Nat
  key : String
  labelSingular : String
  labelPlural : String
  pathSegment : Slug
  claimable : Bool
  fields : List FieldDescriptor
  deriving DecidableEq

structure Category where
  id : Nat
  typeId : Nat
  slug : Slug
  name : String
  parent : Option Nat
  order : Nat
  deriving DecidableEq

-- What the public site reads of a listing. `normalize.slug` may leave a slug
-- of no characters at all.
structure SiteListing where
  id : Nat
  typeId : Nat
  slug : List Char
  plain : slug.all isSlugChar = true
  visibility : Visibility
  categories : List Nat
  deriving DecidableEq

structure PathRedirect where
  oldPrefix : Path
  newPrefix : Path
  deriving DecidableEq

inductive ReindexScope where
  | listingType (id : Nat)
  | category (id : Nat)

structure ReindexJob where
  scope : ReindexScope
  reason : String

structure Site where
  tenant : TenantId
  publicId : String
  types : List ListingType
  categories : List Category
  listings : List SiteListing
  redirects : List PathRedirect
  reindexJobs : List ReindexJob
  events : List OutboxEvent
  nextId : Nat

def Site.new (tenant : TenantId) (publicId : String) : Site :=
  ⟨tenant,publicId,[],[],[],[],[],[],0⟩

inductive ConfigError where
  | schemaError (errors : List String)
  | valueError (message : String)
  | dataError
  | integrityError
  -- the view found no such row
  | missing

def refuseIf (cond : Bool) (e : ConfigError) : Except ConfigError Unit := if cond then .error e else .ok ()

def orMissing : Option α → Except ConfigError α
  | none => .error .missing
  | some found => .ok found

def RESERVED_SLUGS : List Path :=
  ["search".toList,"admin".toList,"media".toList,"claim".toList,"lead".toList,"owner".toList,
    "_adapters".toList,"_internal".toList,"robots.txt".toList,"sitemap.xml".toList,"sitemaps".toList,
    ".well-known".toList]

def Slug.string (slug : Slug) : String := String.ofList slug.text

def ListingType.value (t : ListingType) : Json :=
  .obj [("key",.str t.key),
    ("label_singular",.str t.labelSingular),
    ("label_plural",.str t.labelPlural),
    ("path_segment",.str t.pathSegment.string),
    ("claimable",.bool t.claimable),
    ("fields",.arr (t.fields.map (·.json)))]

def Site.parentSlug (s : Site) (c : Category) : Option String :=
  c.parent.bind fun parent => (s.categories.find? (·.id = parent)).map (·.slug.string)

def Site.categoryValue (s : Site) (c : Category) : Json :=
  .obj [("name",.str c.name),("parent",.ofOption .str (s.parentSlug c)),("order",.int c.order)]

def Site.emitSettingsChange (s : Site) (operator : String) (change : PatchOp) : Site :=
  let payload := Payload.tenantSettingsChanged [change] operator
  {s with events := s.events ++ [⟨s.tenant,s.publicId,⟨"admin",some operator⟩,"",payload⟩]}

def Site.queueReindex (s : Site) (stale : Bool) (job : ReindexJob) : Site :=
  if stale then {s with reindexJobs := s.reindexJobs ++ [job]} else s

def ListingType.fits (t : ListingType) : Bool :=
  t.key.length ≤ 50 && t.labelSingular.length ≤ 100 && t.labelPlural.length ≤ 100 &&
    t.pathSegment.text.length ≤ 50

def Category.fits (c : Category) : Bool :=
  c.slug.text.length ≤ 100 && c.name.length ≤ 200 && c.order ≤ 2147483647

def PathRedirect.fits (row : PathRedirect) : Bool := row.oldPrefix.length ≤ 64 && row.newPrefix.length ≤ 64

def Site.typeTaken (s : Site) (t : ListingType) : Bool :=
  s.types.any fun other => other.id ≠ t.id && (other.key = t.key || other.pathSegment = t.pathSegment)

def Site.categoryTaken (s : Site) (c : Category) : Bool :=
  s.categories.any fun other => other.id ≠ c.id && other.typeId = c.typeId && other.slug = c.slug

def Site.saveListingType (s : Site) (t : ListingType) : Except ConfigError Site :=
  if !t.fits then .error .dataError
  else if s.typeTaken t then .error .integrityError
  else .ok {s with types := s.types.map fun row => if row.id = t.id then t else row}

def Site.saveCategory (s : Site) (c : Category) : Except ConfigError Site :=
  if !c.fits then .error .dataError
  else if s.categoryTaken c then .error .integrityError
  else .ok {s with categories := s.categories.map fun row => if row.id = c.id then c else row}

def Site.getOrCreateRedirect (s : Site) (row : PathRedirect) : Except ConfigError Site :=
  if s.redirects.any (·.oldPrefix = row.oldPrefix) then .ok s
  else if !row.fits then .error .dataError
  else .ok {s with redirects := s.redirects ++ [row]}

def Site.updateOrCreateRedirect (s : Site) (row : PathRedirect) : Except ConfigError Site :=
  if !row.fits then .error .dataError
  else if s.redirects.any (·.oldPrefix = row.oldPrefix) then
    .ok {s with redirects := s.redirects.map fun old => if old.oldPrefix = row.oldPrefix then row else old}
  else .ok {s with redirects := s.redirects ++ [row]}

def Site.multi (s : Site) : Bool := 1 < s.types.length

-- `schema` is what `validate_type_schema` and `normalize_type_schema` make of
-- the submitted fields: the errors found, or the schema to store.
structure NewListingType where
  key : String
  labelSingular : String
  labelPlural : String
  pathSegment : Slug
  claimable : Bool
  schema : Except (List String) (List FieldDescriptor)

def createListingType (s : Site) (operator : String) (new : NewListingType) : Except ConfigError Site := do
  let fields ← new.schema.mapError ConfigError.schemaError
  let t : ListingType := ⟨s.nextId,new.key,new.labelSingular,new.labelPlural,new.pathSegment,new.claimable,fields⟩
  refuseIf (!t.fits) .dataError
  refuseIf (s.typeTaken t) .integrityError
  let created := {s with types := s.types ++ [t],nextId := s.nextId+1}
  let redirected ← (match s.types with
    | [first] => created.getOrCreateRedirect ⟨[],'/' :: first.pathSegment.text⟩
    | _ => .ok created)
  return redirected.emitSettingsChange operator (.add ("/listing_types/" ++ t.key) t.value)

structure TypeChanges where
  key : Option String
  labelSingular : Option String
  labelPlural : Option String
  pathSegment : Option Slug
  claimable : Option Bool
  schema : Option (Except (List String) (List FieldDescriptor))

def TypeChanges.apply (changes : TypeChanges) (fields : Option (List FieldDescriptor)) (t : ListingType) : ListingType :=
  ⟨t.id,t.key,changes.labelSingular.getD t.labelSingular,changes.labelPlural.getD t.labelPlural,
    changes.pathSegment.getD t.pathSegment,changes.claimable.getD t.claimable,fields.getD t.fields⟩

def updateListingType (s : Site) (operator : String) (typeId : Nat) (changes : TypeChanges) :
    Except ConfigError Site := do
  let old ← orMissing (s.types.find? (·.id = typeId))
  refuseIf changes.key.isSome (.valueError "a listing type's key is frozen after creation")
  let fields ← (match changes.schema with
    | none => .ok none
    | some schema => (schema.map some).mapError ConfigError.schemaError)
  let t := changes.apply fields old
  let saved ← s.saveListingType t
  let marked := saved.queueReindex (fields.any (· ≠ old.fields)) ⟨.listingType t.id,"field schema changed"⟩
  let redirected ← (if changes.pathSegment.isSome ∧ t.pathSegment ≠ old.pathSegment ∧ marked.multi then
      marked.updateOrCreateRedirect ⟨'/' :: old.pathSegment.text,'/' :: t.pathSegment.text⟩
    else .ok marked)
  return redirected.emitSettingsChange operator (.replace ("/listing_types/" ++ t.key) t.value)

-- What Django's collector deletes with `ids`: every child of a row it deletes.
def withChildren (categories : List Category) : Nat → List Nat → List Nat
  | 0,ids => ids
  | n+1,ids => withChildren categories n
      (ids ++ (categories.filter fun c => c.parent.any ids.contains && !ids.contains c.id).map (·.id))

def SiteListing.leave (gone : List Nat) (l : SiteListing) : SiteListing :=
  {l with categories := l.categories.filter fun c => !gone.contains c}

def Site.deleteCategories (s : Site) (ids : List Nat) : Site :=
  let gone := withChildren s.categories s.categories.length ids
  {s with categories := s.categories.filter (fun c => !gone.contains c.id),listings := s.listings.map (·.leave gone)}

def deleteListingType (s : Site) (operator : String) (typeId : Nat) : Except ConfigError Site := do
  let t ← orMissing (s.types.find? (·.id = typeId))
  refuseIf (s.listings.any (·.typeId = t.id))
    (.valueError "this type still has listings; move or delete them first")
  let deleted := {s with types := s.types.filter (·.id ≠ t.id)}
  let cleared := deleted.deleteCategories ((s.categories.filter (·.typeId = t.id)).map (·.id))
  return cleared.emitSettingsChange operator (.remove ("/listing_types/" ++ t.key))

structure NewCategory where
  name : String
  slug : Slug
  parent : Option Nat
  order : Nat

def reservedError (slug : Slug) : ConfigError :=
  .schemaError ["'" ++ slug.string ++ "' is a reserved slug"]

def categoryPointer (t : ListingType) (slug : Slug) : String := "/categories/" ++ t.key ++ "/" ++ slug.string

def createCategory (s : Site) (operator : String) (typeId : Nat) (new : NewCategory) :
    Except ConfigError Site := do
  let t ← orMissing (s.types.find? (·.id = typeId))
  refuseIf (new.slug.text ∈ RESERVED_SLUGS) (reservedError new.slug)
  let c : Category := ⟨s.nextId,t.id,new.slug,new.name,new.parent,new.order⟩
  refuseIf (!c.fits) .dataError
  refuseIf (s.categoryTaken c) .integrityError
  let created := {s with categories := s.categories ++ [c],nextId := s.nextId+1}
  return created.emitSettingsChange operator (.add (categoryPointer t c.slug) (created.categoryValue c))

def categoryUrlPrefix (s : Site) (t : ListingType) : Path :=
  if s.multi then '/' :: t.pathSegment.text else []

structure CategoryChanges where
  name : Option String
  slug : Option Slug
  parent : Option (Option Nat)
  order : Option Nat

def CategoryChanges.apply (changes : CategoryChanges) (c : Category) : Category :=
  ⟨c.id,c.typeId,changes.slug.getD c.slug,changes.name.getD c.name,changes.parent.getD c.parent,
    changes.order.getD c.order⟩

def updateCategory (s : Site) (operator : String) (categoryId : Nat) (changes : CategoryChanges) :
    Except ConfigError Site := do
  let old ← orMissing (s.categories.find? (·.id = categoryId))
  let t ← orMissing (s.types.find? (·.id = old.typeId))
  let c := changes.apply old
  refuseIf (changes.slug.isSome && c.slug.text ∈ RESERVED_SLUGS) (reservedError c.slug)
  let saved ← s.saveCategory c
  let above := categoryUrlPrefix saved t
  let redirected ← (if changes.slug.isSome ∧ c.slug ≠ old.slug then
      saved.updateOrCreateRedirect ⟨above ++ '/' :: old.slug.text,above ++ '/' :: c.slug.text⟩
    else .ok saved)
  let marked := redirected.queueReindex (changes.name.isSome ∧ c.name ≠ old.name) ⟨.category c.id,"renamed"⟩
  return marked.emitSettingsChange operator (.replace (categoryPointer t c.slug) (marked.categoryValue c))

def deleteCategory (s : Site) (operator : String) (categoryId : Nat) : Except ConfigError Site := do
  let c ← orMissing (s.categories.find? (·.id = categoryId))
  let t ← orMissing (s.types.find? (·.id = c.typeId))
  return (s.deleteCategories [c.id]).emitSettingsChange operator (.remove (categoryPointer t c.slug))

def Site.acceptsListings (s : Site) (rows : List SiteListing) : Bool :=
  rows.all (fun l => s.types.any (·.id = l.typeId) && l.categories.all fun c => s.categories.any (·.id = c)) &&
    decide (rows.Pairwise fun one other => ¬(one.typeId = other.typeId ∧ one.slug = other.slug))

end Osds.Directory

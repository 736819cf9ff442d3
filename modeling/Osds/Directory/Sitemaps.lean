import Osds.Directory.Listings
import Osds.Lib.Runs
import Mathlib.Algebra.GroupWithZero.Nat
import Mathlib.Data.List.Sort

namespace Osds.Directory.Sitemaps

def SITEMAP_SHARD_SIZE : Nat := 50000
def MIN_INDEXABLE_LISTINGS : Nat := 3
def REBUILD_MIN_INTERVAL : Time := 300000000
def ITERATOR_CHUNK : Nat := 500

structure TypeRow where
  id : Nat
  pathSegment : String
  updatedAt : Time
  deriving DecidableEq, Repr

structure CategoryRow where
  id : Nat
  typeId : Nat
  slug : String
  order : Nat
  parent : Option Nat
  deriving DecidableEq, Repr

structure ListingRow where
  id : Nat
  publicId : String
  typeId : Nat
  slug : String
  visibility : Visibility
  updatedAt : Time
  categories : List Nat
  deriving DecidableEq, Repr

structure Data where
  listings : List ListingRow
  categories : List CategoryRow
  types : List TypeRow
  nextCategory : Nat

structure View where
  listings : List ListingRow
  categories : List CategoryRow
  types : List TypeRow
  deriving DecidableEq

def published (l : ListingRow) : Bool := l.visibility = .published

def Data.view (d : Data) : View := ⟨d.listings.filter published,d.categories,d.types⟩

-- The verified domain, if there is one; a datetime's text; and the public id that a
-- category's row was given.
structure Tenant where
  domain : Option String
  isoformat : Time → String
  publicId : Nat → String

def absoluteUrl (t : Tenant) (path : String) : String := Directory.absoluteUrl t.domain path

section fingerprint

structure Counts where
  n : Nat
  newest : Option Time
  ids : Option Nat
  deriving DecidableEq

structure Members where
  n : Nat
  pairs : Option Nat
  deriving DecidableEq

def sum (xs : List Nat) : Option Nat := if xs.isEmpty then none else some xs.sum

def counts (v : View) : Counts := ⟨v.listings.length,(v.listings.map (·.updatedAt)).max?,sum (v.listings.map (·.id))⟩

def members (v : View) : Members :=
  let rows := v.listings.flatMap fun l => l.categories.map (l.id * ·)
  ⟨rows.length,sum rows⟩

-- The digest's payload: the digest is taken to tell payloads apart.
structure Fingerprint where
  counts : Counts
  members : Members
  categories : List CategoryRow
  types : List TypeRow
  root : String
  deriving DecidableEq

def fingerprint (t : Tenant) (v : View) : Fingerprint := ⟨counts v,members v,v.categories,v.types,absoluteUrl t "/"⟩

end fingerprint

section render

abbrev Entry := String × Option String

def multi (v : View) : Bool := 1 < v.types.length

def above (multi : Bool) (t : TypeRow) : String := if multi then "/" ++ t.pathSegment else ""

def categoryUrl (multi : Bool) (t : TypeRow) (c : CategoryRow) : String := above multi t ++ "/" ++ c.slug ++ "/"

def listingUrl (multi : Bool) (t : TypeRow) (c : CategoryRow) (l : ListingRow) : String :=
  above multi t ++ "/" ++ c.slug ++ "/" ++ l.slug

def before (c d : CategoryRow) : Prop := c.order < d.order ∨ c.order = d.order ∧ c.slug ≤ d.slug

instance : DecidableRel before := fun _ _ => inferInstanceAs (Decidable (_ ∨ _))

def canonicalCategory (categories : List CategoryRow) (l : ListingRow) : Option CategoryRow :=
  ((categories.filter fun c => c.typeId = l.typeId).insertionSort before).head?

def listingRows (v : View) : List (ListingRow × TypeRow) :=
  (v.listings.insertionSort fun l m => l.publicId ≤ m.publicId).filterMap fun l =>
    (v.types.find? (·.id = l.typeId)).map (l,·)

def prefetch (d : Data) (l : ListingRow) : List CategoryRow :=
  d.categories.filter fun c => d.listings.any fun x => x.id = l.id && x.categories.contains c.id

def listingEntry (t : Tenant) (multi : Bool) (categories : List CategoryRow) (row : ListingRow × TypeRow) : Option Entry :=
  (canonicalCategory categories row.1).map fun c =>
    (absoluteUrl t (listingUrl multi row.2 c row.1),some (t.isoformat row.1.updatedAt))

def home (t : Tenant) : Entry := (absoluteUrl t "/",none)

def listingEntries (t : Tenant) (d : Data) : List Entry :=
  home t :: (listingRows d.view).filterMap fun row => listingEntry t (multi d.view) (prefetch d row.1) row

def categoryOrder (t : Tenant) (c d : CategoryRow) : Prop :=
  c.order < d.order ∨ c.order = d.order ∧ (c.slug < d.slug ∨ c.slug = d.slug ∧ t.publicId c.id ≤ t.publicId d.id)

instance (t : Tenant) : DecidableRel (categoryOrder t) := fun _ _ => inferInstanceAs (Decidable (_ ∨ _))

def publishedIn (v : View) (c : CategoryRow) : Nat :=
  (v.listings.filter fun l => l.categories.contains c.id && l.typeId = c.typeId).length

def categoryIndexable (count : Nat) : Bool := MIN_INDEXABLE_LISTINGS ≤ count

def categoryEntries (t : Tenant) (multi : Bool) (v : View) : List Entry :=
  ((v.categories.insertionSort (categoryOrder t)).filter fun c => categoryIndexable (publishedIn v c)).filterMap fun c =>
    (v.types.find? (·.id = c.typeId)).map fun type => (absoluteUrl t (categoryUrl multi type c),none)

def escape (text : String) : String :=
  String.join (text.toList.map fun c => if c = '&' then "&amp;" else if c = '<' then "&lt;" else if c = '>' then "&gt;" else c.toString)

def lines (rows : List String) : String := "\n".intercalate rows ++ "\n"

def header (tag : String) : List String :=
  ["<?xml version=\"1.0\" encoding=\"UTF-8\"?>","<" ++ tag ++ " xmlns=\"http://www.sitemaps.org/schemas/sitemap/0.9\">"]

def renderSitemapindex (locs : List String) : String :=
  lines (header "sitemapindex" ++ locs.map (fun loc => "  <sitemap><loc>" ++ escape loc ++ "</loc></sitemap>") ++ ["</sitemapindex>"])

def renderUrl : Entry → String
  | (loc,some lastmod) => "  <url><loc>" ++ escape loc ++ "</loc><lastmod>" ++ escape lastmod ++ "</lastmod></url>"
  | (loc,none) => "  <url><loc>" ++ escape loc ++ "</loc></url>"

def renderUrlset (entries : List Entry) : String := lines (header "urlset" ++ entries.map renderUrl ++ ["</urlset>"])

def shardCount (entries : List Entry) : Nat := (entries.length + SITEMAP_SHARD_SIZE - 1) / SITEMAP_SHARD_SIZE

abbrev Files := List (String × String)

def shards (kind : String) (entries : List Entry) : Files :=
  (List.range (shardCount entries)).map fun i =>
    (kind ++ "-" ++ toString (i + 1) ++ ".xml",renderUrlset ((entries.drop (i * SITEMAP_SHARD_SIZE)).take SITEMAP_SHARD_SIZE))

def filesOf (t : Tenant) (listings categories : List Entry) : Files :=
  let children := shards "listings" listings ++ shards "categories" categories
  children ++ [("index.xml",renderSitemapindex (children.map fun file => absoluteUrl t ("/sitemaps/" ++ file.1)))]

def renderAll (t : Tenant) (d : Data) : Files := filesOf t (listingEntries t d) (categoryEntries t (multi d.view) d.view)

end render

section writes

-- What a transaction may do to these rows. A category goes with its descendants, a
-- type with its categories: `deleteCategories` takes all that go.
inductive Write where
  | saveListing (l : ListingRow)
  | setVisibility (id : Nat) (visibility : Visibility) (updatedAt : Time)
  -- a save of other columns and the stamp
  | touch (id : Nat) (updatedAt : Time)
  | deleteListings (ids : List Nat)
  | createCategory (typeId : Nat) (slug : String) (order : Nat) (parent : Option Nat)
  | updateCategory (id : Nat) (slug : String) (order : Nat) (parent : Option Nat)
  | deleteCategories (ids : List Nat)
  | saveType (t : TypeRow)
  | deleteType (id : Nat)

def Data.mapListing (d : Data) (id : Nat) (f : ListingRow → ListingRow) : Data :=
  {d with listings := d.listings.map fun l => if l.id = id then f l else l}

def ListingRow.leave (gone : List Nat) (l : ListingRow) : ListingRow :=
  {l with categories := l.categories.filter fun c => !gone.contains c}

def Data.holds (d : Data) (c : Nat) : Bool := d.categories.any (·.id = c)

-- `none` is what a foreign key or `delete_listing_type` refuses.
def Write.apply (d : Data) : Write → Option Data
  | .saveListing l =>
      if !(l.categories.all d.holds && d.types.any (·.id = l.typeId)) then none
      else if d.listings.any (·.id = l.id) then some (d.mapListing l.id fun _ => l)
      else some {d with listings := d.listings ++ [l]}
  | .setVisibility id visibility updatedAt => some (d.mapListing id fun l => {l with visibility := visibility,updatedAt := updatedAt})
  | .touch id updatedAt => some (d.mapListing id fun l => {l with updatedAt := updatedAt})
  | .deleteListings ids => some {d with listings := d.listings.filter fun l => !ids.contains l.id}
  | .createCategory typeId slug order parent => some {d with
      categories := d.categories ++ [⟨d.nextCategory,typeId,slug,order,parent⟩]
      nextCategory := d.nextCategory + 1}
  | .updateCategory id slug order parent => some {d with
      categories := d.categories.map fun c => if c.id = id then {c with slug := slug,order := order,parent := parent} else c}
  | .deleteCategories ids => some {d with
      categories := d.categories.filter fun c => !ids.contains c.id
      listings := d.listings.map (·.leave ids)}
  | .saveType t => some {d with
      types := if d.types.any (·.id = t.id) then d.types.map fun old => if old.id = t.id then t else old else d.types ++ [t]}
  | .deleteType id =>
      if d.listings.any (·.typeId = id) then none
      else some {d with types := d.types.filter (·.id ≠ id)}

def applyAll (d : Data) (ws : List Write) : Option Data := ws.foldlM Write.apply d

def Write.stamped : Write → List Nat
  | .saveListing l => [l.id]
  | .setVisibility id _ _ => [id]
  | .touch id _ => [id]
  | _ => []

def stamped (ws : List Write) : List Nat := ws.flatMap Write.stamped

end writes

section worker

structure Pointer where
  generation : Int
  fingerprint : Fingerprint
  base : String
  generatedAt : Time
  deriving DecidableEq

structure Generation where
  name : Int
  files : Files
  deriving DecidableEq

inductive Plan where
  | current | debounced | rebuild
  deriving DecidableEq, Repr

def plan (pointer : Option Pointer) (digest : Fingerprint) (now : Time) : Plan :=
  match pointer with
  | none => .rebuild
  | some p =>
      if p.fingerprint = digest then .current
      else if now - p.generatedAt < REBUILD_MIN_INTERVAL then .debounced
      else .rebuild

-- What a `refresh` does next, with what it has read: the fingerprint's four queries,
-- the plan, the rendering's queries, the files, the pointer, the generation before.
inductive Stage where
  | counting
  | membering (counts : Counts)
  | categorizing (counts : Counts) (members : Members)
  | typing (counts : Counts) (members : Members) (categories : List CategoryRow)
  | planning (digest : Fingerprint)
  | rendering (digest : Fingerprint)
  | listing (digest : Fingerprint) (multi : Bool)
  | walking (digest : Fingerprint) (multi : Bool) (rest : List (ListingRow × TypeRow)) (entries : List Entry)
  | recounting (digest : Fingerprint) (entries : List Entry)
  | gathering (digest : Fingerprint) (entries : List Entry) (multi : Bool)
  | saving (digest : Fingerprint) (files : Files)
  | deleting (digest : Fingerprint)
  | pointing (digest : Fingerprint)
  | removing

structure Refresh where
  now : Time
  previous : Option Pointer
  stage : Stage

-- `borne` is for the statements: the stamps that listings have had while published.
structure State where
  data : Data
  generations : List Generation
  pointer : Option Pointer
  refresh : Option Refresh
  tick : Time
  borne : List Time

inductive Action where
  | commit (ws : List Write)
  | tick (now : Time)
  | next
  -- of the worker, with the files of the generation it was writing so far
  | crash (saved : Nat)

def generationOf (now : Time) : Int := now / 1000

-- A file that is there already is not overwritten.
def save (generations : List Generation) (name : Int) (files : Files) : List Generation :=
  if generations.any (·.name = name) then
    generations.map fun g => if g.name = name then
      {g with files := g.files ++ files.filter fun file => !g.files.any (·.1 = file.1)} else g
  else generations ++ [⟨name,files⟩]

def stored (generations : List Generation) (name : Int) : Option Files := (generations.find? (·.name = name)).map (·.files)

def State.at_ (s : State) (r : Refresh) (stage : Stage) : State := {s with refresh := some {r with stage := stage}}

def advance (t : Tenant) (s : State) (r : Refresh) : State :=
  let v := s.data.view
  match r.stage with
  | .counting => s.at_ r (.membering (counts v))
  | .membering c => s.at_ r (.categorizing c (members v))
  | .categorizing c m => s.at_ r (.typing c m v.categories)
  | .typing c m categories => s.at_ r (.planning ⟨c,m,categories,v.types,absoluteUrl t "/"⟩)
  | .planning digest =>
      if plan s.pointer digest r.now = .rebuild then s.at_ {r with previous := s.pointer} (.rendering digest)
      else {s with refresh := none}
  | .rendering digest => s.at_ r (.listing digest (multi v))
  | .listing digest multi => s.at_ r (.walking digest multi (listingRows v) [home t])
  | .walking digest _ [] entries => s.at_ r (.recounting digest entries)
  | .walking digest multi rest entries =>
      let chunk := (rest.take ITERATOR_CHUNK).filterMap fun row => listingEntry t multi (prefetch s.data row.1) row
      s.at_ r (.walking digest multi (rest.drop ITERATOR_CHUNK) (entries ++ chunk))
  | .recounting digest entries => s.at_ r (.gathering digest entries (multi v))
  | .gathering digest entries multi => s.at_ r (.saving digest (filesOf t entries (categoryEntries t multi v)))
  | .saving digest files =>
      {s.at_ r (.deleting digest) with generations := save s.generations (generationOf r.now) files}
  | .deleting digest => {s.at_ r (.pointing digest) with pointer := none}
  | .pointing digest =>
      {s.at_ r .removing with pointer := some ⟨generationOf r.now,digest,absoluteUrl t "/",r.now⟩}
  | .removing =>
      {s with
        refresh := none
        generations := match r.previous with
          | some p => if p.generation = generationOf r.now then s.generations else s.generations.filter (·.name ≠ p.generation)
          | none => s.generations}

def halfSaved (s : State) (saved : Nat) : List Generation :=
  match s.refresh with
  | some ⟨now,_,.saving _ files⟩ => save s.generations (generationOf now) (files.take saved)
  | _ => s.generations

-- One worker runs the ticks, each a millisecond or more after the one before.
def step (t : Tenant) (s : State) : Action → State
  | .commit ws => match applyAll s.data ws with
      | some d => {s with data := d,borne := s.borne ++ d.view.listings.map (·.updatedAt)}
      | none => s
  | .tick now =>
      if s.refresh.isSome || !decide (generationOf s.tick < generationOf now) then s
      else if t.domain.isNone then {s with generations := [],pointer := none,tick := now}
      else {s with refresh := some ⟨now,none,.counting⟩,tick := now}
  | .next => match s.refresh with
      | some r => advance t s r
      | none => s
  | .crash saved => {s with refresh := none,generations := halfSaved s saved}

def start (now : Time) : State := ⟨⟨[],[],[],0⟩,[],none,none,now,[]⟩

end worker

end Osds.Directory.Sitemaps

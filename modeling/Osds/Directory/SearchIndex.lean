import Osds.Directory.Site
import Osds.Lib.Runs
import Mathlib.Data.List.Sort

namespace Osds.Directory.SearchIndex

def REINDEX_CHUNK : Nat := 200
def ITERATOR_CHUNK : Nat := 200

structure Row where
  id : Nat
  typeId : Nat
  name : String
  description : String
  locality : String
  region : String
  customFields : List (String × Json)
  categories : List Nat

def jsonbOrder (a b : String × Json) : Prop :=
  a.1.utf8ByteSize < b.1.utf8ByteSize ∨ a.1.utf8ByteSize = b.1.utf8ByteSize ∧ a.1 ≤ b.1

instance : DecidableRel jsonbOrder := fun _ _ => inferInstanceAs (Decidable (_ ∨ _))

-- The row as it is read back: a jsonb column has its keys by length, then by their bytes.
def Row.stored (r : Row) : Row := {r with customFields := r.customFields.insertionSort jsonbOrder}

structure Texts where
  name : String
  categories : String
  description : String
  rest : String
  deriving DecidableEq, Repr

-- Python's text of a JSON value, and the vector that Postgres makes of the texts under
-- the tenant's configuration.
structure Engine (V : Type) where
  str : Json → String
  vector : Texts → V

section texts

def searchableTypes : List String := ["text","long_text","select"]

def isBlank : Json → Bool
  | .null => true
  | .str text => text = ""
  | _ => false

def descriptor (fields : List FieldDescriptor) (key : String) : Option FieldDescriptor := fields.reverse.find? (·.key = key)

def searches (fields : List FieldDescriptor) (key : String) : Bool :=
  (descriptor fields key).any fun f => f.searchable && searchableTypes.contains f.type

def Row.searched (r : Row) (fields : List FieldDescriptor) : List (String × Json) :=
  r.customFields.filter fun field => searches fields field.1 && !isBlank field.2

def searchableCustomText (str : Json → String) (fields : List FieldDescriptor) (r : Row) : String :=
  " ".intercalate ((r.searched fields).map fun field => str field.2)

def categoryOrder (c d : Nat × String) : Prop := c.1 < d.1 ∨ c.1 = d.1 ∧ c.2 ≤ d.2

instance : DecidableRel categoryOrder := fun _ _ => inferInstanceAs (Decidable (_ ∨ _))

def namesOf (categories : List Category) : List String :=
  ((categories.map fun c => (c.order,c.name)).insertionSort categoryOrder).map (·.2)

def texts (str : Json → String) (fields : List FieldDescriptor) (categories : List String) (r : Row) : Texts where
  name := r.name
  categories := " ".intercalate categories
  description := r.description
  rest := " ".intercalate ([searchableCustomText str fields r,r.locality,r.region].filter (· ≠ ""))

end texts

structure Tables where
  rows : List Row
  categories : List Category
  types : List ListingType

namespace Tables

def fieldsOf (t : Tables) (typeId : Nat) : List FieldDescriptor := ((t.types.find? (·.id = typeId)).map (·.fields)).getD []

def categoriesOf (t : Tables) (ids : List Nat) : List Category := t.categories.filter fun c => ids.contains c.id

def prefetched (t : Tables) (id : Nat) : List Category := t.categoriesOf ((t.rows.filter (·.id = id)).flatMap (·.categories))

end Tables

-- What one call of `recompute_search_vector` has read. `loaded` and `named` are the tables
-- when the schema and when the categories were read, for the statements.
structure Reading where
  row : Row
  fields : List FieldDescriptor
  categories : List String
  loaded : Tables
  named : Tables

def Reading.texts (str : Json → String) (r : Reading) : Texts := SearchIndex.texts str r.fields r.categories r.row

structure Indexed (V : Type) where
  row : Row
  vector : V

-- `passed` is the highest the cursor has been, for the statements.
structure Marker where
  pk : Nat
  scope : ReindexScope
  cursor : Nat
  done : Bool
  passed : Nat

def inScope : ReindexScope → Row → Bool
  | .listingType id,r => r.typeId = id
  | .category id,r => r.categories.contains id

-- A transaction on listings, an upsert or a rollback: the type that the caller loaded for
-- a new listing, the rows written and what their vectors are made of.
structure Writing where
  type : Option ListingType
  loaded : Tables
  rows : List Reading
  gone : List Nat

inductive Stage where
  | collecting
  | reading (ids : List Nat)
  | walking (ids : List Nat) (loaded : Tables) (rest : List (Row × List FieldDescriptor)) (ready : List Reading)

structure Drain where
  marker : Nat
  scope : ReindexScope
  cursor : Nat
  limit : Nat
  stage : Stage

-- `category` and `type` are edits of a row loaded before.
inductive Job where
  | writing (w : Writing)
  | category (copy : Category) (changes : CategoryChanges)
  | type (copy : ListingType) (changes : TypeChanges)
  | drain (d : Drain)

structure State (V : Type) where
  listings : List (Indexed V)
  categories : List Category
  types : List ListingType
  markers : List Marker
  jobs : List (Nat × Job)
  nextListing : Nat
  nextCategory : Nat
  nextType : Nat
  nextJob : Nat

inductive Action where
  | createType (t : ListingType)
  | createCategory (c : Category)
  -- the category and its descendants
  | deleteCategories (ids : List Nat)
  | editCategory (id : Nat) (changes : CategoryChanges)
  | editType (id : Nat) (changes : TypeChanges)
  | beginWrite (typeId : Nat)
  | create (p : Nat) (r : Row)
  | rewrite (p : Nat) (r : Row)
  | remove (p : Nat) (id : Nat)
  | drain (limit : Nat)
  | next (p : Nat)
  | commit (p : Nat)
  | abort (p : Nat)

def Writing.put (w : Writing) (r : Reading) : Writing := {w with rows := w.rows.filter (·.row.id ≠ r.row.id) ++ [r]}

def Job.holds (id : Nat) : Job → Bool
  | .writing w => w.rows.any (·.row.id = id) || w.gone.contains id
  | _ => false

namespace State
variable {V : Type}

def tables (s : State V) : Tables := ⟨s.listings.map (·.row),s.categories,s.types⟩

def fieldsOf (s : State V) (typeId : Nat) : List FieldDescriptor := s.tables.fieldsOf typeId

def categoriesOf (s : State V) (ids : List Nat) : List Category := s.tables.categoriesOf ids

def textsOf (e : Engine V) (s : State V) (r : Row) : Texts :=
  texts e.str (s.fieldsOf r.typeId) (namesOf (s.categoriesOf r.categories)) r

def job (s : State V) (p : Nat) : Option Job := (s.jobs.find? (·.1 = p)).map (·.2)

def begin (s : State V) (j : Job) : State V := {s with jobs := s.jobs ++ [(s.nextJob,j)],nextJob := s.nextJob + 1}

def set (s : State V) (p : Nat) (j : Job) : State V := {s with jobs := s.jobs.map fun old => if old.1 = p then (p,j) else old}

def close (s : State V) (p : Nat) : State V := {s with jobs := s.jobs.filter (·.1 ≠ p)}

def locked (s : State V) (p id : Nat) : Bool := s.jobs.any fun j => j.1 ≠ p && j.2.holds id

def sound (s : State V) (r : Row) : Bool :=
  r.categories.all (fun c => s.categories.any (·.id = c)) && s.types.any (·.id = r.typeId)

def mark (s : State V) (scope : ReindexScope) : State V := {s with markers := s.markers ++ [⟨s.markers.length,scope,0,false,0⟩]}

def commitWriting (e : Engine V) (s : State V) (w : Writing) : State V :=
  if w.rows.all (s.sound ·.row) then
    {s with listings := (s.listings.filter fun l => !w.gone.contains l.row.id && !w.rows.any (·.row.id = l.row.id)) ++
      w.rows.map fun r => ⟨r.row.stored,e.vector (r.texts e.str)⟩}
  else s

def renames (copy : Category) (changes : CategoryChanges) : Bool := changes.name.isSome && (changes.apply copy).name ≠ copy.name

def saveCategory (s : State V) (copy : Category) (changes : CategoryChanges) : State V :=
  let c := changes.apply copy
  let saved := {s with
    categories := if s.categories.any (·.id = c.id) then s.categories.map fun old => if old.id = c.id then c else old
      else s.categories ++ [c]}
  if renames copy changes then saved.mark (.category c.id) else saved

def newFields (changes : TypeChanges) : Option (List FieldDescriptor) := changes.schema.bind (·.toOption)

def remakes (copy : ListingType) (changes : TypeChanges) : Bool := (newFields changes).any (· ≠ copy.fields)

def saveType (s : State V) (copy : ListingType) (changes : TypeChanges) : State V :=
  let t := changes.apply (newFields changes) copy
  let saved := {s with types := s.types.map fun old => if old.id = t.id then t else old}
  if remakes copy changes then saved.mark (.listingType t.id) else saved

def refused (changes : TypeChanges) : Bool := changes.schema.any fun schema => schema.toOption.isNone

def collect (s : State V) (d : Drain) : List Nat :=
  (((s.listings.filter fun l => inScope d.scope l.row && d.cursor < l.row.id).map (·.row.id)).insertionSort (· ≤ ·)).take d.limit

def read (s : State V) (ids : List Nat) : List (Row × List FieldDescriptor) :=
  (s.listings.filter fun l => ids.contains l.row.id).map fun l => (l.row,s.fieldsOf l.row.typeId)

def prefetch (s : State V) (loaded : Tables) (chunk : List (Row × List FieldDescriptor)) : List Reading :=
  chunk.map fun row => ⟨row.1,row.2,namesOf (s.tables.prefetched row.1.id),loaded,s.tables⟩

def update (e : Engine V) (s : State V) (r : Reading) : State V :=
  {s with listings := s.listings.map fun l => if l.row.id = r.row.id then {l with vector := e.vector (r.texts e.str)} else l}

def lastOf (d : Drain) (ids : List Nat) : Nat := ids.getLast?.getD d.cursor

def finish (s : State V) (d : Drain) (ids : List Nat) : State V :=
  {s with markers := s.markers.map fun m => if m.pk = d.marker && !m.done then
    {m with cursor := lastOf d ids,done := decide (ids.length < d.limit),passed := max m.passed (lastOf d ids)} else m}

def advance (e : Engine V) (s : State V) (p : Nat) (d : Drain) : State V :=
  match d.stage with
  | .collecting => s.set p (.drain {d with stage := .reading (s.collect d)})
  | .reading ids => s.set p (.drain {d with stage := .walking ids s.tables (s.read ids) []})
  | .walking ids loaded rest (r :: ready) =>
      if s.locked p r.row.id then s else (update e s r).set p (.drain {d with stage := .walking ids loaded rest ready})
  | .walking ids _ [] [] => (s.finish d ids).close p
  | .walking ids loaded (row :: rest) [] =>
      let ready := s.prefetch loaded ((row :: rest).take ITERATOR_CHUNK)
      s.set p (.drain {d with stage := .walking ids loaded ((row :: rest).drop ITERATOR_CHUNK) ready})

def step (e : Engine V) (s : State V) : Action → State V
  | .createType t => {s with types := s.types ++ [{t with id := s.nextType}],nextType := s.nextType + 1}
  | .createCategory c => {s with categories := s.categories ++ [{c with id := s.nextCategory}],nextCategory := s.nextCategory + 1}
  | .deleteCategories ids => {s with
      categories := s.categories.filter fun c => !ids.contains c.id
      listings := s.listings.map fun l => {l with row := {l.row with categories := l.row.categories.filter fun c => !ids.contains c}}}
  | .editCategory id changes => match s.categories.find? (·.id = id) with
      | some copy => s.begin (.category copy changes)
      | none => s
  | .editType id changes => match s.types.find? (·.id = id) with
      | some copy => s.begin (.type copy changes)
      | none => s
  | .beginWrite typeId => s.begin (.writing ⟨s.types.find? (·.id = typeId),s.tables,[],[]⟩)
  | .create p r => match s.job p with
      | some (.writing ⟨some type,loaded,rows,gone⟩) =>
          let new : Reading :=
            ⟨{r with id := s.nextListing,typeId := type.id},type.fields,namesOf (s.categoriesOf r.categories),loaded,s.tables⟩
          {s.set p (.writing (Writing.put ⟨some type,loaded,rows,gone⟩ new)) with nextListing := s.nextListing + 1}
      | _ => s
  | .rewrite p r => match s.job p with
      | some (.writing w) =>
          if s.locked p r.id || !s.listings.any (·.row.id = r.id) then s
          else s.set p (.writing (w.put ⟨r,s.fieldsOf r.typeId,namesOf (s.categoriesOf r.categories),s.tables,s.tables⟩))
      | _ => s
  | .remove p id => match s.job p with
      | some (.writing w) => if s.locked p id then s else s.set p (.writing {w with gone := w.gone ++ [id]})
      | _ => s
  | .drain limit => match s.markers.find? (!·.done) with
      | some m => s.begin (.drain ⟨m.pk,m.scope,m.cursor,limit,.collecting⟩)
      | none => s
  | .next p => match s.job p with
      | some (.drain d) => advance e s p d
      | _ => s
  | .commit p => match s.job p with
      | some (.writing w) => (commitWriting e s w).close p
      | some (.category copy changes) => (s.saveCategory copy changes).close p
      | some (.type copy changes) => if refused changes then s.close p else (s.saveType copy changes).close p
      | _ => s
  | .abort p => s.close p

def start : State V := ⟨[],[],[],[],[],1,1,1,1⟩

end State
open State

-- A drain of the marker has the listing still to update, or will leave it behind the
-- cursor.
def Drain.leaves (d : Drain) (id : Nat) : Bool :=
  match d.stage with
  | .collecting => true
  | .reading ids => ids.contains id || (d.limit ≤ ids.length && ids.all (· < id))
  | .walking ids _ rest ready => rest.any (·.1.id = id) || ready.any (·.row.id = id) || (d.limit ≤ ids.length && ids.all (· < id))

def Job.leaves (pk id : Nat) : Job → Bool
  | .drain d => d.marker ≠ pk || d.leaves id
  | _ => true

def awaits {V : Type} (s : State V) (m : Marker) (r : Row) : Bool :=
  !m.done && m.passed < r.id && inScope m.scope r && s.jobs.all fun j => j.2.leaves m.pk r.id

def awaited {V : Type} (s : State V) (r : Row) : Bool := s.markers.any (awaits s · r)

def ofCategory (ids : List Nat) : ReindexScope → Bool
  | .category c => ids.contains c
  | .listingType _ => false

section statement
variable {V : Type}

def restored (s : State V) (copy : Category) (changes : CategoryChanges) : Bool :=
  s.categories.all fun k => k.id ≠ copy.id || (k.name = (changes.apply copy).name && k.order = (changes.apply copy).order)

-- The index takes the same of a row in one state of the tables as of another in another.
def alike (t : Tables) (r : Row) (t' : Tables) (r' : Row) : Prop :=
  r.name = r'.name ∧ r.description = r'.description ∧ r.locality = r'.locality ∧ r.region = r'.region ∧
    r.searched (t.fieldsOf r.typeId) = r'.searched (t'.fieldsOf r'.typeId)

-- Since the call read them, which of the row's fields are searchable and what its
-- categories are named has not changed; and the searchable fields are in the column's order.
structure WriteStands (s : State V) (r : Reading) : Prop where
  schema : ∀ field ∈ r.row.customFields,
    searches (r.loaded.fieldsOf r.row.typeId) field.1 = searches (s.fieldsOf r.row.typeId) field.1
  order : r.row.searched (s.fieldsOf r.row.typeId) = r.row.stored.searched (s.fieldsOf r.row.typeId)
  names : namesOf (r.named.categoriesOf r.row.categories) = namesOf (s.categoriesOf r.row.categories)

-- Since the drain read them, neither the listing's row nor its categories' names changed.
structure UpdateStands (s : State V) (r : Reading) (row : Row) : Prop where
  columns : ∀ old ∈ r.loaded.rows, old.id = row.id → alike r.loaded old s.tables row
  names : namesOf (r.named.prefetched row.id) = namesOf (s.categoriesOf row.categories)

-- What a call read still stands when it writes a vector, or a marker awaits the listing; a save that leaves no marker writes back what it found; and a category that
-- goes has no listings.
def Steady (s : State V) : Action → Prop
  | .deleteCategories ids => ∀ l ∈ s.listings, l.row.categories.any ids.contains →
      s.markers.any fun m => awaits s m l.row && !ofCategory ids m.scope
  | .next p => match s.job p with
      | some (.drain ⟨marker,_,_,_,.walking _ _ _ (r :: _)⟩) => s.locked p r.row.id = false → ∀ l ∈ s.listings, l.row.id = r.row.id →
          UpdateStands s r l.row ∨ s.markers.any fun m => awaits s m l.row && m.pk ≠ marker
      | _ => True
  | .commit p => match s.job p with
      | some (.writing w) => ∀ r ∈ w.rows, WriteStands s r ∨ awaited s r.row
      | some (.category copy changes) => renames copy changes ∨ restored s copy changes ∨
          ∀ l ∈ s.listings, l.row.categories.contains copy.id → awaited s l.row
      | some (.type copy changes) => remakes copy changes ∨
          (∀ t ∈ s.types, t.id = copy.id → t.fields = (newFields changes).getD copy.fields) ∨
          ∀ l ∈ s.listings, l.row.typeId = copy.id → awaited s l.row
      | _ => True
  | _ => True

def idle (s : State V) : Bool := s.jobs.isEmpty && s.markers.all (·.done)

def Consistent (e : Engine V) (s : State V) : Prop := idle s → ∀ l ∈ s.listings, l.vector = e.vector (textsOf e s l.row)

end statement

def Writing.Faithful (w : Writing) : Prop :=
  (∀ type ∈ w.type, type.fields = w.loaded.fieldsOf type.id) ∧
    ∀ r ∈ w.rows, r.fields = r.loaded.fieldsOf r.row.typeId ∧ r.categories = namesOf (r.named.categoriesOf r.row.categories)

def Reading.Drained (r : Reading) : Prop :=
  r.row ∈ r.loaded.rows ∧ r.fields = r.loaded.fieldsOf r.row.typeId ∧ r.categories = namesOf (r.named.prefetched r.row.id)

def Stage.Faithful : Stage → Prop
  | .walking _ loaded rest ready =>
      (∀ row ∈ rest, row.1 ∈ loaded.rows ∧ row.2 = loaded.fieldsOf row.1.typeId) ∧ ∀ r ∈ ready, r.Drained
  | _ => True

def Job.Faithful : Job → Prop
  | .writing w => w.Faithful
  | .drain d => d.stage.Faithful
  | _ => True

structure Sound {V : Type} (e : Engine V) (s : State V) : Prop where
  next : 0 < s.nextListing
  positive : ∀ l ∈ s.listings, 0 < l.row.id
  refs : ∀ l ∈ s.listings, s.sound l.row
  categoryIds : ∀ c ∈ s.categories, c.id < s.nextCategory
  typeIds : ∀ t ∈ s.types, t.id < s.nextType
  pks : s.markers.map (·.pk) = List.range s.markers.length
  passed : ∀ m ∈ s.markers, m.cursor ≤ m.passed
  writes : ∀ j ∈ s.jobs, ∀ w, j.2 = .writing w → ∀ r ∈ w.rows, 0 < r.row.id
  edits : ∀ j ∈ s.jobs, ∀ copy changes, j.2 = .category copy changes → copy.id < s.nextCategory
  drains : ∀ j ∈ s.jobs, ∀ d, j.2 = .drain d → d.marker < s.markers.length ∧
    ∀ m ∈ s.markers, m.pk = d.marker → d.cursor ≤ m.passed ∧ m.scope = d.scope
  faithful : ∀ j ∈ s.jobs, j.2.Faithful
  fresh : ∀ l ∈ s.listings, l.vector = e.vector (textsOf e s l.row) ∨ awaited s l.row

section reading
variable {V : Type} {e : Engine V} {s s' : State V} {r : Row} {w : Writing} {written : Reading}

theorem textsOf_congr (fields : s'.fieldsOf r.typeId = s.fieldsOf r.typeId)
    (names : namesOf (s'.categoriesOf r.categories) = namesOf (s.categoriesOf r.categories)) : textsOf e s' r = textsOf e s r := by
  unfold textsOf
  rw [fields,names]

theorem texts_alike {fields fields' : List FieldDescriptor} {names names' : List String} {row : Row} (str : Json → String)
    (columns : r.name = row.name ∧ r.description = row.description ∧ r.locality = row.locality ∧ r.region = row.region ∧
      r.searched fields = row.searched fields')
    (same : names = names') : texts str fields names r = texts str fields' names' row := by
  obtain ⟨name,description,locality,region,searched⟩ := columns
  unfold texts searchableCustomText
  rw [name,description,locality,region,searched,same]

theorem WriteStands.texts (faithful : w.Faithful) (there : written ∈ w.rows) (stands : WriteStands s written) :
    written.texts e.str = textsOf e s written.row.stored := by
  obtain ⟨fields,categories⟩ := faithful.2 written there
  refine texts_alike e.str ⟨rfl,rfl,rfl,rfl,?_⟩ (categories.trans stands.names)
  have now : written.row.searched written.fields = written.row.searched (s.fieldsOf written.row.typeId) :=
    List.filter_congr fun field member => by rw [fields,stands.schema field member]
  exact now.trans stands.order

theorem UpdateStands.texts (drained : written.Drained) (same : r.id = written.row.id) (stands : UpdateStands s written r) :
    written.texts e.str = textsOf e s r := by
  obtain ⟨there,fields,categories⟩ := drained
  obtain ⟨name,description,locality,region,searched⟩ := stands.columns written.row there same.symm
  exact texts_alike e.str ⟨name,description,locality,region,fields ▸ searched⟩ (categories.trans (same ▸ stands.names))

end reading

section awaiting
variable {V : Type} {e : Engine V} {s s' : State V} {m : Marker} {r : Row} {p : Nat} {j : Job}

theorem awaits_iff : awaits s m r ↔ m.done = false ∧ m.passed < r.id ∧ inScope m.scope r ∧ ∀ j ∈ s.jobs, j.2.leaves m.pk r.id := by
  simp [awaits,and_assoc]

theorem awaited_iff : awaited s r ↔ ∃ m ∈ s.markers, awaits s m r := List.any_eq_true

theorem awaited_stored : awaited s r.stored = awaited s r := by
  have within (scope : ReindexScope) : inScope scope r.stored = inScope scope r := by cases scope <;> rfl
  unfold awaited awaits
  simp only [within]
  rfl

theorem awaits_jobs (waits : awaits s m r) (left : ∀ j ∈ s'.jobs, j ∈ s.jobs ∨ j.2.leaves m.pk r.id) : awaits s' m r := by
  obtain ⟨pending,ahead,scope,all⟩ := awaits_iff.mp waits
  refine awaits_iff.mpr ⟨pending,ahead,scope,?_⟩
  intro j there
  rcases left j there with old | leaves
  · exact all j old
  · exact leaves

theorem awaits_set (waits : awaits s m r) (leaves : j.leaves m.pk r.id) : awaits (s.set p j) m r := by
  refine awaits_jobs waits ?_
  intro k there
  obtain ⟨old,was,rfl⟩ := List.mem_map.mp there
  split
  · exact .inr leaves
  · exact .inl was

theorem awaits_close (waits : awaits s m r) : awaits (s.close p) m r :=
  awaits_jobs waits fun _ there => .inl (List.mem_of_mem_filter there)

theorem mem_set {k : Nat × Job} (there : k ∈ (s.set p j).jobs) : k ∈ s.jobs ∨ k = (p,j) := by
  obtain ⟨old,was,rfl⟩ := List.mem_map.mp there
  split
  · exact .inr rfl
  · exact .inl was

theorem mem_job (known : s.job p = some j) : (p,j) ∈ s.jobs := by
  obtain ⟨⟨q,k⟩,found,same⟩ := Option.map_eq_some_iff.mp known
  have here := List.find?_some found
  have at_ : q = p := of_decide_eq_true here
  have equal : k = j := same
  exact at_ ▸ equal ▸ List.mem_of_find?_eq_some found

theorem job_leaves (known : s.job p = some j) (waits : awaits s m r) : j.leaves m.pk r.id :=
  (awaits_iff.mp waits).2.2.2 _ (mem_job known)

theorem marker_unique (sound : Sound e s) {m m' : Marker} (there : m ∈ s.markers) (also_ : m' ∈ s.markers) (same : m.pk = m'.pk) : m = m' := by
  have nodup : (s.markers.map (·.pk)).Nodup := sound.pks ▸ List.nodup_range
  exact List.inj_on_of_nodup_map nodup there also_ same

theorem marker_below (sound : Sound e s) (there : m ∈ s.markers) : m.pk < s.markers.length :=
  List.mem_range.mp (sound.pks ▸ List.mem_map.mpr ⟨m,there,rfl⟩)

theorem awaits_mark (sound : Sound e s) {scope : ReindexScope} (first : 0 < r.id) (within : inScope scope r)
    (same : s'.jobs = s.jobs) : awaits s' ⟨s.markers.length,scope,0,false,0⟩ r := by
  refine awaits_iff.mpr ⟨rfl,first,within,?_⟩
  intro j there
  rw [same] at there
  cases kind : j.2 with
  | drain d =>
      have before := (sound.drains j there d kind).1
      exact Bool.or_eq_true .. ▸ .inl (decide_eq_true (Nat.ne_of_lt before))
  | writing _ | category _ _ | type _ _ => rfl

end awaiting

section steps
variable {V : Type} {e : Engine V} {s s' : State V} {m : Marker} {r : Row} {p : Nat} {j : Job}

structure Fits (s : State V) (j : Job) : Prop where
  faithful : j.Faithful
  writes : ∀ w, j = .writing w → ∀ r ∈ w.rows, 0 < r.row.id
  edits : ∀ copy changes, j = .category copy changes → copy.id < s.nextCategory
  drains : ∀ d, j = .drain d → d.marker < s.markers.length ∧ ∀ m ∈ s.markers, m.pk = d.marker → d.cursor ≤ m.passed ∧ m.scope = d.scope
  left : ∀ m ∈ s.markers, ∀ l ∈ s.listings, awaits s m l.row → j.leaves m.pk l.row.id

theorem fits_of_sound (sound : Sound e s) {k : Nat × Job} (there : k ∈ s.jobs) : Fits s k.2 where
  faithful := sound.faithful k there
  writes := sound.writes k there
  edits := sound.edits k there
  drains := sound.drains k there
  left _ _ _ _ waits := (awaits_iff.mp waits).2.2.2 k there

theorem sound_fits (sound : Sound e s) {jobs : List (Nat × Job)} {nextListing nextJob : Nat} (next : 0 < nextListing)
    (fits : ∀ j ∈ jobs, Fits s j.2) : Sound e {s with jobs := jobs,nextListing := nextListing,nextJob := nextJob} where
  next := next
  positive := sound.positive
  refs := sound.refs
  categoryIds := sound.categoryIds
  typeIds := sound.typeIds
  pks := sound.pks
  passed := sound.passed
  writes j there := (fits j there).writes
  edits j there := (fits j there).edits
  drains j there := (fits j there).drains
  faithful j there := (fits j there).faithful
  fresh l there := by
    rcases sound.fresh l there with fresh | waits
    · exact .inl fresh
    · obtain ⟨m,marker,awaits⟩ := awaited_iff.mp waits
      exact .inr (awaited_iff.mpr ⟨m,marker,awaits_jobs awaits fun j job => .inr ((fits j job).left m marker l there awaits)⟩)

theorem sound_begin (sound : Sound e s) (fits : Fits s j) : Sound e (s.begin j) := by
  refine sound_fits sound sound.next ?_
  intro k there
  rcases List.mem_append.mp there with old | new
  · exact fits_of_sound sound old
  · exact List.mem_singleton.mp new ▸ fits

theorem sound_set (sound : Sound e s) (fits : Fits s j) : Sound e (s.set p j) := by
  refine sound_fits sound sound.next ?_
  intro k there
  rcases mem_set there with old | new
  · exact fits_of_sound sound old
  · exact new ▸ fits

theorem sound_close (sound : Sound e s) (p : Nat) : Sound e (s.close p) :=
  sound_fits sound sound.next fun _ there => fits_of_sound sound (List.mem_of_mem_filter there)

theorem fits_writing {w : Writing} (faithful : w.Faithful) (positive : ∀ r ∈ w.rows, 0 < r.row.id) : Fits s (.writing w) := by
  refine ⟨faithful,?_,nofun,nofun,fun _ _ _ _ _ => rfl⟩
  intro _ same
  obtain rfl := Job.writing.inj same
  exact positive

theorem take_or_after {xs : List Nat} (sorted : xs.Pairwise (· ≤ ·)) (k : Nat) {x : Nat} (there : x ∈ xs) :
    x ∈ xs.take k ∨ k ≤ (xs.take k).length ∧ ∀ y ∈ xs.take k, y < x := by
  by_cases among : x ∈ xs.take k
  · exact .inl among
  · have rest : x ∈ xs.drop k := by
      rw [← List.take_append_drop k xs] at there
      exact (List.mem_append.mp there).resolve_left among
    refine .inr ⟨?_,?_⟩
    · have longer : k < xs.length := by
        by_contra short
        rw [List.drop_eq_nil_of_le (Nat.not_lt.mp short)] at rest
        exact nomatch rest
      rw [List.length_take,Nat.min_eq_left (Nat.le_of_lt longer)]
    · intro y first
      have apart := (List.pairwise_append.mp (List.take_append_drop k xs ▸ sorted)).2.2 y first x rest
      exact Nat.lt_of_le_of_ne apart fun same => among (same ▸ first)

theorem collect_covers (d : Drain) {l : Indexed V} (there : l ∈ s.listings) (within : inScope d.scope l.row) (ahead : d.cursor < l.row.id) :
    (s.collect d).contains l.row.id || (d.limit ≤ (s.collect d).length && (s.collect d).all (· < l.row.id)) := by
  have listed : l.row.id ∈ ((s.listings.filter fun l => inScope d.scope l.row && d.cursor < l.row.id).map (·.row.id)).insertionSort (· ≤ ·) := by
    refine (List.mem_insertionSort _).mpr (List.mem_map.mpr ⟨l,List.mem_filter.mpr ⟨there,?_⟩,rfl⟩)
    exact Bool.and_eq_true .. ▸ ⟨within,decide_eq_true ahead⟩
  rcases take_or_after (List.pairwise_insertionSort _ _) d.limit listed with among | ⟨full,after⟩
  · exact Bool.or_eq_true .. ▸ .inl (List.contains_iff_mem.mpr among)
  · refine Bool.or_eq_true .. ▸ .inr (Bool.and_eq_true .. ▸ ⟨decide_eq_true full,?_⟩)
    exact List.all_eq_true.mpr fun y first => decide_eq_true (after y first)

theorem fits_stage {d : Drain} (known : s.job p = some (.drain d)) (sound : Sound e s) {stage : Stage} (faithful : stage.Faithful)
    (left : ∀ l ∈ s.listings, inScope d.scope l.row → d.cursor < l.row.id → d.leaves l.row.id → {d with stage := stage}.leaves l.row.id) :
    Fits s (.drain {d with stage := stage}) := by
  have before := fits_of_sound sound (mem_job known)
  obtain ⟨below,same⟩ := before.drains d rfl
  refine ⟨faithful,nofun,nofun,?_,?_⟩
  · intro _ equal
    obtain rfl := Job.drain.inj equal
    exact ⟨below,same⟩
  · intro m marker l there waits
    obtain ⟨_,ahead,scope,_⟩ := awaits_iff.mp waits
    by_cases this : m.pk = d.marker
    · obtain ⟨passed,alike⟩ := same m marker this
      have leaves := before.left m marker l there waits
      have still : d.leaves l.row.id := by
        rcases Bool.or_eq_true .. ▸ leaves with other | leaves
        · exact absurd this.symm (of_decide_eq_true other)
        · exact leaves
      exact Bool.or_eq_true .. ▸ .inr (left l there (alike ▸ scope) (Nat.lt_of_le_of_lt passed ahead) still)
    · exact Bool.or_eq_true .. ▸ .inl (decide_eq_true fun equal => this equal.symm)

theorem sound_collecting {d : Drain} (sound : Sound e s) (known : s.job p = some (.drain d)) :
    Sound e (s.set p (.drain {d with stage := .reading (s.collect d)})) :=
  sound_set sound (fits_stage known sound trivial fun _ there within ahead _ => collect_covers d there within ahead)

theorem sound_reading {d : Drain} {ids : List Nat} (sound : Sound e s) (known : s.job p = some (.drain d)) (stage : d.stage = .reading ids) :
    Sound e (s.set p (.drain {d with stage := .walking ids s.tables (s.read ids) []})) := by
  have faithful : Stage.Faithful (.walking ids s.tables (s.read ids) []) := by
    refine ⟨?_,List.forall_mem_nil _⟩
    intro row there
    obtain ⟨l,listed,rfl⟩ := List.mem_map.mp there
    exact ⟨List.mem_map_of_mem (List.mem_of_mem_filter listed),rfl⟩
  refine sound_set sound (fits_stage known sound faithful ?_)
  intro l there _ _ leaves
  unfold Drain.leaves at leaves ⊢
  rw [stage] at leaves
  rcases Bool.or_eq_true .. ▸ leaves with among | after
  · have still : (s.read ids).any (·.1.id = l.row.id) :=
      List.any_eq_true.mpr ⟨_,List.mem_map.mpr ⟨l,List.mem_filter.mpr ⟨there,among⟩,rfl⟩,decide_eq_true rfl⟩
    dsimp only
    rw [still]
    rfl
  · dsimp only at after ⊢
    rw [after,Bool.or_true]

theorem sound_prefetching {d : Drain} {ids : List Nat} {loaded : Tables} {row : Row × List FieldDescriptor} {rest : List (Row × List FieldDescriptor)}
    (sound : Sound e s) (known : s.job p = some (.drain d)) (stage : d.stage = .walking ids loaded (row :: rest) []) :
    Sound e (s.set p (.drain {d with
      stage := .walking ids loaded ((row :: rest).drop ITERATOR_CHUNK) (s.prefetch loaded ((row :: rest).take ITERATOR_CHUNK))})) := by
  have before : d.stage.Faithful := sound.faithful _ (mem_job known)
  rw [stage] at before
  have faithful : Stage.Faithful (.walking ids loaded ((row :: rest).drop ITERATOR_CHUNK)
      (s.prefetch loaded ((row :: rest).take ITERATOR_CHUNK))) := by
    refine ⟨fun old there => before.1 old (List.mem_of_mem_drop there),?_⟩
    intro r there
    obtain ⟨old,taken,rfl⟩ := List.mem_map.mp there
    obtain ⟨listed,fields⟩ := before.1 old (List.mem_of_mem_take taken)
    exact ⟨listed,fields,rfl⟩
  refine sound_set sound (fits_stage known sound faithful ?_)
  intro l _ _ _ leaves
  unfold Drain.leaves at leaves ⊢
  rw [stage] at leaves
  dsimp only at leaves ⊢
  rw [List.any_nil,Bool.or_false] at leaves
  have parts : (((row :: rest).drop ITERATOR_CHUNK).any (·.1.id = l.row.id) ||
      (s.prefetch loaded ((row :: rest).take ITERATOR_CHUNK)).any (·.row.id = l.row.id)) = (row :: rest).any (·.1.id = l.row.id) := by
    unfold State.prefetch
    rw [List.any_map,Bool.or_comm]
    conv_rhs => rw [← List.take_append_drop ITERATOR_CHUNK (row :: rest),List.any_append]
    rfl
  rw [parts]
  exact leaves

theorem sound_update {d : Drain} {ids : List Nat} {loaded : Tables} {rest : List (Row × List FieldDescriptor)} {r : Reading} {ready : List Reading}
    (sound : Sound e s) (known : s.job p = some (.drain d)) (stage : d.stage = .walking ids loaded rest (r :: ready))
    (steady : ∀ l ∈ s.listings, l.row.id = r.row.id → UpdateStands s r l.row ∨ s.markers.any fun m => awaits s m l.row && m.pk ≠ d.marker) :
    Sound e ((update e s r).set p (.drain {d with stage := .walking ids loaded rest ready})) := by
  obtain ⟨before,_,_,drains,_⟩ := fits_of_sound sound (mem_job known)
  have faithful : d.stage.Faithful := before
  rw [stage] at faithful
  have rows : ∀ l ∈ (update e s r).listings, ∃ old ∈ s.listings, old.row = l.row := by
    intro l there
    obtain ⟨old,was,rfl⟩ := List.mem_map.mp there
    refine ⟨old,was,?_⟩
    split <;> rfl
  refine ⟨sound.next,?_,?_,sound.categoryIds,sound.typeIds,sound.pks,sound.passed,?_,?_,?_,?_,?_⟩
  · intro l there
    obtain ⟨old,was,same⟩ := rows l there
    exact same ▸ sound.positive old was
  · intro l there
    obtain ⟨old,was,same⟩ := rows l there
    exact same ▸ sound.refs old was
  · intro j there w kind
    rcases mem_set there with old | rfl
    · exact sound.writes j old w kind
    · exact nomatch kind
  · intro j there copy changes kind
    rcases mem_set there with old | rfl
    · exact sound.edits j old copy changes kind
    · exact nomatch kind
  · intro j there d' kind
    rcases mem_set there with old | rfl
    · exact sound.drains j old d' kind
    · obtain rfl := Job.drain.inj kind
      exact drains d rfl
  · intro j there
    rcases mem_set there with old | rfl
    · exact sound.faithful j old
    · exact ⟨faithful.1,fun other member => faithful.2 other (List.mem_cons_of_mem _ member)⟩
  · intro l there
    obtain ⟨old,was,rfl⟩ := List.mem_map.mp there
    by_cases this : old.row.id = r.row.id
    · rw [if_pos this]
      rcases steady old was this with stands | other
      · have drained := faithful.2 r List.mem_cons_self
        exact .inl (congrArg e.vector ((stands.texts drained this).trans (textsOf_congr rfl rfl)))
      · obtain ⟨m,marker,both⟩ := List.any_eq_true.mp other
        obtain ⟨waits,apart⟩ := Bool.and_eq_true .. ▸ both
        refine .inr (awaited_iff.mpr ⟨m,marker,awaits_set (s := update e s r) waits ?_⟩)
        exact Bool.or_eq_true .. ▸ .inl (decide_eq_true fun equal => of_decide_eq_true apart equal.symm)
    · rw [if_neg this]
      rcases sound.fresh old was with fresh | waits
      · exact .inl fresh
      · obtain ⟨m,marker,awaits⟩ := awaited_iff.mp waits
        refine .inr (awaited_iff.mpr ⟨m,marker,awaits_set (s := update e s r) awaits ?_⟩)
        have leaves := job_leaves known awaits
        unfold Job.leaves Drain.leaves at leaves ⊢
        dsimp only at leaves ⊢
        rw [stage] at leaves
        dsimp only at leaves
        have apart : decide (r.row.id = old.row.id) = false := decide_eq_false fun same => this same.symm
        rw [List.any_cons,apart,Bool.false_or] at leaves
        exact leaves

theorem lastOf_below {d : Drain} {ids : List Nat} {id : Nat} (cursor : d.cursor < id) (all : ids.all (· < id)) : lastOf d ids < id := by
  unfold lastOf
  cases last : ids.getLast? with
  | none => exact cursor
  | some x => exact of_decide_eq_true (List.all_eq_true.mp all x (List.mem_of_getLast? last))

theorem sound_finish {d : Drain} {ids : List Nat} {loaded : Tables} (sound : Sound e s) (known : s.job p = some (.drain d))
    (stage : d.stage = .walking ids loaded [] []) : Sound e ((s.finish d ids).close p) := by
  have before := fits_of_sound sound (mem_job known)
  have markers : ∀ m ∈ (s.finish d ids).markers, ∃ old ∈ s.markers, m.pk = old.pk ∧ m.scope = old.scope ∧ old.passed ≤ m.passed := by
    intro m there
    obtain ⟨old,was,rfl⟩ := List.mem_map.mp there
    refine ⟨old,was,?_⟩
    split
    · exact ⟨rfl,rfl,Nat.le_max_left ..⟩
    · exact ⟨rfl,rfl,Nat.le_refl _⟩
  have length : (s.finish d ids).markers.length = s.markers.length := List.length_map ..
  refine ⟨sound.next,sound.positive,sound.refs,sound.categoryIds,sound.typeIds,?_,?_,?_,?_,?_,?_,?_⟩
  · have same : (s.finish d ids).markers.map (·.pk) = s.markers.map (·.pk) := by
      unfold State.finish
      rw [List.map_map]
      refine List.map_congr_left ?_
      intro m _
      dsimp only [Function.comp]
      split <;> rfl
    exact same.trans (sound.pks.trans (congrArg List.range length.symm))
  · intro m there
    obtain ⟨old,was,rfl⟩ := List.mem_map.mp there
    split
    · exact Nat.le_max_right ..
    · exact sound.passed old was
  · exact fun j there => sound.writes j (List.mem_of_mem_filter there)
  · exact fun j there => sound.edits j (List.mem_of_mem_filter there)
  · intro j there d' kind
    obtain ⟨below,same⟩ := sound.drains j (List.mem_of_mem_filter there) d' kind
    refine ⟨length.symm ▸ below,?_⟩
    intro m marker pk
    obtain ⟨old,was,pks,scopes,passed⟩ := markers m marker
    obtain ⟨cursor,scope⟩ := same old was (pks.symm.trans pk)
    exact ⟨Nat.le_trans cursor passed,scopes.trans scope⟩
  · exact fun j there => sound.faithful j (List.mem_of_mem_filter there)
  · intro l there
    rcases sound.fresh l there with fresh | waits
    · exact .inl fresh
    · obtain ⟨m,marker,awaits_⟩ := awaited_iff.mp waits
      obtain ⟨pending,ahead,scope,all⟩ := awaits_iff.mp awaits_
      refine .inr (awaited_iff.mpr ⟨_,List.mem_map.mpr ⟨m,marker,rfl⟩,awaits_close ?_⟩)
      by_cases this : m.pk = d.marker
      · have leaves := job_leaves known awaits_
        unfold Job.leaves Drain.leaves at leaves
        dsimp only at leaves
        rw [stage] at leaves
        obtain ⟨full,after⟩ : d.limit ≤ ids.length ∧ ids.all (· < l.row.id) := by simpa [this] using leaves
        have cursor := Nat.lt_of_le_of_lt ((before.drains d rfl).2 m marker this).1 ahead
        have unfinished : decide (ids.length < d.limit) = false := decide_eq_false (Nat.not_lt.mpr full)
        have mine : (decide (m.pk = d.marker) && !m.done) = true := by rw [decide_eq_true this,pending]; rfl
        rw [if_pos mine]
        exact awaits_iff.mpr ⟨unfinished,Nat.max_lt.mpr ⟨ahead,lastOf_below cursor after⟩,scope,all⟩
      · have other : ¬(decide (m.pk = d.marker) && !m.done) = true := by
          rw [decide_eq_false this]
          exact nofun
        rw [if_neg other]
        exact awaits_iff.mpr ⟨pending,ahead,scope,all⟩

theorem advance_sound {d : Drain} (sound : Sound e s) (known : s.job p = some (.drain d)) (steady : Steady s (.next p)) :
    Sound e (advance e s p d) := by
  unfold Steady at steady
  dsimp only at steady
  rw [known] at steady
  obtain ⟨marker,scope,cursor,limit,stage⟩ := d
  cases stage with
  | collecting => exact sound_collecting sound known
  | reading ids => exact sound_reading sound known rfl
  | walking ids loaded rest ready =>
      cases ready with
      | cons head ready =>
          unfold advance
          dsimp only
          split
          · exact sound
          · next free => exact sound_update sound known rfl (steady (Bool.eq_false_iff.mpr free))
      | nil => cases rest with
        | nil => exact sound_finish sound known rfl
        | cons row rest => exact sound_prefetching sound known rfl

theorem sound_iff : s.sound r ↔ (∀ c ∈ r.categories, ∃ k ∈ s.categories, k.id = c) ∧ ∃ t ∈ s.types, t.id = r.typeId := by
  simp [State.sound]

theorem sound_saved {categories : List Category} {types : List ListingType} {nextCategory nextType : Nat}
    (sound : Sound e s) (marks : Option ReindexScope) (categoryIds : ∀ c ∈ categories, c.id < nextCategory) (typeIds : ∀ t ∈ types, t.id < nextType)
    (more : s.nextCategory ≤ nextCategory)
    (refs : ∀ l ∈ s.listings, State.sound {s with categories := categories,types := types} l.row)
    (fresh : ∀ l ∈ s.listings, textsOf e {s with categories := categories,types := types} l.row = textsOf e s l.row ∨ awaited s l.row ∨
      ∃ scope ∈ marks, inScope scope l.row) :
    Sound e {s with
      categories := categories
      types := types
      nextCategory := nextCategory
      nextType := nextType
      markers := s.markers ++ (marks.map fun scope => ⟨s.markers.length,scope,0,false,0⟩).toList} := by
  refine ⟨sound.next,sound.positive,refs,categoryIds,typeIds,?_,?_,sound.writes,?_,?_,sound.faithful,?_⟩
  · cases marks with
    | none => simpa using sound.pks
    | some scope => simp [List.range_succ,sound.pks]
  · intro m there
    rcases List.mem_append.mp there with old | new
    · exact sound.passed m old
    · obtain ⟨scope,_,rfl⟩ := Option.map_eq_some_iff.mp (Option.mem_toList.mp new)
      exact Nat.le_refl _
  · exact fun j there copy changes kind => Nat.lt_of_lt_of_le (sound.edits j there copy changes kind) more
  · intro j there d kind
    obtain ⟨below,same⟩ := sound.drains j there d kind
    refine ⟨Nat.lt_of_lt_of_le below (List.length_append ▸ Nat.le_add_right ..),?_⟩
    intro m marker pk
    rcases List.mem_append.mp marker with old | new
    · exact same m old pk
    · obtain ⟨scope,_,rfl⟩ := Option.map_eq_some_iff.mp (Option.mem_toList.mp new)
      exact absurd pk.symm (Nat.ne_of_lt below)
  · intro l there
    rcases fresh l there with alike | waits | ⟨scope,marked,within⟩
    · rcases sound.fresh l there with fresh | waits
      · exact .inl (fresh.trans (congrArg e.vector alike.symm))
      · obtain ⟨m,marker,awaits⟩ := awaited_iff.mp waits
        exact .inr (awaited_iff.mpr ⟨m,List.mem_append_left _ marker,awaits⟩)
    · obtain ⟨m,marker,awaits⟩ := awaited_iff.mp waits
      exact .inr (awaited_iff.mpr ⟨m,List.mem_append_left _ marker,awaits⟩)
    · have new := awaits_mark sound (sound.positive l there) within rfl
      exact .inr (awaited_iff.mpr ⟨_,List.mem_append_right _ (Option.mem_toList.mpr (Option.map_eq_some_iff.mpr ⟨scope,marked,rfl⟩)),new⟩)

theorem sound_createType (sound : Sound e s) (t : ListingType) :
    Sound e {s with types := s.types ++ [{t with id := s.nextType}],nextType := s.nextType + 1} := by
  have refs : ∀ l ∈ s.listings, State.sound {s with types := s.types ++ [{t with id := s.nextType}]} l.row := by
    intro l there
    obtain ⟨held,type,typed,same⟩ := sound_iff.mp (sound.refs l there)
    exact sound_iff.mpr ⟨held,type,List.mem_append_left _ typed,same⟩
  have typeIds : ∀ u ∈ s.types ++ [{t with id := s.nextType}], u.id < s.nextType + 1 := by
    intro u there
    rcases List.mem_append.mp there with old | new
    · exact Nat.lt_succ_of_lt (sound.typeIds u old)
    · exact List.mem_singleton.mp new ▸ Nat.lt_succ_self _
  have saved := sound_saved sound none sound.categoryIds typeIds (Nat.le_refl _) refs (fun l there => .inl (by
    obtain ⟨type,typed,same⟩ := (sound_iff.mp (sound.refs l there)).2
    have found : (s.types.find? (·.id = l.row.typeId)).isSome := List.find?_isSome.mpr ⟨type,typed,decide_eq_true same⟩
    refine textsOf_congr ?_ rfl
    unfold State.fieldsOf Tables.fieldsOf State.tables
    dsimp only
    rw [List.find?_append,Option.or_of_isSome found]))
  simpa using saved

theorem sound_createCategory (sound : Sound e s) (c : Category) :
    Sound e {s with categories := s.categories ++ [{c with id := s.nextCategory}],nextCategory := s.nextCategory + 1} := by
  have refs : ∀ l ∈ s.listings, State.sound {s with categories := s.categories ++ [{c with id := s.nextCategory}]} l.row := by
    intro l there
    obtain ⟨held,typed⟩ := sound_iff.mp (sound.refs l there)
    refine sound_iff.mpr ⟨?_,typed⟩
    intro id member
    obtain ⟨k,kept,same⟩ := held id member
    exact ⟨k,List.mem_append_left _ kept,same⟩
  have categoryIds : ∀ k ∈ s.categories ++ [{c with id := s.nextCategory}], k.id < s.nextCategory + 1 := by
    intro k there
    rcases List.mem_append.mp there with old | new
    · exact Nat.lt_succ_of_lt (sound.categoryIds k old)
    · exact List.mem_singleton.mp new ▸ Nat.lt_succ_self _
  have saved := sound_saved sound none categoryIds sound.typeIds (Nat.le_succ _) refs (fun l there => .inl (by
    have absent : l.row.categories.contains s.nextCategory = false := by
      rw [Bool.eq_false_iff]
      intro member
      obtain ⟨k,kept,same⟩ := (sound_iff.mp (sound.refs l there)).1 _ (List.contains_iff_mem.mp member)
      exact absurd same (Nat.ne_of_lt (sound.categoryIds k kept))
    refine textsOf_congr rfl ?_
    unfold State.categoriesOf Tables.categoriesOf State.tables
    dsimp only
    rw [List.filter_append,List.filter_cons_of_neg (by rw [absent]; exact Bool.false_ne_true),List.filter_nil,List.append_nil]))
  simpa using saved

def savedCategories (s : State V) (c : Category) : List Category :=
  if s.categories.any (·.id = c.id) then s.categories.map fun old => if old.id = c.id then c else old else s.categories ++ [c]

theorem mem_savedCategories {c k : Category} : k ∈ savedCategories s c → k ∈ s.categories ∨ k = c := by
  unfold savedCategories
  split
  · intro there
    obtain ⟨old,was,rfl⟩ := List.mem_map.mp there
    split
    · exact .inr rfl
    · exact .inl was
  · intro there
    exact (List.mem_append.mp there).imp_right List.mem_singleton.mp

theorem savedCategories_holds {c : Category} {id : Nat} (held : ∃ k ∈ s.categories, k.id = id) : ∃ k ∈ savedCategories s c, k.id = id := by
  obtain ⟨k,there,rfl⟩ := held
  unfold savedCategories
  split
  · refine ⟨_,List.mem_map.mpr ⟨k,there,rfl⟩,?_⟩
    split
    next same => exact same.symm
    next => rfl
  · exact ⟨k,List.mem_append_left _ there,rfl⟩

theorem namesOf_congr {cs ds : List Category} (same : cs.map (fun c => (c.order,c.name)) = ds.map fun c => (c.order,c.name)) :
    namesOf cs = namesOf ds := by
  unfold namesOf
  rw [same]

theorem saved_names {c : Category} (held : ∀ id ∈ r.categories, ∃ k ∈ s.categories, k.id = id)
    (same : r.categories.contains c.id = false ∨ ∀ k ∈ s.categories, k.id = c.id → k.name = c.name ∧ k.order = c.order) :
    namesOf ((savedCategories s c).filter fun k => r.categories.contains k.id) = namesOf (s.categoriesOf r.categories) := by
  unfold savedCategories
  split
  · have ids : ∀ k : Category, (if k.id = c.id then c else k).id = k.id := by
      intro k
      split
      next equal => exact equal.symm
      next => rfl
    refine namesOf_congr ?_
    rw [List.filter_map,List.map_map]
    have kept : (s.categories.filter ((fun k => r.categories.contains k.id) ∘ fun k => if k.id = c.id then c else k)) =
        s.categoriesOf r.categories := List.filter_congr fun k _ => by rw [Function.comp,ids]
    rw [kept]
    refine List.map_congr_left ?_
    intro k there
    obtain ⟨was,within⟩ := List.mem_filter.mp there
    dsimp only [Function.comp]
    split
    next equal =>
      rcases same with absent | alike
      · rw [equal,absent] at within
        cases within
      · obtain ⟨name,order⟩ := alike k was equal
        rw [name,order]
    next => rfl
  · next fresh =>
    have absent : ¬r.categories.contains c.id := by
      intro member
      obtain ⟨k,there,equal⟩ := held c.id (List.contains_iff_mem.mp member)
      exact fresh (List.any_eq_true.mpr ⟨k,there,decide_eq_true equal⟩)
    have none_ : [c].filter (fun k : Category => r.categories.contains k.id) = [] := by
      rw [List.filter_eq_nil_iff]
      intro k there
      exact List.mem_singleton.mp there ▸ absent
    rw [List.filter_append,none_,List.append_nil]
    rfl

theorem sound_saveCategory {copy : Category} {changes : CategoryChanges} (sound : Sound e s) (known : copy.id < s.nextCategory)
    (steady : renames copy changes ∨ restored s copy changes ∨ ∀ l ∈ s.listings, l.row.categories.contains copy.id → awaited s l.row) :
    Sound e (s.saveCategory copy changes) := by
  have categoryIds : ∀ k ∈ savedCategories s (changes.apply copy), k.id < s.nextCategory := by
    intro k there
    rcases mem_savedCategories there with old | rfl
    · exact sound.categoryIds k old
    · exact known
  have refs : ∀ l ∈ s.listings, State.sound {s with categories := savedCategories s (changes.apply copy)} l.row := by
    intro l there
    obtain ⟨held,typed⟩ := sound_iff.mp (sound.refs l there)
    exact sound_iff.mpr ⟨fun id member => savedCategories_holds (held id member),typed⟩
  have alike {l : Indexed V} (there : l ∈ s.listings) (same : l.row.categories.contains copy.id = false ∨ restored s copy changes) :
      textsOf e {s with categories := savedCategories s (changes.apply copy)} l.row = textsOf e s l.row := by
    have names := saved_names (c := changes.apply copy) (sound_iff.mp (sound.refs l there)).1 (same.imp id fun back k there equal => by
      have both := List.all_eq_true.mp back k there
      rw [decide_eq_false (fun apart : k.id ≠ copy.id => apart equal),Bool.false_or,Bool.and_eq_true] at both
      exact ⟨of_decide_eq_true both.1,of_decide_eq_true both.2⟩)
    exact textsOf_congr rfl names
  by_cases renamed : renames copy changes
  · have saved := sound_saved sound (some (.category copy.id)) categoryIds sound.typeIds (Nat.le_refl _) refs (fun l there => by
      cases within : l.row.categories.contains copy.id with
      | false => exact .inl (alike there (.inl within))
      | true => exact .inr (.inr ⟨_,rfl,within⟩))
    unfold State.saveCategory
    rw [if_pos renamed]
    exact saved
  · have saved := sound_saved sound none categoryIds sound.typeIds (Nat.le_refl _) refs (fun l there => by
      rcases steady.resolve_left renamed with back | waits
      · exact .inl (alike there (.inr back))
      · cases within : l.row.categories.contains copy.id with
        | false => exact .inl (alike there (.inl within))
        | true => exact .inr (.inl (waits l there within)))
    unfold State.saveCategory
    rw [if_neg renamed]
    rw [Option.map_none,Option.toList_none,List.append_nil] at saved
    exact saved

theorem saved_fields {t : ListingType} (same : r.typeId ≠ t.id ∨ ∀ u ∈ s.types, u.id = t.id → u.fields = t.fields) :
    State.fieldsOf {s with types := s.types.map fun old => if old.id = t.id then t else old} r.typeId = s.fieldsOf r.typeId := by
  have ids : ∀ u : ListingType, (if u.id = t.id then t else u).id = u.id := by
    intro u
    split
    next equal => exact equal.symm
    next => rfl
  unfold State.fieldsOf Tables.fieldsOf State.tables
  dsimp only
  rw [List.find?_map]
  have found : s.types.find? ((fun u => decide (u.id = r.typeId)) ∘ fun u => if u.id = t.id then t else u) = s.types.find? (·.id = r.typeId) := by
    congr 1
    funext u
    rw [Function.comp,ids]
  rw [found]
  cases here : s.types.find? (·.id = r.typeId) with
  | none => rfl
  | some u =>
      have at_ : u.id = r.typeId := by simpa using List.find?_some here
      simp only [Option.map_some,Option.getD_some]
      split
      next equal =>
        rcases same with apart | alike
        · exact absurd (at_.symm.trans equal) apart
        · exact (alike u (List.mem_of_find?_eq_some here) equal).symm
      next => rfl

theorem sound_saveType {copy : ListingType} {changes : TypeChanges} (sound : Sound e s)
    (steady : remakes copy changes ∨ (∀ t ∈ s.types, t.id = copy.id → t.fields = (newFields changes).getD copy.fields) ∨
      ∀ l ∈ s.listings, l.row.typeId = copy.id → awaited s l.row) : Sound e (s.saveType copy changes) := by
  let t := changes.apply (newFields changes) copy
  have ids : ∀ u : ListingType, (if u.id = t.id then t else u).id = u.id := by
    intro u
    split
    next equal => exact equal.symm
    next => rfl
  have typeIds : ∀ u ∈ s.types.map (fun old => if old.id = t.id then t else old), u.id < s.nextType := by
    intro u there
    obtain ⟨old,was,rfl⟩ := List.mem_map.mp there
    exact Nat.lt_of_le_of_lt (Nat.le_of_eq (ids old)) (sound.typeIds old was)
  have refs : ∀ l ∈ s.listings, State.sound {s with types := s.types.map fun old => if old.id = t.id then t else old} l.row := by
    intro l there
    obtain ⟨held,type,typed,same⟩ := sound_iff.mp (sound.refs l there)
    exact sound_iff.mpr ⟨held,_,List.mem_map.mpr ⟨type,typed,rfl⟩,(ids type).trans same⟩
  have alike {l : Indexed V} (same : l.row.typeId ≠ t.id ∨ ∀ u ∈ s.types, u.id = t.id → u.fields = t.fields) :
      textsOf e {s with types := s.types.map fun old => if old.id = t.id then t else old} l.row = textsOf e s l.row := by
    exact textsOf_congr (saved_fields same) rfl
  by_cases remade : remakes copy changes
  · have saved := sound_saved sound (some (.listingType t.id)) sound.categoryIds typeIds (Nat.le_refl _) refs (fun l _ => by
      by_cases within : l.row.typeId = t.id
      · exact .inr (.inr ⟨_,rfl,decide_eq_true within⟩)
      · exact .inl (alike (.inl within)))
    unfold State.saveType
    rw [if_pos remade]
    exact saved
  · have saved := sound_saved sound none sound.categoryIds typeIds (Nat.le_refl _) refs (fun l there => by
      rcases steady.resolve_left remade with back | waits
      · exact .inl (alike (.inr back))
      · by_cases within : l.row.typeId = t.id
        · exact .inr (.inl (waits l there within))
        · exact .inl (alike (.inl within)))
    unfold State.saveType
    rw [if_neg remade]
    rw [Option.map_none,Option.toList_none,List.append_nil] at saved
    exact saved

def leave (ids : List Nat) (r : Row) : Row := {r with categories := r.categories.filter fun c => !ids.contains c}

theorem leave_same {ids : List Nat} (none_ : r.categories.any ids.contains = false) : leave ids r = r := by
  have all : r.categories.filter (fun c => !ids.contains c) = r.categories := by
    refine List.filter_eq_self.mpr ?_
    intro c member
    rw [Bool.not_eq_true',Bool.eq_false_iff]
    exact fun gone => Bool.eq_false_iff.mp none_ (List.any_eq_true.mpr ⟨c,member,gone⟩)
  unfold leave
  rw [all]

theorem inScope_leave {ids : List Nat} {scope : ReindexScope} (within : inScope scope r) (stays : ofCategory ids scope = false) :
    inScope scope (leave ids r) := by
  cases scope with
  | listingType id => exact within
  | category id =>
      have gone : ids.contains id = false := stays
      have member : id ∈ r.categories := List.contains_iff_mem.mp within
      exact List.contains_iff_mem.mpr (List.mem_filter.mpr ⟨member,by rw [gone]; rfl⟩)

theorem sound_deleteCategories {ids : List Nat} (sound : Sound e s) (steady : Steady s (.deleteCategories ids)) :
    Sound e (step e s (.deleteCategories ids)) := by
  refine ⟨sound.next,?_,?_,?_,sound.typeIds,sound.pks,sound.passed,sound.writes,sound.edits,sound.drains,sound.faithful,?_⟩
  · intro l there
    obtain ⟨old,was,rfl⟩ := List.mem_map.mp there
    exact sound.positive old was
  · intro l there
    obtain ⟨old,was,rfl⟩ := List.mem_map.mp there
    obtain ⟨held,typed⟩ := sound_iff.mp (sound.refs old was)
    refine sound_iff.mpr ⟨?_,typed⟩
    intro c member
    obtain ⟨member,stays⟩ := List.mem_filter.mp member
    obtain ⟨k,kept,rfl⟩ := held c member
    exact ⟨k,List.mem_filter.mpr ⟨kept,stays⟩,rfl⟩
  · exact fun c there => sound.categoryIds c (List.mem_of_mem_filter there)
  · intro l there
    obtain ⟨old,was,rfl⟩ := List.mem_map.mp there
    by_cases leaves : old.row.categories.any ids.contains
    · obtain ⟨m,marker,both⟩ := List.any_eq_true.mp (steady old was leaves)
      obtain ⟨waits,stays⟩ := Bool.and_eq_true .. ▸ both
      obtain ⟨pending,ahead,within,all⟩ := awaits_iff.mp waits
      have still := inScope_leave within (Bool.not_eq_true' _ ▸ stays)
      exact .inr (awaited_iff.mpr ⟨m,marker,awaits_iff.mpr ⟨pending,ahead,still,all⟩⟩)
    · have same := leave_same (Bool.eq_false_iff.mpr leaves)
      have text : textsOf e (step e s (.deleteCategories ids)) old.row = textsOf e s old.row := by
        have kept : (s.categories.filter fun c => !ids.contains c.id).filter (fun c => old.row.categories.contains c.id) =
            s.categoriesOf old.row.categories := by
          rw [List.filter_filter]
          refine List.filter_congr ?_
          intro c _
          rw [Bool.eq_iff_iff,Bool.and_eq_true]
          refine ⟨And.left,fun member => ⟨member,?_⟩⟩
          rw [Bool.not_eq_true',Bool.eq_false_iff]
          exact fun gone => leaves (List.any_eq_true.mpr ⟨c.id,List.contains_iff_mem.mp member,gone⟩)
        exact textsOf_congr rfl (congrArg namesOf kept)
      unfold leave at same
      dsimp only
      rw [same,text]
      exact sound.fresh old was

theorem sound_commitWriting {w : Writing} (sound : Sound e s) (known : s.job p = some (.writing w))
    (steady : ∀ r ∈ w.rows, WriteStands s r ∨ awaited s r.row) : Sound e (commitWriting e s w) := by
  unfold commitWriting
  split
  · next all =>
    have positive := sound.writes _ (mem_job known) w rfl
    have faithful : w.Faithful := sound.faithful _ (mem_job known)
    refine ⟨sound.next,?_,?_,sound.categoryIds,sound.typeIds,sound.pks,sound.passed,sound.writes,sound.edits,sound.drains,sound.faithful,?_⟩
    · intro l there
      rcases List.mem_append.mp there with old | new
      · exact sound.positive l (List.mem_of_mem_filter old)
      · obtain ⟨r,written,rfl⟩ := List.mem_map.mp new
        exact positive r written
    · intro l there
      rcases List.mem_append.mp there with old | new
      · exact sound.refs l (List.mem_of_mem_filter old)
      · obtain ⟨r,written,rfl⟩ := List.mem_map.mp new
        exact List.all_eq_true.mp all r written
    · intro l there
      rcases List.mem_append.mp there with old | new
      · exact sound.fresh l (List.mem_of_mem_filter old)
      · obtain ⟨r,written,rfl⟩ := List.mem_map.mp new
        rcases steady r written with stands | waits
        · exact .inl (congrArg e.vector ((stands.texts faithful written).trans (textsOf_congr rfl rfl)))
        · exact .inr (awaited_stored.trans waits)
  · exact sound

theorem sound_put {w : Writing} {written : Reading} (sound : Sound e s) (known : s.job p = some (.writing w)) (first : 0 < written.row.id)
    (fields : written.fields = written.loaded.fieldsOf written.row.typeId)
    (names : written.categories = namesOf (written.named.categoriesOf written.row.categories)) : Sound e (s.set p (.writing (w.put written))) := by
  have before : w.Faithful := sound.faithful _ (mem_job known)
  have positive := sound.writes _ (mem_job known) w rfl
  have cases {other : Reading} (there : other ∈ (w.put written).rows) : other ∈ w.rows ∨ other = written :=
    (List.mem_append.mp there).imp List.mem_of_mem_filter List.mem_singleton.mp
  refine sound_set sound (fits_writing ⟨before.1,?_⟩ ?_)
  · intro other there
    rcases cases there with old | rfl
    · exact before.2 other old
    · exact ⟨fields,names⟩
  · intro other there
    rcases cases there with old | rfl
    · exact positive other old
    · exact first

theorem step_sound {action : Action} (sound : Sound e s) (steady : Steady s action) : Sound e (step e s action) := by
  cases action with
  | createType t => exact sound_createType sound t
  | createCategory c => exact sound_createCategory sound c
  | deleteCategories ids => exact sound_deleteCategories sound steady
  | editCategory id changes =>
      unfold step
      dsimp only
      split
      next copy found =>
        refine sound_begin sound ⟨trivial,nofun,?_,nofun,fun _ _ _ _ _ => rfl⟩
        intro _ _ same
        obtain ⟨rfl,rfl⟩ := Job.category.inj same
        exact sound.categoryIds copy (List.mem_of_find?_eq_some found)
      next => exact sound
  | editType id changes =>
      unfold step
      dsimp only
      split
      · exact sound_begin sound ⟨trivial,nofun,nofun,nofun,fun _ _ _ _ _ => rfl⟩
      · exact sound
  | beginWrite typeId =>
      refine sound_begin sound (fits_writing ⟨?_,List.forall_mem_nil _⟩ (List.forall_mem_nil _))
      intro type found
      have known : s.types.find? (·.id = typeId) = some type := found
      have here := List.find?_some known
      have same : type.id = typeId := of_decide_eq_true here
      unfold Tables.fieldsOf State.tables
      dsimp only
      rw [same,known]
      rfl
  | create p r =>
      unfold step
      dsimp only
      split
      next type loaded rows gone known =>
        have before : Writing.Faithful ⟨some type,loaded,rows,gone⟩ := sound.faithful _ (mem_job known)
        let new : Reading :=
          ⟨{r with id := s.nextListing,typeId := type.id},type.fields,namesOf (s.categoriesOf r.categories),loaded,s.tables⟩
        have put : Sound e (s.set p (.writing (Writing.put ⟨some type,loaded,rows,gone⟩ new))) :=
          sound_put sound known sound.next (before.1 type rfl) rfl
        exact sound_fits put (Nat.succ_pos _) fun _ there => fits_of_sound put there
      next => exact sound
  | rewrite p r =>
      unfold step
      dsimp only
      split
      next w known =>
        split
        · exact sound
        · next free =>
          have exists_ : s.listings.any (·.row.id = r.id) := by
            have both := Bool.or_eq_false_iff.mp (Bool.eq_false_iff.mpr free)
            exact Bool.not_eq_false' .. ▸ both.2
          obtain ⟨l,there,same⟩ := List.any_eq_true.mp exists_
          have first : 0 < r.id := (of_decide_eq_true same : l.row.id = r.id) ▸ sound.positive l there
          exact sound_put sound known first rfl rfl
      next => exact sound
  | remove p id =>
      unfold step
      dsimp only
      split
      next w known =>
        split
        · exact sound
        · exact sound_set sound (fits_writing (sound.faithful _ (mem_job known)) (sound.writes _ (mem_job known) w rfl))
      next => exact sound
  | drain limit =>
      unfold step
      dsimp only
      split
      next m found =>
        have there := List.mem_of_find?_eq_some found
        refine sound_begin sound ⟨trivial,nofun,nofun,?_,?_⟩
        · intro _ same
          obtain rfl := Job.drain.inj same
          refine ⟨marker_below sound there,?_⟩
          intro m' marker pk
          obtain rfl := marker_unique sound marker there pk
          exact ⟨sound.passed m' marker,rfl⟩
        · intro _ _ _ _ _
          exact Bool.or_eq_true .. ▸ .inr rfl
      next => exact sound
  | next p =>
      unfold step
      dsimp only
      split
      next d known => exact advance_sound sound known steady
      next => exact sound
  | commit p =>
      unfold Steady at steady
      dsimp only at steady
      unfold step
      dsimp only
      split
      next w known =>
        rw [known] at steady
        exact sound_close (sound_commitWriting sound known steady) p
      next copy changes known =>
        rw [known] at steady
        exact sound_close (sound_saveCategory sound (sound.edits _ (mem_job known) copy changes rfl) steady) p
      next copy changes known =>
        rw [known] at steady
        split
        · exact sound_close sound p
        · exact sound_close (sound_saveType sound steady) p
      next => exact sound
  | abort p => exact sound_close sound p

end steps

section consistency
variable {V : Type}

theorem start_sound (e : Engine V) : Sound e (start : State V) where
  next := Nat.one_pos
  positive _ there := nomatch there
  refs _ there := nomatch there
  categoryIds _ there := nomatch there
  typeIds _ there := nomatch there
  pks := rfl
  passed _ there := nomatch there
  writes _ there := nomatch there
  edits _ there := nomatch there
  drains _ there := nomatch there
  faithful _ there := nomatch there
  fresh _ there := nomatch there

theorem consistent_of_sound {e : Engine V} {s : State V} (sound : Sound e s) : Consistent e s := by
  intro quiet l there
  rcases sound.fresh l there with fresh | waits
  · exact fresh
  · obtain ⟨m,marker,awaits⟩ := awaited_iff.mp waits
    have done := List.all_eq_true.mp (Bool.and_eq_true .. ▸ quiet).2 m marker
    rw [(awaits_iff.mp awaits).1] at done
    cases done

-- In every run whose writes are made of what still stands, the index is consistent
-- whenever nothing is in progress and no marker is pending.
theorem index_consistent (e : Engine V) (actions : List Action) (steady : Runs.Along (step e) Steady start actions) :
    Runs.Along (step e) (fun s action => Consistent e (step e s action)) start actions :=
  Runs.along_keeps (step e) (fun _ _ => step_sound) (fun _ _ sound steady => consistent_of_sound (step_sound sound steady))
    (start_sound e) steady

instance decidableWriteStands (s : State V) (r : Reading) : Decidable (WriteStands s r) :=
  decidable_of_iff (_ ∧ _ ∧ _) ⟨fun ⟨schema,order,names⟩ => ⟨schema,order,names⟩,fun stands => ⟨stands.schema,stands.order,stands.names⟩⟩

instance (t : Tables) (r : Row) (t' : Tables) (r' : Row) : Decidable (alike t r t' r') := inferInstanceAs (Decidable (_ ∧ _))

instance decidableUpdateStands (s : State V) (r : Reading) (row : Row) : Decidable (UpdateStands s r row) :=
  decidable_of_iff (_ ∧ _) ⟨fun ⟨columns,names⟩ => ⟨columns,names⟩,fun stands => ⟨stands.columns,stands.names⟩⟩

instance decidableSteady (s : State V) : (action : Action) → Decidable (Steady s action)
  | .deleteCategories ids => inferInstanceAs (Decidable (∀ l ∈ s.listings, _ → _))
  | .next p => match known : s.job p with
      | some (.drain ⟨marker,_,_,_,.walking _ _ _ (r :: _)⟩) => decidable_of_iff (s.locked p r.row.id = false → ∀ l ∈ s.listings,
          l.row.id = r.row.id → UpdateStands s r l.row ∨ s.markers.any fun m => awaits s m l.row && m.pk ≠ marker) (by simp only [Steady,known])
      | some (.drain ⟨_,_,_,_,.walking _ _ _ []⟩) | some (.drain ⟨_,_,_,_,.collecting⟩) | some (.drain ⟨_,_,_,_,.reading _⟩)
      | some (.writing _) | some (.category _ _) | some (.type _ _) | none => .isTrue (by simp only [Steady,known])
  | .commit p => match known : s.job p with
      | some (.writing w) => decidable_of_iff (∀ r ∈ w.rows, WriteStands s r ∨ awaited s r.row) (by simp only [Steady,known])
      | some (.category copy changes) => decidable_of_iff (renames copy changes ∨ restored s copy changes ∨
          ∀ l ∈ s.listings, l.row.categories.contains copy.id → awaited s l.row) (by simp only [Steady,known])
      | some (.type copy changes) => decidable_of_iff (remakes copy changes ∨
          (∀ t ∈ s.types, t.id = copy.id → t.fields = (newFields changes).getD copy.fields) ∨
          ∀ l ∈ s.listings, l.row.typeId = copy.id → awaited s l.row) (by simp only [Steady,known])
      | some (.drain _) | none => .isTrue (by simp only [Steady,known])
  | .createType _ | .createCategory _ | .editCategory _ _ | .editType _ _ | .beginWrite _ | .create _ _ | .rewrite _ _ | .remove _ _
  | .drain _ | .abort _ => .isTrue trivial

end consistency

def plain : Engine Texts := ⟨fun _ => "",id⟩

def business : ListingType := ⟨1,"business","Business","Businesses",⟨"business".toList,by decide⟩,true,[]⟩

def bakeries : Category := ⟨1,1,⟨"bakeries".toList,by decide⟩,"Bakeries",none,0⟩

def oven : Row := ⟨1,1,"The Oven","","Leeds","",[],[1]⟩

def listed : List Action := [.createType business,.createCategory bakeries,.beginWrite 1,.create 1 oven,.commit 1]

theorem renamed_consistent : Runs.Along (step plain) (fun s action => Consistent plain (step plain s action)) start
    (listed ++ [.editCategory 1 ⟨some "Bakers",none,none,none⟩,.commit 2,.drain REINDEX_CHUNK,.next 3,.next 3,.next 3,.next 3,.next 3]) :=
  index_consistent plain _ (by decide +kernel)

-- A category's deletion leaves no marker: its name stays in its listings' vectors.
theorem deleted_inconsistent : ¬Runs.Along (step plain) (fun s action => Consistent plain (step plain s action)) start
    (listed ++ [.deleteCategories [1]]) := by
  intro all
  obtain ⟨_,consistent,_⟩ := (Runs.along_append ..).mp all
  revert consistent
  unfold Consistent
  decide +kernel

def spoken : Engine Texts := ⟨fun | .str text => text | _ => "",id⟩

def field (key : String) (keyed : isFieldKey key.toList = true) : FieldDescriptor := ⟨key,keyed,key,"text",false,true,true,none⟩

def bakery : ListingType := {business with fields := [field "specialities" (by decide),field "mood" (by decide)]}

-- A new listing's vector has its custom fields in the schema's order, the column in its own.
example : ¬Consistent spoken ([.createType bakery,.beginWrite 1,
    .create 1 {oven with customFields := [("specialities",.str "rye"),("mood",.str "calm")],categories := []},
    .commit 1].foldl (step spoken) start) := by
  unfold Consistent
  decide +kernel

end Osds.Directory.SearchIndex

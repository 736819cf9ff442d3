import Osds.Directory.Projection
import Mathlib.Data.List.Dedup
import Mathlib.Data.List.Sort

namespace Json

-- What Python's `==` compares: True is the number 1 and False is 0, and a dict has
-- no order.
mutual
def canon : Json → Json
  | .bool b => .num (if b then 1 else 0)
  | .arr items => .arr (canonItems items)
  | .obj fields => .obj (byKey (canonFields fields))
  | j => j

def canonItems : List Json → List Json
  | [] => []
  | j :: rest => canon j :: canonItems rest

def canonFields : List (String × Json) → List (String × Json)
  | [] => []
  | (key,value) :: rest => (key,canon value) :: canonFields rest
end

def same (a b : Json) : Bool := canon a = canon b

theorem same_exact (a b : Json) : same a b = true ↔ canon a = canon b := decide_eq_true_iff

theorem canonFields_values (fields : List (String × Json)) : canonFields fields = Dict.mapValues canon fields := by
  induction fields with
  | nil => rfl
  | cons field rest ih => exact congrArg (List.cons (field.1,field.2.canon)) ih

-- Equal as JSON, equal to Python.
mutual
theorem canon_norm (j : Json) : canon (norm j) = canon j := by
  cases j with
  | arr items => exact congrArg arr (canon_normItems items)
  | obj fields =>
      unfold norm canon
      rw [canonFields_values,← byKey_values,byKey_byKey,← canonFields_values,canon_normFields fields]
  | _ => rfl

theorem canon_normItems (items : List Json) : canonItems (normItems items) = canonItems items := by
  cases items with
  | nil => rfl
  | cons j rest => exact congrArg₂ List.cons (canon_norm j) (canon_normItems rest)

theorem canon_normFields (fields : List (String × Json)) : canonFields (normFields fields) = canonFields fields := by
  cases fields with
  | nil => rfl
  | cons field rest => exact congrArg₂ List.cons (congrArg (Prod.mk field.1) (canon_norm field.2)) (canon_normFields rest)
end

end Json

namespace Osds.Directory

-- A value that is missing and one that is None are one state.
def present : Option Json → Option Json
  | some .null => none
  | value => value

def equal (a b : Option Json) : Bool :=
  match present a,present b with
  | none,none => true
  | some x,some y => x.same y
  | _,_ => false

def leafOp (pointer : String) (bv av : Option Json) : List PatchOp :=
  if equal bv av then []
  else match present av,present bv with
    | none,_ => [.remove pointer]
    | some value,none => [.add pointer value]
    | some value,some _ => [.replace pointer value]

-- sorted(set(before) | set(after))
def keysOf (before after : List (String × Json)) : List String :=
  (before.map Prod.fst ++ after.map Prod.fst).dedup.insertionSort (· ≤ ·)

-- The children whose own children are leaves.
def recursed : List String := ["/location","/contact","/media","/provenance","/custom_fields"]

def diffLeaves (before after : List (String × Json)) (path : String) : List PatchOp :=
  (keysOf before after).flatMap fun key => leafOp (path ++ "/" ++ key) (before.lookup key) (after.lookup key)

def diffKey (pointer : String) (bv av : Option Json) : List PatchOp :=
  match bv,av with
  | some (.obj before),some (.obj after) =>
      if pointer ∈ recursed then diffLeaves before after pointer else leafOp pointer bv av
  | _,_ => leafOp pointer bv av

def diff (before after : List (String × Json)) : List PatchOp :=
  (keysOf before after).flatMap fun key => diffKey ("/" ++ key) (before.lookup key) (after.lookup key)

theorem mem_keysOf : key ∈ keysOf before after ↔ key ∈ before.map Prod.fst ∨ key ∈ after.map Prod.fst := by
  unfold keysOf
  rw [List.mem_insertionSort,List.mem_dedup,List.mem_append]

theorem lookup_none_of_not_mem {α : Type} {fields : List (String × α)} (absent : key ∉ fields.map Prod.fst) :
    fields.lookup key = none := by
  rw [List.lookup_eq_none_iff]
  intro field present
  have differ : key ≠ field.1 := fun same => absent (same ▸ List.mem_map_of_mem present)
  simpa using differ

theorem leafOp_nil : leafOp pointer bv av = [] ↔ equal bv av = true := by
  unfold leafOp
  split
  · simp [*]
  · next differ =>
      refine iff_of_false ?_ differ
      split <;> nofun

theorem diffLeaves_nil : diffLeaves before after path = [] ↔
    ∀ key, equal (before.lookup key) (after.lookup key) = true := by
  unfold diffLeaves
  rw [List.flatMap_eq_nil_iff]
  constructor
  · intro all key
    by_cases listed : key ∈ keysOf before after
    · exact leafOp_nil.mp (all key listed)
    · rw [mem_keysOf,not_or] at listed
      rw [lookup_none_of_not_mem listed.1,lookup_none_of_not_mem listed.2]
      rfl
  · intro all key _
    exact leafOp_nil.mpr (all key)

def Nested (pointer : String) (a b : Option Json) : Prop :=
  pointer ∈ recursed ∧ ∃ xs ys, a = some (.obj xs) ∧ b = some (.obj ys)

theorem diffKey_flat (flat : ¬Nested pointer a b) : diffKey pointer a b = leafOp pointer a b := by
  unfold diffKey
  split
  · next xs ys =>
      rw [if_neg fun listed => flat ⟨listed,xs,ys,rfl,rfl⟩]
  · rfl

theorem diffKey_nested (listed : pointer ∈ recursed) :
    diffKey pointer (some (.obj xs)) (some (.obj ys)) = diffLeaves xs ys pointer :=
  if_pos listed

theorem diffKey_leaf (flat : ∀ before, bv ≠ some (.obj before)) : diffKey pointer bv av = leafOp pointer bv av := by
  refine diffKey_flat fun nested => ?_
  obtain ⟨_,before,_,was,_⟩ := nested
  exact flat before was

theorem diffKey_nil (listed : pointer ∈ recursed)
    (none_ : diffKey pointer (some (.obj before)) (some (.obj after)) = []) (key : String) :
    equal (before.lookup key) (after.lookup key) = true := by
  rw [diffKey_nested listed] at none_
  exact diffLeaves_nil.mp none_ key

theorem diff_nil (none_ : diff before after = []) (key : String) :
    diffKey ("/" ++ key) (before.lookup key) (after.lookup key) = [] := by
  unfold diff at none_
  rw [List.flatMap_eq_nil_iff] at none_
  by_cases listed : key ∈ keysOf before after
  · exact none_ key listed
  · rw [mem_keysOf,not_or] at listed
    rw [lookup_none_of_not_mem listed.1,lookup_none_of_not_mem listed.2]
    exact leafOp_nil.mpr rfl

theorem equal_exact : equal a b = true ↔ (present a).map Json.canon = (present b).map Json.canon := by
  unfold equal
  cases present a <;> cases present b <;> simp [Json.same_exact]

theorem equal_some : equal (some x) (some y) = true ↔ x.canon = y.canon := by
  rw [equal_exact]
  cases x <;> cases y <;> simp [present,Json.canon]

theorem equal_text : equal (some (.ofOption .str a)) (some (.ofOption .str b)) = true ↔ a = b := by
  rw [equal_some]
  cases a <;> cases b <;> simp [Json.ofOption,Json.canon]

theorem equal_number : equal (some (.ofOption .num a)) (some (.ofOption .num b)) = true ↔ a = b := by
  rw [equal_some]
  cases a <;> cases b <;> simp [Json.ofOption,Json.canon]

theorem equal_str : equal (some (.str a)) (some (.str b)) = true ↔ a = b := by
  rw [equal_some]
  simp [Json.canon]

theorem equal_bool : equal (some (.bool a)) (some (.bool b)) = true ↔ a = b := by
  rw [equal_some]
  cases a <;> cases b <;> simp [Json.canon]

theorem equal_texts {xs ys : List String} : equal (some (.arr (xs.map .str))) (some (.arr (ys.map .str))) = true ↔ xs = ys := by
  rw [equal_some]
  simp only [Json.canon,Json.arr.injEq]
  induction xs generalizing ys with
  | nil => cases ys <;> simp [Json.canonItems]
  | cons x xs ih =>
      cases ys with
      | nil => simp [Json.canonItems]
      | cons y ys => simp [Json.canonItems,Json.canon,ih]

theorem present_clean {c : Option Json} (full : c ≠ some .null) : present c = c := by
  unfold present
  split
  · exact (full rfl).elim
  · rfl

theorem equal_clean {a b : Option Json} (full : a ≠ some .null) (full' : b ≠ some .null) :
    equal a b = true ↔ a.map Json.canon = b.map Json.canon := by
  rw [equal_exact,present_clean full,present_clean full']

section diffs

theorem equal_refl (value : Option Json) : equal value value = true := equal_exact.mpr rfl

theorem leafOp_refl (pointer : String) (value : Option Json) : leafOp pointer value value = [] :=
  leafOp_nil.mpr (equal_refl value)

theorem lookup_pairwise (R : String → Option Json → Option Json → Prop) {before after : List (String × Json)}
    (none_ : ∀ key, R key none none)
    (alike : List.Forall₂ (fun x y => x.1 = y.1 ∧ R x.1 (some x.2) (some y.2)) before after) (key : String) :
    R key (before.lookup key) (after.lookup key) := by
  induction alike with
  | nil => exact none_ key
  | @cons x y _ _ head _ ih =>
      obtain ⟨name,old⟩ := x
      obtain ⟨_,new⟩ := y
      obtain ⟨rfl,related⟩ := head
      by_cases same : key = name
      · subst same
        rw [List.lookup_cons_self,List.lookup_cons_self]
        exact related
      · have other : (key == name) = false := beq_false_of_ne same
        rw [List.lookup_cons,List.lookup_cons,other]
        exact ih

theorem diffLeaves_pairwise {before after : List (String × Json)}
    (alike : List.Forall₂ (fun x y => x.1 = y.1 ∧ equal (some x.2) (some y.2) = true) before after) (path : String) :
    diffLeaves before after path = [] :=
  diffLeaves_nil.mpr (lookup_pairwise (fun _ x y => equal x y = true) (fun _ => rfl) alike)

def Untouched (x y : String × Json) : Prop := x.1 = y.1 ∧ diffKey ("/" ++ x.1) (some x.2) (some y.2) = []

theorem diff_untouched {before after : List (String × Json)} (alike : List.Forall₂ Untouched before after) :
    diff before after = [] := by
  unfold diff
  rw [List.flatMap_eq_nil_iff]
  intro key _
  exact lookup_pairwise (fun key x y => diffKey ("/" ++ key) x y = []) (fun _ => leafOp_refl _ none) alike key

theorem diffKey_plain {pointer : String} (plain : pointer ∉ recursed) : diffKey pointer a b = leafOp pointer a b :=
  diffKey_flat fun nested => plain nested.1

theorem equal_of_diffKey {pointer : String} {bv av : Json} (plain : pointer ∉ recursed)
    (none_ : diffKey pointer (some bv) (some av) = []) : equal (some bv) (some av) = true := by
  rw [diffKey_plain plain] at none_
  exact leafOp_nil.mp none_

theorem untouched_leaf {key : String} {bv av : Json} (plain : "/" ++ key ∉ recursed) (alike : equal (some bv) (some av) = true) :
    Untouched (key,bv) (key,av) := by
  refine ⟨rfl,?_⟩
  rw [diffKey_plain plain]
  exact leafOp_nil.mpr alike

theorem untouched_branch {key : String} {before after : List (String × Json)} (listed : "/" ++ key ∈ recursed)
    (alike : List.Forall₂ (fun x y => x.1 = y.1 ∧ equal (some x.2) (some y.2) = true) before after) :
    Untouched (key,.obj before) (key,.obj after) := by
  refine ⟨rfl,?_⟩
  rw [diffKey_nested listed]
  exact diffLeaves_pairwise alike _

theorem forall_same (fields : List (String × Json)) :
    List.Forall₂ (fun x y : String × Json => x.1 = y.1 ∧ equal (some x.2) (some y.2) = true) fields fields :=
  List.forall₂_same.mpr fun _ _ => ⟨rfl,equal_refl _⟩

end diffs

def Projection.Clean (p : Projection) : Prop := ∀ field ∈ p.customFields, field.2 ≠ .null

theorem Projection.Clean.lookup {p : Projection} (clean : p.Clean) (key : String) :
    p.customFields.lookup key ≠ some .null := by
  intro found
  obtain ⟨before,after,split,_⟩ := List.lookup_eq_some_iff.mp found
  exact clean (key,.null) (split ▸ List.mem_append_right _ List.mem_cons_self) rfl

-- Equal projections, as Python compares them and with the media aside.
structure Projection.Same (p q : Projection) : Prop where
  rest : {p with customFields := [],media := .null} = {q with customFields := [],media := .null}
  customFields : ∀ key, (p.customFields.lookup key).map Json.canon = (q.customFields.lookup key).map Json.canon

theorem Projection.Same.refl (p : Projection) : p.Same p := ⟨rfl,fun _ => rfl⟩

theorem Projection.Same.symm {p q : Projection} (same : p.Same q) : q.Same p :=
  ⟨same.rest.symm,fun key => (same.customFields key).symm⟩

theorem Projection.Same.trans {p q r : Projection} (first : p.Same q) (second : q.Same r) : p.Same r :=
  ⟨first.rest.trans second.rest,fun key => (first.customFields key).trans (second.customFields key)⟩

theorem Projection.Same.slug {p q : Projection} (same : p.Same q) : p.slug = q.slug :=
  (Projection.mk.inj same.rest).1

theorem location_of_diff {a b : Location} (none_ : diffKey "/location" (some a.json) (some b.json) = []) : a = b := by
  have leaves := diffKey_nil (by decide) none_
  have line1 := equal_text.mp (leaves "address_line1")
  have line2 := equal_text.mp (leaves "address_line2")
  have locality := equal_text.mp (leaves "locality")
  have region := equal_text.mp (leaves "region")
  have postal := equal_text.mp (leaves "postal_code")
  have country := equal_text.mp (leaves "country")
  have lat := equal_number.mp (leaves "lat")
  have lon := equal_number.mp (leaves "lon")
  have precision := equal_str.mp (leaves "geo_precision")
  cases a
  cases b
  simp_all

theorem contact_of_diff {a b : Contact} (social : a.social = b.social)
    (none_ : diffKey "/contact" (some a.json) (some b.json) = []) : a = b := by
  have leaves := diffKey_nil (by decide) none_
  have phone := equal_text.mp (leaves "phone_e164")
  have email := equal_text.mp (leaves "email")
  have website := equal_text.mp (leaves "website")
  cases a
  cases b
  simp_all

theorem same_of_diff {p q : Projection} (clean : p.Clean) (clean' : q.Clean) (social : p.contact.social = q.contact.social)
    (profiles : p.externalProfiles = q.externalProfiles) (attributes : p.attributes = q.attributes)
    (none_ : diff p.fields q.fields = []) : p.Same q := by
  have keys := diff_nil none_
  have slug := equal_str.mp (leafOp_nil.mp (keys "slug"))
  have name := equal_str.mp (leafOp_nil.mp (keys "name"))
  have flat : ∀ before, some (Json.ofOption Json.str p.description) ≠ some (.obj before) := by
    cases p.description <;> nofun
  have description := equal_text.mp (leafOp_nil.mp ((diffKey_leaf flat).symm.trans (keys "description")))
  have categories := equal_texts.mp (leafOp_nil.mp (keys "categories"))
  have location := location_of_diff (keys "location")
  have contact := contact_of_diff social (keys "contact")
  have reviews := equal_bool.mp (leafOp_nil.mp (keys "reviews_disabled"))
  have provenance := diffKey_nil (by decide) (keys "provenance")
  have source := equal_str.mp (provenance "source")
  have notes := equal_text.mp (provenance "notes")
  have fields := diffKey_nil (by decide) (keys "custom_fields")
  refine ⟨?_,fun key => (equal_clean (clean.lookup key) (clean'.lookup key)).mp (fields key)⟩
  rw [Projection.mk.injEq]
  exact ⟨slug,name,description,categories,location,contact,profiles,attributes,rfl,reviews,rfl,source,notes⟩

end Osds.Directory

import Osds.Lib.Json

namespace JsonPlaces

-- The places of a document: from its root, a key or an index at a time.
inductive Step where
  | key (name : String)
  | item (n : Nat)
  deriving DecidableEq, Repr

abbrev Place := List Step

def child : Step → Json → Option Json
  | .key name,.obj fields => fields.lookup name
  | .item n,.arr items => items[n]?
  | _,_ => none

def value : Place → Json → Option Json
  | [],j => some j
  | s :: rest,j => (child s j).bind (value rest)

def shape : Json → Json
  | .obj fields => .obj (fields.map fun field => (field.1,.null))
  | .arr items => .arr (items.map fun _ => .null)
  | j => j

def Place.under (first : Step) : Place → Option Place
  | s :: rest => if s = first then some rest else none
  | [] => none

def inside (s : Step) (places : List Place) : List Place := places.filterMap (Place.under s)

-- The document with null at some places.
mutual
def nullAt (places : List Place) : Json → Json
  | .obj fields => if [] ∈ places then .null else .obj (nullFields places fields)
  | .arr items => if [] ∈ places then .null else .arr (nullItems places 0 items)
  | j => if [] ∈ places then .null else j

def nullFields (places : List Place) : List (String × Json) → List (String × Json)
  | [] => []
  | (name,j) :: rest => (name,nullAt (inside (.key name) places) j) :: nullFields places rest

def nullItems (places : List Place) (n : Nat) : List Json → List Json
  | [] => []
  | j :: rest => nullAt (inside (.item n) places) j :: nullItems places (n+1) rest
end

-- Each object of a document holds each key once.
mutual
def Distinct : Json → Prop
  | .obj fields => (fields.map Prod.fst).Nodup ∧ DistinctFields fields
  | .arr items => DistinctItems items
  | _ => True

def DistinctFields : List (String × Json) → Prop
  | [] => True
  | (_,j) :: rest => Distinct j ∧ DistinctFields rest

def DistinctItems : List Json → Prop
  | [] => True
  | j :: rest => Distinct j ∧ DistinctItems rest
end

theorem mem_inside {places : List Place} : p ∈ inside s places ↔ s :: p ∈ places := by
  unfold inside
  rw [List.mem_filterMap]
  constructor
  · intro there
    obtain ⟨q,listed,equal⟩ := there
    cases q with
    | nil => cases equal
    | cons t rest =>
        unfold Place.under at equal
        dsimp only at equal
        split at equal
        · next same =>
            cases equal
            rw [← same]
            exact listed
        · cases equal
  · intro listed
    exact ⟨_,listed,if_pos rfl⟩

theorem inside_append (s : Step) (first second : List Place) :
    inside s (first ++ second) = inside s first ++ inside s second := List.filterMap_append

theorem nullFields_map (places : List Place) (fields : List (String × Json)) :
    nullFields places fields = fields.map fun field => (field.1,nullAt (inside (.key field.1) places) field.2) := by
  induction fields with
  | nil => rw [nullFields,List.map_nil]
  | cons field rest ih => rw [nullFields,ih,List.map_cons]

theorem nullItems_length (places : List Place) (n : Nat) (items : List Json) : (nullItems places n items).length = items.length := by
  induction items generalizing n with
  | nil => rw [nullItems]
  | cons j rest ih => rw [nullItems,List.length_cons,List.length_cons,ih]

theorem nullItems_get (places : List Place) (n : Nat) (items : List Json) (i : Nat) :
    (nullItems places n items)[i]? = items[i]?.map (nullAt (inside (.item (n+i)) places)) := by
  induction items generalizing n i with
  | nil => rw [nullItems]; rfl
  | cons j rest ih =>
      rw [nullItems]
      cases i with
      | zero => rfl
      | succ i =>
          rw [List.getElem?_cons_succ,List.getElem?_cons_succ,ih,Nat.add_right_comm]
          rfl

theorem lookup_nullFields (places : List Place) (fields : List (String × Json)) (name : String) :
    (nullFields places fields).lookup name = (fields.lookup name).map (nullAt (inside (.key name) places)) := by
  induction fields with
  | nil => rw [nullFields]; rfl
  | cons field rest ih =>
      obtain ⟨key,j⟩ := field
      rw [nullFields,List.lookup_cons,List.lookup_cons]
      cases same : name == key with
      | true =>
          rw [eq_of_beq same]
          rfl
      | false => exact ih

theorem nullAt_obj (outside : [] ∉ places) (fields : List (String × Json)) :
    nullAt places (.obj fields) = .obj (nullFields places fields) := by
  rw [nullAt,if_neg outside]

theorem nullAt_arr (outside : [] ∉ places) (items : List Json) :
    nullAt places (.arr items) = .arr (nullItems places 0 items) := by
  rw [nullAt,if_neg outside]

theorem nullAt_root (root : [] ∈ places) (j : Json) : nullAt places j = .null := by
  rw [nullAt.eq_def]
  cases j <;> exact if_pos root

def Leaf : Json → Prop
  | .obj _ => False
  | .arr _ => False
  | _ => True

theorem nullAt_leaf (outside : [] ∉ places) (leaf : Leaf j) : nullAt places j = j := by
  rw [nullAt.eq_def]
  cases j with
  | obj fields => exact leaf.elim
  | arr items => exact leaf.elim
  | _ => exact if_neg outside

theorem kinds (j : Json) : (∃ fields, j = .obj fields) ∨ (∃ items, j = .arr items) ∨ Leaf j := by
  cases j with
  | obj fields => exact .inl ⟨fields,rfl⟩
  | arr items => exact .inr (.inl ⟨items,rfl⟩)
  | _ => exact .inr (.inr trivial)

theorem child_leaf (leaf : Leaf j) (s : Step) : child s j = none := by
  cases j with
  | obj fields => exact leaf.elim
  | arr items => exact leaf.elim
  | _ => cases s <;> rfl

theorem nullAt_shape (outside : [] ∉ places) (j : Json) : shape (nullAt places j) = shape j := by
  rcases kinds j with ⟨fields,rfl⟩ | ⟨items,rfl⟩ | leaf
  · rw [nullAt_obj outside,shape,shape,nullFields_map,List.map_map]
    rfl
  · rw [nullAt_arr outside,shape,shape,List.map_const',List.map_const',nullItems_length]
  · rw [nullAt_leaf outside leaf]

theorem child_nullAt {places : List Place} (outside : [] ∉ places) (s : Step) (j : Json) :
    child s (nullAt places j) = (child s j).map (nullAt (inside s places)) := by
  rcases kinds j with ⟨fields,rfl⟩ | ⟨items,rfl⟩ | leaf
  · rw [nullAt_obj outside]
    cases s with
    | key name => exact lookup_nullFields places fields name
    | item n => rfl
  · rw [nullAt_arr outside]
    cases s with
    | key name => rfl
    | item n =>
        have shifted := nullItems_get places 0 items n
        rw [Nat.zero_add] at shifted
        exact shifted
  · rw [nullAt_leaf outside leaf,child_leaf leaf]
    rfl

theorem value_kept {places : List Place} {p : Place} {j : Json} (clear : ∀ q ∈ places, ¬q <+: p) :
    (value p (nullAt places j)).map shape = (value p j).map shape := by
  have outside : [] ∉ places := fun root => clear [] root List.nil_prefix
  induction p generalizing places j with
  | nil => exact congrArg some (nullAt_shape outside j)
  | cons s rest ih =>
      have below : ∀ q ∈ inside s places, ¬q <+: rest := by
        intro q there before
        exact clear _ (mem_inside.mp there) (List.cons_prefix_cons.mpr ⟨rfl,before⟩)
      rw [value,value,child_nullAt outside]
      cases child s j with
      | none => rfl
      | some inner => exact ih below (fun root => below [] root List.nil_prefix)

theorem value_held {places : List Place} {p : Place} {j x : Json} (held : p ∈ places) (there : value p j = some x)
    (least : ∀ q ∈ places, q <+: p → q = p) : value p (nullAt places j) = some .null := by
  induction p generalizing places j with
  | nil => rw [nullAt_root held]; rfl
  | cons s rest ih =>
      have outside : [] ∉ places := by
        intro root
        cases least [] root List.nil_prefix
      rw [value] at there
      rw [value,child_nullAt outside]
      cases first : child s j with
      | none =>
          rw [first] at there
          cases there
      | some inner =>
          rw [first] at there
          refine ih (mem_inside.mpr held) there ?_
          intro q listed before
          have same := least _ (mem_inside.mp listed) (List.cons_prefix_cons.mpr ⟨rfl,before⟩)
          exact (List.cons.inj same).2

mutual
theorem nullAt_nil (j : Json) : nullAt [] j = j := by
  cases j with
  | obj fields => rw [nullAt_obj List.not_mem_nil,nullFields_nil]
  | arr items => rw [nullAt_arr List.not_mem_nil,nullItems_nil]
  | _ => rfl

theorem nullFields_nil (fields : List (String × Json)) : nullFields [] fields = fields := by
  cases fields with
  | nil => rw [nullFields]
  | cons field rest =>
      rw [nullFields,nullFields_nil rest]
      exact congrArg (fun j => (field.1,j) :: rest) (nullAt_nil field.2)

theorem nullItems_nil (n : Nat) (items : List Json) : nullItems [] n items = items := by
  cases items with
  | nil => rw [nullItems]
  | cons j rest =>
      rw [nullItems,nullItems_nil (n+1) rest]
      exact congrArg (· :: rest) (nullAt_nil j)
end

theorem append_leaf {first second : List Place} (root : [] ∉ first) (again : [] ∉ second) (neither : [] ∉ first ++ second)
    (leaf : Leaf j) : nullAt second (nullAt first j) = nullAt (first ++ second) j := by
  rw [nullAt_leaf root leaf,nullAt_leaf again leaf,nullAt_leaf neither leaf]

-- One after the other is both at once.
mutual
theorem nullAt_append (first second : List Place) (j : Json) : nullAt second (nullAt first j) = nullAt (first ++ second) j := by
  by_cases root : [] ∈ first
  · rw [nullAt_root root,nullAt_root (List.mem_append_left _ root)]
    by_cases again : [] ∈ second
    · exact nullAt_root again _
    · exact nullAt_leaf again trivial
  · by_cases again : [] ∈ second
    · rw [nullAt_root again,nullAt_root (List.mem_append_right _ again)]
    · have neither : [] ∉ first ++ second := by
        intro there
        rcases List.mem_append.mp there with one | two
        · exact root one
        · exact again two
      cases j with
      | obj fields => rw [nullAt_obj root,nullAt_obj again,nullAt_obj neither,nullFields_append]
      | arr items => rw [nullAt_arr root,nullAt_arr again,nullAt_arr neither,nullItems_append]
      | _ => exact append_leaf root again neither trivial

theorem nullFields_append (first second : List Place) (fields : List (String × Json)) :
    nullFields second (nullFields first fields) = nullFields (first ++ second) fields := by
  cases fields with
  | nil => rw [nullFields,nullFields,nullFields]
  | cons field rest =>
      obtain ⟨name,j⟩ := field
      rw [nullFields,nullFields,nullFields,nullFields_append first second rest,nullAt_append _ _ j,inside_append]

theorem nullItems_append (first second : List Place) (n : Nat) (items : List Json) :
    nullItems second n (nullItems first n items) = nullItems (first ++ second) n items := by
  cases items with
  | nil => rw [nullItems,nullItems,nullItems]
  | cons j rest =>
      rw [nullItems,nullItems,nullItems,nullItems_append first second (n+1) rest,nullAt_append _ _ j,inside_append]
end

theorem congr_leaf {first second : List Place} (root : [] ∉ first) (outside : [] ∉ second) (leaf : Leaf j) :
    nullAt first j = nullAt second j := by
  rw [nullAt_leaf root leaf,nullAt_leaf outside leaf]

-- Only which places are listed counts.
mutual
theorem nullAt_congr {first second : List Place} (same : ∀ p, p ∈ first ↔ p ∈ second) (j : Json) :
    nullAt first j = nullAt second j := by
  by_cases root : [] ∈ first
  · rw [nullAt_root root,nullAt_root ((same []).mp root)]
  · have outside : [] ∉ second := fun there => root ((same []).mpr there)
    cases j with
    | obj fields => rw [nullAt_obj root,nullAt_obj outside,nullFields_congr same]
    | arr items => rw [nullAt_arr root,nullAt_arr outside,nullItems_congr same]
    | _ => exact congr_leaf root outside trivial

theorem nullFields_congr {first second : List Place} (same : ∀ p, p ∈ first ↔ p ∈ second) (fields : List (String × Json)) :
    nullFields first fields = nullFields second fields := by
  cases fields with
  | nil => rw [nullFields,nullFields]
  | cons field rest =>
      have below : ∀ p, p ∈ inside (.key field.1) first ↔ p ∈ inside (.key field.1) second := by
        intro p
        rw [mem_inside,mem_inside,same]
      rw [nullFields,nullFields,nullFields_congr same rest,nullAt_congr below field.2]

theorem nullItems_congr {first second : List Place} (same : ∀ p, p ∈ first ↔ p ∈ second) (n : Nat) (items : List Json) :
    nullItems first n items = nullItems second n items := by
  cases items with
  | nil => rw [nullItems,nullItems]
  | cons j rest =>
      have below : ∀ p, p ∈ inside (.item n) first ↔ p ∈ inside (.item n) second := by
        intro p
        rw [mem_inside,mem_inside,same]
      rw [nullItems,nullItems,nullItems_congr same (n+1) rest,nullAt_congr below j]
end

theorem nullAt_field {fields : List (String × Json)} (distinct : (fields.map Prod.fst).Nodup)
    (there : fields.lookup name = some j) (places : List Place) :
    nullAt (places.map (.key name :: ·)) (.obj fields) =
      .obj (fields.map fun field => if field.1 = name then (name,nullAt places j) else field) := by
  have outside : [] ∉ places.map (Step.key name :: ·) := by
    intro root
    obtain ⟨_,_,absurd⟩ := List.mem_map.mp root
    cases absurd
  rw [nullAt_obj outside,nullFields_map]
  congr 1
  apply List.map_congr_left
  intro field listed
  obtain ⟨key,x⟩ := field
  by_cases same : key = name
  · subst same
    rw [if_pos rfl]
    have found := Dict.lookup_distinct distinct listed
    rw [there] at found
    cases found
    congr 1
    apply nullAt_congr
    intro p
    rw [mem_inside,List.mem_map]
    constructor
    · intro listed
      obtain ⟨_,there,same⟩ := listed
      cases same
      exact there
    · intro there
      exact ⟨p,there,rfl⟩
  · rw [if_neg same]
    congr 1
    refine (nullAt_congr ?_ x).trans (nullAt_nil x)
    intro p
    rw [mem_inside,List.mem_map]
    refine iff_of_false ?_ List.not_mem_nil
    intro listed
    obtain ⟨_,_,absurd⟩ := listed
    cases absurd
    exact same rfl

theorem nullAt_items {items : List Json} {places : List Place} {each : Nat → Json → List Place}
    (listed : ∀ p, p ∈ places ↔ ∃ i x q, items[i]? = some x ∧ q ∈ each i x ∧ p = .item i :: q) :
    nullAt places (.arr items) = .arr (items.mapIdx fun i x => nullAt (each i x) x) := by
  have outside : [] ∉ places := by
    intro root
    obtain ⟨_,_,_,_,_,absurd⟩ := (listed []).mp root
    cases absurd
  rw [nullAt_arr outside]
  congr 1
  apply List.ext_getElem?
  intro i
  rw [nullItems_get,Nat.zero_add,List.getElem?_mapIdx]
  cases there : items[i]? with
  | none => rfl
  | some x =>
      refine congrArg some (nullAt_congr ?_ x)
      intro p
      rw [mem_inside,listed]
      constructor
      · intro found
        obtain ⟨_,y,q,at_,held,same⟩ := found
        cases same
        rw [there] at at_
        cases at_
        exact held
      · intro held
        exact ⟨i,x,p,there,held,rfl⟩

theorem Distinct.field {fields : List (String × Json)} (distinct : DistinctFields fields) (listed : (name,j) ∈ fields) :
    Distinct j := by
  induction fields with
  | nil => cases listed
  | cons field rest ih =>
      rw [DistinctFields] at distinct
      rcases List.mem_cons.mp listed with same | later
      · cases same
        exact distinct.1
      · exact ih distinct.2 later

theorem Distinct.item {items : List Json} (distinct : DistinctItems items) (listed : j ∈ items) : Distinct j := by
  induction items with
  | nil => cases listed
  | cons first rest ih =>
      rw [DistinctItems] at distinct
      rcases List.mem_cons.mp listed with same | later
      · cases same
        exact distinct.1
      · exact ih distinct.2 later

mutual
theorem distinct_nullAt (places : List Place) (j : Json) (distinct : Distinct j) : Distinct (nullAt places j) := by
  by_cases root : [] ∈ places
  · rw [nullAt_root root]
    exact trivial
  · cases j with
    | obj fields =>
        rw [Distinct] at distinct
        rw [nullAt_obj root,Distinct]
        refine ⟨?_,distinct_nullFields places fields distinct.2⟩
        rw [nullFields_map,List.map_map]
        exact distinct.1
    | arr items =>
        rw [Distinct] at distinct
        rw [nullAt_arr root,Distinct]
        exact distinct_nullItems places 0 items distinct
    | _ =>
        rw [nullAt.eq_def]
        dsimp only
        rw [if_neg root]
        exact distinct

theorem distinct_nullFields (places : List Place) (fields : List (String × Json)) (distinct : DistinctFields fields) :
    DistinctFields (nullFields places fields) := by
  cases fields with
  | nil =>
      rw [nullFields,DistinctFields]
      trivial
  | cons field rest =>
      rw [DistinctFields] at distinct
      rw [nullFields,DistinctFields]
      exact ⟨distinct_nullAt _ field.2 distinct.1,distinct_nullFields places rest distinct.2⟩

theorem distinct_nullItems (places : List Place) (n : Nat) (items : List Json) (distinct : DistinctItems items) :
    DistinctItems (nullItems places n items) := by
  cases items with
  | nil =>
      rw [nullItems,DistinctItems]
      trivial
  | cons j rest =>
      rw [DistinctItems] at distinct
      rw [nullItems,DistinctItems]
      exact ⟨distinct_nullAt _ j distinct.1,distinct_nullItems places (n+1) rest distinct.2⟩
end

def matched : List String → Json → List Place
  | key :: rest,.obj fields => fields.flatMap fun (name,j) =>
      if key = "*" ∨ key = name then
        match rest with
        | [] => [[.key name]]
        | _ :: _ => (matched rest j).map (.key name :: ·)
      else []
  | _,_ => []

def Clear : List String → Place → Prop
  | key :: rest,.key name :: below => key = "*" ∨ key = name → Clear rest below
  | _ :: _,[] => False
  | _,_ => True

def apart : List String → List String → Bool
  | a :: rest,b :: rest' => (a ≠ "*" && b ≠ "*" && a ≠ b) || apart rest rest'
  | _,_ => false

theorem matched_cons {fields : List (String × Json)} {p : Place} : p ∈ matched (key :: rest) (.obj fields) ↔
    ∃ name j, (name,j) ∈ fields ∧ (key = "*" ∨ key = name) ∧
      (rest = [] ∧ p = [.key name] ∨ rest ≠ [] ∧ ∃ q ∈ matched rest j, p = .key name :: q) := by
  rw [matched,List.mem_flatMap]
  constructor
  · intro there
    obtain ⟨⟨name,j⟩,listed,found⟩ := there
    dsimp only at found
    split at found
    · next hit =>
        refine ⟨name,j,listed,hit,?_⟩
        cases rest with
        | nil => exact .inl ⟨rfl,List.mem_singleton.mp found⟩
        | cons next later =>
            obtain ⟨q,below,same⟩ := List.mem_map.mp found
            exact .inr ⟨List.cons_ne_nil _ _,q,below,same.symm⟩
    · cases found
  · intro found
    obtain ⟨name,j,listed,hit,ends⟩ := found
    refine ⟨(name,j),listed,?_⟩
    dsimp only
    rw [if_pos hit]
    cases rest with
    | nil =>
        rcases ends with ⟨_,same⟩ | ⟨absurd,_⟩
        · exact List.mem_singleton.mpr same
        · exact (absurd rfl).elim
    | cons next later =>
        rcases ends with ⟨absurd,_⟩ | ⟨_,q,below,same⟩
        · cases absurd
        · exact List.mem_map.mpr ⟨q,below,same.symm⟩

theorem matched_leaf (absent : ∀ fields, j ≠ .obj fields) (path : List String) : matched path j = [] := by
  cases path with
  | nil => rfl
  | cons key rest =>
      cases j with
      | obj fields => exact (absent fields rfl).elim
      | _ => rfl

theorem matched_outside (path : List String) (j : Json) : [] ∉ matched path j := by
  intro root
  rcases kinds j with ⟨fields,rfl⟩ | other
  · cases path with
    | nil => cases root
    | cons key rest =>
        obtain ⟨name,x,_,_,ends⟩ := matched_cons.mp root
        rcases ends with ⟨_,absurd⟩ | ⟨_,_,_,absurd⟩
        · cases absurd
        · cases absurd
  · rw [matched_leaf ?_ path] at root
    · cases root
    · intro fields same
      subst same
      rcases other with ⟨_,absurd⟩ | absurd
      · cases absurd
      · exact absurd

-- Nulls elsewhere do not move the places of a path.
theorem matched_nullAt {places : List Place} (clear : ∀ q ∈ places, Clear path q) (j : Json) :
    matched path (nullAt places j) = matched path j := by
  induction path generalizing places j with
  | nil => rfl
  | cons key rest ih =>
      have outside : [] ∉ places := fun root => clear [] root
      rcases kinds j with ⟨fields,rfl⟩ | ⟨items,rfl⟩ | leaf
      · rw [nullAt_obj outside,nullFields_map,matched,matched,List.flatMap_map]
        congr 1
        funext field
        obtain ⟨name,x⟩ := field
        dsimp only
        split
        · next hit =>
            cases rest with
            | nil => rfl
            | cons next later =>
                refine congrArg (List.map _) (ih ?_ x)
                intro q below
                exact clear _ (mem_inside.mp below) hit
        · rfl
      · rw [nullAt_arr outside]
        rfl
      · rw [nullAt_leaf outside leaf]

theorem apart_clear {path path' : List String} (parted : apart path path' = true) (j : Json) :
    ∀ q ∈ matched path' j, Clear path q := by
  induction path' generalizing path j with
  | nil =>
      intro q there
      cases there
  | cons b rest' ih =>
      cases path with
      | nil => cases parted
      | cons a rest =>
          intro q there
          rcases kinds j with ⟨fields,rfl⟩ | ⟨items,rfl⟩ | leaf
          · obtain ⟨name,x,_,hit,ends⟩ := matched_cons.mp there
            have inner : (a = "*" ∨ a = name) → apart rest rest' = true := by
              intro hit'
              rw [apart,Bool.or_eq_true] at parted
              rcases parted with heads | deeper
              · simp only [Bool.and_eq_true,decide_eq_true_eq] at heads
                obtain ⟨⟨plain,plain'⟩,differ⟩ := heads
                exact (differ ((hit'.resolve_left plain).trans (hit.resolve_left plain').symm)).elim
              · exact deeper
            rcases ends with ⟨last,rfl⟩ | ⟨_,below,listed,rfl⟩
            · intro hit'
              have absurd := inner hit'
              subst last
              cases rest <;> cases absurd
            · intro hit'
              exact ih (inner hit') x below listed
          · cases there
          · rw [matched_leaf (fun fields same => by subst same; exact leaf)] at there
            cases there

theorem matched_length {p : Place} (listed : p ∈ matched path j) : p.length = path.length := by
  induction path generalizing p j with
  | nil => cases listed
  | cons key rest ih =>
      rcases kinds j with ⟨fields,rfl⟩ | ⟨items,rfl⟩ | leaf
      · obtain ⟨name,x,_,_,ends⟩ := matched_cons.mp listed
        rcases ends with ⟨last,rfl⟩ | ⟨_,q,below,rfl⟩
        · rw [last]
          rfl
        · rw [List.length_cons,List.length_cons,ih below]
      · cases listed
      · rw [matched_leaf (fun fields same => by subst same; exact leaf)] at listed
        cases listed

theorem matched_keys {p : Place} (listed : p ∈ matched path j) : ∃ name rest, p = .key name :: rest := by
  cases path with
  | nil => cases listed
  | cons key rest =>
      rcases kinds j with ⟨fields,rfl⟩ | ⟨items,rfl⟩ | leaf
      · obtain ⟨name,x,_,_,ends⟩ := matched_cons.mp listed
        rcases ends with ⟨_,rfl⟩ | ⟨_,q,_,rfl⟩
        · exact ⟨name,[],rfl⟩
        · exact ⟨name,q,rfl⟩
      · cases listed
      · rw [matched_leaf (fun fields same => by subst same; exact leaf)] at listed
        cases listed

theorem matched_value {p : Place} (distinct : Distinct j) (listed : p ∈ matched path j) : (value p j).isSome := by
  induction path generalizing p j with
  | nil => cases listed
  | cons key rest ih =>
      rcases kinds j with ⟨fields,rfl⟩ | ⟨items,rfl⟩ | leaf
      · rw [Distinct] at distinct
        obtain ⟨name,x,there,_,ends⟩ := matched_cons.mp listed
        have found : child (.key name) (.obj fields) = some x := Dict.lookup_distinct distinct.1 there
        rcases ends with ⟨_,rfl⟩ | ⟨_,q,below,rfl⟩
        · rw [value,found]
          rfl
        · rw [value,found]
          exact ih (Distinct.field distinct.2 there) below
      · cases listed
      · rw [matched_leaf (fun fields same => by subst same; exact leaf)] at listed
        cases listed

theorem clear_least {p q : Place} (clear : Clear path q) (listed : p ∈ matched path j) (before : q <+: p) : q = p := by
  induction path generalizing p q j with
  | nil => cases listed
  | cons key rest ih =>
      rcases kinds j with ⟨fields,rfl⟩ | ⟨items,rfl⟩ | leaf
      · obtain ⟨name,x,_,hit,ends⟩ := matched_cons.mp listed
        cases q with
        | nil => exact clear.elim
        | cons s below =>
            rcases ends with ⟨_,rfl⟩ | ⟨_,p',inner,rfl⟩
            · obtain ⟨same,later⟩ := List.cons_prefix_cons.mp before
              rw [same,List.prefix_nil.mp later]
            · obtain ⟨same,later⟩ := List.cons_prefix_cons.mp before
              subst same
              rw [ih (clear hit) inner later]
      · cases listed
      · rw [matched_leaf (fun fields same => by subst same; exact leaf)] at listed
        cases listed

end JsonPlaces

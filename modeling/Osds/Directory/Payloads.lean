import Osds.Lib.Dict
import Osds.Directory.Patch
import Mathlib.Algebra.Group.Nat.Defs
import Mathlib.Data.Rat.Defs

namespace Osds.Directory.Payloads

-- A finite float of Python: a sign, 53 bits and a power of two.
structure Double where
  negative : Bool
  significand : Nat
  exponent : Int
  narrow : significand < 2 ^ 53
  ranged : -1074 ≤ exponent ∧ exponent ≤ 971
  deriving DecidableEq

def Double.value (x : Double) : Rat := (if x.negative then -1 else 1) * x.significand * (2 : Rat) ^ x.exponent

-- A document as `json.loads` gives it. A dict holds each key once.
inductive Doc where
  | null
  | bool (b : Bool)
  | int (n : Int)
  | float (x : Double)
  | str (s : String)
  | arr (items : List Doc)
  | obj (fields : List (String × Doc))

abbrev Fields := List (String × Doc)

namespace Doc

def truthy : Doc → Bool
  | .null => false
  | .bool b => b
  | .int n => n ≠ 0
  | .float x => x.significand ≠ 0
  | .str s => s ≠ ""
  | .arr items => !items.isEmpty
  | .obj fields => !fields.isEmpty

def orElse (value other : Doc) : Doc := if value.truthy then value else other

def isScalar : Doc → Bool
  | .arr _ => false
  | .obj _ => false
  | _ => true

def isNull : Doc → Bool
  | .null => true
  | _ => false

def string : Doc → Option String
  | .str s => some s
  | _ => none

def sortFields (fields : List (String × Json)) : List (String × Json) := fields.insertionSort (·.1 ≤ ·.1)

-- What `==` sees of a document: numbers by their values, and dicts without an order.
mutual
def json : Doc → Json
  | .null => .null
  | .bool b => .bool b
  | .int n => .num n
  | .float x => .num x.value
  | .str s => .str s
  | .arr items => .arr (jsonItems items)
  | .obj fields => .obj (sortFields (jsonFields fields))

def jsonItems : List Doc → List Json
  | [] => []
  | d :: rest => json d :: jsonItems rest

def jsonFields : Fields → List (String × Json)
  | [] => []
  | (key,d) :: rest => (key,json d) :: jsonFields rest
end

def same (a b : Doc) : Bool := a.json.same b.json

-- No text holds the NUL that neither a text nor a jsonb column can store.
mutual
def storable : Doc → Bool
  | .str s => '\x00' ∉ s.toList
  | .arr items => storableItems items
  | .obj fields => storableFields fields
  | _ => true

def storableItems : List Doc → Bool
  | [] => true
  | d :: rest => storable d && storableItems rest

def storableFields : Fields → Bool
  | [] => true
  | (key,d) :: rest => decide ('\x00' ∉ key.toList) && storable d && storableFields rest
end

end Doc

-- A jsonb number has no exponent and no negative zero: what `repr` writes with the
-- exponent 16 or more comes back as the whole number its digits show.
def Double.reload (shown : Double → Int) (x : Double) : Doc :=
  if -10 ^ 16 < x.value ∧ x.value < 10 ^ 16 then .float {x with negative := x.negative && x.significand ≠ 0}
  else .int (shown x)

def Double.Exact (shown : Double → Int) (x : Double) : Prop :=
  (-10 ^ 16 < x.value ∧ x.value < 10 ^ 16) ∨ (shown x : Rat) = x.value

namespace Doc
variable (shown : Double → Int)

-- The document a jsonb column gives back for the one that was saved.
mutual
def reload : Doc → Doc
  | .float x => x.reload shown
  | .arr items => .arr (reloadItems items)
  | .obj fields => .obj (reloadFields fields)
  | d => d

def reloadItems : List Doc → List Doc
  | [] => []
  | d :: rest => reload d :: reloadItems rest

def reloadFields : Fields → Fields
  | [] => []
  | (key,d) :: rest => (key,reload d) :: reloadFields rest
end

-- Every float in it is exact.
mutual
def Exact : Doc → Prop
  | .float x => x.Exact shown
  | .arr items => ExactItems items
  | .obj fields => ExactFields fields
  | _ => True

def ExactItems : List Doc → Prop
  | [] => True
  | d :: rest => Exact d ∧ ExactItems rest

def ExactFields : Fields → Prop
  | [] => True
  | (_,d) :: rest => Exact d ∧ ExactFields rest
end

end Doc

section reading
variable {shown : Double → Int} {fields : Fields}

theorem value_unsigned (x : Double) : ({x with negative := x.negative && x.significand ≠ 0} : Double).value = x.value := by
  unfold Double.value
  dsimp only
  by_cases zero : x.significand = 0
  · have none_ : (x.significand : Rat) = 0 := by exact_mod_cast zero
    rw [none_,Rat.mul_zero,Rat.mul_zero]
  · rw [decide_eq_true zero,Bool.and_true]

theorem reload_float (x : Double) : (x.reload shown).reload shown = x.reload shown := by
  by_cases small : -10 ^ 16 < x.value ∧ x.value < 10 ^ 16
  · have reloaded : x.reload shown = .float {x with negative := x.negative && x.significand ≠ 0} := if_pos small
    rw [reloaded]
    unfold Doc.reload Double.reload
    rw [value_unsigned,if_pos small]
    simp
  · have reloaded : x.reload shown = .int (shown x) := if_neg small
    rw [reloaded]
    rfl

mutual
theorem reload_reload (d : Doc) : (d.reload shown).reload shown = d.reload shown := by
  cases d with
  | float x => exact reload_float x
  | arr items => exact congrArg Doc.arr (reload_reloadItems items)
  | obj fields => exact congrArg Doc.obj (reload_reloadFields fields)
  | _ => rfl

theorem reload_reloadItems (items : List Doc) :
    Doc.reloadItems shown (Doc.reloadItems shown items) = Doc.reloadItems shown items := by
  cases items with
  | nil => rfl
  | cons d rest => exact congrArg₂ List.cons (reload_reload d) (reload_reloadItems rest)

theorem reload_reloadFields (fields : Fields) :
    Doc.reloadFields shown (Doc.reloadFields shown fields) = Doc.reloadFields shown fields := by
  cases fields with
  | nil => rfl
  | cons field rest => exact congrArg₂ List.cons (congrArg (Prod.mk field.1) (reload_reload field.2)) (reload_reloadFields rest)
end

theorem reloadFields_values (fields : Fields) : Doc.reloadFields shown fields = Dict.mapValues (Doc.reload shown) fields := by
  induction fields with
  | nil => rfl
  | cons field rest ih => exact congrArg (List.cons (field.1,field.2.reload shown)) ih

theorem jsonFields_values (fields : Fields) : Doc.jsonFields fields = Dict.mapValues Doc.json fields := by
  induction fields with
  | nil => rfl
  | cons field rest ih => exact congrArg (List.cons (field.1,field.2.json)) ih

theorem sortFields_byKey (fields : List (String × Json)) : Doc.sortFields fields = Json.byKey fields := rfl

theorem sorted_alike {f g : Doc → Json} : Doc.sortFields (Dict.mapValues f fields) = Doc.sortFields (Dict.mapValues g fields) ↔
    ∀ field ∈ fields, f field.2 = g field.2 := by
  rw [sortFields_byKey,sortFields_byKey,Json.byKey_values,Json.byKey_values]
  refine List.map_inj_left.trans ⟨?_,?_⟩
  · intro alike field there
    exact (Prod.mk.inj (alike field ((List.mem_insertionSort _).mpr there))).2
  · intro alike field there
    exact congrArg (Prod.mk field.1) (alike field ((List.mem_insertionSort _).mp there))

theorem mapValues_mapValues {α β γ : Type} (f : α → β) (g : β → γ) (fields : List (String × α)) :
    Dict.mapValues g (Dict.mapValues f fields) = Dict.mapValues (g ∘ f) fields := List.map_map

theorem canon_fields (f : Doc → Doc) (fields : Fields) :
    Json.byKey (Json.canonFields (Doc.sortFields (Doc.jsonFields (Dict.mapValues f fields)))) =
      Doc.sortFields (Dict.mapValues (fun d => (f d).json.canon) fields) := by
  rw [Json.canonFields_values,sortFields_byKey,← Json.byKey_values,Json.byKey_byKey,jsonFields_values,mapValues_mapValues,
    mapValues_mapValues]
  rfl

-- What a column gives back is equal to what was saved, float by float.
mutual
theorem canon_reload (d : Doc) : (d.reload shown).json.canon = d.json.canon ↔ d.Exact shown := by
  cases d with
  | float x =>
      show ((x.reload shown).json.canon = _ ↔ x.Exact shown)
      unfold Double.reload Double.Exact
      split
      next small =>
        refine iff_of_true ?_ (.inl small)
        exact congrArg Json.num (value_unsigned x)
      next large =>
        rw [or_iff_right large]
        exact ⟨Json.num.inj,congrArg Json.num⟩
  | arr items => exact ⟨fun equal => (canon_reloadItems items).mp (Json.arr.inj equal),fun exact_ => congrArg Json.arr ((canon_reloadItems items).mpr exact_)⟩
  | obj fields =>
      have whole : Json.byKey (Json.canonFields (Doc.sortFields (Doc.jsonFields (Doc.reloadFields shown fields)))) =
          Json.byKey (Json.canonFields (Doc.sortFields (Doc.jsonFields fields))) ↔ Doc.ExactFields shown fields := by
        have kept : Dict.mapValues (fun d : Doc => d) fields = fields := List.map_id _
        have plain := canon_fields (fun d => d) fields
        rw [kept] at plain
        rw [reloadFields_values,canon_fields,plain,sorted_alike]
        exact canon_reloadFields fields
      exact ⟨fun equal => whole.mp (Json.obj.inj equal),fun exact_ => congrArg Json.obj (whole.mpr exact_)⟩
  | _ => exact iff_of_true rfl trivial

theorem canon_reloadItems (items : List Doc) :
    Json.canonItems (Doc.jsonItems (Doc.reloadItems shown items)) = Json.canonItems (Doc.jsonItems items) ↔ Doc.ExactItems shown items := by
  cases items with
  | nil => exact iff_of_true rfl trivial
  | cons d rest =>
      refine List.cons_eq_cons.trans (and_congr ?_ ?_)
      · exact canon_reload d
      · exact canon_reloadItems rest

theorem canon_reloadFields (fields : Fields) :
    (∀ field ∈ fields, (field.2.reload shown).json.canon = field.2.json.canon) ↔ Doc.ExactFields shown fields := by
  cases fields with
  | nil => exact iff_of_true nofun trivial
  | cons field rest =>
      refine List.forall_mem_cons.trans (and_congr ?_ ?_)
      · exact canon_reload field.2
      · exact canon_reloadFields rest
end

end reading

end Osds.Directory.Payloads

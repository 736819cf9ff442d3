import Mathlib.Data.List.Sort
import Osds.Lib.Dict

-- JSON documents. An instant is a date-time text, kept as the moment it names;
-- a dict keeps its insertion order and holds each key once.
inductive Json where
  | null
  | bool (b : Bool)
  | num (n : Rat)
  | instant (t : Int)
  | str (s : String)
  | arr (items : List Json)
  | obj (fields : List (String × Json))
  deriving Repr

namespace Json

def ofOption (render : α → Json) : Option α → Json
  | none => .null
  | some value => render value

def int (n : Int) : Json := .num n

def isObj : Json → Bool
  | .obj _ => true
  | _ => false

mutual
def identical : Json → Json → Bool
  | .null,.null => true
  | .bool a,.bool b => a == b
  | .num a,.num b => a == b
  | .instant a,.instant b => a == b
  | .str a,.str b => a == b
  | .arr xs,.arr ys => identicalItems xs ys
  | .obj xs,.obj ys => identicalFields xs ys
  | _,_ => false

def identicalItems : List Json → List Json → Bool
  | [],[] => true
  | x :: xs,y :: ys => identical x y && identicalItems xs ys
  | _,_ => false

def identicalFields : List (String × Json) → List (String × Json) → Bool
  | [],[] => true
  | (key,x) :: xs,(key',y) :: ys => key == key' && identical x y && identicalFields xs ys
  | _,_ => false
end

mutual
theorem identical_exact (a b : Json) : identical a b = true ↔ a = b := by
  cases a with
  | arr xs => cases b <;> simp [identical,identicalItems_exact]
  | obj xs => cases b <;> simp [identical,identicalFields_exact]
  | _ => cases b <;> simp [identical]

theorem identicalItems_exact (xs ys : List Json) : identicalItems xs ys = true ↔ xs = ys := by
  cases xs <;> cases ys <;> simp [identicalItems,identical_exact,identicalItems_exact]

theorem identicalFields_exact (xs ys : List (String × Json)) : identicalFields xs ys = true ↔ xs = ys := by
  cases xs <;> cases ys <;> simp [identicalFields,identical_exact,identicalFields_exact,Prod.ext_iff]
end

instance : DecidableEq Json := fun a b => decidable_of_iff _ (identical_exact a b)

def byKey {α : Type} (fields : List (String × α)) : List (String × α) := fields.insertionSort (·.1 ≤ ·.1)

theorem byKey_byKey {α : Type} (fields : List (String × α)) : byKey (byKey fields) = byKey fields := by
  have : Std.Total fun a b : String × α => a.1 ≤ b.1 := ⟨fun a b => String.le_total a.1 b.1⟩
  have : IsTrans (String × α) fun a b => a.1 ≤ b.1 := ⟨fun _ _ _ => String.le_trans⟩
  exact (List.pairwise_insertionSort _ fields).insertionSort_eq

theorem byKey_values {α β : Type} (f : α → β) (fields : List (String × α)) :
    byKey (Dict.mapValues f fields) = Dict.mapValues f (byKey fields) :=
  (List.map_insertionSort (fun a b : String × α => a.1 ≤ b.1) (fun a b : String × β => a.1 ≤ b.1) _ _ fun _ _ _ _ => Iff.rfl).symm

-- One document for each value: two are equal as JSON if these are.
mutual
def norm : Json → Json
  | .arr items => .arr (normItems items)
  | .obj fields => .obj (byKey (normFields fields))
  | j => j

def normItems : List Json → List Json
  | [] => []
  | j :: rest => norm j :: normItems rest

def normFields : List (String × Json) → List (String × Json)
  | [] => []
  | (key,value) :: rest => (key,norm value) :: normFields rest
end

end Json

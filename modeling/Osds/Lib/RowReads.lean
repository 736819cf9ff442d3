import Osds.Lib.RowLocks

namespace RowLocks

section reads

variable {Command Key Store Error : Type} {Row : Key → Type} {past : (k : Key) → Row k → Prop}
  {q : Command → (Store → Except Error Store) → Prop} {db : Database Key Row Store}
  {script : Command → Script Key Row Store Error} {s : System Command Key Row Store Error}

-- Every change that the script may come to from rows that are all of the past.
def Script.Upon (past : (k : Key) → Row k → Prop) (q : (Store → Except Error Store) → Prop) :
    Script Key Row Store Error → Prop
  | .read k next => ∀ row, past k row → (next row).Upon past q
  | .lock k next => ∀ row, past k row → (next row).Upon past q
  | .skipLocked _ next => ∀ ks, (next ks).Upon past q
  | .commit change => q change
  | .refuse _ => True

theorem upon_of_all {q q' : (Store → Except Error Store) → Prop} (weaker : ∀ change, q change → q' change)
    {code : Script Key Row Store Error} (all : code.All q) : code.Upon past q' := by
  induction code with
  | read k next ih => exact fun row _ => ih row (all row)
  | lock k next ih => exact fun row _ => ih row (all row)
  | skipLocked wanted next ih => exact fun ks => ih ks (all ks)
  | commit change => exact weaker change all
  | refuse error => trivial

def Drawn (past : (k : Key) → Row k → Prop) (q : Command → (Store → Except Error Store) → Prop)
    (s : System Command Key Row Store Error) : Prop :=
  ∀ p o, s.running p = some o → o.script.Upon past (q o.command)

theorem start_drawn (store : Store) : Drawn past q (start store : System Command Key Row Store Error) := by
  intro p o running
  cases running

theorem drawn_updated {store : Store} {holder : Key → Option Nat} {n : Nat} (drawn : Drawn past q s) (p : Nat)
    {entry : Option (Running Command Key Row Store Error)} (fits : ∀ o, entry = some o → o.script.Upon past (q o.command)) :
    Drawn past q ⟨store,Function.update s.running p entry,holder,n⟩ := by
  intro p' o running
  dsimp only at running
  by_cases same : p' = p
  · rw [same,Function.update_self] at running
    exact fits o running
  · rw [Function.update_of_ne same] at running
    exact drawn p' o running

theorem step_drawn [DecidableEq Key] (scripts : ∀ c, (script c).Upon past (q c)) (present : ∀ k, past k (db.row s.store k))
    (drawn : Drawn past q s) (action : Action Command) : Drawn past q (step db script s action) := by
  have stopped : ∀ p store, Drawn past q (stop s p store) := fun p store => drawn_updated drawn p fun o none_ => by cases none_
  have gone : ∀ p c ks code, code.Upon past (q c) → Drawn past q (go s p c ks code) := by
    intro p c ks code upon
    refine drawn_updated drawn p fun o some_ => ?_
    cases some_
    exact upon
  cases action with
  | begin c =>
      refine drawn_updated drawn s.next fun o some_ => ?_
      cases some_
      exact scripts c
  | abort p => exact stopped p s.store
  | advance p =>
      unfold step
      dsimp only
      cases running : s.running p with
      | none => exact drawn
      | some o =>
          have upon := drawn p o running
          obtain ⟨c,code⟩ := o
          cases code with
          | read k next => exact gone p c [] _ (upon _ (present k))
          | skipLocked wanted next => exact gone p c _ _ (upon _)
          | refuse error => exact stopped p s.store
          | lock k next =>
              unfold advance
              dsimp only
              split
              · exact gone p c [k] _ (upon _ (present k))
              · exact drawn
          | commit change =>
              unfold advance
              dsimp only
              split <;> exact stopped p _

theorem step_change [DecidableEq Key] (drawn : Drawn past q s) (action : Action Command) :
    (step db script s action).store = s.store ∨
      ∃ c change, q c change ∧ change s.store = .ok (step db script s action).store := by
  cases action with
  | begin c => exact .inl rfl
  | abort p => exact .inl rfl
  | advance p =>
      unfold step
      dsimp only
      cases running : s.running p with
      | none => exact .inl rfl
      | some o =>
          have upon := drawn p o running
          obtain ⟨c,code⟩ := o
          cases code with
          | read k next => exact .inl rfl
          | skipLocked wanted next => exact .inl rfl
          | refuse error => exact .inl rfl
          | lock k next =>
              unfold advance
              dsimp only
              split <;> exact .inl rfl
          | commit change =>
              unfold advance
              dsimp only
              cases result : change s.store with
              | error refused => exact .inl rfl
              | ok store => exact .inr ⟨c,change,upon,result⟩

def Past [DecidableEq Key] (db : Database Key Row Store) (script : Command → Script Key Row Store Error)
    (s : System Command Key Row Store Error) (actions : List (Action Command)) (k : Key) (row : Row k) : Prop :=
  ∃ before, before <+: actions ∧ db.row (Runs.run (step db script) s before).store k = row

theorem run_drawn [DecidableEq Key] (scripts : ∀ c, (script c).Upon past (q c)) (drawn : Drawn past q s)
    (actions : List (Action Command)) (present : ∀ k row, Past db script s actions k row → past k row) :
    Drawn past q (Runs.run (step db script) s actions) := by
  induction actions generalizing s with
  | nil => exact drawn
  | cons action rest ih =>
      have first : ∀ k, past k (db.row s.store k) := fun k => present k _ ⟨[],List.nil_prefix,rfl⟩
      refine ih (step_drawn scripts first drawn action) fun k row there => ?_
      obtain ⟨before,start,same⟩ := there
      exact present k row ⟨action :: before,List.cons_prefix_cons.mpr ⟨rfl,start⟩,same⟩

end reads

end RowLocks

import Mathlib.Data.List.Basic

namespace Rewriting

-- A deterministic rewriting: `none` where nothing applies.
variable {α : Type} (step : α → Option α)

def after : Nat → α → Option α
  | 0,a => some a
  | n+1,a => (step a).bind (after n)

def Halts (a : α) : Prop := ∃ n, after step n a = none

theorem halts_stopped (stopped : step a = none) : Halts step a :=
  ⟨1,by simp [after,stopped]⟩

theorem halts_step (moved : step a = some b) (rest : Halts step b) : Halts step a := by
  obtain ⟨n,ends⟩ := rest
  exact ⟨n+1,by simp [after,moved,ends]⟩

theorem halts_of_rank (rank : α → Nat) (lower : ∀ a b, step a = some b → rank b < rank a) (a : α) :
    Halts step a := by
  induction bound : rank a using Nat.strongRecOn generalizing a with
  | ind n ih =>
      cases moved : step a with
      | none => exact halts_stopped step moved
      | some b =>
          have less := lower a b moved
          exact halts_step step moved (ih (rank b) (by omega) b rfl)

-- Rules in order, each leaving a term that neither it nor an earlier rule
-- applies to. The rank is how many rules stand from the first that applies on.
theorem halts_of_ordered {Rule : Type} (rules : List Rule) (applies : Rule → α → Bool)
    (fired : ∀ a b, step a = some b → ∃ before rule later, rules = before ++ rule :: later ∧
      applies rule a = true ∧ ∀ earlier ∈ before ++ [rule], applies earlier b = false) (a : α) : Halts step a := by
  refine halts_of_rank step (fun a => (rules.dropWhile fun rule => !applies rule a).length) ?_ a
  intro a b moved
  obtain ⟨before,rule,later,split,here,gone⟩ := fired a b moved
  have above : (later.dropWhile fun rule => !applies rule b).length ≤ later.length :=
    (List.dropWhile_sublist _).length_le
  have passed : rules.dropWhile (fun rule => !applies rule b) = later.dropWhile fun rule => !applies rule b := by
    have whole : rules = (before ++ [rule]) ++ later := by simp [split]
    rw [whole,List.dropWhile_append_of_pos]
    intro earlier member
    simp [gone earlier member]
  have held : later.length < (rules.dropWhile fun rule => !applies rule a).length := by
    rw [split,List.dropWhile_append]
    split
    · simp [here]
    · simp only [List.length_append,List.length_cons]
      omega
  rw [passed]
  omega

theorem loops_of_closed {inside : α → Prop} (closed : ∀ a, inside a → ∃ b, step a = some b ∧ inside b)
    (member : inside a) : ¬ Halts step a := by
  intro halts
  obtain ⟨n,ends⟩ := halts
  induction n generalizing a with
  | zero => cases ends
  | succ n ih =>
      obtain ⟨b,moved,stays⟩ := closed a member
      rw [after,moved] at ends
      exact ih stays ends

end Rewriting

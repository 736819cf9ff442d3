import Mathlib.Data.List.Induction
import Mathlib.Logic.Function.Iterate

namespace Runs

-- A machine is a total step function; an action a state does not admit leaves
-- the state where it was, so every list of actions is a run.
variable {State Action : Type} (step : State → Action → State)

def run : State → List Action → State
  | s,[] => s
  | s,action :: rest => run (step s action) rest

theorem run_append (s : State) (first second : List Action) :
    run step s (first ++ second) = run step (run step s first) second := by
  induction first generalizing s with
  | nil => rfl
  | cons action rest ih => exact ih (step s action)

theorem run_history {holds : List Action → State → Prop} (start : holds [] s)
    (next : ∀ before action, holds before (run step s before) → holds (before ++ [action]) (step (run step s before) action))
    (actions : List Action) : holds actions (run step s actions) := by
  induction actions using List.reverseRecOn with
  | nil => exact start
  | append_singleton before action ih =>
      rw [run_append]
      exact next before action ih

inductive Reached (initial : State → Prop) : State → Prop where
  | initial : initial s → Reached initial s
  | step : Reached initial s → Reached initial (step s action)

theorem reached_run {initial : State → Prop} (path : Reached step initial s) (actions : List Action) :
    Reached step initial (run step s actions) := by
  induction actions generalizing s with
  | nil => exact path
  | cons action rest ih => exact ih (.step path)

theorem reached_invariant {initial invariant : State → Prop} (start : ∀ s, initial s → invariant s)
    (preserved : ∀ s action, invariant s → invariant (step s action))
    (path : Reached step initial s) : invariant s := by
  induction path with
  | initial begins => exact start _ begins
  | step _ ih => exact preserved _ _ ih

theorem run_invariant {invariant : State → Prop}
    (preserved : ∀ s action, invariant s → invariant (step s action))
    (valid : invariant s) (actions : List Action) : invariant (run step s actions) := by
  induction actions generalizing s with
  | nil => exact valid
  | cons action rest ih => exact ih (preserved _ _ valid)

-- `p` of each step of the run: of the state before it and the action taken.
def Along (p : State → Action → Prop) : State → List Action → Prop
  | _,[] => True
  | s,action :: rest => p s action ∧ Along p (step s action) rest

instance decidableAlong {p : State → Action → Prop} [∀ s action, Decidable (p s action)] :
    (s : State) → (actions : List Action) → Decidable (Along step p s actions)
  | _,[] => inferInstanceAs (Decidable True)
  | s,action :: rest =>
      have : Decidable (Along step p (step s action) rest) := decidableAlong (step s action) rest
      inferInstanceAs (Decidable (p s action ∧ Along step p (step s action) rest))

theorem along_append {p : State → Action → Prop} (s : State) (first second : List Action) :
    Along step p s (first ++ second) ↔ Along step p s first ∧ Along step p (run step s first) second := by
  induction first generalizing s with
  | nil => simp [Along,run]
  | cons action rest ih => simp only [List.cons_append,Along,run,ih,and_assoc]

theorem along_imp {p q : State → Action → Prop} (weaker : ∀ s action, p s action → q s action)
    (all : Along step p s actions) : Along step q s actions := by
  induction actions generalizing s with
  | nil => trivial
  | cons action rest ih => exact ⟨weaker s action all.1,ih all.2⟩

theorem along_or_first (p : State → Action → Prop) (s : State) (actions : List Action) :
    Along step p s actions ∨ ∃ before action after, actions = before ++ action :: after ∧
      Along step p s before ∧ ¬p (run step s before) action := by
  induction actions generalizing s with
  | nil => exact .inl trivial
  | cons action rest ih =>
      by_cases here : p s action
      · rcases ih (step s action) with all | ⟨before,bad,after,split,until_,fails⟩
        · exact .inl ⟨here,all⟩
        · exact .inr ⟨action :: before,bad,after,congrArg (action :: ·) split,⟨here,until_⟩,fails⟩
      · exact .inr ⟨[],action,rest,rfl,trivial,here⟩

-- An invariant that only the steps meeting `admitted` keep holds at the end of
-- every run all of whose steps meet it.
theorem along_invariant {invariant : State → Prop} {admitted : State → Action → Prop}
    (preserved : ∀ s action, invariant s → admitted s action → invariant (step s action))
    (valid : invariant s) (all : Along step admitted s actions) : invariant (run step s actions) := by
  induction actions generalizing s with
  | nil => exact valid
  | cons action rest ih => exact ih (preserved _ _ valid all.1) all.2

theorem along_keeps {invariant : State → Prop} {admitted p : State → Action → Prop}
    (preserved : ∀ s action, invariant s → admitted s action → invariant (step s action))
    (always : ∀ s action, invariant s → admitted s action → p s action)
    (valid : invariant s) (all : Along step admitted s actions) : Along step p s actions := by
  induction actions generalizing s with
  | nil => trivial
  | cons action rest ih => exact ⟨always s action valid all.1,ih (preserved s action valid all.1) all.2⟩

-- Two properties of a step that agree wherever the invariant holds agree along
-- every run from a state that has it; only the actions taken need to agree.
theorem along_congr {invariant : State → Prop} {p q : State → Action → Prop}
    (preserved : ∀ s action, invariant s → invariant (step s action)) (actions : List Action)
    (agree : ∀ s, ∀ action ∈ actions, invariant s → (p s action ↔ q s action))
    (valid : invariant s) : Along step p s actions ↔ Along step q s actions := by
  induction actions generalizing s with
  | nil => exact Iff.rfl
  | cons action rest ih =>
      have here := agree s action (List.mem_cons_self ..) valid
      have later := ih (fun s next present => agree s next (List.mem_cons_of_mem _ present)) (preserved s action valid)
      exact and_congr here later

-- The same where only the admitted steps keep the invariant: a run whose steps
-- all have the one property has taken admitted steps only.
theorem along_exact {invariant : State → Prop} {admitted p : State → Action → Prop}
    (preserved : ∀ s action, invariant s → admitted s action → invariant (step s action))
    (agree : ∀ s action, invariant s → (p s action ↔ admitted s action))
    (valid : invariant s) : Along step p s actions ↔ Along step admitted s actions := by
  induction actions generalizing s with
  | nil => exact Iff.rfl
  | cons action rest ih =>
      have here := agree s action valid
      constructor
      · intro all
        have allowed := here.mp all.1
        exact ⟨allowed,(ih (preserved s action valid allowed)).mp all.2⟩
      · intro all
        exact ⟨here.mpr all.1,(ih (preserved s action valid all.1)).mpr all.2⟩

theorem along_of_forall {invariant : State → Prop} {p : State → Action → Prop}
    (preserved : ∀ s action, invariant s → invariant (step s action))
    (always : ∀ s action, invariant s → p s action)
    (valid : invariant s) (actions : List Action) : Along step p s actions := by
  induction actions generalizing s with
  | nil => trivial
  | cons action rest ih => exact ⟨always s action valid,ih (preserved s action valid)⟩

theorem iterate_done {invariant done : State → Prop} {pass : State → State} (measure : State → Nat)
    (preserved : ∀ s, invariant s → invariant (pass s))
    (progress : ∀ s, invariant s → done s ∨ measure (pass s) < measure s) (valid : invariant s) :
    ∃ n, done (pass^[n] s) := by
  induction left : measure s using Nat.strongRecOn generalizing s with
  | ind size ih =>
      rcases progress s valid with done | less
      · exact ⟨0,done⟩
      · rw [left] at less
        obtain ⟨n,done⟩ := ih (measure (pass s)) less (preserved s valid) rfl
        exact ⟨n+1,done⟩

theorem iterate_invariant {invariant : State → Prop} {pass : State → State}
    (preserved : ∀ s, invariant s → invariant (pass s)) (valid : invariant s) (n : Nat) : invariant (pass^[n] s) := by
  induction n generalizing s with
  | zero => exact valid
  | succ n ih => exact ih (preserved s valid)

def count (p : State → Action → Bool) : State → List Action → Nat
  | _,[] => 0
  | s,action :: rest => (p s action).toNat + count p (step s action) rest

theorem along_of_count {p : State → Action → Bool} (none_ : count step p s actions = 0) :
    Along step (fun s action => p s action = false) s actions := by
  induction actions generalizing s with
  | nil => trivial
  | cons action rest ih =>
      unfold count at none_
      obtain ⟨here,later⟩ := Nat.add_eq_zero_iff.mp none_
      exact ⟨Bool.toNat_eq_zero.mp here,ih later⟩

theorem along_and {p q : State → Action → Prop} (first : Along step p s actions) (second : Along step q s actions) :
    Along step (fun s action => p s action ∧ q s action) s actions := by
  induction actions generalizing s with
  | nil => trivial
  | cons action rest ih => exact ⟨⟨first.1,second.1⟩,ih first.2 second.2⟩

-- A measure that each such step raises by one, and no other step moves.
theorem along_count {invariant : State → Prop} {admitted : State → Action → Prop} {p : State → Action → Bool}
    (measure : State → Nat) (preserved : ∀ s action, invariant s → invariant (step s action))
    (raised : ∀ s action, invariant s → admitted s action → measure (step s action) = measure s + (p s action).toNat)
    (valid : invariant s) (all : Along step admitted s actions) :
    measure (run step s actions) = measure s + count step p s actions := by
  induction actions generalizing s with
  | nil => rfl
  | cons action rest ih =>
      have here := raised s action valid all.1
      have later := ih (preserved s action valid) all.2
      unfold run count
      omega

-- What is known of each job, when one of them has taken its step.
theorem jobs_kept {Job : Type} {fits fits' : Nat → Job → Prop} {jobs : Nat → Option Job} {after : Option Job} {p : Nat}
    (known : ∀ q job, jobs q = some job → fits q job) (others : ∀ q job, q ≠ p → fits q job → fits' q job)
    (own : ∀ job, after = some job → fits' p job) (q : Nat) (job : Job) (there : (if q = p then after else jobs q) = some job) :
    fits' q job := by
  by_cases same : q = p
  · rw [if_pos same] at there
    rw [same]
    exact own job there
  · rw [if_neg same] at there
    exact others q job same (known q job there)

end Runs

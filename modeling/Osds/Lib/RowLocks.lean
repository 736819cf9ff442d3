import Osds.Lib.Runs
import Mathlib.Logic.Function.Basic

namespace RowLocks

-- A transaction, statement by statement: a plain read of a row, a row locked and
-- read, the qualifying rows that no other transaction holds, and at the end the
-- change it commits, or an error.
inductive Script (Key : Type) (Row : Key → Type) (Store Error : Type) where
  | read (k : Key) (next : Row k → Script Key Row Store Error)
  | lock (k : Key) (next : Row k → Script Key Row Store Error)
  | skipLocked (wanted : (k : Key) → Row k → Bool) (next : List Key → Script Key Row Store Error)
  | commit (change : Store → Except Error Store)
  | refuse (error : Error)

inductive Ending (Store Error : Type) where
  | committed (result : Except Error Store)
  | refused (error : Error)

structure Database (Key : Type) (Row : Key → Type) (Store : Type) where
  row : Store → (k : Key) → Row k
  keys : Store → List Key
  Before : (k : Key) → Row k → Row k → Prop
  refl : ∀ k r, Before k r r
  trans : ∀ k a b c, Before k a b → Before k b c → Before k a c

structure Running (Command Key : Type) (Row : Key → Type) (Store Error : Type) where
  command : Command
  script : Script Key Row Store Error

-- The committed store, the transactions that run and who holds which row.
structure System (Command Key : Type) (Row : Key → Type) (Store Error : Type) where
  store : Store
  running : Nat → Option (Running Command Key Row Store Error)
  holder : Key → Option Nat
  next : Nat

inductive Action (Command : Type) where
  | begin (c : Command)
  | advance (p : Nat)
  -- a crash, a lost connection, an error of the database
  | abort (p : Nat)

section machine

variable {Command Key Store Error : Type} {Row : Key → Type} [DecidableEq Key] (db : Database Key Row Store)
  (script : Command → Script Key Row Store Error)

def free (s : System Command Key Row Store Error) (p : Nat) (k : Key) : Bool := s.holder k = none || s.holder k = some p

def go (s : System Command Key Row Store Error) (p : Nat) (c : Command) (ks : List Key) (rest : Script Key Row Store Error) :
    System Command Key Row Store Error :=
  {s with
    running := Function.update s.running p (some ⟨c,rest⟩)
    holder := fun k => if k ∈ ks then some p else s.holder k}

def stop (s : System Command Key Row Store Error) (p : Nat) (store : Store) : System Command Key Row Store Error :=
  {s with
    store := store
    running := Function.update s.running p none
    holder := fun k => if s.holder k = some p then none else s.holder k}

def advance (s : System Command Key Row Store Error) (p : Nat) (c : Command) :
    Script Key Row Store Error → System Command Key Row Store Error
  | .read k next => go s p c [] (next (db.row s.store k))
  -- a lock that another holds is waited for
  | .lock k next => if free s p k then go s p c [k] (next (db.row s.store k)) else s
  | .skipLocked wanted next =>
      let ks := (db.keys s.store).filter fun k => wanted k (db.row s.store k) && free s p k
      go s p c ks (next ks)
  | .commit change =>
      match change s.store with
      | .ok t => stop s p t
      | .error _ => stop s p s.store
  | .refuse _ => stop s p s.store

def step (s : System Command Key Row Store Error) : Action Command → System Command Key Row Store Error
  | .begin c =>
      {s with running := Function.update s.running s.next (some ⟨c,script c⟩),next := s.next + 1}
  | .advance p =>
      match s.running p with
      | none => s
      | some o => advance db s p o.command o.script
  | .abort p => stop s p s.store

def start (store : Store) : System Command Key Row Store Error := ⟨store,fun _ => none,fun _ => none,0⟩

def ending (s : System Command Key Row Store Error) : Action Command → Option Command
  | .advance p =>
      match s.running p with
      | some ⟨c,.commit _⟩ => some c
      | _ => none
  | _ => none

def after (s : Store) : Ending Store Error → Store
  | .committed (.ok t) => t
  | _ => s

def perform (s : Store) : Script Key Row Store Error → Ending Store Error
  | .read k next => perform s (next (db.row s k))
  | .lock k next => perform s (next (db.row s k))
  | .skipLocked wanted next => perform s (next ((db.keys s).filter fun k => wanted k (db.row s k)))
  | .commit change => .committed (change s)
  | .refuse error => .refused error

-- Every change that the script may come to, whatever it reads.
def Script.All (q : (Store → Except Error Store) → Prop) : Script Key Row Store Error → Prop
  | .read _ next => ∀ row, (next row).All q
  | .lock _ next => ∀ row, (next row).All q
  | .skipLocked _ next => ∀ ks, (next ks).All q
  | .commit change => q change
  | .refuse _ => True

-- A script run at once on one store, with the rows it holds at its end. Its locked
-- rows are the store's; a row only read may be one that row once was; the rows it
-- did not skip are any of those that qualify.
inductive Exec (s : Store) : Script Key Row Store Error → List Key → Ending Store Error → Prop where
  | read {k : Key} {next : Row k → Script Key Row Store Error} {old : Row k} {held : List Key}
      {result : Ending Store Error} (before : db.Before k old (db.row s k)) (rest : Exec s (next old) held result) :
      Exec s (.read k next) held result
  | lock {k : Key} {next : Row k → Script Key Row Store Error} {held : List Key} {result : Ending Store Error}
      (rest : Exec s (next (db.row s k)) held result) : Exec s (.lock k next) (k :: held) result
  | skipLocked {wanted : (k : Key) → Row k → Bool} {next : List Key → Script Key Row Store Error} {ks held : List Key}
      {result : Ending Store Error} (all : ∀ k ∈ ks, wanted k (db.row s k) = true) (rest : Exec s (next ks) held result) :
      Exec s (.skipLocked wanted next) (ks ++ held) result
  | commit (change : Store → Except Error Store) : Exec s (.commit change) [] (.committed (change s))
  | refuse (error : Error) : Exec s (.refuse error) [] (.refused error)

-- What a command's change must be for the locks to isolate it: within the rows it
-- holds, and every row moved on as rows do.
structure Isolated (invariant : Store → Prop) : Prop where
  kept : ∀ c s held t, invariant s → Exec db s (script c) held (.committed (.ok t)) → invariant t
  within : ∀ c s held t, invariant s → Exec db s (script c) held (.committed (.ok t)) → ∀ k, k ∉ held → db.row t k = db.row s k
  forward : ∀ c s held t, invariant s → Exec db s (script c) held (.committed (.ok t)) → ∀ k, db.Before k (db.row s k) (db.row t k)

structure Later (held : List Key) (s t : Store) : Prop where
  same : ∀ k ∈ held, db.row t k = db.row s k
  forward : ∀ k, db.Before k (db.row s k) (db.row t k)

-- Where a transaction is in its command: whatever the others do, the rest of it
-- run at once is the end of the whole command run at once.
structure Midway (s : System Command Key Row Store Error) (p : Nat) (o : Running Command Key Row Store Error)
    (held : List Key) : Prop where
  holds : ∀ k, s.holder k = some p ↔ k ∈ held
  rest : ∀ t, Later db held s.store t → ∀ more result, Exec db t o.script more result →
    Exec db t (script o.command) (held ++ more) result

structure Valid (invariant : Store → Prop) (s : System Command Key Row Store Error) : Prop where
  store : invariant s.store
  midway : ∀ p o, s.running p = some o → ∃ held, Midway db script s p o held
  owned : ∀ k p, s.holder k = some p → (s.running p).isSome
  fresh : ∀ p, s.next ≤ p → s.running p = none

end machine

section isolation

variable {Command Key Store Error : Type} {Row : Key → Type} {db : Database Key Row Store}
  {script : Command → Script Key Row Store Error} {invariant : Store → Prop}
  {s : System Command Key Row Store Error}

theorem Later.refl (db : Database Key Row Store) (held : List Key) (s : Store) : Later db held s s :=
  ⟨fun _ _ => rfl,fun k => db.refl k _⟩

theorem Later.trans {held : List Key} {a b c : Store} (first : Later db held a b) (second : Later db held b c) :
    Later db held a c :=
  ⟨fun k listed => (second.same k listed).trans (first.same k listed),
    fun k => db.trans k _ _ _ (first.forward k) (second.forward k)⟩

theorem Later.fewer {held more : List Key} {a b : Store} (later : Later db more a b) (sub : ∀ k ∈ held, k ∈ more) :
    Later db held a b :=
  ⟨fun k listed => later.same k (sub k listed),later.forward⟩

-- A run of a script, taken apart one statement at a time.
section inversion

variable {s : Store} {k : Key} {held : List Key} {result : Ending Store Error}

theorem exec_read {next : Row k → Script Key Row Store Error} (done : Exec db s (.read k next) held result) :
    ∃ old, db.Before k old (db.row s k) ∧ Exec db s (next old) held result := by
  cases done with
  | read before rest => exact ⟨_,before,rest⟩

theorem exec_lock {next : Row k → Script Key Row Store Error} (done : Exec db s (.lock k next) held result) :
    ∃ more, held = k :: more ∧ Exec db s (next (db.row s k)) more result := by
  cases done with
  | lock rest => exact ⟨_,rfl,rest⟩

theorem exec_skipLocked {wanted : (k : Key) → Row k → Bool} {next : List Key → Script Key Row Store Error}
    (done : Exec db s (.skipLocked wanted next) held result) :
    ∃ ks more, held = ks ++ more ∧ (∀ k ∈ ks, wanted k (db.row s k) = true) ∧ Exec db s (next ks) more result := by
  cases done with
  | skipLocked all rest => exact ⟨_,_,rfl,all,rest⟩

theorem exec_commit {change : Store → Except Error Store} (done : Exec db s (.commit change) held result) :
    result = .committed (change s) := by
  cases done with
  | commit change => rfl

theorem exec_refuse {error : Error} (done : Exec db s (.refuse error) held result) : result = .refused error := by
  cases done with
  | refuse error => rfl

end inversion

theorem start_valid (store : Store) (holds : invariant store) : Valid db script invariant (start store) :=
  ⟨holds,nofun,nofun,fun _ _ => rfl⟩

theorem Midway.moved {s' : System Command Key Row Store Error} {p : Nat} {o : Running Command Key Row Store Error}
    {held : List Key} (midway : Midway db script s p o held) (holds : ∀ k, s'.holder k = some p ↔ s.holder k = some p)
    (later : Later db held s.store s'.store) : Midway db script s' p o held :=
  ⟨fun k => (holds k).trans (midway.holds k),fun t after => midway.rest t (later.trans after)⟩

theorem go_valid [DecidableEq Key] (valid : Valid db script invariant s) {p : Nat} {o : Running Command Key Row Store Error}
    (running : s.running p = some o) {ks : List Key} (mine : ∀ k ∈ ks, free s p k = true)
    {rest : Script Key Row Store Error}
    (entails : ∀ t, Later db ks s.store t → ∀ more result, Exec db t rest more result →
      Exec db t o.script (ks ++ more) result) : Valid db script invariant (go s p o.command ks rest) := by
  have others : ∀ q ≠ p, ∀ k, (go s p o.command ks rest).holder k = some q ↔ s.holder k = some q := by
    intro q differ k
    unfold go
    dsimp only
    by_cases taken : k ∈ ks
    · rw [if_pos taken]
      refine iff_of_false (fun same => differ (Option.some.inj same).symm) ?_
      intro held
      have own := mine k taken
      unfold free at own
      rw [held] at own
      simp only [reduceCtorEq,decide_false,Option.some.injEq,Bool.false_or,decide_eq_true_eq] at own
      exact differ own
    · rw [if_neg taken]
  refine ⟨valid.store,?_,?_,?_⟩
  · intro q o' there
    by_cases same : q = p
    · subst same
      obtain ⟨held,midway⟩ := valid.midway q o running
      have own : o' = ⟨o.command,rest⟩ := by
        have found := there
        unfold go at found
        dsimp only at found
        rw [Function.update_self] at found
        exact (Option.some.inj found).symm
      subst own
      refine ⟨held ++ ks,?_,?_⟩
      · intro k
        unfold go
        dsimp only
        rw [List.mem_append]
        by_cases taken : k ∈ ks
        · rw [if_pos taken]
          exact iff_of_true rfl (.inr taken)
        · rw [if_neg taken,midway.holds k]
          exact ⟨.inl,fun either => either.resolve_right taken⟩
      · intro t later more result done
        rw [List.append_assoc]
        refine midway.rest t (later.fewer (fun k listed => List.mem_append_left _ listed)) _ _ ?_
        exact entails t (later.fewer (fun k listed => List.mem_append_right _ listed)) more result done
    · have found : s.running q = some o' := by
        have found := there
        unfold go at found
        dsimp only at found
        rw [Function.update_of_ne same] at found
        exact found
      obtain ⟨held,midway⟩ := valid.midway q o' found
      exact ⟨held,midway.moved (others q same) (Later.refl db held s.store)⟩
  · intro k q held
    unfold go
    dsimp only
    by_cases same : q = p
    · subst same
      rw [Function.update_self]
      rfl
    · rw [Function.update_of_ne same]
      exact valid.owned k q ((others q same k).mp held)
  · intro q beyond
    have differ : q ≠ p := by
      intro same
      rw [same] at beyond
      rw [valid.fresh p beyond] at running
      cases running
    unfold go
    dsimp only
    rw [Function.update_of_ne differ]
    exact valid.fresh q beyond

theorem stop_valid (valid : Valid db script invariant s) (p : Nat) {store : Store} (holds : invariant store)
    (same : ∀ k, s.holder k ≠ some p → db.row store k = db.row s.store k)
    (forward : ∀ k, db.Before k (db.row s.store k) (db.row store k)) : Valid db script invariant (stop s p store) := by
  have others : ∀ q ≠ p, ∀ k, (stop s p store).holder k = some q ↔ s.holder k = some q := by
    intro q differ k
    unfold stop
    dsimp only
    by_cases held : s.holder k = some p
    · rw [if_pos held,held]
      exact iff_of_false nofun (fun same => differ (Option.some.inj same).symm)
    · rw [if_neg held]
  refine ⟨holds,?_,?_,?_⟩
  · intro q o there
    have differ : q ≠ p := by
      intro same
      subst same
      unfold stop at there
      dsimp only at there
      rw [Function.update_self] at there
      cases there
    have found : s.running q = some o := by
      unfold stop at there
      dsimp only at there
      rw [Function.update_of_ne differ] at there
      exact there
    obtain ⟨held,midway⟩ := valid.midway q o found
    refine ⟨held,midway.moved (others q differ) ⟨?_,forward⟩⟩
    intro k listed
    refine same k ?_
    rw [(midway.holds k).mpr listed]
    exact fun equal => differ (Option.some.inj equal)
  · intro k q held
    have differ : q ≠ p := by
      intro equal
      subst equal
      unfold stop at held
      dsimp only at held
      split at held
      · cases held
      · next other => exact other held
    unfold stop
    dsimp only
    rw [Function.update_of_ne differ]
    exact valid.owned k q ((others q differ k).mp held)
  · intro q beyond
    unfold stop
    dsimp only
    by_cases equal : q = p
    · rw [equal,Function.update_self]
    · rw [Function.update_of_ne equal]
      exact valid.fresh q beyond

theorem commit_exec (valid : Valid db script invariant s) {p : Nat} {o : Running Command Key Row Store Error}
    (running : s.running p = some o) (change : Store → Except Error Store) (last : o.script = .commit change) :
    ∃ held, (∀ k, s.holder k = some p ↔ k ∈ held) ∧
      Exec db s.store (script o.command) held (.committed (change s.store)) := by
  obtain ⟨held,midway⟩ := valid.midway p o running
  refine ⟨held,midway.holds,?_⟩
  have done := midway.rest s.store (Later.refl db held s.store) [] (.committed (change s.store)) (last ▸ .commit change)
  rw [List.append_nil] at done
  exact done

theorem advance_valid [DecidableEq Key] (isolated : Isolated db script invariant) (valid : Valid db script invariant s)
    {p : Nat} {o : Running Command Key Row Store Error} (running : s.running p = some o) :
    Valid db script invariant (advance db s p o.command o.script) := by
  have quiet := stop_valid valid p valid.store (fun _ _ => rfl) (fun k => db.refl k _)
  cases last : o.script with
  | read k next =>
      refine go_valid valid running (List.forall_mem_nil _) ?_
      intro t later more result done
      rw [last]
      exact .read (later.forward k) done
  | lock k next =>
      unfold advance
      dsimp only
      split
      · next mine =>
          refine go_valid valid running ?_ ?_
          · intro k' listed
            rw [List.mem_singleton.mp listed]
            exact mine
          · intro t later more result done
            rw [last]
            rw [← later.same k (List.mem_singleton.mpr rfl)] at done
            exact .lock done
      · exact valid
  | skipLocked wanted next =>
      refine go_valid valid running ?_ ?_
      · intro k listed
        have both := (List.mem_filter.mp listed).2
        rw [Bool.and_eq_true] at both
        exact both.2
      · intro t later more result done
        rw [last]
        refine .skipLocked ?_ done
        intro k listed
        have both := (List.mem_filter.mp listed).2
        rw [Bool.and_eq_true] at both
        rw [later.same k listed]
        exact both.1
  | refuse error => exact quiet
  | commit change =>
      obtain ⟨held,holds,done⟩ := commit_exec valid running change last
      unfold advance
      dsimp only
      split
      · next t changed =>
          rw [changed] at done
          refine stop_valid valid p (isolated.kept _ _ _ _ valid.store done) ?_ ?_
          · intro k other
            exact isolated.within _ _ _ _ valid.store done k (fun listed => other ((holds k).mpr listed))
          · exact isolated.forward _ _ _ _ valid.store done
      · exact quiet

theorem begin_valid [DecidableEq Key] (valid : Valid db script invariant s) (c : Command) :
    Valid db script invariant (step db script s (.begin c)) := by
  have idle := valid.fresh s.next (Nat.le_refl _)
  have unheld : ∀ k, s.holder k ≠ some s.next := by
    intro k held
    have there := valid.owned k s.next held
    rw [idle] at there
    cases there
  unfold step
  refine ⟨valid.store,?_,?_,?_⟩
  · intro p o there
    dsimp only at there
    by_cases same : p = s.next
    · subst same
      rw [Function.update_self] at there
      cases there
      refine ⟨[],fun k => iff_of_false (unheld k) (List.not_mem_nil),?_⟩
      intro t _ more result done
      exact done
    · rw [Function.update_of_ne same] at there
      obtain ⟨held,midway⟩ := valid.midway p o there
      exact ⟨held,midway.holds,midway.rest⟩
  · intro k p held
    dsimp only
    by_cases same : p = s.next
    · rw [same,Function.update_self]
      rfl
    · rw [Function.update_of_ne same]
      exact valid.owned k p held
  · intro p beyond
    dsimp only at beyond ⊢
    rw [Function.update_of_ne (by omega)]
    exact valid.fresh p (by omega)

theorem step_valid [DecidableEq Key] (isolated : Isolated db script invariant) (s : System Command Key Row Store Error)
    (action : Action Command) (valid : Valid db script invariant s) :
    Valid db script invariant (step db script s action) := by
  cases action with
  | begin c => exact begin_valid valid c
  | advance p =>
      unfold step
      dsimp only
      split
      · exact valid
      · next o running => exact advance_valid isolated valid running
  | abort p => exact stop_valid valid p valid.store (fun _ _ => rfl) (fun k => db.refl k _)

theorem quiet_store [DecidableEq Key] {action : Action Command} (quiet : ending s action = none) :
    (step db script s action).store = s.store := by
  cases action with
  | begin c => rfl
  | abort p => rfl
  | advance p =>
      unfold ending at quiet
      unfold step
      dsimp only at quiet ⊢
      cases running : s.running p with
      | none => rfl
      | some o =>
          obtain ⟨c,code⟩ := o
          rw [running] at quiet
          cases code with
          | read k next => rfl
          | skipLocked wanted next => rfl
          | refuse error => rfl
          | commit change => cases quiet
          | lock k next =>
              unfold advance
              dsimp only
              split <;> rfl

theorem ending_exec [DecidableEq Key] (valid : Valid db script invariant s) {action : Action Command} {c : Command}
    (ends : ending s action = some c) :
    ∃ held result, Exec db s.store (script c) held (.committed result) ∧
      (step db script s action).store = after s.store (.committed result) := by
  cases action with
  | begin c => cases ends
  | abort p => cases ends
  | advance p =>
      unfold ending at ends
      unfold step
      dsimp only at ends ⊢
      cases running : s.running p with
      | none =>
          rw [running] at ends
          cases ends
      | some o =>
          obtain ⟨c',code⟩ := o
          rw [running] at ends
          cases code with
          | read k next => cases ends
          | skipLocked wanted next => cases ends
          | refuse error => cases ends
          | lock k next => cases ends
          | commit change =>
              cases ends
              obtain ⟨held,_,done⟩ := commit_exec valid running change rfl
              refine ⟨held,change s.store,done,?_⟩
              unfold advance
              dsimp only
              cases change s.store <;> rfl

theorem perform_all (db : Database Key Row Store) (s : Store) {code : Script Key Row Store Error}
    {q : (Store → Except Error Store) → Prop} {result : Except Error Store} (all : code.All q)
    (done : perform db s code = .committed result) : ∃ change, q change ∧ result = change s := by
  induction code with
  | read k next ih => exact ih (db.row s k) (all (db.row s k)) done
  | lock k next ih => exact ih (db.row s k) (all (db.row s k)) done
  | skipLocked wanted next ih => exact ih _ (all _) done
  | commit change =>
      cases done
      exact ⟨change,all,rfl⟩
  | refuse error => cases done

theorem perform_exec (db : Database Key Row Store) (s : Store) (code : Script Key Row Store Error) :
    ∃ held, Exec db s code held (perform db s code) := by
  induction code with
  | read k next ih =>
      obtain ⟨held,done⟩ := ih (db.row s k)
      exact ⟨held,.read (db.refl k _) done⟩
  | lock k next ih =>
      obtain ⟨held,done⟩ := ih (db.row s k)
      exact ⟨k :: held,.lock done⟩
  | skipLocked wanted next ih =>
      obtain ⟨held,done⟩ := ih ((db.keys s).filter fun k => wanted k (db.row s k))
      exact ⟨_ ++ held,.skipLocked (fun k listed => (List.mem_filter.mp listed).2) done⟩
  | commit change => exact ⟨[],.commit change⟩
  | refuse error => exact ⟨[],.refuse error⟩

theorem free_exact (s : System Command Key Row Store Error) (p : Nat) (k : Key) :
    free s p k = true ↔ s.holder k = none ∨ s.holder k = some p := by
  unfold free
  rw [Bool.or_eq_true,decide_eq_true_eq,decide_eq_true_eq]

theorem go_free [DecidableEq Key] {p : Nat} (alone : ∀ k, free s p k = true) (c : Command) (ks : List Key)
    (rest : Script Key Row Store Error) : ∀ k, free (go s p c ks rest) p k = true := by
  intro k
  rw [free_exact]
  unfold go
  dsimp only
  by_cases taken : k ∈ ks
  · exact .inr (if_pos taken)
  · rw [if_neg taken]
    exact (free_exact s p k).mp (alone k)

theorem step_running [DecidableEq Key] {p : Nat} {c : Command} {code : Script Key Row Store Error}
    (running : s.running p = some ⟨c,code⟩) : step db script s (.advance p) = advance db s p c code := by
  unfold step
  dsimp only
  rw [running]

theorem perform_further [DecidableEq Key] {p : Nat} {c : Command} {code rest : Script Key Row Store Error} {ks : List Key}
    {result : Ending Store Error} (running : s.running p = some ⟨c,code⟩) (moved : advance db s p c code = go s p c ks rest)
    (done : ∃ n, (Runs.run (step db script) (go s p c ks rest) (List.replicate n (.advance p))).store =
      after s.store result) :
    ∃ n, (Runs.run (step db script) s (List.replicate n (.advance p))).store = after s.store result := by
  obtain ⟨n,done⟩ := done
  refine ⟨n + 1,?_⟩
  rw [List.replicate_succ]
  unfold Runs.run
  rw [step_running running,moved]
  exact done

theorem perform_advance [DecidableEq Key] (code : Script Key Row Store Error) {p : Nat} {c : Command}
    (running : s.running p = some ⟨c,code⟩) (alone : ∀ k, free s p k = true) :
    ∃ n, (Runs.run (step db script) s (List.replicate n (.advance p))).store = after s.store (perform db s.store code) := by
  induction code generalizing s with
  | read k next ih =>
      have moved : advance db s p c (.read k next) = go s p c [] (next (db.row s.store k)) := rfl
      refine perform_further running moved ?_
      exact ih _ (Function.update_self ..) (go_free alone c [] _)
  | lock k next ih =>
      refine perform_further running (if_pos (alone k)) ?_
      exact ih _ (Function.update_self ..) (go_free alone c [k] _)
  | skipLocked wanted next ih =>
      have all : ((db.keys s.store).filter fun k => wanted k (db.row s.store k) && free s p k) =
          (db.keys s.store).filter fun k => wanted k (db.row s.store k) := by
        refine List.filter_congr ?_
        intro k _
        rw [alone k,Bool.and_true]
      have moved := congrArg (fun ks => go s p c ks (next ks)) all
      refine perform_further running moved ?_
      exact ih _ (Function.update_self ..) (go_free alone c _ _)
  | commit change =>
      refine ⟨1,?_⟩
      show (step db script s (.advance p)).store = _
      rw [step_running running]
      unfold advance perform
      dsimp only
      cases change s.store <;> rfl
  | refuse error =>
      refine ⟨1,?_⟩
      show (step db script s (.advance p)).store = _
      rw [step_running running]
      rfl

end isolation

end RowLocks

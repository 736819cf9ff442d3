import Osds.Lib.Sweeps
import Osds.Worker.Passes

namespace Osds.Worker
open Directory Sweeps

structure Place (World : Type) {Row : Type} (key : Row → Nat) where
  table : World → Table key
  put : World → Table key → World
  table_put : ∀ world rows, table (put world rows) = rows

section job

variable {World Row : Type} {sweep : Sweep Row Time}

-- A tick job that is one bounded sweep: it selects the ids, and updates or deletes those rows.
def sweepJob (name : String) (every : Time) (settles : Settles sweep) (limit : Nat) (place : Place World sweep.key) : TickJob World where
  name := name
  fn := fun now world =>
    let found := (ids sweep limit now (place.table world).rows).length
    (.returned (some ⟨found,found = limit⟩),place.put world ((place.table world).sweep settles limit now))
  every := every

def backlog (place : Place World sweep.key) (now : Time) (world : World) : Nat := (place.table world).rows.countP (sweep.due now)

variable {settles : Settles sweep} {limit : Nat} {place : Place World sweep.key} {horizon : Time}

def Quiet (place : Place World sweep.key) (horizon : Time) (f : World → World) : Prop :=
  ∀ world, ∀ t ≤ horizon, backlog place t (f world) ≤ backlog place t world

structure Leaves (place : Place World sweep.key) (horizon : Time) (name : String) (s s' : Progress World) : Prop where
  lastRun : s'.marks.lastRun name = s.marks.lastRun name
  kept : s'.marks.backlog name = s.marks.backlog name
  more : s.stats.more = true → s'.stats.more = true
  rows : ∀ t ≤ horizon, backlog place t s'.world ≤ backlog place t s.world

theorem Leaves.refl (s : Progress World) : Leaves place horizon name s s := ⟨rfl,rfl,id,fun _ _ => Nat.le_refl _⟩

theorem Leaves.trans (first : Leaves place horizon name s s') (second : Leaves place horizon name s' s'') :
    Leaves place horizon name s s'' :=
  ⟨second.lastRun.trans first.lastRun,second.kept.trans first.kept,fun had => second.more (first.more had),
    fun t early => (second.rows t early).trans (first.rows t early)⟩

theorem after_more (stats : TickStats) (name : String) (outcome : Outcome) :
    (stats.after name outcome).more = (stats.more || outcome.more) := by
  cases outcome with
  | returned result => cases result <;> simp [TickStats.after,Outcome.more]
  | raised error => simp [TickStats.after,Outcome.more]
  | stopped => simp [TickStats.after,Outcome.more]

theorem ran_leaves (job : TickJob World) (now : Time) (s : Progress World) (other : job.name ≠ name)
    (quiet : Quiet place horizon fun world => (job.fn now world).2) : Leaves place horizon name s (s.ran job now) := by
  refine ⟨?_,?_,?_,quiet s.world⟩
  · cases more : (job.fn now s.world).1.more <;> simp [Progress.ran,Marks.after,Marks.attempted,Marks.kept,more,other.symm]
  · cases more : (job.fn now s.world).1.more <;> simp [Progress.ran,Marks.after,Marks.attempted,Marks.kept,more,other.symm]
  · intro had
    simp [Progress.ran,after_more,had]

theorem runDue_leaves (jobs : List (TickJob World)) (now : Time) (s : Progress World) (others : ∀ job ∈ jobs, job.name ≠ name)
    (quiet : ∀ job ∈ jobs, Quiet place horizon fun world => (job.fn now world).2) :
    Leaves place horizon name s (runDue now jobs s) := by
  induction jobs generalizing s with
  | nil => exact .refl s
  | cons job rest ih =>
      rw [List.forall_mem_cons] at others quiet
      unfold runDue
      have first := ran_leaves job now s others.1 quiet.1
      split
      · exact ih s others.2 quiet.2
      split
      · exact first
      · exact first.trans (ih _ others.2 quiet.2)

theorem runDue_append (first second : List (TickJob World)) (now : Time) (s : Progress World) (running : s.stopped = false) :
    runDue now (first ++ second) s =
      if (runDue now first s).stopped then runDue now first s else runDue now second (runDue now first s) := by
  induction first generalizing s with
  | nil => simp [runDue,running]
  | cons job rest ih =>
      rw [List.cons_append,runDue_cons,runDue_cons]
      by_cases due : s.marks.due job now
      · by_cases stopped : (s.ran job now).stopped
        · simp [due,stopped]
        · simp [due,stopped,ih _ (Bool.eq_false_iff.mpr stopped)]
      · simp [due,ih s running]

-- A pass in which the sweep is due: it takes a full chunk and will be due again, or it
-- leaves nothing that is due at the time of the pass.
structure Swept (place : Place World sweep.key) (horizon : Time) (limit : Nat) (name : String) (now : Time) (s s' : Progress World) : Prop where
  full : s'.marks.backlog name = true → s'.stats.more = true ∧ backlog place horizon s'.world + limit ≤ backlog place horizon s.world
  clear : s'.marks.backlog name = false → backlog place now s'.world = 0

theorem ran_swept (name : String) (every now : Time) (s : Progress World) (early : now ≤ horizon) :
    Swept place horizon limit name now s (s.ran (sweepJob name every settles limit place) now) := by
  have left := fun t (early : now ≤ t) => swept_left settles (place.table s.world).distinct limit early
  have counted : ∀ t, backlog place t (s.ran (sweepJob name every settles limit place) now).world =
      (swept sweep limit now (place.table s.world).rows).countP (sweep.due t) := fun t => by
    simp [backlog,Progress.ran,sweepJob,place.table_put,Table.sweep]
  by_cases all : (ids sweep limit now (place.table s.world).rows).length = limit
  · refine ⟨fun _ => ⟨?_,?_⟩,?_⟩
    · simp [Progress.ran,sweepJob,after_more,Outcome.more,all]
    · have fewer := left horizon early
      rw [all] at fewer
      rw [counted]
      exact Nat.le_of_eq fewer
    · simp [Progress.ran,sweepJob,Marks.after,Marks.kept,Outcome.more,all]
  · refine ⟨?_,fun _ => ?_⟩
    · simp [Progress.ran,sweepJob,Marks.after,Marks.attempted,Outcome.more,all]
    · have bound : (ids sweep limit now (place.table s.world).rows).length = _ := ids_length limit now _
      have clear := swept_clear settles (place.table s.world).distinct (lt_of_le_of_ne (bound ▸ Nat.min_le_left _ _) all)
      rw [counted,List.countP_eq_zero]
      exact fun row there => by simp [clear row there]

theorem swept_around {s s₁ s₂ s₃ : Progress World} (before : Leaves place horizon name s s₁) (swept : Swept place horizon limit name now s₁ s₂)
    (after : Leaves place horizon name s₂ s₃) (early : now ≤ horizon) : Swept place horizon limit name now s s₃ := by
  refine ⟨fun again => ?_,fun done => ?_⟩
  · obtain ⟨more,fewer⟩ := swept.full (after.kept.symm.trans again)
    have start := before.rows horizon (Int.le_refl _)
    have stop := after.rows horizon (Int.le_refl _)
    exact ⟨after.more more,by omega⟩
  · have clear := swept.clear (after.kept.symm.trans done)
    exact Nat.eq_zero_of_le_zero (clear ▸ after.rows now early)

theorem runDue_swept {jobs : List (TickJob World)} (listed : sweepJob name every settles limit place ∈ jobs)
    (distinct : (jobs.map (·.name)).Nodup) (quiet : ∀ job ∈ jobs, job.name ≠ name → ∀ now, Quiet place horizon fun world => (job.fn now world).2)
    (s : Progress World) (running : s.stopped = false) (due : s.marks.due (sweepJob name every settles limit place) now = true)
    (early : now ≤ horizon) (finished : (runDue now jobs s).stopped = false) :
    Swept place horizon limit name now s (runDue now jobs s) := by
  obtain ⟨before,after,rfl⟩ := List.append_of_mem listed
  rw [List.map_append,List.map_cons] at distinct
  have apart := List.nodup_append.mp distinct
  have earlier : ∀ job ∈ before, job.name ≠ name := fun job there =>
    apart.2.2 _ (List.mem_map_of_mem there) _ List.mem_cons_self
  have later : ∀ job ∈ after, job.name ≠ name := fun job there same =>
    (List.nodup_cons.mp apart.2.1).1 (List.mem_map.mpr ⟨job,there,same⟩)
  have first : Leaves place horizon name s (runDue now before s) := runDue_leaves before now s earlier
    fun job there => quiet job (List.mem_append_left _ there) (earlier job there) now
  rw [runDue_append _ _ _ _ running] at finished ⊢
  split at finished
  next stopped => exact absurd (finished.symm.trans stopped) Bool.false_ne_true
  next going =>
    rw [if_neg going]
    have due' : (runDue now before s).marks.due (sweepJob name every settles limit place) now = true := by
      have lastRun : (runDue now before s).marks.lastRun name = _ := first.lastRun
      have kept : (runDue now before s).marks.backlog name = _ := first.kept
      unfold Marks.due at due ⊢
      dsimp only [sweepJob] at due ⊢
      rw [lastRun,kept]
      exact due
    let middle := (runDue now before s).ran (sweepJob name every settles limit place) now
    have here : Swept place horizon limit name now (runDue now before s) middle := ran_swept name every now _ early
    rw [runDue_cons,due',if_neg (by simp),if_neg (by simp [Progress.ran,sweepJob])]
    have last : Leaves place horizon name middle (runDue now after middle) := runDue_leaves after now middle later
      fun job there => quiet job (List.mem_append_right _ (List.mem_cons_of_mem _ there)) (later job there) now
    exact swept_around first here last early

theorem pass_swept {drains : Drains World} {w : Process World} (listed : sweepJob name every settles limit place ∈ w.registry.jobs)
    (quiet : ∀ job ∈ w.registry.jobs, job.name ≠ name → ∀ now, Quiet place horizon fun world => (job.fn now world).2)
    (calm : ∀ now, Quiet place horizon fun world => (drained drains now world).2.2.2) (running : w.stopped = false)
    (due : w.marks.due (sweepJob name every settles limit place) now = true) (early : now ≤ horizon)
    (finished : (w.pass drains now).stopped = false) :
    ((w.pass drains now).marks.backlog name = true → backlog place horizon (w.pass drains now).world + limit ≤ backlog place horizon w.world ∧
      ∃ pass, (w.pass drains now).passes = w.passes ++ [pass] ∧ pass.waited = false) ∧
    ((w.pass drains now).marks.backlog name = false → backlog place now (w.pass drains now).world = 0) := by
  have drains_ : ∀ t ≤ horizon, backlog place t (drained drains now w.world).2.2.2 ≤ backlog place t w.world := calm now w.world
  unfold Process.pass at finished ⊢
  rw [if_neg (by simp [running])] at finished ⊢
  generalize drained drains now w.world = left at finished drains_ ⊢
  obtain ⟨drain,mail,imp,world⟩ := left
  dsimp only at finished drains_ ⊢
  have swept := runDue_swept listed w.registry.distinct quiet ⟨w.marks,world,{},w.calls,false⟩ rfl due early finished
  refine ⟨fun again => ?_,swept.clear⟩
  obtain ⟨more,fewer⟩ := swept.full again
  have before := drains_ horizon (Int.le_refl _)
  exact ⟨fewer.trans before,_,rfl,by simp [didWork,more]⟩

theorem stays_stopped (drains : Drains World) {w : Process World} (stopped : w.stopped = true) (times : List Time) :
    (w.run drains times).stopped = true := by
  have kept : ∀ (w : Process World) now, w.stopped = true → (w.pass drains now).stopped = true := by
    intro w now stopped
    simp [Process.pass,stopped]
  exact Runs.run_invariant (Process.pass drains) kept stopped times

theorem pass_registry (drains : Drains World) (w : Process World) (now : Time) : (w.pass drains now).registry = w.registry := by
  unfold Process.pass
  split <;> rfl

-- From any time at which the sweep is due, it is done after at most as many passes as
-- there are chunks, and one; the worker does not wait in between.
theorem sweep_clears {drains : Drains World} {w : Process World} (listed : sweepJob name every settles limit place ∈ w.registry.jobs)
    (quiet : ∀ job ∈ w.registry.jobs, job.name ≠ name → ∀ now, Quiet place horizon fun world => (job.fn now world).2)
    (calm : ∀ now, Quiet place horizon fun world => (drained drains now world).2.2.2)
    (due : ∀ now ∈ times.head?, w.marks.due (sweepJob name every settles limit place) now = true)
    (early : ∀ now ∈ times, now ≤ horizon) (finished : (w.run drains times).stopped = false)
    (enough : backlog place horizon w.world < limit * times.length) :
    ∃ before now after, times = before ++ now :: after ∧ backlog place now (w.run drains (before ++ [now])).world = 0 ∧
      ∃ passes, (w.run drains before).passes = w.passes ++ passes ∧ passes.length = before.length ∧ ∀ pass ∈ passes, pass.waited = false := by
  induction times generalizing w with
  | nil => simp at enough
  | cons now rest ih =>
      rw [List.forall_mem_cons] at early
      have running : w.stopped = false := by
        by_contra stopped
        have ended := stays_stopped drains (Bool.eq_true_of_not_eq_false stopped) (now :: rest)
        exact Bool.false_ne_true (finished.symm.trans ended)
      have going : (w.pass drains now).stopped = false := by
        by_contra stopped
        have ended := stays_stopped drains (Bool.eq_true_of_not_eq_false stopped) rest
        exact Bool.false_ne_true (finished.symm.trans ended)
      obtain ⟨full,clear⟩ := pass_swept listed quiet calm running (due now rfl) early.1 going
      cases again : (w.pass drains now).marks.backlog name with
      | false => exact ⟨[],now,rest,rfl,clear again,[],(List.append_nil _).symm,rfl,nofun⟩
      | true =>
          obtain ⟨fewer,pass,grown,busy⟩ := full again
          have registry := pass_registry drains w now
          have enough' : backlog place horizon (w.pass drains now).world < limit * rest.length := by
            rw [List.length_cons,Nat.mul_succ] at enough
            omega
          obtain ⟨before,last,after,split,done,passes,made,length,waits⟩ := ih (registry ▸ listed) (registry ▸ quiet)
            (fun now _ => by simp [Marks.due,sweepJob,again]) early.2 finished enough'
          refine ⟨now :: before,last,after,congrArg (now :: ·) split,done,pass :: passes,?_,?_,?_⟩
          · exact made.trans (by rw [grown,List.append_assoc]; rfl)
          · rw [List.length_cons,List.length_cons,length]
          · exact List.forall_mem_cons.mpr ⟨busy,waits⟩

end job

end Osds.Worker

import Osds.Worker.Ticks
import Mathlib.Algebra.GroupWithZero.Nat

namespace Osds.Worker
open Directory

def ROWS_PER_PASS : Nat := 50

structure DrainStats where
  eventsFannedOut : Nat
  deliveriesAttempted : Nat
  deriving DecidableEq, Repr

structure MailDrainStats where
  sent : Nat
  retried : Nat
  deadLettered : Nat
  expired : Nat
  deriving DecidableEq, Repr

structure ImportStats where
  rowsProcessed : Nat
  deriving DecidableEq, Repr

structure Drains (World : Type) where
  drainOnce : Time → World → DrainStats × World
  mailDrainOnce : Time → World → MailDrainStats × World
  importOnce : Time → Nat → World → ImportStats × World

def didWork (drain : DrainStats) (mail : MailDrainStats) (imp : ImportStats) (tick : TickStats) : Bool :=
  drain.eventsFannedOut ≠ 0 || drain.deliveriesAttempted ≠ 0 ||
    -- an unconfigured row, claimed and never attempted, does not count
    mail.sent ≠ 0 || mail.retried ≠ 0 || mail.deadLettered ≠ 0 || mail.expired ≠ 0 ||
    imp.rowsProcessed ≠ 0 || tick.unitsDone ≠ 0 || tick.more

-- One iteration of the loop: the results it had, the calls of its tick jobs, the lines it
-- reported and whether it waited.
structure Pass where
  now : Time
  drain : DrainStats
  mail : MailDrainStats
  imp : ImportStats
  tick : TickStats
  calls : List Call
  reports : List String
  waited : Bool
  stopped : Bool
  deriving DecidableEq, Repr

structure Process (World : Type) where
  registry : TickRegistry World
  marks : Marks
  world : World
  passes : List Pass
  stopped : Bool

variable {World : Type}

def Process.start (registry : TickRegistry World) (world : World) : Process World := ⟨registry,.fresh,world,[],false⟩

def Process.calls (w : Process World) : List Call := w.passes.flatMap (·.calls)

def failureLine (failure : String) : String := "osds-worker: tick job failed: " ++ failure

def drained (drains : Drains World) (now : Time) (world : World) : DrainStats × MailDrainStats × ImportStats × World :=
  let (drain,world) := drains.drainOnce now world
  let (mail,world) := drains.mailDrainOnce now world
  let (imp,world) := drains.importOnce now ROWS_PER_PASS world
  (drain,mail,imp,world)

-- `worker_pass`; a stop in it goes through the loop, and there is no next one.
def Process.pass (drains : Drains World) (w : Process World) (now : Time) : Process World :=
  if w.stopped then w
  else
    let (drain,mail,imp,world) := drained drains now w.world
    let ran := runDue now w.registry.jobs ⟨w.marks,world,{},w.calls,false⟩
    let pass : Pass := {
      now := now
      drain := drain
      mail := mail
      imp := imp
      tick := ran.stats
      calls := ran.calls.drop w.calls.length
      reports := if ran.stopped then [] else ran.stats.failures.map failureLine
      waited := !ran.stopped && !didWork drain mail imp ran.stats
      stopped := ran.stopped }
    {w with marks := ran.marks,world := ran.world,passes := w.passes ++ [pass],stopped := ran.stopped}

def Process.run (drains : Drains World) (w : Process World) (times : List Time) : Process World := Runs.run (Process.pass drains) w times

section schedule

variable {w : Process World} {r : TickRegistry World} {drains : Drains World} {world : World}

def Call.failure (call : Call) : Option String := match call.outcome with
  | .raised error => some (call.job ++ ": " ++ error)
  | _ => none

def Call.returned (call : Call) : Bool := match call.outcome with
  | .returned _ => true
  | _ => false

def Call.done (call : Call) : Nat := match call.outcome with
  | .returned (some result) => result.done
  | _ => 0

structure Counted (tick : TickStats) (calls : List Call) : Prop where
  jobsRun : tick.jobsRun = calls.countP Call.returned
  unitsDone : tick.unitsDone = (calls.map Call.done).sum
  more : tick.more = calls.any (·.outcome.more)
  failures : tick.failures = calls.filterMap Call.failure

def Call.idle (call : Call) : Prop := ∀ result, call.outcome = .returned (some result) → result.done = 0 ∧ result.more = false

-- None of the drains has come upon anything; mail that no provider could take does not count.
structure Pass.Quiet (pass : Pass) : Prop where
  events : pass.drain.eventsFannedOut = 0
  deliveries : pass.drain.deliveriesAttempted = 0
  mail : pass.mail.sent = 0 ∧ pass.mail.retried = 0 ∧ pass.mail.deadLettered = 0 ∧ pass.mail.expired = 0
  rows : pass.imp.rowsProcessed = 0

-- A pass does what the calls before it make due, counts how they ended, reports each that
-- raised, and waits if neither a drain nor a call did anything.
structure Pass.Keeps (pass : Pass) (r : TickRegistry World) (history : List Call) : Prop where
  served : Served history r.jobs pass.now pass.calls pass.stopped
  counted : Counted pass.tick pass.calls
  reported : pass.stopped = false → pass.reports = (pass.calls.filterMap Call.failure).map failureLine
  idle : pass.waited = true ↔ pass.stopped = false ∧ pass.Quiet ∧ ∀ call ∈ pass.calls, call.idle

def Spaced (r : TickRegistry World) (history : List Call) : Prop :=
  ∀ before first between second after, history = before ++ first :: (between ++ second :: after) →
    first.job = second.job → (∀ call ∈ between, call.job ≠ first.job) →
    ∀ job ∈ r.jobs, job.name = first.job → first.outcome.more = true ∨ job.every ≤ second.now - first.now

theorem tally_cons (stats : TickStats) (call : Call) (calls : List Call) :
    tally stats (call :: calls) = tally (stats.after call.job call.outcome) calls := rfl

theorem counted_tally (stats : TickStats) (before calls : List Call) (counted : Counted stats before) :
    Counted (tally stats calls) (before ++ calls) := by
  induction calls generalizing stats before with
  | nil => rwa [List.append_nil]
  | cons call rest ih =>
      rw [tally_cons,← List.singleton_append,← List.append_assoc]
      refine ih _ _ ?_
      obtain ⟨jobs,units,more,failures⟩ := counted
      obtain ⟨job,now,outcome⟩ := call
      cases outcome with
      | returned result =>
          cases result <;> constructor <;>
            simp [TickStats.after,Call.returned,Call.done,Call.failure,Outcome.more,List.filterMap_cons,jobs,units,more,failures]
      | raised error =>
          constructor <;>
            simp [TickStats.after,Call.returned,Call.done,Call.failure,Outcome.more,jobs,units,more,failures]
      | stopped =>
          constructor <;>
            simp [TickStats.after,Call.returned,Call.done,Call.failure,Outcome.more,List.filterMap_cons,jobs,units,more,failures]

theorem idle_exact (call : Call) : call.idle ↔ call.done = 0 ∧ call.outcome.more = false := by
  obtain ⟨job,now,outcome⟩ := call
  rcases outcome with (_ | result) | error | _ <;> simp [Call.idle,Call.done,Outcome.more]

theorem counted_idle (counted : Counted tick calls) : (tick.unitsDone = 0 ∧ tick.more = false) ↔ ∀ call ∈ calls, call.idle := by
  rw [counted.unitsDone,counted.more,List.sum_eq_zero_iff_forall_eq_nat,List.forall_mem_map,List.any_eq_false]
  constructor
  · intro both call there
    exact (idle_exact call).mpr ⟨both.1 call there,Bool.eq_false_iff.mpr (both.2 call there)⟩
  · intro all
    exact ⟨fun call there => ((idle_exact call).mp (all call there)).1,fun call there more =>
      Bool.false_ne_true (((idle_exact call).mp (all call there)).2.symm.trans more)⟩

theorem didWork_exact (pass : Pass) (counted : Counted pass.tick pass.calls) :
    didWork pass.drain pass.mail pass.imp pass.tick = false ↔ pass.Quiet ∧ ∀ call ∈ pass.calls, call.idle := by
  rw [← counted_idle counted]
  simp only [didWork,Bool.or_eq_false_iff,decide_eq_false_iff_not,not_not]
  constructor
  · rintro ⟨⟨⟨⟨⟨⟨⟨⟨events,deliveries⟩,sent⟩,retried⟩,dead⟩,expired⟩,rows⟩,units⟩,more⟩
    exact ⟨⟨events,deliveries,⟨sent,retried,dead,expired⟩,rows⟩,units,more⟩
  · rintro ⟨⟨events,deliveries,⟨sent,retried,dead,expired⟩,rows⟩,units,more⟩
    exact ⟨⟨⟨⟨⟨⟨⟨⟨events,deliveries⟩,sent⟩,retried⟩,dead⟩,expired⟩,rows⟩,units⟩,more⟩

structure Process.Sound (w : Process World) (r : TickRegistry World) : Prop where
  registry : w.registry = r
  tracks : Tracks w.marks w.calls
  lawful : Lawful r w.calls
  keeps : ∀ before pass after, w.passes = before ++ pass :: after → pass.Keeps r (before.flatMap (·.calls))
  ended : ∀ before pass after, w.passes = before ++ pass :: after → pass.stopped = true → after = []
  stopped : w.stopped = w.passes.getLast?.any (·.stopped)

theorem start_sound : (Process.start r world).Sound r where
  registry := rfl
  tracks := tracks_fresh
  lawful := lawful_nil
  keeps := by simp [Process.start]
  ended := by simp [Process.start]
  stopped := rfl

theorem pass_sound (drains : Drains World) (now : Time) (sound : w.Sound r) : (w.pass drains now).Sound r := by
  unfold Process.pass
  split
  · exact sound
  next going =>
  have running : w.stopped = false := Bool.eq_false_iff.mpr going
  obtain ⟨drain,mail,imp,world⟩ := drained drains now w.world
  dsimp only
  have listed : ∀ job ∈ w.registry.jobs, job ∈ r.jobs := fun job there => sound.registry ▸ there
  have reached : ∃ made, Ran r now w.registry.jobs ⟨w.marks,world,{},w.calls,false⟩
      (runDue now w.registry.jobs ⟨w.marks,world,{},w.calls,false⟩) made :=
    runDue_exact w.registry.jobs listed w.registry.distinct sound.tracks sound.lawful rfl
  obtain ⟨made,ran⟩ := reached
  generalize runDue now w.registry.jobs ⟨w.marks,world,{},w.calls,false⟩ = left at ran ⊢
  have dropped : left.calls.drop w.calls.length = made := by
    rw [ran.calls]
    exact List.drop_left
  have total : w.calls ++ made = left.calls := ran.calls.symm
  have counted : Counted left.stats made := ran.stats ▸ counted_tally {} [] made ⟨rfl,rfl,rfl,rfl⟩
  let pass : Pass := ⟨now,drain,mail,imp,left.stats,made,if left.stopped then [] else left.stats.failures.map failureLine,
    !left.stopped && !didWork drain mail imp left.stats,left.stopped⟩
  have here : pass.Keeps r w.calls := by
    refine ⟨sound.registry ▸ ran.served,counted,?_,?_⟩
    · intro stopped
      have stopped : left.stopped = false := stopped
      change (if left.stopped then [] else left.stats.failures.map failureLine) = _
      rw [stopped,counted.failures]
      rfl
    · change (!left.stopped && !didWork drain mail imp left.stats) = true ↔ _
      rw [Bool.and_eq_true,Bool.not_eq_true',Bool.not_eq_true']
      exact and_congr_right fun _ => didWork_exact pass counted
  rw [dropped]
  refine ⟨sound.registry,?_,?_,?_,?_,?_⟩
  · simpa [Process.calls,← total] using ran.tracks
  · simpa [Process.calls,← total] using ran.lawful
  · intro before pass after split
    rcases Lists.split_concat split with ⟨rfl,rfl,rfl⟩ | ⟨others,_,earlier⟩
    · exact here
    · exact sound.keeps before pass others earlier
  · intro before pass after split stopped
    rcases Lists.split_concat split with ⟨_,_,rfl⟩ | ⟨others,_,earlier⟩
    · rfl
    · have last := sound.ended before pass others earlier stopped
      have ended : w.stopped = true := by
        rw [sound.stopped,earlier,last,List.getLast?_concat]
        exact stopped
      exact absurd (running.symm.trans ended) Bool.false_ne_true
  · simp

theorem run_sound (drains : Drains World) (sound : w.Sound r) (times : List Time) : (w.run drains times).Sound r := by
  have preserved : ∀ (w : Process World) now, w.Sound r → (w.pass drains now).Sound r := fun _ now => pass_sound drains now
  exact Runs.run_invariant (Process.pass drains) preserved sound times

end schedule

end Osds.Worker

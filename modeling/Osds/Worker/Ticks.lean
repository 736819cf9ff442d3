import Osds.Directory.Projection
import Osds.Lib.Lists
import Osds.Lib.Runs

namespace Osds.Worker
open Directory

structure TickResult where
  done : Nat := 0
  more : Bool := false
  deriving DecidableEq, Repr

-- How the call of a job ends: it returns, it raises an Exception (its class and text),
-- or a BaseException goes through the loop and ends the worker.
inductive Outcome where
  | returned (result : Option TickResult)
  | raised (error : String)
  | stopped
  deriving DecidableEq, Repr

def Outcome.more : Outcome → Bool
  | .returned (some result) => result.more
  | _ => false

structure TickJob (World : Type) where
  name : String
  fn : Time → World → Outcome × World
  every : Time

structure TickStats where
  jobsRun : Nat := 0
  unitsDone : Nat := 0
  more : Bool := false
  failures : List String := []
  deriving DecidableEq, Repr

structure Marks where
  lastRun : String → Option Time
  backlog : String → Bool

def Marks.fresh : Marks := ⟨fun _ => none,fun _ => false⟩

structure TickRegistry (World : Type) where
  jobs : List (TickJob World)
  distinct : (jobs.map (·.name)).Nodup
  positive : ∀ job ∈ jobs, 0 < job.every

inductive RegisterError where
  | alreadyRegistered (name : String)
  | cadenceMustBePositive (name : String)
  deriving DecidableEq, Repr

variable {World : Type}

def TickRegistry.empty : TickRegistry World := ⟨[],List.nodup_nil,nofun⟩

def TickRegistry.register (r : TickRegistry World) (name : String) (fn : Time → World → Outcome × World) (every : Time) :
    Except RegisterError (TickRegistry World) :=
  if listed : name ∈ r.jobs.map (·.name) then .error (.alreadyRegistered name)
  else if early : every ≤ 0 then .error (.cadenceMustBePositive name)
  else .ok {
    jobs := r.jobs ++ [⟨name,fn,every⟩]
    distinct := by
      rw [List.map_append]
      exact r.distinct.append (List.nodup_singleton _) (by simpa using listed)
    positive := by
      intro job there
      rcases List.mem_append.mp there with old | new
      · exact r.positive job old
      · rw [List.mem_singleton.mp new]
        exact Int.not_le.mp early }

def Marks.due (m : Marks) (job : TickJob World) (now : Time) : Bool :=
  m.backlog job.name || match m.lastRun job.name with
    | none => true
    | some last => job.every ≤ now - last

def Marks.attempted (m : Marks) (name : String) (now : Time) : Marks :=
  ⟨fun other => if other = name then some now else m.lastRun other,fun other => if other = name then false else m.backlog other⟩

def Marks.kept (m : Marks) (name : String) : Marks :=
  {m with backlog := fun other => if other = name then true else m.backlog other}

structure Call where
  job : String
  now : Time
  outcome : Outcome
  deriving DecidableEq, Repr

structure Progress (World : Type) where
  marks : Marks
  world : World
  stats : TickStats
  calls : List Call
  stopped : Bool

def TickStats.after (stats : TickStats) (name : String) : Outcome → TickStats
  | .raised error => {stats with failures := stats.failures ++ [name ++ ": " ++ error]}
  | .returned none => {stats with jobsRun := stats.jobsRun + 1}
  | .returned (some result) =>
      {stats with
        jobsRun := stats.jobsRun + 1
        unitsDone := stats.unitsDone + result.done
        more := stats.more || result.more}
  | .stopped => stats

def Marks.after (m : Marks) (name : String) (outcome : Outcome) : Marks :=
  if outcome.more then m.kept name else m

def Progress.ran (s : Progress World) (job : TickJob World) (now : Time) : Progress World :=
  let (outcome,world) := job.fn now s.world
  { marks := (s.marks.attempted job.name now).after job.name outcome
    world := world
    stats := s.stats.after job.name outcome
    calls := s.calls ++ [⟨job.name,now,outcome⟩]
    stopped := outcome = .stopped }

def runDue (now : Time) : List (TickJob World) → Progress World → Progress World
  | [],s => s
  | job :: rest,s =>
      if ¬s.marks.due job now then runDue now rest s
      else if (s.ran job now).stopped then s.ran job now
      else runDue now rest (s.ran job now)

theorem runDue_cons (now : Time) (job : TickJob World) (rest : List (TickJob World)) (s : Progress World) :
    runDue now (job :: rest) s = if ¬s.marks.due job now then runDue now rest s
      else if (s.ran job now).stopped then s.ran job now else runDue now rest (s.ran job now) := rfl

section schedule

variable {m : Marks} {history : List Call} {job : TickJob World} {r : TickRegistry World} {s : Progress World}

def lastCall (history : List Call) (name : String) : Option Call := (history.filter (·.job = name)).getLast?

-- The rule of the schedule, said of the calls so far and of nothing the registry keeps.
def dueAfter (history : List Call) (job : TickJob World) (now : Time) : Bool :=
  match lastCall history job.name with
  | none => true
  | some call => call.outcome.more || job.every ≤ now - call.now

def Tracks (m : Marks) (history : List Call) : Prop := ∀ name,
  m.lastRun name = (lastCall history name).map (·.now) ∧ m.backlog name = (lastCall history name).any (·.outcome.more)

@[simp] theorem lastCall_nil (name : String) : lastCall [] name = none := rfl

@[simp] theorem lastCall_append (history : List Call) (call : Call) (name : String) :
    lastCall (history ++ [call]) name = if call.job = name then some call else lastCall history name := by
  unfold lastCall
  by_cases own : call.job = name <;> simp [own]

theorem tracks_fresh : Tracks .fresh [] := fun _ => ⟨rfl,rfl⟩

theorem due_exact (tracks : Tracks m history) (job : TickJob World) (now : Time) : m.due job now = dueAfter history job now := by
  obtain ⟨last,backlog⟩ := tracks job.name
  unfold Marks.due dueAfter
  rw [last,backlog]
  cases lastCall history job.name <;> simp

theorem tracks_after (tracks : Tracks m history) (name : String) (now : Time) (outcome : Outcome) :
    Tracks ((m.attempted name now).after name outcome) (history ++ [⟨name,now,outcome⟩]) := by
  intro other
  obtain ⟨last,backlog⟩ := tracks other
  by_cases own : other = name
  · subst own
    cases more : outcome.more <;> simp [Marks.after,Marks.attempted,Marks.kept,more]
  · cases more : outcome.more <;> simp [Marks.after,Marks.attempted,Marks.kept,more,own,Ne.symm own,last,backlog]

def Lawful (r : TickRegistry World) (history : List Call) : Prop := ∀ before call after, history = before ++ call :: after →
  ∃ job ∈ r.jobs, job.name = call.job ∧ dueAfter before job call.now = true

theorem lawful_nil : Lawful r [] := by
  intro before call after split
  simp at split

theorem lawful_append (lawful : Lawful r history) (listed : job ∈ r.jobs) (due : dueAfter history job now = true)
    (outcome : Outcome) : Lawful r (history ++ [⟨job.name,now,outcome⟩]) := by
  intro before call after split
  rcases Lists.split_concat split with ⟨rfl,rfl,rfl⟩ | ⟨others,_,shorter⟩
  · exact ⟨job,listed,rfl,due⟩
  · exact lawful before call others shorter

def dueJobs (history : List Call) (jobs : List (TickJob World)) (now : Time) : List String :=
  (jobs.filter (dueAfter history · now)).map (·.name)

-- The calls of one pass: those jobs and no others, in that order, whether or not one of
-- them raises. Only a stop cuts the list, and it is the last call then.
structure Served (history : List Call) (jobs : List (TickJob World)) (now : Time) (made : List Call) (stopped : Bool) : Prop where
  clock : ∀ call ∈ made, call.now = now
  picked : made.map (·.job) <+: dueJobs history jobs now
  whole : stopped = false → made.map (·.job) = dueJobs history jobs now
  unstopped : ∀ before call after, made = before ++ call :: after → call.outcome = .stopped → after = [] ∧ stopped = true
  stop : stopped = true → ∃ call, made.getLast? = some call ∧ call.outcome = .stopped

def tally (stats : TickStats) (calls : List Call) : TickStats :=
  calls.foldl (fun stats call => stats.after call.job call.outcome) stats

structure Ran (r : TickRegistry World) (now : Time) (jobs : List (TickJob World)) (s s' : Progress World) (made : List Call) : Prop where
  calls : s'.calls = s.calls ++ made
  tracks : Tracks s'.marks s'.calls
  lawful : Lawful r s'.calls
  stats : s'.stats = tally s.stats made
  served : Served s.calls jobs now made s'.stopped

theorem dueJobs_later {jobs : List (TickJob World)} {call : Call} (others : ∀ job ∈ jobs, call.job ≠ job.name) (now : Time) :
    dueJobs (history ++ [call]) jobs now = dueJobs history jobs now := by
  unfold dueJobs
  refine congrArg (List.map _) (List.filter_congr fun job there => ?_)
  simp [dueAfter,others job there]

theorem served_skip (due : dueAfter history job now = false) (served : Served history jobs now made stopped) :
    Served history (job :: jobs) now made stopped := by
  have same : dueJobs history (job :: jobs) now = dueJobs history jobs now := by simp [dueJobs,due]
  exact ⟨served.clock,same ▸ served.picked,same ▸ served.whole,served.unstopped,served.stop⟩

theorem served_last (due : dueAfter history job now = true) :
    Served history (job :: jobs) now [⟨job.name,now,.stopped⟩] true where
  clock := by simp
  picked := by simp [dueJobs,due]
  whole := nofun
  unstopped := by
    intro before call after split _
    cases before <;> simp_all
  stop _ := ⟨_,rfl,rfl⟩

theorem served_cons {outcome : Outcome} (due : dueAfter history job now = true) (apart : ∀ other ∈ jobs, job.name ≠ other.name)
    (going : outcome ≠ .stopped) (served : Served (history ++ [⟨job.name,now,outcome⟩]) jobs now made stopped) :
    Served history (job :: jobs) now (⟨job.name,now,outcome⟩ :: made) stopped := by
  have same : dueJobs history (job :: jobs) now = job.name :: dueJobs (history ++ [⟨job.name,now,outcome⟩]) jobs now := by
    rw [dueJobs_later apart]
    simp [dueJobs,due]
  refine ⟨?_,?_,?_,?_,?_⟩
  · simpa using served.clock
  · simpa [same] using served.picked
  · simpa [same] using served.whole
  · intro before call after split stopped_
    cases before with
    | nil =>
        simp only [List.nil_append,List.cons.injEq] at split
        rw [← split.1] at stopped_
        exact absurd stopped_ going
    | cons first before =>
        simp only [List.cons_append,List.cons.injEq] at split
        exact served.unstopped before call after split.2 stopped_
  · intro stopped_
    obtain ⟨call,final,outcome_⟩ := served.stop stopped_
    exact ⟨call,by rw [List.getLast?_cons,final]; rfl,outcome_⟩

theorem runDue_exact (jobs : List (TickJob World)) (listed : ∀ job ∈ jobs, job ∈ r.jobs) (distinct : (jobs.map (·.name)).Nodup)
    (tracks : Tracks s.marks s.calls) (lawful : Lawful r s.calls) (running : s.stopped = false) :
    ∃ made, Ran r now jobs s (runDue now jobs s) made := by
  induction jobs generalizing s with
  | nil =>
      refine ⟨[],by simp [runDue],tracks,lawful,rfl,by simp,by simp [dueJobs],by simp [dueJobs],by simp,?_⟩
      intro stopped
      exact absurd (running.symm.trans stopped) Bool.false_ne_true
  | cons job rest ih =>
      rw [List.map_cons,List.nodup_cons] at distinct
      have others : ∀ other ∈ rest, other ∈ r.jobs := fun other there => listed other (List.mem_cons_of_mem _ there)
      have apart : ∀ other ∈ rest, job.name ≠ other.name := fun other there same =>
        distinct.1 (same ▸ List.mem_map_of_mem there)
      unfold runDue
      rw [due_exact tracks]
      cases due : dueAfter s.calls job now with
      | false =>
          obtain ⟨made,ran⟩ := ih others distinct.2 tracks lawful running
          exact ⟨made,ran.calls,ran.tracks,ran.lawful,ran.stats,served_skip due ran.served⟩
      | true =>
          have tracks' : Tracks (s.ran job now).marks (s.ran job now).calls := tracks_after tracks job.name now _
          have lawful' : Lawful r (s.ran job now).calls := lawful_append lawful (listed job List.mem_cons_self) due _
          rw [if_neg (by simp)]
          split
          next stopped =>
            have halted : (job.fn now s.world).1 = .stopped := of_decide_eq_true stopped
            refine ⟨[⟨job.name,now,.stopped⟩],?_,tracks',lawful',?_,?_⟩
            · simp [Progress.ran,halted]
            · simp [Progress.ran,halted,tally]
            · rw [stopped]
              exact served_last due
          next going =>
            have unhalted : (job.fn now s.world).1 ≠ .stopped := fun same => going (decide_eq_true same)
            obtain ⟨made,ran⟩ := ih others distinct.2 tracks' lawful' (Bool.eq_false_iff.mpr going)
            refine ⟨⟨job.name,now,(job.fn now s.world).1⟩ :: made,?_,ran.tracks,ran.lawful,ran.stats,?_⟩
            · rw [ran.calls]
              simp [Progress.ran]
            · exact served_cons due apart unhalted ran.served

end schedule

end Osds.Worker

import Osds.Audit.SubjectOrder
import Osds.Audit.StaleRecords

namespace Osds.Audit.Retention
open Directory

def RETENTION : Time := 90 * 86400 * second
def RETENTION_CHUNK : Nat := 1000

-- `data` is blanked by the statement that stamps payload_nulled_at.
def dataOf (e : OutboxEntry) : List (String × Json) := if e.payloadNulledAt.isSome then [] else e.payload.data

-- The worker's tables and passes; when each event was created; what each
-- `null_event_payloads` has selected and not yet updated; the event that a pass
-- loaded with its delivery.
structure State where
  worker : Drain
  createdAt : Nat → Time
  selected : Nat → Option (Time × List Nat)
  carried : Nat → Option OutboxEntry

inductive Move where
  | emit (e : OutboxRow) (createdAt : Time)
  -- a step of a drain pass, or a replay
  | worker (action : Action)
  | select (job : Nat) (now : Time)
  | update (job : Nat)
  | abandon (job : Nat)

def hasPendingDelivery (box : Outbox) (event : Nat) : Bool :=
  box.exists fun d => d.event = event && d.status = .pending

def due (s : State) (now : Time) : List Nat :=
  ((List.range s.worker.box.nextEvent).filter fun event =>
    (s.worker.box.events event).any (fun e =>
      s.createdAt event < now - RETENTION && e.payloadNulledAt = none && e.status ≠ .pending) &&
    !hasPendingDelivery s.worker.box event).take RETENTION_CHUNK

def nullEach (s : Drain) (now : Time) : List Nat → Drain
  | [] => s
  | event :: rest =>
      let whole := (s.box.events event).any (·.payloadNulledAt = none)
      nullEach (if whole then Audit.step s (.nullPayload event now) else s) now rest

def carry (s : State) : Action → Nat → Option OutboxEntry
  | .load p =>
      match s.worker.passes p with
      | some ⟨_,.attempting (pk :: _)⟩ =>
          Function.update s.carried p ((s.worker.box.deliveries pk).bind fun d => s.worker.box.events d.event)
      | _ => s.carried
  | _ => s.carried

def step (s : State) : Move → State
  | .emit e createdAt =>
      {s with worker := Audit.step s.worker (.emit e)
              createdAt := Function.update s.createdAt s.worker.box.nextEvent createdAt}
  | .worker (.emit _) => s
  | .worker (.nullPayload _ _) => s
  | .worker action => {s with worker := Audit.step s.worker action,carried := carry s action}
  | .select job now => {s with selected := Function.update s.selected job (some (now,due s now))}
  | .update job =>
      match s.selected job with
      | none => s
      | some (now,ids) =>
          {s with worker := nullEach s.worker now ids,selected := Function.update s.selected job none}
  | .abandon job => {s with selected := Function.update s.selected job none}

def start : State := ⟨Drain.start,fun _ => 0,fun _ => none,fun _ => none⟩

def handed (s : State) : Move → Option OutboxEntry
  | .worker (.handle p registry _ _) =>
      match s.worker.passes p,s.carried p with
      | some ⟨_,.handling _ loaded _⟩,some e =>
          if (subscriberFor registry e.type loaded.adapterId).isSome then some e else none
      | _,_ => none
  | _ => none

structure Keeps (s : State) (move : Move) : Prop where
  starved : ∀ event e pk d, (step s move).worker.box.events event = some e → e.payloadNulledAt.isSome →
    (step s move).worker.box.deliveries pk = some d → d.event = event → d.status ≠ .pending
  whole : ∀ e, handed s move = some e → e.payloadNulledAt = none ∧ dataOf e = e.payload.data

-- The passes are on time, and no delivery is replayed whose event is selected and not
-- yet updated.
def Timely (s : State) : Move → Prop
  | .worker action => Audit.Timely s.worker action ∧ ∀ tenant adapterId eventId role now pk d,
      action = .replay tenant adapterId eventId role now →
      applyReplay s.worker.box tenant adapterId eventId role now = .ok (pk,d) →
      ∀ job clock ids, s.selected job = some (clock,ids) → d.event ∉ ids
  | _ => True

section quiet

variable {s : Drain} {event pk p : Nat} {now : Time} {d : OutboxDelivery} {e : OutboxEntry} {action : Action}

structure Quiet (box : Outbox) (event : Nat) : Prop where
  dispatched : ∃ e, box.events event = some e ∧ e.status = .dispatched
  done : ∀ pk d, box.deliveries pk = some d → d.event = event → d.status ≠ .pending

theorem applyReplay_whole {box : Outbox} (accepted : applyReplay box tenant adapterId eventId role now = .ok (pk,d)) :
    (box.events d.event).any (·.payloadNulledAt.isSome) = false := by
  unfold applyReplay at accepted
  split at accepted
  · cases accepted
  · split at accepted
    · cases accepted
    · split at accepted
      · cases accepted
      · split at accepted
        · cases accepted
        · split at accepted
          · cases accepted
          · next whole =>
              cases accepted
              exact Bool.eq_false_iff.mpr whole

theorem step_dispatched (valid : FannedOut s) (there : s.box.events event = some e) (dispatched : e.status = .dispatched)
    (action : Action) : ∃ e', (Audit.step s action).box.events event = some e' ∧ e'.status = .dispatched := by
  have still : ∃ e', s.box.events event = some e' ∧ e'.status = .dispatched := ⟨e,there,dispatched⟩
  cases action with
  | emit new =>
      have old : event ≠ s.box.nextEvent := Nat.ne_of_lt (valid.issued event e there)
      exact ⟨e,(Function.update_of_ne old ..).trans there,dispatched⟩
  | start now => exact still
  | crash p burnt => exact still
  | fanOut p registry config =>
      dsimp only [Audit.step]
      split
      · next now listed rest here =>
          unfold fanOutNext
          split
          · exact still
          · next e' present =>
              unfold fanOut
              dsimp only [Drain.goto,Drain.note,Drain.write]
              rw [present]
              dsimp only
              split
              · next pending =>
                  have other : event ≠ listed := by
                    intro same
                    rw [same,present] at there
                    cases there
                    rw [dispatched] at pending
                    cases pending
                  have kept : (createAll now listed e' (wanting registry config e') s.box).events = s.box.events :=
                    (createAll_events _).1
                  exact ⟨e,(Function.update_of_ne other ..).trans (kept ▸ there),dispatched⟩
              · exact still
      · exact still
  | claim p batch locked =>
      dsimp only [Audit.step]
      split <;> exact still
  | load p =>
      dsimp only [Audit.step]
      split
      · split <;> exact still
      · exact still
  | handle p registry answer draw =>
      dsimp only [Audit.step]
      split
      · unfold attempt
        split
        · exact still
        · split <;> exact still
      · exact still
  | record p =>
      dsimp only [Audit.step]
      split
      · unfold recordNext record
        split
        · exact still
        · split <;> exact still
      · exact still
  | replay tenant adapterId eventId role now =>
      dsimp only [Audit.step]
      split <;> exact still
  | nullPayload other now =>
      dsimp only [Audit.step]
      split
      · exact still
      · next e' present =>
          by_cases own : event = other
          · subst own
            rw [there] at present
            cases present
            exact ⟨{e with payloadNulledAt := some now},Function.update_self ..,dispatched⟩
          · exact ⟨e,(Function.update_of_ne own ..).trans there,dispatched⟩

theorem quiet_step (leased : Leased s) (fannedOut : FannedOut s) (quiet : Quiet s.box event)
    (unreplayed : ∀ tenant adapterId eventId role now pk d, action = .replay tenant adapterId eventId role now →
      applyReplay s.box tenant adapterId eventId role now = .ok (pk,d) → d.event ≠ event) :
    Quiet (Audit.step s action).box event := by
  obtain ⟨e,there,dispatched⟩ := quiet.dispatched
  refine ⟨step_dispatched fannedOut there dispatched action,?_⟩
  intro pk d row own
  rcases step_origin leased.numbered row with ⟨old,before,event_,_⟩ |
    ⟨_,p,registry,config,now,listed,rest,e',adapterId,_,_,present,pending,_,fresh⟩
  · have closed := quiet.done pk old before (event_.symm.trans own)
    obtain ⟨d',after,same | ⟨_,tenant,adapterId,eventId,role,now,requeued,is,accepted⟩⟩ :=
      (Audit.keeps_step leased action).settled pk old before closed
    · rw [row] at after
      cases after
      rw [same]
      exact closed
    · obtain ⟨old',before',_,requeued_⟩ := applyReplay_exact accepted
      rw [before] at before'
      cases before'
      refine absurd (event_.symm.trans own) (?_ : old.event ≠ event)
      have differ := unreplayed tenant adapterId eventId role now pk requeued is accepted
      rw [requeued_] at differ
      exact differ
  · have same : listed = event := by
      rw [← own,fresh]
      rfl
    rw [same,there] at present
    cases present
    rw [dispatched] at pending
    cases pending

theorem load_pending (leased : Leased s) (here : s.passes p = some ⟨now,.attempting (pk :: rest)⟩)
    (row : s.box.deliveries pk = some d) (timely : d.nextAttemptAt = visibility now) : d.status = .pending := by
  have held : s.token pk p = some d.nextAttemptAt := token_exact.mpr ⟨_,here,List.mem_cons_self ..,timely.symm⟩
  obtain ⟨d',row',pending⟩ := leased.claimed p pk (leased.sound pk d row p held)
  rw [row] at row'
  cases row'
  exact pending

theorem step_handling (here : (Audit.step s action).passes p = some ⟨now,.handling pk d rest⟩) :
    s.passes p = some ⟨now,.handling pk d rest⟩ ∨
      action = .load p ∧ s.passes p = some ⟨now,.attempting (pk :: rest)⟩ ∧ s.box.deliveries pk = some d := by
  have still : ∀ {q now' phase}, (s.goto q now' phase).passes p = some ⟨now,.handling pk d rest⟩ →
      (∀ pk d rest, phase ≠ .handling pk d rest) → s.passes p = some ⟨now,.handling pk d rest⟩ := by
    intro q now' phase gone other
    rcases goto_passes gone with ⟨_,same⟩ | before
    · cases same
      exact absurd rfl (other pk d rest)
    · exact before
  cases action with
  | emit e => exact .inl here
  | start now' => exact .inl (still here (fun _ _ _ => nofun))
  | crash q burnt => exact .inl (stop_passes here)
  | fanOut q registry config =>
      dsimp only [Audit.step] at here
      split at here
      · unfold fanOutNext at here
        split at here
        · exact .inl (stop_passes here)
        · exact .inl (still here (fun _ _ _ => nofun))
      · exact .inl here
  | claim q batch locked =>
      dsimp only [Audit.step] at here
      split at here
      · exact .inl (still here (fun _ _ _ => nofun))
      · exact .inl here
  | load q =>
      dsimp only [Audit.step] at here
      split at here
      · next now' pk' rest' before =>
          split at here
          · exact .inl (stop_passes here)
          · next d' row =>
              rcases goto_passes here with ⟨own,same⟩ | kept
              · cases same
                exact .inr ⟨own ▸ rfl,own ▸ before,row⟩
              · exact .inl kept
      · exact .inl here
  | handle q registry answer draw =>
      dsimp only [Audit.step] at here
      split at here
      · unfold attempt at here
        split at here
        · exact .inl (stop_passes here)
        · split at here
          · exact .inl (still here (fun _ _ _ => nofun))
          · exact .inl (still here (fun _ _ _ => nofun))
      · exact .inl here
  | record q =>
      dsimp only [Audit.step] at here
      split at here
      · exact .inl (still here (fun _ _ _ => nofun))
      · exact .inl here
  | replay tenant adapterId eventId role now' =>
      dsimp only [Audit.step] at here
      split at here
      · exact .inl here
      · exact .inl here
  | nullPayload event now' =>
      dsimp only [Audit.step] at here
      split at here
      · exact .inl here
      · exact .inl here

theorem step_nulled (there : (Audit.step s action).box.events event = some e) (nulled : e.payloadNulledAt.isSome) :
    (∃ e, s.box.events event = some e ∧ e.payloadNulledAt.isSome) ∨ ∃ now, action = .nullPayload event now := by
  have before : ∀ e, s.box.events event = some e → e.payloadNulledAt.isSome →
      (∃ e, s.box.events event = some e ∧ e.payloadNulledAt.isSome) ∨ ∃ now, action = .nullPayload event now :=
    fun e was marked => .inl ⟨e,was,marked⟩
  cases action with
  | emit new =>
      by_cases own : event = s.box.nextEvent
      · rw [own] at there
        have same := (Function.update_self ..).symm.trans there
        cases same
        cases nulled
      · exact before e ((Function.update_of_ne own ..).symm.trans there) nulled
  | start now => exact before e there nulled
  | crash p burnt => exact before e there nulled
  | fanOut p registry config =>
      dsimp only [Audit.step] at there
      split at there
      · next now listed rest here =>
          unfold fanOutNext at there
          split at there
          · exact before e there nulled
          · next e' present =>
              unfold fanOut at there
              dsimp only [Drain.goto,Drain.note,Drain.write] at there
              rw [present] at there
              dsimp only at there
              split at there
              · by_cases own : event = listed
                · subst own
                  have same := (Function.update_self ..).symm.trans there
                  cases same
                  exact before e' present nulled
                · have kept : (createAll now listed e' (wanting registry config e') s.box).events = s.box.events :=
                    (createAll_events _).1
                  have was := (Function.update_of_ne own ..).symm.trans there
                  rw [kept] at was
                  exact before e was nulled
              · exact before e there nulled
      · exact before e there nulled
  | claim p batch locked =>
      dsimp only [Audit.step] at there
      split at there <;> exact before e there nulled
  | load p =>
      dsimp only [Audit.step] at there
      split at there
      · split at there <;> exact before e there nulled
      · exact before e there nulled
  | handle p registry answer draw =>
      dsimp only [Audit.step] at there
      split at there
      · unfold attempt at there
        split at there
        · exact before e there nulled
        · split at there <;> exact before e there nulled
      · exact before e there nulled
  | record p =>
      dsimp only [Audit.step] at there
      split at there
      · unfold recordNext record at there
        split at there
        · exact before e there nulled
        · split at there <;> exact before e there nulled
      · exact before e there nulled
  | replay tenant adapterId eventId role now =>
      dsimp only [Audit.step] at there
      split at there <;> exact before e there nulled
  | nullPayload other now =>
      dsimp only [Audit.step] at there
      split at there
      · exact before e there nulled
      · by_cases own : event = other
        · exact .inr ⟨now,own ▸ rfl⟩
        · exact before e ((Function.update_of_ne own ..).symm.trans there) nulled

theorem nullEach_keeps (p : Drain → Prop) (kept : ∀ s event, p s → p (Audit.step s (.nullPayload event now)))
    (valid : p s) (ids : List Nat) : p (nullEach s now ids) := by
  induction ids generalizing s with
  | nil => exact valid
  | cons event rest ih =>
      refine ih ?_
      split
      · exact kept s event valid
      · exact valid

theorem nullEach_frame (s : Drain) (now : Time) (ids : List Nat) :
    (nullEach s now ids).box.deliveries = s.box.deliveries ∧ (nullEach s now ids).passes = s.passes := by
  refine nullEach_keeps (fun next => next.box.deliveries = s.box.deliveries ∧ next.passes = s.passes) ?_ ⟨rfl,rfl⟩ ids
  intro next event same
  dsimp only [Audit.step]
  split <;> exact same

theorem nullEach_nulled (ids : List Nat) (there : (nullEach s now ids).box.events event = some e)
    (nulled : e.payloadNulledAt.isSome) : event ∈ ids ∨ ∃ e, s.box.events event = some e ∧ e.payloadNulledAt.isSome := by
  induction ids generalizing s with
  | nil => exact .inr ⟨e,there,nulled⟩
  | cons first rest ih =>
      rcases ih there with listed | ⟨e',there',nulled'⟩
      · exact .inl (List.mem_cons_of_mem _ listed)
      · split at there'
        · rcases step_nulled there' nulled' with was | ⟨_,is⟩
          · exact .inr was
          · cases is
            exact .inl (List.mem_cons_self ..)
        · exact .inr ⟨e',there',nulled'⟩

end quiet

section runs

structure Sound (s : State) : Prop where
  leased : Leased s.worker
  fannedOut : FannedOut s.worker
  nulled : ∀ event e, s.worker.box.events event = some e → e.payloadNulledAt.isSome → Quiet s.worker.box event
  selected : ∀ job now ids event, s.selected job = some (now,ids) → event ∈ ids → Quiet s.worker.box event
  whole : ∀ p now pk loaded rest e, s.worker.passes p = some ⟨now,.handling pk loaded rest⟩ → s.carried p = some e →
    e.payloadNulledAt = none

variable {s : State} {action : Action}

theorem start_sound : Sound start := by
  refine ⟨leased_start_state,fannedOut_start,?_,?_,?_⟩
  · intro event e there
    cases there
  · intro job now ids event there
    cases there
  · intro p now pk loaded rest e there
    cases there

theorem due_quiet (sound : Sound s) (member : event ∈ due s now) : Quiet s.worker.box event := by
  obtain ⟨_,holds⟩ := List.mem_filter.mp (List.mem_of_mem_take member)
  rw [Bool.and_eq_true,Bool.not_eq_true'] at holds
  obtain ⟨e,there,is⟩ := (Option.any_eq_true ..).mp holds.1
  simp only [Bool.and_eq_true,decide_eq_true_eq] at is
  refine ⟨⟨e,there,?_⟩,?_⟩
  · cases status : e.status with
    | pending => exact absurd status is.2
    | dispatched => rfl
  · intro pk d row own pending
    have found : hasPendingDelivery s.worker.box event = true :=
      (exists_exact sound.leased.numbered _).mpr ⟨pk,d,row,by simp [own,pending]⟩
    rw [holds.2] at found
    cases found

theorem worker_quiet (sound : Sound s) (timely : Timely s (.worker action))
    (marked : (∃ e, s.worker.box.events event = some e ∧ e.payloadNulledAt.isSome) ∨
      ∃ job now ids, s.selected job = some (now,ids) ∧ event ∈ ids) :
    Quiet (Audit.step s.worker action).box event := by
  have quiet : Quiet s.worker.box event := by
    rcases marked with ⟨e,there,nulled⟩ | ⟨job,now,ids,there,listed⟩
    · exact sound.nulled event e there nulled
    · exact sound.selected job now ids event there listed
  refine quiet_step sound.leased sound.fannedOut quiet ?_
  intro tenant adapterId eventId role now pk d is accepted own
  rcases marked with ⟨e,there,nulled⟩ | ⟨job,clock,ids,there,listed⟩
  · have whole := applyReplay_whole accepted
    rw [own,there,Option.any_some,nulled] at whole
    cases whole
  · exact timely.2 tenant adapterId eventId role now pk d is accepted job clock ids there (own ▸ listed)

theorem timely_worker (timely : Audit.Timely s.worker action)
    (other : ∀ tenant adapterId eventId role now, action ≠ .replay tenant adapterId eventId role now) :
    Timely s (.worker action) :=
  ⟨timely,fun tenant adapterId eventId role now _ _ is => absurd is (other tenant adapterId eventId role now)⟩

theorem carry_load (s : State) (q : Nat) : carry s (.load q) = s.carried ∨
    ∃ now rest v, s.worker.passes q = some ⟨now,.attempting rest⟩ ∧ carry s (.load q) = Function.update s.carried q v := by
  unfold carry
  dsimp only
  split
  · next now pk rest here => exact .inr ⟨now,pk :: rest,_,here,rfl⟩
  · exact .inl rfl

theorem carry_kept (here : s.worker.passes p = some ⟨now,.handling pk loaded rest⟩) (action : Action) :
    carry s action p = s.carried p := by
  cases action with
  | load q =>
      rcases carry_load s q with same | ⟨clock,ids,v,before,is⟩
      · rw [same]
      · have other : p ≠ q := by
          intro same
          rw [← same,here] at before
          cases before
        rw [is,Function.update_of_ne other]
  | _ => rfl

theorem worker_sound (sound : Sound s) (timely : Timely s (.worker action)) (unnulled : ∀ event now, action ≠ .nullPayload event now) :
    Sound {s with worker := Audit.step s.worker action,carried := carry s action} := by
  refine ⟨leased_step sound.leased timely.1,fannedOut_step s.worker action sound.fannedOut,?_,?_,?_⟩
  · intro event e there nulled
    rcases step_nulled there nulled with was | ⟨now,is⟩
    · exact worker_quiet sound timely (.inl was)
    · exact absurd is (unnulled event now)
  · intro job now ids event there listed
    exact worker_quiet sound timely (.inr ⟨job,now,ids,there,listed⟩)
  · intro p now pk loaded rest e here has
    rcases step_handling here with before | ⟨is,before,row⟩
    · exact sound.whole p now pk loaded rest e before ((carry_kept before action).symm.trans has)
    · subst is
      unfold carry at has
      dsimp only at has
      rw [before] at has
      dsimp only at has
      rw [Function.update_self,row] at has
      have pending := load_pending sound.leased before row (timely.1 now pk rest loaded before row)
      by_contra some_
      have nulled : e.payloadNulledAt.isSome := Option.isSome_iff_ne_none.mpr some_
      exact (sound.nulled loaded.event e has nulled).done pk loaded row rfl pending

theorem update_sound (sound : Sound s) (there : s.selected job = some (now,ids)) : Sound (step s (.update job)) := by
  dsimp only [step]
  rw [there]
  dsimp only
  obtain ⟨rows,passes⟩ := nullEach_frame s.worker now ids
  have quiet : ∀ event, Quiet s.worker.box event → Quiet (nullEach s.worker now ids).box event := by
    intro event before
    refine (nullEach_keeps (fun next => Leased next ∧ FannedOut next ∧ Quiet next.box event) ?_
      ⟨sound.leased,sound.fannedOut,before⟩ ids).2.2
    intro next other held
    exact ⟨leased_step held.1 trivial,fannedOut_step next _ held.2.1,
      quiet_step held.1 held.2.1 held.2.2 (fun _ _ _ _ _ _ _ is => nomatch is)⟩
  have chosen : ∀ other clock ids' event, Function.update s.selected job none other = some (clock,ids') → event ∈ ids' →
      Quiet s.worker.box event := by
    intro other clock ids' event has listed
    by_cases own : other = job
    · rw [own,Function.update_self] at has
      cases has
    · exact sound.selected other clock ids' event ((Function.update_of_ne own ..).symm.trans has) listed
  refine ⟨?_,?_,?_,?_,?_⟩
  · exact nullEach_keeps Leased (fun next event valid => leased_step valid trivial) sound.leased ids
  · exact nullEach_keeps FannedOut (fun next event valid => fannedOut_step next _ valid) sound.fannedOut ids
  · intro event e has nulled
    rcases nullEach_nulled ids has nulled with listed | ⟨e',was,before⟩
    · exact quiet event (sound.selected job now ids event there listed)
    · exact quiet event (sound.nulled event e' was before)
  · intro other clock ids' event has listed
    exact quiet event (chosen other clock ids' event has listed)
  · intro p clock pk loaded rest e here has
    rw [passes] at here
    exact sound.whole p clock pk loaded rest e here has

theorem step_sound (s : State) (move : Move) (sound : Sound s) (timely : Timely s move) : Sound (step s move) := by
  cases move with
  | emit e createdAt =>
      have idle : Timely s (.worker (.emit e)) := ⟨trivial,fun _ _ _ _ _ _ _ is => nomatch is⟩
      have next := worker_sound sound idle (fun _ _ => nofun)
      exact ⟨next.leased,next.fannedOut,next.nulled,next.selected,next.whole⟩
  | worker action =>
      cases action with
      | emit e => exact sound
      | nullPayload event now => exact sound
      | _ => exact worker_sound sound timely (fun _ _ => nofun)
  | select job now =>
      refine ⟨sound.leased,sound.fannedOut,sound.nulled,?_,sound.whole⟩
      intro other clock ids event has listed
      dsimp only [step] at has
      by_cases own : other = job
      · rw [own,Function.update_self] at has
        cases has
        have quiet : Quiet s.worker.box event := due_quiet sound listed
        exact quiet
      · exact sound.selected other clock ids event ((Function.update_of_ne own ..).symm.trans has) listed
  | update job =>
      cases there : s.selected job with
      | none =>
          dsimp only [step]
          rw [there]
          exact sound
      | some chosen => exact update_sound sound there
  | abandon job =>
      refine ⟨sound.leased,sound.fannedOut,sound.nulled,?_,sound.whole⟩
      intro other clock ids event has listed
      dsimp only [step] at has
      by_cases own : other = job
      · rw [own,Function.update_self] at has
        cases has
      · exact sound.selected other clock ids event ((Function.update_of_ne own ..).symm.trans has) listed

theorem keeps_step (s : State) (move : Move) (sound : Sound s) (timely : Timely s move) : Keeps s move := by
  have next := step_sound s move sound timely
  refine ⟨?_,?_⟩
  · intro event e pk d there nulled row own
    exact (next.nulled event e there nulled).done pk d row own
  · intro e given
    have whole : e.payloadNulledAt = none := by
      unfold handed at given
      split at given
      · split at given
        · next p registry _ _ _ _ clock pk loaded rest e' here has =>
            split at given
            · cases given
              exact sound.whole p clock pk loaded rest e here has
            · cases given
        · cases given
      · cases given
    refine ⟨whole,?_⟩
    unfold dataOf
    rw [whole]
    rfl

end runs

theorem retention_keeps (moves : List Move) (timely : Runs.Along step Timely start moves) :
    Runs.Along step Keeps start moves :=
  Runs.along_keeps step step_sound keeps_step start_sound timely

def day : Time := 86400 * second

def deadLetter : List Move :=
  [.emit (listingEvent "lst_1") 0,.worker (.start 0),.worker (fanOutOne 0),.worker (.claim 0 100 []),.worker (.load 0),
    .worker (.handle 0 [webhook] (.ok {status := .failed,permanent := true}) 0),.worker (.record 0)]

def replayAt (now : Time) : Move := .worker (.replay 1 "webhook" "evt_1" REPLAY_ROLE now)

-- A replay after the update is refused.
def nulledFirst : List Move := deadLetter ++ [.select 0 (100*day),.update 0,replayAt (101*day)]

theorem retention_keeps_nulled : Runs.Along step Keeps start nulledFirst := by
  apply retention_keeps
  refine ⟨trivial,timely_worker trivial ?_,timely_worker trivial ?_,timely_worker ?_ ?_,timely_worker ?_ ?_,
    timely_worker trivial ?_,timely_worker ?_ ?_,trivial,trivial,⟨?_,?_⟩,trivial⟩
  · exact fun _ _ _ _ _ is => nomatch is
  · exact fun _ _ _ _ _ is => nomatch is
  · intro now here pk taken
    cases here
    have only : pk = 0 := by
      have listed : pk ∈ [0] := taken
      simpa using listed
    exact unheld_of_started (started_run [.emit (listingEvent "lst_1"),.start 0,fanOutOne 0]) (by rw [only]; decide)
  · exact fun _ _ _ _ _ is => nomatch is
  · intro now pk rest d here row
    cases here
    cases row
    rfl
  · exact fun _ _ _ _ _ is => nomatch is
  · exact fun _ _ _ _ _ is => nomatch is
  · intro now pk loaded o rest v here written
    cases here
    cases written
  · exact fun _ _ _ _ _ is => nomatch is
  · intro pk d accepted
    cases accepted
  · intro tenant adapterId eventId role now pk d is accepted
    cases is
    cases accepted

-- A replay commits between the selection and the update.
def replayedBetween : List Move :=
  deadLetter ++ [.select 0 (100*day),replayAt (100*day),.update 0,.worker (.start (100*day)),.worker (.claim 1 100 []),
    .worker (.load 1)]

theorem nulled_envelope_handed :
    ((Runs.run step start replayedBetween).worker.box.events 0).any (·.payloadNulledAt.isSome) ∧
    ((Runs.run step start replayedBetween).worker.box.deliveries 0).map (·.status) = some .pending ∧
    (handed (Runs.run step start replayedBetween) (.worker (answer 1 .ok))).any (fun e => (dataOf e).isEmpty) ∧
    ¬Runs.Along step Keeps start (replayedBetween ++ [.worker (answer 1 .ok)]) := by
  have blank : (handed (Runs.run step start replayedBetween) (.worker (answer 1 .ok))).map (·.payloadNulledAt.isSome) =
      some true := by decide +kernel
  refine ⟨by decide +kernel,by decide +kernel,by decide +kernel,?_⟩
  intro all
  have last := ((Runs.along_append step start replayedBetween _).mp all).2.1
  obtain ⟨e,given,nulled⟩ := Option.map_eq_some_iff.mp blank
  rw [(last.whole e given).1] at nulled
  cases nulled

end Osds.Audit.Retention

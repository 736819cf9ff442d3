import Osds.Audit.Drain
import Mathlib.Logic.ExistsUnique

namespace Osds.Audit
open Directory

def Settled (log : List Entry) (pk : Nat) : Prop :=
  (∃ p, Entry.handled p pk ∈ log) ∨ ∃ p, Entry.recorded p pk .dead ∈ log

-- The deliveries before `pk` in its own stream: one adapter, one subject.
def Behind (box : Outbox) (pk earlier : Nat) : Prop :=
  earlier < pk ∧ ∃ d other, box.deliveries pk = some d ∧ box.deliveries earlier = some other ∧
    other.adapterId = d.adapterId ∧ other.subject = d.subject

def ClaimsHead (s : Drain) (action : Action) : Prop :=
  ∀ new p pk, (step s action).log = new ++ s.log → Entry.claimed p pk ∈ new →
    ∀ earlier other, Behind s.box pk earlier → s.box.deliveries earlier = some other → other.status ≠ .pending

def LogsWanted (s : Drain) (action : Action) : Prop :=
  ∀ new event wanted, (step s action).log = new ++ s.log → Entry.fannedOut event wanted ∈ new →
    ∃ p registry config e, action = .fanOut p registry config ∧ s.box.events event = some e ∧
      wanted = wanting registry config e

def FanOutComplete (s : Drain) : Prop :=
  ∀ event e, s.box.events event = some e → e.status = .dispatched →
    ∃ wanted, Entry.fannedOut event wanted ∈ s.log ∧ ∀ adapterId,
      (adapterId ∈ wanted → ∃! pk, ∃ d, s.box.deliveries pk = some d ∧ d.event = event ∧ d.adapterId = adapterId) ∧
      (adapterId ∉ wanted → ¬Delivers s.box event adapterId)

def HandledInOrder (s : Drain) : Prop :=
  ∀ later early p pk, s.log = later ++ Entry.handled p pk :: early →
    ∀ earlier, Behind s.box pk earlier → Settled early earlier

section order

variable {s : Drain} {pk earlier : Nat} {action : Action}

theorem settled_append (new : List Entry) (settled : Settled log pk) : Settled (new ++ log) pk := by
  rcases settled with ⟨p,member⟩ | ⟨p,member⟩
  · exact .inl ⟨p,List.mem_append_right _ member⟩
  · exact .inr ⟨p,List.mem_append_right _ member⟩

structure InOrder (s : Drain) : Prop where
  numbered : Numbered s.box
  settled : ∀ pk d, s.box.deliveries pk = some d → d.status ≠ .pending → Settled s.log pk
  recording : ∀ p now pk loaded o rest, s.passes p = some ⟨now,.recording pk loaded o rest⟩ →
    o.status = .delivered → Entry.handled p pk ∈ s.log
  held : ∀ p pass pk, s.passes p = some pass → pk ∈ pass.phase.work →
    (∃ d, s.box.deliveries pk = some d) ∧ ∀ earlier, Behind s.box pk earlier → Settled s.log earlier
  logged : ∀ p pk, Entry.handled p pk ∈ s.log → ∃ d, s.box.deliveries pk = some d
  ordered : HandledInOrder s

theorem behind_before (numbered : Numbered s.box) (row : s.box.deliveries pk = some d)
    (behind : Behind (step s action).box pk earlier) : Behind s.box pk earlier := by
  obtain ⟨lower,d',other,after,after',adapter,subject⟩ := behind
  rcases step_origin numbered after with ⟨old,before,_,sameAdapter,sameSubject⟩ | ⟨drawn,_⟩
  · rcases step_origin numbered after' with ⟨old',before',_,sameAdapter',sameSubject'⟩ | ⟨drawn,_⟩
    · refine ⟨lower,old,old',before,before',?_,?_⟩
      · rw [← sameAdapter',← sameAdapter,adapter]
      · rw [← sameSubject',← sameSubject,subject]
    · have bound := numbered pk d row
      omega
  · exact absurd (numbered pk d row) (Nat.not_lt_of_le drawn)

theorem step_present (numbered : Numbered s.box) (row : s.box.deliveries pk = some d) (action : Action) :
    ∃ d', (step s action).box.deliveries pk = some d' := by
  rcases step_row numbered row action with same | ⟨_,_,_,_,_,_,_,after⟩ | ⟨_,_,_,_,_,_,_,_,after⟩ |
    ⟨_,_,_,_,_,_,_,_,after⟩
  · exact ⟨_,same⟩
  · exact ⟨_,after⟩
  · exact ⟨_,after⟩
  · exact ⟨_,after⟩

theorem claims_head (claim : pk ∈ claimed s.box now batch locked) (behind : Behind s.box pk earlier)
    (row : s.box.deliveries earlier = some other) : other.status ≠ .pending := by
  obtain ⟨lower,d,other',present,present',adapter,subject⟩ := behind
  obtain ⟨d',there,_,_,clear⟩ := claimable_exact.mp (claimed_claimable claim)
  rw [present,Option.some.injEq] at there
  rw [present',Option.some.injEq] at row
  exact clear earlier lower other (row ▸ present') (row ▸ there ▸ adapter) (row ▸ there ▸ subject)

theorem claimsHead_step (s : Drain) (action : Action) : ClaimsHead s action := by
  intro new p pk log member earlier other behind row
  obtain ⟨new',log',justified⟩ := step_log s action
  have same : new = new' := List.append_cancel_right (log.symm.trans log')
  obtain ⟨now,batch,locked,_,claim⟩ := justified _ (same ▸ member)
  exact claims_head claim behind row

theorem logsWanted_step (s : Drain) (action : Action) : LogsWanted s action := by
  intro new event wanted log member
  obtain ⟨new',log',justified⟩ := step_log s action
  have same : new = new' := List.append_cancel_right (log.symm.trans log')
  obtain ⟨p,registry,config,e,is,there,_,exact_⟩ := justified _ (same ▸ member)
  exact ⟨p,registry,config,e,is,there,exact_⟩

theorem settled_step (valid : InOrder s) (row : (step s action).box.deliveries pk = some d)
    (closed : d.status ≠ .pending) : Settled (step s action).log pk := by
  obtain ⟨new,log,_⟩ := step_log s action
  rcases step_origin valid.numbered row with ⟨old,before,_⟩ | ⟨_,_,_,_,_,_,_,_,_,_,_,_,_,_,fresh⟩
  · have kept : old.status ≠ .pending → Settled (step s action).log pk := by
      intro was
      rw [log]
      exact settled_append new (valid.settled pk old before was)
    rcases step_row valid.numbered before action with same | ⟨_,_,_,_,_,_,_,after⟩ |
      ⟨p,now,loaded,o,rest,is,here,guard,after⟩ | ⟨_,_,_,_,_,_,_,_,after⟩
    · rw [row,Option.some.injEq] at same
      exact kept (same ▸ closed)
    · rw [row,Option.some.injEq] at after
      exact kept (by simpa [after] using closed)
    · rw [row,Option.some.injEq] at after
      have status : d.status = o.status := by rw [after]; rfl
      cases is_ : o.status with
      | pending => exact absurd (status.trans is_) closed
      | delivered =>
          have handled := valid.recording p now pk loaded o rest here is_
          refine .inl ⟨p,?_⟩
          rw [log]
          exact List.mem_append_right _ handled
      | dead =>
          refine .inr ⟨p,?_⟩
          rw [is,← is_]
          exact record_logged here before guard
    · rw [row,Option.some.injEq] at after
      exact absurd (by rw [after]; rfl) closed
  · exact absurd (by rw [fresh]; rfl) closed

theorem held_step {pass : Pass} (valid : InOrder s) (here : (step s action).passes p = some pass) (member : pk ∈ pass.phase.work) :
    (∃ d, (step s action).box.deliveries pk = some d) ∧
      ∀ earlier, Behind (step s action).box pk earlier → Settled (step s action).log earlier := by
  obtain ⟨new,log,_⟩ := step_log s action
  rw [log]
  rcases step_held here member with ⟨old,before,held⟩ | ⟨now,batch,locked,before,claim⟩
  · obtain ⟨⟨d,row⟩,settled⟩ := valid.held p old pk before held
    refine ⟨step_present valid.numbered row action,?_⟩
    intro earlier behind
    exact settled_append new (settled earlier (behind_before valid.numbered row behind))
  · obtain ⟨d,row,_⟩ := claimable_exact.mp (claimed_claimable claim)
    refine ⟨step_present valid.numbered row action,?_⟩
    intro earlier behind
    have before := behind_before valid.numbered row behind
    have there := before
    obtain ⟨_,_,other,_,present,_⟩ := there
    exact settled_append new (valid.settled earlier other present (claims_head claim before present))

theorem ordered_step (valid : InOrder s) (action : Action) : HandledInOrder (step s action) := by
  obtain ⟨new,log,justified⟩ := step_log s action
  intro later early p pk split_ earlier behind
  rw [log] at split_
  have old : ∀ more, s.log = more ++ Entry.handled p pk :: early → Settled early earlier := by
    intro more whole
    have member : Entry.handled p pk ∈ s.log := by
      rw [whole]
      exact List.mem_append_right _ (List.mem_cons_self ..)
    obtain ⟨d,row⟩ := valid.logged p pk member
    exact valid.ordered more early p pk whole earlier (behind_before valid.numbered row behind)
  rcases List.append_eq_append_iff.mp split_ with ⟨more,_,rest⟩ | ⟨more,entries,rest⟩
  · exact old more rest
  · rcases List.cons_eq_append_iff.mp rest with ⟨_,whole⟩ | ⟨more',first,whole⟩
    · exact old [] whole
    · have member : Entry.handled p pk ∈ new := by
        rw [entries,first]
        exact List.mem_append_right _ (List.mem_cons_self ..)
      obtain ⟨now,loaded,rest',here⟩ := justified _ member
      obtain ⟨⟨d,row⟩,settled⟩ := valid.held p _ pk here (List.mem_cons_self ..)
      rw [whole]
      exact settled_append more' (settled earlier (behind_before valid.numbered row behind))

theorem inOrder_step (s : Drain) (action : Action) (valid : InOrder s) : InOrder (step s action) := by
  obtain ⟨new,log,justified⟩ := step_log s action
  refine ⟨step_numbered valid.numbered action,?_,?_,?_,?_,ordered_step valid action⟩
  · intro pk d row closed
    exact settled_step valid row closed
  · intro p now pk loaded o rest here delivered
    rcases step_recording here with before | handled
    · rw [log]
      exact List.mem_append_right _ (valid.recording p now pk loaded o rest before delivered)
    · exact handled delivered
  · intro p pass pk here member
    exact held_step valid here member
  · intro p pk member
    rw [log,List.mem_append] at member
    rcases member with added | before
    · obtain ⟨now,loaded,rest,here⟩ := justified _ added
      obtain ⟨⟨d,row⟩,_⟩ := valid.held p _ pk here (List.mem_cons_self ..)
      exact step_present valid.numbered row action
    · obtain ⟨d,row⟩ := valid.logged p pk before
      exact step_present valid.numbered row action

end order

section fanOut

variable {s next : Drain} {event : Nat} {e : OutboxEntry}

structure FannedOut (s : Drain) : Prop where
  numbered : Numbered s.box
  onePer : OnePer s.box
  issued : ∀ event e, s.box.events event = some e → event < s.box.nextEvent
  known : ∀ pk d, s.box.deliveries pk = some d → ∃ e, s.box.events d.event = some e ∧ e.status = .dispatched
  dispatched : ∀ event e, s.box.events event = some e → e.status = .dispatched →
    ∃ wanted, Entry.fannedOut event wanted ∈ s.log ∧ ∀ adapterId, adapterId ∈ wanted ↔ Delivers s.box event adapterId

theorem fannedOut_of (valid : FannedOut s) (numbered : Numbered next.box)
    (issued : ∀ event e, next.box.events event = some e → event < next.box.nextEvent)
    (origin : ∀ pk d, next.box.deliveries pk = some d → ∃ old, s.box.deliveries pk = some old ∧ SameKey d old)
    (present : ∀ pk d, s.box.deliveries pk = some d → ∃ d', next.box.deliveries pk = some d')
    (kept : ∀ event e, s.box.events event = some e → ∃ e', next.box.events event = some e' ∧ e'.status = e.status)
    (old : ∀ event e', next.box.events event = some e' → e'.status = .dispatched → ∃ e, s.box.events event = some e)
    (log : ∃ new, next.log = new ++ s.log) : FannedOut next := by
  refine ⟨numbered,?_,issued,?_,?_⟩
  · intro pk other d d' row row' sameEvent sameAdapter
    obtain ⟨was,before,event,adapter,_⟩ := origin pk d row
    obtain ⟨was',before',event',adapter',_⟩ := origin other d' row'
    refine valid.onePer pk other was was' before before' ?_ ?_
    · rw [← event,← event',sameEvent]
    · rw [← adapter,← adapter',sameAdapter]
  · intro pk d row
    obtain ⟨was,before,event,_⟩ := origin pk d row
    obtain ⟨e,there,dispatched⟩ := valid.known pk was before
    obtain ⟨e',after,same⟩ := kept _ e there
    exact ⟨e',event ▸ after,same.trans dispatched⟩
  · intro event e' there dispatched
    obtain ⟨e,was⟩ := old event e' there dispatched
    obtain ⟨e'',after,same⟩ := kept event e was
    rw [there,Option.some.injEq] at after
    obtain ⟨wanted,member,exact_⟩ := valid.dispatched event e was (same.symm.trans (after ▸ dispatched))
    obtain ⟨new,grown⟩ := log
    refine ⟨wanted,grown ▸ List.mem_append_right _ member,?_⟩
    intro adapterId
    rw [exact_]
    constructor
    · intro delivers
      obtain ⟨pk,d,row,sameEvent,sameAdapter⟩ := delivers
      obtain ⟨d',row'⟩ := present pk d row
      obtain ⟨was_,before,event_,adapter,_⟩ := origin pk d' row'
      rw [row,Option.some.injEq] at before
      subst before
      exact ⟨pk,d',row',event_.trans sameEvent,adapter.trans sameAdapter⟩
    · intro delivers
      obtain ⟨pk,d,row,sameEvent,sameAdapter⟩ := delivers
      obtain ⟨was_,before,event_,adapter,_⟩ := origin pk d row
      exact ⟨pk,was_,before,event_.symm.trans sameEvent,adapter.symm.trans sameAdapter⟩

theorem fannedOut_dispatch (valid : FannedOut s) (there : s.box.events event = some e) (pending : e.status = .pending)
    (box : next.box = fanOut s.box now registry config event)
    (log : next.log = Entry.fannedOut event (wanting registry config e) :: s.log) : FannedOut next := by
  let created := createAll now event e (wanting registry config e) s.box
  have grown : Grows s.box created := createAll_grows _
  have deliveries : next.box.deliveries = created.deliveries := by
    rw [box]
    simp only [fanOut,there,pending]
    rfl
  have events : next.box.events = Function.update s.box.events event
      (some {e with status := .dispatched,dispatchedAt := some now}) := by
    rw [box]
    simp only [fanOut,there,pending]
    exact congrArg (fun events => Function.update events event _) (createAll_events _).1
  have untouched : ∀ pk d, s.box.deliveries pk = some d → d.event ≠ event := by
    intro pk d row same
    obtain ⟨e',there',dispatched⟩ := valid.known pk d row
    rw [same,there,Option.some.injEq] at there'
    rw [there',dispatched] at pending
    cases pending
  refine ⟨?_,?_,?_,?_,?_⟩
  · rw [box]
    exact fanOut_numbered valid.numbered
  · intro pk other d d' row row'
    rw [deliveries] at row row'
    exact createAll_onePer valid.numbered valid.onePer _ pk other d d' row row'
  · intro event' e' there'
    have same : next.box.nextEvent = s.box.nextEvent := by
      rw [box]
      simp only [fanOut,there,pending]
      exact (createAll_events _).2
    rw [same]
    by_cases own : event' = event
    · rw [own]
      exact valid.issued event e there
    · rw [events,Function.update_of_ne own] at there'
      exact valid.issued event' e' there'
  · intro pk d row
    rw [deliveries] at row
    rw [events]
    rcases createAll_origin _ row with before | ⟨_,adapterId,_,fresh⟩
    · rw [Function.update_of_ne (untouched pk d before)]
      exact valid.known pk d before
    · have own : d.event = event := by
        rw [fresh]
        rfl
      rw [own,Function.update_self]
      exact ⟨_,rfl,rfl⟩
  · intro event' e' there' dispatched
    by_cases own : event' = event
    · subst own
      refine ⟨wanting registry config e,log ▸ List.mem_cons_self ..,?_⟩
      intro adapterId
      constructor
      · intro member
        obtain ⟨pk,d,row,same⟩ := createAll_delivers valid.numbered _ member
        exact ⟨pk,d,deliveries ▸ row,same⟩
      · intro delivers
        obtain ⟨pk,d,row,sameEvent,sameAdapter⟩ := delivers
        rw [deliveries] at row
        rcases createAll_origin _ row with before | ⟨_,adapter,member,fresh⟩
        · exact absurd sameEvent (untouched pk d before)
        · have adapter_ : d.adapterId = adapter := by
            rw [fresh]
            rfl
          rw [← sameAdapter,adapter_]
          exact member
    · rw [events,Function.update_of_ne own] at there'
      obtain ⟨wanted,member,exact_⟩ := valid.dispatched event' e' there' dispatched
      refine ⟨wanted,log ▸ List.mem_cons_of_mem _ member,?_⟩
      intro adapterId
      rw [exact_]
      constructor
      · intro delivers
        obtain ⟨pk,d,row,same⟩ := delivers_grows valid.numbered grown delivers
        exact ⟨pk,d,deliveries ▸ row,same⟩
      · intro delivers
        obtain ⟨pk,d,row,sameEvent,sameAdapter⟩ := delivers
        rw [deliveries] at row
        rcases createAll_origin _ row with before | ⟨_,adapter,_,fresh⟩
        · exact ⟨pk,d,before,sameEvent,sameAdapter⟩
        · have event_ : d.event = event := by
            rw [fresh]
            rfl
          exact absurd (sameEvent.symm.trans event_) own

theorem fannedOut_same (valid : FannedOut s) (box : next.box = s.box) (log : ∃ new, next.log = new ++ s.log) :
    FannedOut next := by
  refine fannedOut_of valid ?_ ?_ ?_ ?_ ?_ ?_ log
  · rw [box]
    exact valid.numbered
  · rw [box]
    exact valid.issued
  · intro pk d row
    exact ⟨d,box ▸ row,rfl,rfl,rfl⟩
  · intro pk d row
    exact ⟨d,box ▸ row⟩
  · intro event e there
    exact ⟨e,box ▸ there,rfl⟩
  · intro event e there _
    exact ⟨e,box ▸ there⟩

theorem fannedOut_rows (valid : FannedOut s) (action : Action) (nothing : ∀ p registry config, action ≠ .fanOut p registry config)
    (events : (step s action).box.events = s.box.events) (issued : (step s action).box.nextEvent = s.box.nextEvent) :
    FannedOut (step s action) := by
  obtain ⟨new,log,_⟩ := step_log s action
  refine fannedOut_of valid (step_numbered valid.numbered action) ?_ ?_ ?_ ?_ ?_ ⟨new,log⟩
  · rw [events,issued]
    exact valid.issued
  · intro pk d row
    rcases step_origin valid.numbered row with old | ⟨_,p,registry,config,_,_,_,_,_,is,_⟩
    · exact old
    · exact absurd is (nothing p registry config)
  · intro pk d row
    exact step_present valid.numbered row action
  · intro event e there
    exact ⟨e,events ▸ there,rfl⟩
  · intro event e there _
    exact ⟨e,events ▸ there⟩

theorem fannedOut_step (s : Drain) (action : Action) (valid : FannedOut s) : FannedOut (step s action) := by
  obtain ⟨new,log,_⟩ := step_log s action
  cases action with
  | emit e =>
      refine fannedOut_of valid valid.numbered ?_ ?_ ?_ ?_ ?_ ⟨new,log⟩
      · intro event e' there
        by_cases own : event = s.box.nextEvent
        · rw [own]
          exact Nat.lt_succ_self _
        · exact Nat.lt_succ_of_lt (valid.issued event e' ((Function.update_of_ne own ..).symm.trans there))
      · exact fun pk d row => ⟨d,row,rfl,rfl,rfl⟩
      · exact fun pk d row => ⟨d,row⟩
      · intro event e' there
        have own : event ≠ s.box.nextEvent := Nat.ne_of_lt (valid.issued event e' there)
        exact ⟨e',(Function.update_of_ne own ..).trans there,rfl⟩
      · intro event e' there dispatched
        by_cases own : event = s.box.nextEvent
        · rw [own] at there
          have same := (Function.update_self ..).symm.trans there
          cases same
          cases dispatched
        · exact ⟨e',(Function.update_of_ne own ..).symm.trans there⟩
  | fanOut p registry config =>
      dsimp only [step]
      split
      · next now event rest here =>
          unfold fanOutNext
          split
          · exact fannedOut_same valid rfl ⟨[],rfl⟩
          · next e there =>
              by_cases pending : e.status = .pending
              · simp only [pending]
                exact fannedOut_dispatch valid there pending rfl rfl
              · refine fannedOut_same valid ?_ ⟨_,rfl⟩
                have idle : fanOut s.box now registry config event = s.box := by simp [fanOut,there,pending]
                exact idle
      · exact valid
  | nullPayload event now =>
      dsimp only [step]
      split
      · exact valid
      · next e there =>
          refine fannedOut_of valid valid.numbered ?_ ?_ ?_ ?_ ?_ ⟨[],rfl⟩
          · intro event' e' there'
            by_cases own : event' = event
            · rw [own]
              exact valid.issued event e there
            · exact valid.issued event' e' ((Function.update_of_ne own ..).symm.trans there')
          · exact fun pk d row => ⟨d,row,rfl,rfl,rfl⟩
          · exact fun pk d row => ⟨d,row⟩
          · intro event' e' there'
            by_cases own : event' = event
            · subst own
              rw [there,Option.some.injEq] at there'
              have same : e.status = e'.status := congrArg OutboxEntry.status there'
              exact ⟨_,Function.update_self ..,same⟩
            · exact ⟨e',(Function.update_of_ne own ..).trans there',rfl⟩
          · intro event' e' there' _
            by_cases own : event' = event
            · exact ⟨e,own ▸ there⟩
            · exact ⟨e',(Function.update_of_ne own ..).symm.trans there'⟩
  | record p =>
      apply fannedOut_rows valid _ (fun _ _ _ is => by cases is)
      all_goals
        dsimp only [step]
        split
        · unfold recordNext record
          split
          · rfl
          · split <;> rfl
        · rfl
  | claim p batch locked =>
      apply fannedOut_rows valid _ (fun _ _ _ is => by cases is)
      all_goals
        dsimp only [step]
        split <;> rfl
  | replay tenant adapterId eventId role now =>
      apply fannedOut_rows valid _ (fun _ _ _ is => by cases is)
      all_goals
        dsimp only [step]
        split <;> rfl
  | start now => exact fannedOut_same valid rfl ⟨[],rfl⟩
  | crash p burnt => exact fannedOut_rows valid _ (fun _ _ _ is => by cases is) rfl rfl
  | load p =>
      dsimp only [step]
      split
      · split <;> exact fannedOut_same valid rfl ⟨[],rfl⟩
      · exact valid
  | handle p registry answer draw =>
      dsimp only [step]
      split
      · unfold attempt
        split
        · exact fannedOut_same valid rfl ⟨[],rfl⟩
        · split
          · exact fannedOut_same valid rfl ⟨[],rfl⟩
          · exact fannedOut_same valid rfl ⟨_,rfl⟩
      · exact valid

theorem fanOut_complete (valid : FannedOut s) : FanOutComplete s := by
  intro event e there dispatched
  obtain ⟨wanted,member,exact_⟩ := valid.dispatched event e there dispatched
  refine ⟨wanted,member,?_⟩
  intro adapterId
  constructor
  · intro wants
    obtain ⟨pk,d,row,sameEvent,sameAdapter⟩ := (exact_ adapterId).mp wants
    refine ⟨pk,⟨d,row,sameEvent,sameAdapter⟩,?_⟩
    intro other held
    obtain ⟨d',row',event',adapter'⟩ := held
    exact valid.onePer other pk d' d row' row (event'.trans sameEvent.symm) (adapter'.trans sameAdapter.symm)
  · intro unwanted delivers
    exact unwanted ((exact_ adapterId).mpr delivers)

end fanOut

theorem inOrder_start : InOrder Drain.start := by
  have noRow : ∀ pk d, Drain.start.box.deliveries pk ≠ some d := by
    intro pk d row
    cases row
  have noPass : ∀ p pass, Drain.start.passes p ≠ some pass := by
    intro p pass here
    cases here
  have noEntry : ∀ entry, entry ∉ Drain.start.log := fun entry member => by cases member
  refine ⟨?_,?_,?_,?_,?_,?_⟩
  · exact fun pk d row => absurd row (noRow pk d)
  · exact fun pk d row => absurd row (noRow pk d)
  · exact fun p now _ _ _ _ here => absurd here (noPass p _)
  · exact fun p pass _ here => absurd here (noPass p pass)
  · exact fun p pk member => absurd member (noEntry _)
  · intro later early p pk log
    exact absurd (log ▸ List.mem_append_right _ (List.mem_cons_self ..)) (noEntry (.handled p pk))

theorem fannedOut_start : FannedOut Drain.start := by
  have noRow : ∀ pk d, Drain.start.box.deliveries pk ≠ some d := by
    intro pk d row
    cases row
  have noEvent : ∀ event e, Drain.start.box.events event ≠ some e := by
    intro event e there
    cases there
  refine ⟨?_,?_,?_,?_,?_⟩
  · exact fun pk d row => absurd row (noRow pk d)
  · exact fun pk _ d _ row => absurd row (noRow pk d)
  · exact fun event e there => absurd there (noEvent event e)
  · exact fun pk d row => absurd row (noRow pk d)
  · exact fun event e there => absurd there (noEvent event e)

-- Every run of fan-outs, claims, attempts, records, replays and crashes: the
-- fan-out is complete, claims take the head of a stream, and what one adapter
-- handles of one subject it handles in delivery order.
theorem subject_order (actions : List Action) :
    FanOutComplete (Runs.run step Drain.start actions) ∧ Runs.Along step LogsWanted Drain.start actions ∧
      Runs.Along step ClaimsHead Drain.start actions ∧ HandledInOrder (Runs.run step Drain.start actions) := by
  have fanned := Runs.run_invariant step fannedOut_step fannedOut_start actions
  have ordered := Runs.run_invariant step inOrder_step inOrder_start actions
  have heads : Runs.Along step ClaimsHead Drain.start actions :=
    Runs.along_of_forall step inOrder_step (fun s action _ => claimsHead_step s action) inOrder_start actions
  have wanted : Runs.Along step LogsWanted Drain.start actions :=
    Runs.along_of_forall step inOrder_step (fun s action _ => logsWanted_step s action) inOrder_start actions
  exact ⟨fanOut_complete fanned,wanted,heads,ordered.ordered⟩

end Osds.Audit

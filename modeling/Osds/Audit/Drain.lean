import Osds.Audit.Deliveries
import Osds.Lib.Runs

namespace Osds.Audit
open Directory

-- Where a `drain_once` stands: what is left of the events it listed or of the
-- deliveries it claimed, the row it loaded, what it is about to record.
inductive Phase where
  | fanningOut (events : List Nat)
  | attempting (rest : List Nat)
  | handling (pk : Nat) (loaded : OutboxDelivery) (rest : List Nat)
  | recording (pk : Nat) (loaded : OutboxDelivery) (o : Outcome) (rest : List Nat)

structure Pass where
  now : Time
  phase : Phase

-- What the passes and admins have done, for the statements only.
inductive Entry where
  | fannedOut (event : Nat) (wanted : List String)
  | claimed (p pk : Nat)
  | handled (p pk : Nat)
  | recorded (p pk : Nat) (status : DeliveryStatus)
  | replayed (pk : Nat)
  deriving DecidableEq, Repr

structure Drain where
  box : Outbox
  passes : Nat → Option Pass
  nextPass : Nat
  log : List Entry

inductive Action where
  | emit (e : OutboxRow)
  | start (now : Time)
  | fanOut (p : Nat) (registry : List Subscriber) (config : TenantId → String → Json)
  | claim (p batch : Nat) (locked : List Nat)
  | load (p : Nat)
  | handle (p : Nat) (registry : List Subscriber) (answer : Except String Result) (draw : Nat)
  | record (p : Nat)
  -- a crash at any point; numbers a transaction drew and did not commit are lost
  | crash (p burnt : Nat)
  | replay (tenant : TenantId) (adapterId eventId : String) (role : Int) (now : Time)
  | nullPayload (event : Nat) (now : Time)

namespace Drain

def goto (s : Drain) (p : Nat) (now : Time) (phase : Phase) : Drain :=
  {s with passes := Function.update s.passes p (some ⟨now,phase⟩)}

def write (s : Drain) (box : Outbox) : Drain := {s with box := box}

def note (s : Drain) (entries : List Entry) : Drain := {s with log := entries ++ s.log}

def stop (s : Drain) (p : Nat) : Drain := {s with passes := Function.update s.passes p none}

def start : Drain := ⟨⟨fun _ => none,0,fun _ => none,0⟩,fun _ => none,0,[]⟩

end Drain

def attempt (s : Drain) (p : Nat) (now : Time) (pk : Nat) (loaded : OutboxDelivery) (rest : List Nat)
    (registry : List Subscriber) (answer : Except String Result) (draw : Nat) : Drain :=
  match s.box.events loaded.event with
  | none => s.stop p
  | some e =>
      match subscriberFor registry e.type loaded.adapterId with
      | none => s.goto p now (.recording pk loaded unregistered rest)
      | some _ =>
          let result := answered answer
          (s.note (if handled result then [.handled p pk] else [])).goto p now
            (.recording pk loaded (outcome loaded now draw result) rest)

def fanOutNext (s : Drain) (p : Nat) (now : Time) (event : Nat) (rest : List Nat) (registry : List Subscriber)
    (config : TenantId → String → Json) : Drain :=
  match s.box.events event with
  | none => s.stop p
  | some e =>
      let noted := if e.status = .pending then [Entry.fannedOut event (wanting registry config e)] else []
      ((s.write (fanOut s.box now registry config event)).note noted).goto p now (.fanningOut rest)

def claimNext (s : Drain) (p : Nat) (now : Time) (batch : Nat) (locked : List Nat) : Drain :=
  let pks := claimed s.box now batch locked
  ((s.write (stampAll s.box now pks)).note (pks.map (Entry.claimed p ·))).goto p now (.attempting pks)

def recordNext (s : Drain) (p : Nat) (now : Time) (pk : Nat) (loaded : OutboxDelivery) (o : Outcome)
    (rest : List Nat) : Drain :=
  let applied := record s.box now pk loaded o
  ((s.write applied.1).note (if applied.2 then [.recorded p pk o.status] else [])).goto p now (.attempting rest)

-- The next statement or short transaction of a pass, or something beside it. A
-- pass asked for what it is not about to do stays where it is.
def step (s : Drain) : Action → Drain
  | .emit e => s.write (s.box.emit e)
  | .start now => {s.goto s.nextPass now (.fanningOut (pendingEvents s.box)) with nextPass := s.nextPass + 1}
  | .fanOut p registry config =>
      match s.passes p with
      | some ⟨now,.fanningOut (event :: rest)⟩ => fanOutNext s p now event rest registry config
      | _ => s
  | .claim p batch locked =>
      match s.passes p with
      | some ⟨now,.fanningOut []⟩ => claimNext s p now batch locked
      | _ => s
  | .load p =>
      match s.passes p with
      | some ⟨now,.attempting (pk :: rest)⟩ =>
          match s.box.deliveries pk with
          | none => s.stop p
          | some d => s.goto p now (.handling pk d rest)
      | _ => s
  | .handle p registry answer draw =>
      match s.passes p with
      | some ⟨now,.handling pk loaded rest⟩ => attempt s p now pk loaded rest registry answer draw
      | _ => s
  | .record p =>
      match s.passes p with
      | some ⟨now,.recording pk loaded o rest⟩ => recordNext s p now pk loaded o rest
      | _ => s
  | .crash p burnt => (s.stop p).write {s.box with nextDelivery := s.box.nextDelivery + burnt}
  | .replay tenant adapterId eventId role now =>
      match applyReplay s.box tenant adapterId eventId role now with
      | .error _ => s
      | .ok (pk,d) => (s.write (s.box.put pk d)).note [.replayed pk]
  | .nullPayload event now =>
      match s.box.events event with
      | none => s
      | some e => s.write (s.box.putEvent event {e with payloadNulledAt := some now})

def Phase.work : Phase → List Nat
  | .fanningOut _ => []
  | .attempting rest => rest
  | .handling pk _ rest => pk :: rest
  | .recording pk _ _ rest => pk :: rest

def Phase.loaded : Phase → Option (Nat × OutboxDelivery)
  | .handling pk loaded _ => some (pk,loaded)
  | .recording pk loaded _ _ => some (pk,loaded)
  | _ => none

theorem goto_passes {pass : Pass} {s : Drain} (here : (s.goto p now phase).passes q = some pass) :
    q = p ∧ pass = ⟨now,phase⟩ ∨ s.passes q = some pass := by
  by_cases own : q = p
  · have same : some (Pass.mk now phase) = some pass := by simpa [Drain.goto,own] using here
    cases same
    exact .inl ⟨own,rfl⟩
  · exact .inr (by simpa [Drain.goto,own] using here)

theorem stop_passes {pass : Pass} {s : Drain} (here : (s.stop p).passes q = some pass) : s.passes q = some pass := by
  by_cases own : q = p
  · simp [Drain.stop,own] at here
  · simpa [Drain.stop,own] using here

section rows

variable {s : Drain} {pk : Nat} {d : OutboxDelivery}

theorem step_fanOut_grows (p : Nat) (registry : List Subscriber) (config : TenantId → String → Json) :
    Grows s.box (step s (.fanOut p registry config)).box := by
  dsimp only [step]
  split
  · unfold fanOutNext
    split
    · exact grows_refl s.box
    · exact fanOut_grows
  · exact grows_refl s.box

theorem step_row (numbered : Numbered s.box) (row : s.box.deliveries pk = some d) (action : Action) :
    (step s action).box.deliveries pk = some d ∨
    (∃ p now batch locked, action = .claim p batch locked ∧ s.passes p = some ⟨now,.fanningOut []⟩ ∧
      pk ∈ claimed s.box now batch locked ∧
      (step s action).box.deliveries pk = some {d with nextAttemptAt := visibility now}) ∨
    (∃ p now loaded o rest, action = .record p ∧ s.passes p = some ⟨now,.recording pk loaded o rest⟩ ∧
      d.nextAttemptAt = loaded.nextAttemptAt ∧ (step s action).box.deliveries pk = some (d.settle now o)) ∨
    (∃ tenant adapterId eventId role now, action = .replay tenant adapterId eventId role now ∧ d.status = .dead ∧
      applyReplay s.box tenant adapterId eventId role now = .ok (pk,d.requeued now) ∧
      (step s action).box.deliveries pk = some (d.requeued now)) := by
  cases action with
  | emit e => exact .inl row
  | start now => exact .inl row
  | crash p burnt => exact .inl row
  | fanOut p registry config =>
      have grown : Grows s.box _ := step_fanOut_grows p registry config
      exact .inl ((grown.kept pk (numbered pk d row)).trans row)
  | claim p batch locked =>
      dsimp only [step]
      split
      · next now here =>
          by_cases taken : pk ∈ claimed s.box now batch locked
          · exact .inr (.inl ⟨p,now,batch,locked,rfl,here,taken,stampAll_some taken row⟩)
          · exact .inl ((stampAll_other taken).trans row)
      · exact .inl row
  | load p =>
      dsimp only [step]
      split
      · split <;> exact .inl row
      · exact .inl row
  | handle p registry answer draw =>
      dsimp only [step]
      split
      · unfold attempt
        split
        · exact .inl row
        · split <;> exact .inl row
      · exact .inl row
  | record p =>
      dsimp only [step]
      split
      · next now other loaded o rest here =>
          unfold recordNext
          by_cases own : other = pk
          · subst own
            by_cases guard : d.nextAttemptAt = loaded.nextAttemptAt
            · refine .inr (.inr (.inl ⟨p,now,loaded,o,rest,rfl,here,guard,?_⟩))
              rw [record_applied row guard]
              exact Function.update_self ..
            · refine .inl ?_
              rw [record_discarded]
              · exact row
              · intro d' row'
                rw [row,Option.some.injEq] at row'
                exact row' ▸ guard
          · refine .inl ?_
            unfold record
            split
            · exact row
            · split
              · exact (Function.update_of_ne (Ne.symm own) ..).trans row
              · exact row
      · exact .inl row
  | replay tenant adapterId eventId role now =>
      dsimp only [step]
      split
      · exact .inl row
      · next other d' accepted =>
          obtain ⟨d'',row',dead,requeued⟩ := applyReplay_exact accepted
          by_cases own : other = pk
          · subst own
            rw [row,Option.some.injEq] at row'
            subst row'
            subst requeued
            exact .inr (.inr (.inr ⟨tenant,adapterId,eventId,role,now,rfl,dead,accepted,Function.update_self ..⟩))
          · exact .inl ((Function.update_of_ne (Ne.symm own) ..).trans row)
  | nullPayload event now =>
      dsimp only [step]
      split <;> exact .inl row

theorem stampAll_origin (row : (stampAll box now pks).deliveries pk = some d) : ∃ d', box.deliveries pk = some d' ∧
    d.event = d'.event ∧ d.adapterId = d'.adapterId ∧ d.subject = d'.subject := by
  by_cases taken : pk ∈ pks
  · obtain ⟨d',row',same⟩ := Option.map_eq_some_iff.mp ((if_pos taken).symm.trans row)
    exact ⟨d',row',same ▸ ⟨rfl,rfl,rfl⟩⟩
  · exact ⟨d,(stampAll_other taken).symm.trans row,rfl,rfl,rfl⟩

def SameKey (a b : OutboxDelivery) : Prop := a.event = b.event ∧ a.adapterId = b.adapterId ∧ a.subject = b.subject

theorem step_origin (numbered : Numbered s.box) (row : (step s action).box.deliveries pk = some d) :
    (∃ old, s.box.deliveries pk = some old ∧ SameKey d old) ∨
    s.box.nextDelivery ≤ pk ∧ ∃ p registry config now event rest e adapterId, action = .fanOut p registry config ∧
      s.passes p = some ⟨now,.fanningOut (event :: rest)⟩ ∧ s.box.events event = some e ∧ e.status = .pending ∧
      adapterId ∈ wanting registry config e ∧ d = freshDelivery now event e adapterId := by
  have new_or_old : (∃ old, s.box.deliveries pk = some old) ∨ s.box.deliveries pk = none := by
    cases s.box.deliveries pk with
    | none => exact .inr rfl
    | some old => exact .inl ⟨old,rfl⟩
  rcases new_or_old with ⟨old,before⟩ | absent
  · refine .inl ⟨old,before,?_⟩
    rcases step_row numbered before action with same | ⟨_,_,_,_,_,_,_,after⟩ | ⟨_,_,_,_,_,_,_,_,after⟩ |
      ⟨_,_,_,_,_,_,_,_,after⟩
    · rw [row,Option.some.injEq] at same
      exact same ▸ ⟨rfl,rfl,rfl⟩
    · rw [row,Option.some.injEq] at after
      exact after ▸ ⟨rfl,rfl,rfl⟩
    · rw [row,Option.some.injEq] at after
      exact after ▸ ⟨rfl,rfl,rfl⟩
    · rw [row,Option.some.injEq] at after
      exact after ▸ ⟨rfl,rfl,rfl⟩
  · have unchanged : s.box.deliveries pk = some d → False := by
      intro there
      rw [absent] at there
      cases there
    cases action with
    | emit e => exact (unchanged row).elim
    | start now => exact (unchanged row).elim
    | crash p burnt => exact (unchanged row).elim
    | fanOut p registry config =>
        dsimp only [step] at row
        split at row
        · next now event rest here =>
            unfold fanOutNext at row
            split at row
            · exact (unchanged row).elim
            · next e present =>
                have made : (fanOut s.box now registry config event).deliveries pk = some d := row
                unfold fanOut at made
                rw [present] at made
                dsimp only at made
                split at made
                · next pending =>
                    rcases createAll_origin _ made with there | ⟨drawn,adapterId,member,same⟩
                    · exact (unchanged there).elim
                    · exact .inr ⟨drawn,p,registry,config,now,event,rest,e,adapterId,rfl,here,present,pending,
                        member,same⟩
                · exact (unchanged made).elim
        · exact (unchanged row).elim
    | claim p batch locked =>
        dsimp only [step] at row
        split at row
        · obtain ⟨d',there,_⟩ := stampAll_origin row
          rw [absent] at there
          cases there
        · exact (unchanged row).elim
    | load p =>
        dsimp only [step] at row
        split at row
        · split at row <;> exact (unchanged row).elim
        · exact (unchanged row).elim
    | handle p registry answer draw =>
        dsimp only [step] at row
        split at row
        · unfold attempt at row
          split at row
          · exact (unchanged row).elim
          · split at row <;> exact (unchanged row).elim
        · exact (unchanged row).elim
    | record p =>
        dsimp only [step] at row
        split at row
        · next now other loaded o rest here =>
            have recorded : (record s.box now other loaded o).1.deliveries pk = some d := row
            unfold record at recorded
            split at recorded
            · exact (unchanged recorded).elim
            · next present =>
                split at recorded
                · have different : pk ≠ other := by
                    intro same
                    rw [← same,absent] at present
                    cases present
                  exact (unchanged ((Function.update_of_ne different ..).symm.trans recorded)).elim
                · exact (unchanged recorded).elim
        · exact (unchanged row).elim
    | replay tenant adapterId eventId role now =>
        dsimp only [step] at row
        split at row
        · exact (unchanged row).elim
        · next other d' accepted =>
            obtain ⟨_,present,_⟩ := applyReplay_exact accepted
            have different : pk ≠ other := by
              intro same
              rw [← same,absent] at present
              cases present
            exact (unchanged ((Function.update_of_ne different ..).symm.trans row)).elim
    | nullPayload event now =>
        dsimp only [step] at row
        split at row <;> exact (unchanged row).elim

theorem step_drawn (s : Drain) (action : Action) : s.box.nextDelivery ≤ (step s action).box.nextDelivery := by
  cases action with
  | fanOut p registry config => exact (step_fanOut_grows p registry config).next
  | crash p burnt => exact Nat.le_add_right ..
  | record p =>
      dsimp only [step]
      split
      · unfold recordNext record
        split
        · exact Nat.le_refl _
        · split <;> exact Nat.le_refl _
      · exact Nat.le_refl _
  | handle p registry answer draw =>
      dsimp only [step]
      split
      · unfold attempt
        split
        · exact Nat.le_refl _
        · split <;> exact Nat.le_refl _
      · exact Nat.le_refl _
  | load p =>
      dsimp only [step]
      split
      · split <;> exact Nat.le_refl _
      · exact Nat.le_refl _
  | _ =>
      dsimp only [step]
      try split
      all_goals exact Nat.le_refl _

theorem step_numbered (numbered : Numbered s.box) (action : Action) : Numbered (step s action).box := by
  intro pk d row
  rcases step_origin numbered row with ⟨old,before,_⟩ |
    ⟨_,p,registry,config,now,event,rest,e,_,is,here,present,_⟩
  · exact Nat.lt_of_lt_of_le (numbered pk old before) (step_drawn s action)
  · subst is
    have made : (step s (.fanOut p registry config)).box = fanOut s.box now registry config event := by
      simp only [step,here,fanOutNext,present]
      rfl
    rw [made] at row ⊢
    exact fanOut_numbered numbered pk d row

theorem record_logged (here : s.passes p = some ⟨now,.recording pk loaded o rest⟩)
    (row : s.box.deliveries pk = some d) (guard : d.nextAttemptAt = loaded.nextAttemptAt) :
    Entry.recorded p pk o.status ∈ (step s (.record p)).log := by
  simp only [step,here,recordNext,record_applied row guard]
  exact List.mem_cons_self ..

theorem step_recording (here : (step s action).passes p = some ⟨now,.recording pk loaded o rest⟩) :
    s.passes p = some ⟨now,.recording pk loaded o rest⟩ ∨
      (o.status = .delivered → Entry.handled p pk ∈ (step s action).log) := by
  cases action with
  | emit e => exact .inl here
  | start now =>
      rcases goto_passes here with ⟨_,same⟩ | same
      · cases same
      · exact .inl same
  | fanOut q registry config =>
      dsimp only [step] at here
      split at here
      · unfold fanOutNext at here
        split at here
        · exact .inl (stop_passes here)
        · rcases goto_passes here with ⟨_,same⟩ | same
          · cases same
          · exact .inl same
      · exact .inl here
  | claim q batch locked =>
      dsimp only [step] at here
      split at here
      · rcases goto_passes here with ⟨_,same⟩ | same
        · cases same
        · exact .inl same
      · exact .inl here
  | load q =>
      dsimp only [step] at here
      split at here
      · split at here
        · exact .inl (stop_passes here)
        · rcases goto_passes here with ⟨_,same⟩ | same
          · cases same
          · exact .inl same
      · exact .inl here
  | handle q registry answer draw =>
      dsimp only [step] at here ⊢
      split at here
      · unfold attempt at here ⊢
        split at here
        · exact .inl (stop_passes here)
        · split at here
          · rcases goto_passes here with ⟨_,same⟩ | same
            · cases same
              exact .inr nofun
            · exact .inl same
          · rcases goto_passes here with ⟨own,same⟩ | same
            · cases same
              refine .inr ?_
              intro delivered
              simp [Drain.goto,Drain.note,own,outcome_delivered delivered]
            · exact .inl same
      · exact .inl here
  | record q =>
      dsimp only [step] at here
      split at here
      · rcases goto_passes here with ⟨_,same⟩ | same
        · cases same
        · exact .inl same
      · exact .inl here
  | crash q burnt => exact .inl (stop_passes here)
  | replay tenant adapterId eventId role now =>
      dsimp only [step] at here
      split at here <;> exact .inl here
  | nullPayload event now =>
      dsimp only [step] at here
      split at here <;> exact .inl here

end rows

section passes

variable {s : Drain} {p : Nat}

def Started (s : Drain) : Prop := ∀ q, s.nextPass ≤ q → s.passes q = none

theorem started_goto {pass : Pass} (started : Started s) (here : s.passes p = some pass) : Started (s.goto p now phase) := by
  intro q later
  have other : q ≠ p := by
    intro same
    rw [← same,started q later] at here
    cases here
  exact (Function.update_of_ne other ..).trans (started q later)

theorem started_stop (started : Started s) (p : Nat) : Started (s.stop p) := by
  intro q later
  by_cases own : q = p
  · rw [own]
    exact Function.update_self ..
  · exact (Function.update_of_ne own ..).trans (started q later)

theorem started_step (s : Drain) (action : Action) (started : Started s) : Started (step s action) := by
  cases action with
  | emit e => exact started
  | start now =>
      intro q later
      have other : q ≠ s.nextPass := Nat.ne_of_gt later
      exact (Function.update_of_ne other ..).trans (started q (Nat.le_of_succ_le later))
  | fanOut p registry config =>
      dsimp only [step]
      split
      · next here =>
          unfold fanOutNext
          split
          · exact started_stop started p
          · exact started_goto started here
      · exact started
  | claim p batch locked =>
      dsimp only [step]
      split
      · next here => exact started_goto started here
      · exact started
  | load p =>
      dsimp only [step]
      split
      · next here =>
          split
          · exact started_stop started p
          · exact started_goto started here
      · exact started
  | handle p registry answer draw =>
      dsimp only [step]
      split
      · next here =>
          unfold attempt
          split
          · exact started_stop started p
          · split
            · exact started_goto started here
            · exact started_goto started here
      · exact started
  | record p =>
      dsimp only [step]
      split
      · next here => exact started_goto started here
      · exact started
  | crash p burnt => exact started_stop started p
  | replay tenant adapterId eventId role now =>
      dsimp only [step]
      split <;> exact started
  | nullPayload event now =>
      dsimp only [step]
      split <;> exact started

theorem started_run (actions : List Action) : Started (Runs.run step Drain.start actions) :=
  Runs.run_invariant step started_step (fun _ _ => rfl) actions

def Justified (s : Drain) (action : Action) : Entry → Prop
  | .fannedOut event wanted => ∃ p registry config e, action = .fanOut p registry config ∧
      s.box.events event = some e ∧ e.status = .pending ∧ wanted = wanting registry config e
  | .claimed p pk => ∃ now batch locked, s.passes p = some ⟨now,.fanningOut []⟩ ∧ pk ∈ claimed s.box now batch locked
  | .handled p pk => ∃ now loaded rest, s.passes p = some ⟨now,.handling pk loaded rest⟩
  | .recorded p pk status => ∃ now loaded o rest, s.passes p = some ⟨now,.recording pk loaded o rest⟩ ∧ o.status = status
  | .replayed pk => ∃ d, s.box.deliveries pk = some d ∧ d.status = .dead

theorem step_log (s : Drain) (action : Action) :
    ∃ new, (step s action).log = new ++ s.log ∧ ∀ entry ∈ new, Justified s action entry := by
  have nothing : ∃ new, s.log = new ++ s.log ∧ ∀ entry ∈ new, Justified s action entry := ⟨[],rfl,nofun⟩
  cases action with
  | emit e => exact nothing
  | start now => exact nothing
  | fanOut p registry config =>
      dsimp only [step]
      split
      · next event _ _ =>
          unfold fanOutNext
          split
          · exact nothing
          · next e row =>
              refine ⟨_,rfl,?_⟩
              intro entry member
              split at member
              · next pending =>
                  rw [List.mem_singleton] at member
                  exact member ▸ ⟨p,registry,config,e,rfl,row,pending,rfl⟩
              · cases member
      · exact nothing
  | claim p batch locked =>
      dsimp only [step]
      split
      · next now here =>
          refine ⟨_,rfl,?_⟩
          intro entry member
          obtain ⟨pk,taken,same⟩ := List.mem_map.mp member
          exact same ▸ ⟨now,batch,locked,here,taken⟩
      · exact nothing
  | load p =>
      dsimp only [step]
      split
      · split <;> exact nothing
      · exact nothing
  | handle p registry answer draw =>
      dsimp only [step]
      split
      · next now pk loaded rest here =>
          unfold attempt
          split
          · exact nothing
          · split
            · exact nothing
            · refine ⟨_,rfl,?_⟩
              intro entry member
              split at member
              · rw [List.mem_singleton] at member
                exact member ▸ ⟨now,loaded,rest,here⟩
              · cases member
      · exact nothing
  | record p =>
      dsimp only [step]
      split
      · next now pk loaded o rest here =>
          refine ⟨_,rfl,?_⟩
          intro entry member
          split at member
          · rw [List.mem_singleton] at member
            exact member ▸ ⟨now,loaded,o,rest,here,rfl⟩
          · cases member
      · exact nothing
  | crash p burnt => exact nothing
  | replay tenant adapterId eventId role now =>
      dsimp only [step]
      split
      · exact nothing
      · next pk d accepted =>
          refine ⟨_,rfl,?_⟩
          intro entry member
          rw [List.mem_singleton] at member
          obtain ⟨d',row,dead,_⟩ := applyReplay_exact accepted
          exact member ▸ ⟨d',row,dead⟩
  | nullPayload event now =>
      dsimp only [step]
      split <;> exact nothing

theorem step_held {pass : Pass} (here : (step s action).passes p = some pass) (member : pk ∈ pass.phase.work) :
    (∃ old, s.passes p = some old ∧ pk ∈ old.phase.work) ∨
    ∃ now batch locked, s.passes p = some ⟨now,.fanningOut []⟩ ∧ pk ∈ claimed s.box now batch locked := by
  have before : s.passes p = some pass → (∃ old, s.passes p = some old ∧ pk ∈ old.phase.work) ∨
      ∃ now batch locked, s.passes p = some ⟨now,.fanningOut []⟩ ∧ pk ∈ claimed s.box now batch locked :=
    fun same => .inl ⟨pass,same,member⟩
  cases action with
  | emit e => exact before here
  | start now =>
      rcases goto_passes here with ⟨_,rfl⟩ | same
      · cases member
      · exact before same
  | fanOut q registry config =>
      dsimp only [step] at here
      split at here
      · next was =>
          unfold fanOutNext at here
          split at here
          · exact before (stop_passes here)
          · rcases goto_passes here with ⟨rfl,rfl⟩ | same
            · exact .inl ⟨_,was,member⟩
            · exact before same
      · exact before here
  | claim q batch locked =>
      dsimp only [step] at here
      split at here
      · next now was =>
          rcases goto_passes here with ⟨same,rfl⟩ | same
          · exact .inr ⟨now,batch,locked,same ▸ was,member⟩
          · exact before same
      · exact before here
  | load q =>
      dsimp only [step] at here
      split at here
      · next was =>
          split at here
          · exact before (stop_passes here)
          · rcases goto_passes here with ⟨rfl,rfl⟩ | same
            · exact .inl ⟨_,was,member⟩
            · exact before same
      · exact before here
  | handle q registry answer draw =>
      dsimp only [step] at here
      split at here
      · next was =>
          unfold attempt at here
          split at here
          · exact before (stop_passes here)
          · split at here
            · rcases goto_passes here with ⟨rfl,rfl⟩ | same
              · exact .inl ⟨_,was,member⟩
              · exact before same
            · rcases goto_passes here with ⟨rfl,rfl⟩ | same
              · exact .inl ⟨_,was,member⟩
              · exact before same
      · exact before here
  | record q =>
      dsimp only [step] at here
      split at here
      · next was =>
          rcases goto_passes here with ⟨rfl,rfl⟩ | same
          · exact .inl ⟨_,was,List.mem_cons_of_mem _ member⟩
          · exact before same
      · exact before here
  | crash q burnt => exact before (stop_passes here)
  | replay tenant adapterId eventId role now =>
      dsimp only [step] at here
      split at here <;> exact before here
  | nullPayload event now =>
      dsimp only [step] at here
      split at here <;> exact before here

end passes

end Osds.Audit

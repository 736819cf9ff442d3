import Osds.Audit.Drain
import Osds.Lib.Lease

namespace Osds.Audit
open Directory

def Drain.token (s : Drain) (pk p : Nat) : Option Time :=
  (s.passes p).bind fun pass => if pk ∈ pass.phase.work then some (visibility pass.now) else none

-- The pass whose claim was the last write of a delivery, if a claim was.
def latest : List Entry → Nat → Option Nat
  | [],_ => none
  | .claimed p pk :: rest,row => if pk = row then some p else latest rest row
  | .recorded _ pk _ :: rest,row => if pk = row then none else latest rest row
  | .replayed pk :: rest,row => if pk = row then none else latest rest row
  | _ :: rest,row => latest rest row

def Replays (s : Drain) (action : Action) (pk : Nat) : Prop :=
  ∃ tenant adapterId eventId role now d, action = .replay tenant adapterId eventId role now ∧
    applyReplay s.box tenant adapterId eventId role now = .ok (pk,d)

structure Keeps (s : Drain) (action : Action) : Prop where
  -- what is delivered or dead stays so, but for the replay of a dead one
  settled : ∀ pk d, s.box.deliveries pk = some d → d.status ≠ .pending →
    ∃ d', (step s action).box.deliveries pk = some d' ∧
      (d'.status = d.status ∨ d.status = .dead ∧ Replays s action pk)
  -- an attempt is counted once, by the pass whose claim was the last write
  counted : ∀ pk d d', s.box.deliveries pk = some d → (step s action).box.deliveries pk = some d' →
    d'.attempt ≠ d.attempt → Replays s action pk ∨
      ∃ p, action = .record p ∧ latest s.log pk = some p ∧ d'.attempt = d.attempt + 1
  -- a stale pass's result is discarded
  discarded : ∀ p pk, action = .record p → latest s.log pk ≠ some p →
    (step s action).box.deliveries pk = s.box.deliveries pk

def Unheld (s : Drain) (pk : Nat) (excepted : Nat → Prop) (deadline : Time) : Prop :=
  ∀ q, ¬excepted q → s.token pk q ≠ some deadline

-- A delivery is loaded while it still bears the deadline its pass stamped, and
-- what is written as its next attempt is not a deadline that another pass holds.
def Timely (s : Drain) : Action → Prop
  | .load p => ∀ now pk rest d, s.passes p = some ⟨now,.attempting (pk :: rest)⟩ →
      s.box.deliveries pk = some d → d.nextAttemptAt = visibility now
  | .claim p batch locked => ∀ now, s.passes p = some ⟨now,.fanningOut []⟩ →
      ∀ pk ∈ claimed s.box now batch locked, Unheld s pk (· = p) (visibility now)
  | .record p => ∀ now pk loaded o rest next, s.passes p = some ⟨now,.recording pk loaded o rest⟩ →
      o.nextAttemptAt = some next → Unheld s pk (· = p) next
  | .replay tenant adapterId eventId role now => ∀ pk d,
      applyReplay s.box tenant adapterId eventId role now = .ok (pk,d) → Unheld s pk (fun _ => False) now
  | _ => True

section leases

variable {s next : Drain}

def Drain.cell (s : Drain) (pk : Nat) (d : OutboxDelivery) : Lease.Cell Nat Time :=
  ⟨d.nextAttemptAt,s.token pk,latest s.log pk⟩

theorem token_exact : s.token pk p = some deadline ↔
    ∃ pass, s.passes p = some pass ∧ pk ∈ pass.phase.work ∧ visibility pass.now = deadline := by
  unfold Drain.token
  rw [Option.bind_eq_some_iff]
  apply exists_congr
  intro pass
  by_cases held : pk ∈ pass.phase.work <;> simp [held]

structure Leased (s : Drain) : Prop where
  numbered : Numbered s.box
  sound : ∀ pk d, s.box.deliveries pk = some d → Lease.Sound (s.cell pk d)
  present : ∀ p pass pk, s.passes p = some pass → pk ∈ pass.phase.work → (s.box.deliveries pk).isSome
  nodup : ∀ p pass, s.passes p = some pass → pass.phase.work.Nodup
  claimed : ∀ p pk, latest s.log pk = some p → ∃ d, s.box.deliveries pk = some d ∧ d.status = .pending
  stamped : ∀ p pass pk d, s.passes p = some pass → pass.phase.loaded = some (pk,d) →
    d.nextAttemptAt = visibility pass.now
  -- what a pass loaded is what there is, until something is written
  copied : ∀ p pass pk d, s.passes p = some pass → pass.phase.loaded = some (pk,d) →
    latest s.log pk = some p → s.box.deliveries pk = some d
  counting : ∀ p now pk d o rest, s.passes p = some ⟨now,.recording pk d o rest⟩ →
    o.attempt = none ∨ o.attempt = some (d.attempt + 1)

def Narrower (before after : Nat → Option Pass) : Prop :=
  ∀ p pass, after p = some pass → pass.phase.work = [] ∧ pass.phase.loaded = none ∨
    ∃ old, before p = some old ∧ pass.now = old.now ∧ pass.phase.work.Sublist old.phase.work ∧
      (pass.phase.loaded = none ∨ pass.phase.loaded = old.phase.loaded)

theorem narrower_refl (passes : Nat → Option Pass) : Narrower passes passes := by
  intro p pass present
  exact .inr ⟨pass,present,rfl,List.Sublist.refl _,.inr rfl⟩

theorem narrower_stop (s : Drain) (p : Nat) : Narrower s.passes (s.stop p).passes := by
  intro q pass present
  by_cases own : q = p
  · simp [Drain.stop,own] at present
  · have same : s.passes q = some pass := by simpa [Drain.stop,own] using present
    exact narrower_refl s.passes q pass same

theorem narrower_goto (before : s.passes p = some ⟨now,old⟩) (work : phase.work.Sublist old.work)
    (loaded : phase.loaded = none ∨ phase.loaded = old.loaded) :
    Narrower s.passes (s.goto p now phase).passes := by
  intro q pass present
  by_cases own : q = p
  · have same : some ⟨now,phase⟩ = some pass := by simpa [Drain.goto,own] using present
    cases same
    exact .inr ⟨⟨now,old⟩,own ▸ before,rfl,work,loaded⟩
  · have same : s.passes q = some pass := by simpa [Drain.goto,own] using present
    exact narrower_refl s.passes q pass same

theorem narrower_token (narrower : Narrower s.passes next.passes) (held : next.token pk p = some deadline) :
    s.token pk p = some deadline := by
  rw [token_exact] at held ⊢
  obtain ⟨pass,present,member,same⟩ := held
  rcases narrower p pass present with ⟨empty,_⟩ | ⟨old,before,clock,work,_⟩
  · rw [empty] at member
    cases member
  · exact ⟨old,before,work.subset member,clock ▸ same⟩

theorem sound_of_tokens (sound : Lease.Sound (s.cell pk d))
    (tokens : ∀ p deadline, next.token pk p = some deadline → s.token pk p = some deadline)
    (same : latest next.log pk = latest s.log pk) : Lease.Sound (next.cell pk d) := by
  intro p held
  exact same.trans (sound p (tokens p _ held))

theorem token_goto (passes : next.passes = (s.goto p now phase).passes) (pk : Nat) :
    next.token pk = Function.update (s.token pk) p (if pk ∈ phase.work then some (visibility now) else none) := by
  funext q
  unfold Drain.token
  rw [passes]
  by_cases own : q = p
  · simp [Drain.goto,own]
  · simp [Drain.goto,own]

theorem leased_of (valid : Leased s) (numbered : Numbered next.box)
    (sound : ∀ pk d, next.box.deliveries pk = some d → Lease.Sound (next.cell pk d))
    (kept : ∀ pk, (s.box.deliveries pk).isSome → (next.box.deliveries pk).isSome)
    (last : ∀ p pk, latest next.log pk = some p →
      latest s.log pk = some p ∧ next.box.deliveries pk = s.box.deliveries pk)
    (narrower : Narrower s.passes next.passes)
    (counting : ∀ p now pk d o rest, next.passes p = some ⟨now,.recording pk d o rest⟩ →
      o.attempt = none ∨ o.attempt = some (d.attempt + 1)) : Leased next where
  numbered := numbered
  sound := sound
  counting := counting
  present := by
    intro p pass pk here member
    rcases narrower p pass here with ⟨empty,_⟩ | ⟨old,before,_,work,_⟩
    · rw [empty] at member
      cases member
    · exact kept pk (valid.present p old pk before (work.subset member))
  nodup := by
    intro p pass here
    rcases narrower p pass here with ⟨empty,_⟩ | ⟨old,before,_,work,_⟩
    · rw [empty]
      exact List.nodup_nil
    · exact (valid.nodup p old before).sublist work
  claimed := by
    intro p pk claim
    obtain ⟨before,same⟩ := last p pk claim
    rw [same]
    exact valid.claimed p pk before
  stamped := by
    intro p pass pk d here loaded
    rcases narrower p pass here with ⟨_,none_⟩ | ⟨old,before,clock,_,none_ | same⟩
    · rw [none_] at loaded
      cases loaded
    · rw [none_] at loaded
      cases loaded
    · rw [clock]
      exact valid.stamped p old pk d before (same ▸ loaded)
  copied := by
    intro p pass pk d here loaded claim
    obtain ⟨first,row⟩ := last p pk claim
    rcases narrower p pass here with ⟨_,none_⟩ | ⟨old,before,_,_,none_ | same⟩
    · rw [none_] at loaded
      cases loaded
    · rw [none_] at loaded
      cases loaded
    · rw [row]
      exact valid.copied p old pk d before (same ▸ loaded) first

theorem leased_still (valid : Leased s) (rows : next.box.deliveries = s.box.deliveries)
    (drawn : s.box.nextDelivery ≤ next.box.nextDelivery)
    (same : ∀ pk, latest next.log pk = latest s.log pk) (narrower : Narrower s.passes next.passes)
    (counting : ∀ p now pk d o rest, next.passes p = some ⟨now,.recording pk d o rest⟩ →
      o.attempt = none ∨ o.attempt = some (d.attempt + 1)) : Leased next := by
  refine leased_of valid ?_ ?_ ?_ ?_ narrower counting
  · intro pk d row
    exact Nat.lt_of_lt_of_le (valid.numbered pk d (rows ▸ row)) drawn
  · intro pk d row
    exact sound_of_tokens (valid.sound pk d (rows ▸ row)) (fun p v => narrower_token narrower) (same pk)
  · intro pk present
    rw [rows]
    exact present
  · intro p pk claim
    exact ⟨same pk ▸ claim,congrFun rows pk⟩

def Counting (s : Drain) : Prop := ∀ p now pk d o rest, s.passes p = some ⟨now,.recording pk d o rest⟩ →
  o.attempt = none ∨ o.attempt = some (d.attempt + 1)

theorem counting_goto (counting : Counting s) (new : ∀ pk d o rest, phase = .recording pk d o rest →
    o.attempt = none ∨ o.attempt = some (d.attempt + 1)) : Counting (s.goto p now phase) := by
  intro q clock pk d o rest here
  by_cases own : q = p
  · have same : some (Pass.mk now phase) = some ⟨clock,.recording pk d o rest⟩ := by
      simpa [Drain.goto,own] using here
    cases same
    exact new pk d o rest rfl
  · exact counting q clock pk d o rest (by simpa [Drain.goto,own] using here)

theorem counting_stop (counting : Counting s) : Counting (s.stop p) := by
  intro q clock pk d o rest here
  by_cases own : q = p
  · simp [Drain.stop,own] at here
  · exact counting q clock pk d o rest (by simpa [Drain.stop,own] using here)

theorem leased_stop (valid : Leased s) (p : Nat) : Leased (s.stop p) :=
  leased_still valid rfl (Nat.le_refl _) (fun _ => rfl) (narrower_stop s p) (counting_stop valid.counting)

theorem leased_start (valid : Leased s) (now : Time) : Leased (step s (.start now)) := by
  have counting : Counting (s.goto s.nextPass now (.fanningOut (pendingEvents s.box))) :=
    counting_goto valid.counting (fun _ _ _ _ same => by cases same)
  refine leased_still valid rfl (Nat.le_refl _) (fun _ => rfl) ?_ counting
  intro p pass here
  by_cases own : p = s.nextPass
  · have same : some (Pass.mk now (.fanningOut (pendingEvents s.box))) = some pass := by
      simpa [step,Drain.goto,own] using here
    cases same
    exact .inl ⟨rfl,rfl⟩
  · exact narrower_refl s.passes p pass (by simpa [step,Drain.goto,own] using here)

theorem latest_fannedOut (log : List Entry) (pending : Prop) [Decidable pending] (pk : Nat) :
    latest ((if pending then [Entry.fannedOut event wanted] else []) ++ log) pk = latest log pk := by
  split <;> rfl

theorem leased_fanOut (valid : Leased s) (here : s.passes p = some ⟨now,.fanningOut (event :: rest)⟩) :
    Leased (fanOutNext s p now event rest registry config) := by
  unfold fanOutNext
  split
  · exact leased_stop valid p
  · next e _ =>
      have grown := @fanOut_grows s.box now registry config event
      have same := @latest_fannedOut event (wanting registry config e) s.log (e.status = .pending) _
      have narrower : Narrower s.passes (s.goto p now (.fanningOut rest)).passes :=
        narrower_goto here (List.Sublist.refl _) (.inl rfl)
      have counting : Counting (s.goto p now (.fanningOut rest)) := counting_goto valid.counting (fun _ _ _ _ same => by cases same)
      refine leased_of valid (fanOut_numbered valid.numbered) ?_ ?_ ?_ narrower counting
      · intro pk d row
        by_cases old : pk < s.box.nextDelivery
        · have before : s.box.deliveries pk = some d := by
            rw [← grown.kept pk old]
            exact row
          exact sound_of_tokens (valid.sound pk d before) (fun q v => narrower_token narrower) (same pk)
        · intro q held
          obtain ⟨pass,present,member,_⟩ := token_exact.mp (narrower_token narrower held)
          obtain ⟨d',row'⟩ := Option.isSome_iff_exists.mp (valid.present q pass pk present member)
          exact absurd (valid.numbered pk d' row') old
      · intro pk present
        obtain ⟨d,row⟩ := Option.isSome_iff_exists.mp present
        exact Option.isSome_iff_exists.mpr ⟨d,(grown.kept pk (valid.numbered pk d row)).trans row⟩
      · intro q pk claim
        have before : latest s.log pk = some q := (same pk).symm.trans claim
        obtain ⟨d,row,_⟩ := valid.claimed q pk before
        exact ⟨before,grown.kept pk (valid.numbered pk d row)⟩

theorem latest_claims (log : List Entry) (p : Nat) (pks : List Nat) (pk : Nat) :
    latest (pks.map (Entry.claimed p ·) ++ log) pk = if pk ∈ pks then some p else latest log pk := by
  induction pks with
  | nil => rfl
  | cons first rest ih =>
      rw [List.map_cons,List.cons_append,latest,ih]
      by_cases same : first = pk
      · simp [same]
      · simp [same,Ne.symm same]

theorem leased_claim (valid : Leased s) (here : s.passes p = some ⟨now,.fanningOut []⟩)
    (fresh : ∀ pk ∈ claimed s.box now batch locked, Unheld s pk (· = p) (visibility now)) :
    Leased (claimNext s p now batch locked) := by
  let pks := claimed s.box now batch locked
  let next := claimNext s p now batch locked
  have tokens : ∀ pk, next.token pk =
      Function.update (s.token pk) p (if pk ∈ pks then some (visibility now) else none) := fun pk =>
    @token_goto s next p now (.attempting pks) rfl pk
  have last : ∀ pk, latest next.log pk = if pk ∈ pks then some p else latest s.log pk :=
    latest_claims s.log p pks
  have passes : ∀ q pass, next.passes q = some pass → q = p ∧ pass = ⟨now,.attempting pks⟩ ∨ s.passes q = some pass := by
    intro q pass present
    by_cases own : q = p
    · have same : some (Pass.mk now (.attempting pks)) = some pass := by
        simpa [next,claimNext,Drain.goto,own] using present
      cases same
      exact .inl ⟨own,rfl⟩
    · exact .inr (by simpa [next,claimNext,Drain.goto,Drain.note,Drain.write,own] using present)
  have taken : ∀ pk ∈ pks, ∃ d, s.box.deliveries pk = some d ∧ d.status = .pending ∧
      next.box.deliveries pk = some {d with nextAttemptAt := visibility now} := by
    intro pk member
    obtain ⟨d,row,open_,_⟩ := claimable_exact.mp (claimed_claimable member)
    exact ⟨d,row,open_,stampAll_some member row⟩
  have others : ∀ pk, pk ∉ pks → next.box.deliveries pk = s.box.deliveries pk := fun pk absent =>
    stampAll_other absent
  constructor
  · intro pk d row
    by_cases member : pk ∈ pks
    · obtain ⟨d',before,_⟩ := taken pk member
      exact valid.numbered pk d' before
    · exact valid.numbered pk d (others pk member ▸ row)
  · intro pk d row
    by_cases member : pk ∈ pks
    · obtain ⟨d',_,_,after⟩ := taken pk member
      have same : d = {d' with nextAttemptAt := visibility now} := Option.some.inj (row.symm.trans after)
      have leased : next.cell pk d = Lease.lease (s.cell pk d') p (visibility now) := by
        unfold Drain.cell
        rw [tokens,last,if_pos member,if_pos member,same]
        rfl
      rw [leased]
      exact Lease.lease_sound (fresh pk member)
    · refine sound_of_tokens (valid.sound pk d (others pk member ▸ row)) ?_ ((last pk).trans (if_neg member))
      intro q deadline held
      rw [tokens,if_neg member] at held
      by_cases own : q = p
      · simp [own] at held
      · simpa [own] using held
  · intro q pass pk present member
    rcases passes q pass present with ⟨_,rfl⟩ | before
    · obtain ⟨_,_,_,after⟩ := taken pk member
      exact Option.isSome_iff_exists.mpr ⟨_,after⟩
    · obtain ⟨d,row⟩ := Option.isSome_iff_exists.mp (valid.present q pass pk before member)
      by_cases claim : pk ∈ pks
      · obtain ⟨_,_,_,after⟩ := taken pk claim
        exact Option.isSome_iff_exists.mpr ⟨_,after⟩
      · exact Option.isSome_iff_exists.mpr ⟨d,(others pk claim).trans row⟩
  · intro q pass present
    rcases passes q pass present with ⟨_,rfl⟩ | before
    · exact claimed_nodup
    · exact valid.nodup q pass before
  · intro q pk claim
    rw [last] at claim
    by_cases member : pk ∈ pks
    · obtain ⟨d,_,open_,after⟩ := taken pk member
      exact ⟨_,after,open_⟩
    · rw [if_neg member] at claim
      rw [others pk member]
      exact valid.claimed q pk claim
  · intro q pass pk d present loaded
    rcases passes q pass present with ⟨_,rfl⟩ | before
    · cases loaded
    · exact valid.stamped q pass pk d before loaded
  · intro q pass pk d present loaded claim
    rcases passes q pass present with ⟨_,rfl⟩ | before
    · cases loaded
    · rw [last] at claim
      by_cases member : pk ∈ pks
      · rw [if_pos member,Option.some.injEq] at claim
        rw [← claim,here] at before
        cases before
        cases loaded
      · rw [if_neg member] at claim
        rw [others pk member]
        exact valid.copied q pass pk d before loaded claim
  · exact counting_goto valid.counting (fun _ _ _ _ same => by cases same)

theorem leased_load (valid : Leased s) (here : s.passes p = some ⟨now,.attempting (pk :: rest)⟩)
    (row : s.box.deliveries pk = some d) (timely : d.nextAttemptAt = visibility now) :
    Leased (s.goto p now (.handling pk d rest)) := by
  let next := s.goto p now (.handling pk d rest)
  have tokens : ∀ pk', next.token pk' = s.token pk' := by
    intro pk'
    rw [@token_goto s next p now (.handling pk d rest) rfl pk']
    refine Function.update_eq_self_iff.mpr ?_
    unfold Drain.token
    rw [here]
    rfl
  have passes : ∀ q pass, next.passes q = some pass →
      q = p ∧ pass = ⟨now,.handling pk d rest⟩ ∨ s.passes q = some pass := by
    intro q pass present
    by_cases own : q = p
    · have same : some (Pass.mk now (.handling pk d rest)) = some pass := by
        simpa [next,Drain.goto,own] using present
      cases same
      exact .inl ⟨own,rfl⟩
    · exact .inr (by simpa [next,Drain.goto,own] using present)
  constructor
  · exact valid.numbered
  · intro pk' d' row'
    refine sound_of_tokens (valid.sound pk' d' row') ?_ rfl
    intro q deadline held
    rw [tokens] at held
    exact held
  · intro q pass pk' present member
    rcases passes q pass present with ⟨_,rfl⟩ | before
    · exact valid.present p _ pk' here member
    · exact valid.present q pass pk' before member
  · intro q pass present
    rcases passes q pass present with ⟨_,rfl⟩ | before
    · have distinct : (pk :: rest).Nodup := valid.nodup p _ here
      exact distinct
    · exact valid.nodup q pass before
  · exact valid.claimed
  · intro q pass pk' d' present loaded
    rcases passes q pass present with ⟨_,rfl⟩ | before
    · cases loaded
      exact timely
    · exact valid.stamped q pass pk' d' before loaded
  · intro q pass pk' d' present loaded claim
    rcases passes q pass present with ⟨_,rfl⟩ | before
    · cases loaded
      exact row
    · exact valid.copied q pass pk' d' before loaded claim
  · exact counting_goto valid.counting (fun _ _ _ _ same => by cases same)

theorem leased_attempt (valid : Leased s) (here : s.passes p = some ⟨now,.handling pk loaded rest⟩) :
    Leased (attempt s p now pk loaded rest registry answer draw) := by
  unfold attempt
  split
  · exact leased_stop valid p
  · split
    · refine leased_still valid rfl (Nat.le_refl _) (fun _ => rfl) (narrower_goto here (List.Sublist.refl _) (.inr rfl))
        (counting_goto valid.counting ?_)
      intro _ _ _ _ same
      cases same
      exact .inl rfl
    · refine leased_still valid rfl (Nat.le_refl _) ?_ (narrower_goto here (List.Sublist.refl _) (.inr rfl))
        (counting_goto valid.counting ?_)
      · intro pk'
        dsimp only [Drain.goto,Drain.note]
        split <;> rfl
      · intro _ _ _ _ same
        cases same
        exact .inr (outcome_attempt ..)

-- The record of a pass whose deadline the row still bears: it claimed the row
-- last, and what it loaded is the row.
theorem guard_passes (valid : Leased s) (here : s.passes p = some ⟨now,.recording pk loaded o rest⟩)
    (row : s.box.deliveries pk = some d) (guard : d.nextAttemptAt = loaded.nextAttemptAt) :
    latest s.log pk = some p ∧ d = loaded ∧ d.status = .pending := by
  have stamp := valid.stamped p _ pk loaded here rfl
  have held : s.token pk p = some d.nextAttemptAt := by
    rw [token_exact]
    exact ⟨_,here,List.mem_cons_self ..,(guard.trans stamp).symm⟩
  have last : latest s.log pk = some p := valid.sound pk d row p held
  obtain ⟨d',row',open_⟩ := valid.claimed p pk last
  have copy := valid.copied p _ pk loaded here rfl last
  rw [row,Option.some.injEq] at copy row'
  exact ⟨last,copy,row' ▸ open_⟩

theorem leased_put (valid : Leased s) (row : s.box.deliveries pk = some d) (box : next.box = s.box.put pk d')
    (last : ∀ other, latest next.log other = if pk = other then none else latest s.log other)
    (narrower : Narrower s.passes next.passes) (sound : Lease.Sound (next.cell pk d')) (counting : Counting next) :
    Leased next := by
  have own : next.box.deliveries pk = some d' := by
    rw [box]
    exact Function.update_self ..
  have others : ∀ other, other ≠ pk → next.box.deliveries other = s.box.deliveries other := by
    intro other different
    rw [box]
    exact Function.update_of_ne different ..
  refine leased_of valid ?_ ?_ ?_ ?_ narrower counting
  · intro other d'' present
    have drawn : next.box.nextDelivery = s.box.nextDelivery := by
      rw [box]
      rfl
    rw [drawn]
    by_cases same : other = pk
    · rw [same]
      exact valid.numbered pk d row
    · exact valid.numbered other d'' (others other same ▸ present)
  · intro other d'' present
    by_cases same : other = pk
    · rw [same,own,Option.some.injEq] at present
      rw [same,← present]
      exact sound
    · refine sound_of_tokens (valid.sound other d'' (others other same ▸ present))
        (fun q v => narrower_token narrower) ?_
      rw [last,if_neg (Ne.symm same)]
  · intro other present
    by_cases same : other = pk
    · rw [same,own]
      rfl
    · rw [others other same]
      exact present
  · intro q other claim
    rw [last] at claim
    by_cases same : pk = other
    · rw [if_pos same] at claim
      cases claim
    · rw [if_neg same] at claim
      exact ⟨claim,others other (Ne.symm same)⟩

theorem leased_record (valid : Leased s) (here : s.passes p = some ⟨now,.recording pk loaded o rest⟩)
    (fresh : ∀ v, o.nextAttemptAt = some v → Unheld s pk (· = p) v) :
    Leased (recordNext s p now pk loaded o rest) := by
  have narrower : Narrower s.passes (s.goto p now (.attempting rest)).passes :=
    narrower_goto here (List.sublist_cons_self ..) (.inl rfl)
  have counting : Counting (s.goto p now (.attempting rest)) :=
    counting_goto valid.counting (fun _ _ _ _ same => by cases same)
  obtain ⟨d,row⟩ := Option.isSome_iff_exists.mp (valid.present p _ pk here (List.mem_cons_self ..))
  unfold recordNext
  by_cases guard : d.nextAttemptAt = loaded.nextAttemptAt
  · obtain ⟨last,copy,_⟩ := guard_passes valid here row guard
    rw [record_applied row guard]
    dsimp only
    rw [if_pos rfl]
    refine leased_put valid row rfl (fun _ => rfl) narrower ?_ counting
    have gone : pk ∉ (Phase.attempting rest).work := (List.nodup_cons.mp (valid.nodup p _ here)).1
    have tokens := @token_goto s (s.goto p now (.attempting rest)) p now (.attempting rest) rfl pk
    rw [if_neg gone] at tokens
    have held : s.token pk p = some d.nextAttemptAt := by
      rw [token_exact]
      exact ⟨_,here,List.mem_cons_self ..,(guard.trans (valid.stamped p _ pk loaded here rfl)).symm⟩
    have cell : Drain.cell (((s.write (s.box.put pk (d.settle now o))).note [.recorded p pk o.status]).goto p now
        (.attempting rest)) pk (d.settle now o) =
        Lease.overwrite (Lease.release (s.cell pk d) p) (d.settle now o).nextAttemptAt := by
      unfold Drain.cell Lease.overwrite Lease.release
      congr 1
      exact if_pos rfl
    refine cell ▸ ?_
    cases written : o.nextAttemptAt with
    | none =>
        have kept : (d.settle now o).nextAttemptAt = d.nextAttemptAt := by simp [OutboxDelivery.settle,written]
        rw [kept]
        exact Lease.settle_sound (valid.sound pk d row) held
    | some v =>
        have moved : (d.settle now o).nextAttemptAt = v := by simp [OutboxDelivery.settle,written]
        rw [moved]
        exact Lease.rewrite_sound (fresh v written)
  · have stale : ∀ d', s.box.deliveries pk = some d' → d'.nextAttemptAt ≠ loaded.nextAttemptAt := by
      intro d' row'
      rw [row,Option.some.injEq] at row'
      exact row' ▸ guard
    rw [record_discarded stale]
    exact leased_still valid rfl (Nat.le_refl _) (fun _ => rfl) narrower counting

theorem leased_replay (valid : Leased s)
    (accepted : applyReplay s.box tenant adapterId eventId role now = .ok (pk,d'))
    (fresh : Unheld s pk (fun _ => False) now) :
    Leased ((s.write (s.box.put pk d')).note [.replayed pk]) := by
  obtain ⟨d,row,_,requeued⟩ := applyReplay_exact accepted
  refine leased_put valid row rfl (fun _ => rfl) (narrower_refl s.passes) ?_ valid.counting
  have cell : Drain.cell ((s.write (s.box.put pk d')).note [.replayed pk]) pk d' =
      Lease.overwrite (s.cell pk d) now := by
    unfold Drain.cell Lease.overwrite
    rw [requeued]
    congr 1
    exact if_pos rfl
  rw [cell]
  exact Lease.overwrite_sound fresh

theorem leased_step (valid : Leased s) (timely : Timely s action) : Leased (step s action) := by
  cases action with
  | emit e => exact leased_still valid rfl (Nat.le_refl _) (fun _ => rfl) (narrower_refl _) valid.counting
  | start now => exact leased_start valid now
  | fanOut p registry config =>
      dsimp only [step]
      split
      · next here => exact leased_fanOut valid here
      · exact valid
  | claim p batch locked =>
      dsimp only [step]
      split
      · next now here => exact leased_claim valid here (timely now here)
      · exact valid
  | load p =>
      dsimp only [step]
      split
      · next now pk rest here =>
          split
          · exact leased_stop valid p
          · next d row => exact leased_load valid here row (timely now pk rest d here row)
      · exact valid
  | handle p registry answer draw =>
      dsimp only [step]
      split
      · next here => exact leased_attempt valid here
      · exact valid
  | record p =>
      dsimp only [step]
      split
      · next now pk loaded o rest here =>
          exact leased_record valid here (fun v written => timely now pk loaded o rest v here written)
      · exact valid
  | crash p burnt =>
      exact leased_still valid rfl (Nat.le_add_right ..) (fun _ => rfl) (narrower_stop s p)
        (counting_stop valid.counting)
  | replay tenant adapterId eventId role now =>
      dsimp only [step]
      split
      · exact valid
      · next pk d accepted => exact leased_replay valid accepted (timely pk d accepted)
  | nullPayload event now =>
      dsimp only [step]
      split
      · exact valid
      · exact leased_still valid rfl (Nat.le_refl _) (fun _ => rfl) (narrower_refl _) valid.counting

theorem leased_start_state : Leased Drain.start := by
  have noRow : ∀ pk d, Drain.start.box.deliveries pk ≠ some d := by
    intro pk d row
    cases row
  have noPass : ∀ p pass, Drain.start.passes p ≠ some pass := by
    intro p pass here
    cases here
  constructor
  · exact fun pk d row => absurd row (noRow pk d)
  · exact fun pk d row => absurd row (noRow pk d)
  · exact fun p pass _ here => absurd here (noPass p pass)
  · exact fun p pass here => absurd here (noPass p pass)
  · intro p pk claim
    cases claim
  · exact fun p pass _ _ here => absurd here (noPass p pass)
  · exact fun p pass _ _ here => absurd here (noPass p pass)
  · exact fun p now _ _ _ _ here => absurd here (noPass p _)

theorem keeps_step (valid : Leased s) (action : Action) : Keeps s action := by
  constructor
  · intro pk d row closed
    rcases step_row valid.numbered row action with same | ⟨_,_,_,_,_,_,taken,_⟩ | ⟨p,now,loaded,o,rest,_,here,guard,_⟩ |
      ⟨tenant,adapterId,eventId,role,now,is,dead,accepted,after⟩
    · exact ⟨d,same,.inl rfl⟩
    · obtain ⟨d',row',open_,_⟩ := claimable_exact.mp (claimed_claimable taken)
      rw [row,Option.some.injEq] at row'
      exact absurd (row' ▸ open_) closed
    · exact absurd (guard_passes valid here row guard).2.2 closed
    · exact ⟨_,after,.inr ⟨dead,tenant,adapterId,eventId,role,now,_,is,accepted⟩⟩
  · intro pk d d' row row' changed
    rcases step_row valid.numbered row action with same | ⟨_,_,_,_,_,_,_,after⟩ |
      ⟨p,now,loaded,o,rest,is,here,guard,after⟩ | ⟨tenant,adapterId,eventId,role,now,is,_,accepted,_⟩
    · rw [row',Option.some.injEq] at same
      exact absurd (congrArg OutboxDelivery.attempt same) changed
    · rw [row',Option.some.injEq] at after
      exact absurd (congrArg OutboxDelivery.attempt after) changed
    · obtain ⟨last,copy,_⟩ := guard_passes valid here row guard
      rw [row',Option.some.injEq] at after
      refine .inr ⟨p,is,last,?_⟩
      rcases valid.counting p now pk loaded o rest here with none_ | counted
      · exact absurd (by simp [after,OutboxDelivery.settle,none_]) changed
      · simp [after,OutboxDelivery.settle,counted,copy]
    · exact .inl ⟨tenant,adapterId,eventId,role,now,_,is,accepted⟩
  · intro p pk is stale
    subst is
    dsimp only [step]
    split
    · next now other loaded o rest here =>
        unfold recordNext record
        split
        · rfl
        · next d row =>
            split
            · next guard =>
                by_cases own : pk = other
                · exact absurd (guard_passes valid here row guard).1 (own ▸ stale)
                · exact Function.update_of_ne own ..
            · rfl
    · rfl

theorem unheld_of_started (started : Started s) (few : ∀ q < s.nextPass, ¬excepted q → s.token pk q ≠ some deadline) :
    Unheld s pk excepted deadline := by
  intro q other held
  obtain ⟨pass,here,_⟩ := token_exact.mp held
  rcases Nat.lt_or_ge q s.nextPass with drawn | later
  · exact few q drawn other held
  · rw [started q later] at here
    cases here

end leases

theorem drain_keeps_results (actions : List Action) (timely : Runs.Along step Timely Drain.start actions) :
    Runs.Along step Keeps Drain.start actions :=
  Runs.along_keeps step (fun _ _ valid admitted => leased_step valid admitted) (fun _ action valid _ => keeps_step valid action)
    leased_start_state timely

def webhook : Subscriber := ⟨"webhook",fun _ => true,none⟩

def listingEvent (subject : String) : OutboxRow where
  tenant := 1
  subject := subject
  actor := ⟨"system",none⟩
  origin := ""
  payload := .listingUpdated [] "business"
  eventId := "evt_1"
  version := 1
  occurredAt := 0
  traceId := ""
  tenantId := "tnt_1"
  tenantSlug := "guide"
  tenantDomain := none

def fanOutOne (p : Nat) : Action := .fanOut p [webhook] fun _ _ => .null

def answer (p : Nat) (status : ResultStatus) : Action := .handle p [webhook] (.ok {status := status}) 0

-- One pass hangs past its deadline, another claims the row again and delivers.
def slowHandler : List Action :=
  [.emit (listingEvent "lst_1"),.start 0,fanOutOne 0,.claim 0 100 [],.load 0,
    .start (100*second),.claim 1 100 [],.load 1,answer 1 .ok,.record 1,answer 0 .retry,.record 0]

theorem drain_keeps_results_slow : Runs.Along step Keeps Drain.start slowHandler := by
  apply drain_keeps_results
  refine ⟨trivial,trivial,trivial,?_,?_,trivial,?_,?_,trivial,?_,trivial,?_,trivial⟩
  · intro now here pk taken
    cases here
    have only : pk = 0 := by
      have listed : pk ∈ [0] := taken
      simpa using listed
    exact unheld_of_started (started_run (slowHandler.take 3)) (by rw [only]; decide)
  · intro now pk rest d here row
    cases here
    cases row
    rfl
  · intro now here pk taken
    cases here
    have only : pk = 0 := by
      have listed : pk ∈ [0] := taken
      simpa using listed
    exact unheld_of_started (started_run (slowHandler.take 6)) (by rw [only]; decide)
  · intro now pk rest d here row
    cases here
    cases row
    rfl
  · intro now pk loaded o rest v here written
    cases here
    cases written
  · intro now pk loaded o rest v here written
    cases here
    cases written
    exact unheld_of_started (started_run (slowHandler.take 11)) (by decide)

-- One pass is still at its first row when another claims both rows again and
-- delivers them; the first then loads the second row as the other left it.
def lateLoad : List Action :=
  [.emit (listingEvent "lst_1"),.emit (listingEvent "lst_2"),
    .start 0,fanOutOne 0,fanOutOne 0,.claim 0 100 [],.load 0,
    .start (100*second),.claim 1 100 [],.load 1,answer 1 .ok,.record 1,.load 1,answer 1 .ok,.record 1,
    answer 0 .retry,.record 0,.load 0,answer 0 .retry]

theorem late_load_overwrites :
    ((Runs.run step Drain.start lateLoad).box.deliveries 1).map (·.status) = some .delivered ∧
    ((step (Runs.run step Drain.start lateLoad) (.record 0)).box.deliveries 1).map (·.status) = some .pending ∧
    ¬Runs.Along step Keeps Drain.start (lateLoad ++ [.record 0]) := by
  have delivered : ((Runs.run step Drain.start lateLoad).box.deliveries 1).map (·.status) = some .delivered := by decide
  have pending : ((step (Runs.run step Drain.start lateLoad) (.record 0)).box.deliveries 1).map (·.status) =
      some .pending := by decide
  refine ⟨delivered,pending,?_⟩
  intro all
  have last := ((Runs.along_append step Drain.start lateLoad [.record 0]).mp all).2.1
  obtain ⟨d,row,is⟩ := Option.map_eq_some_iff.mp delivered
  obtain ⟨d',after,kept⟩ := last.settled 1 d row (by simp [is])
  rw [after] at pending
  have turned : d'.status = .pending := Option.some.inj pending
  rcases kept with same | ⟨dead,_⟩
  · simp [is,turned] at same
  · simp [is] at dead

end Osds.Audit

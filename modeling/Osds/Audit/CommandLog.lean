import Osds.Audit.Events
import Osds.Lib.Json
import Osds.Lib.Lists
import Osds.Lib.Runs

-- The command log around the transaction of a command, with the replay of a command by
-- its idempotency key.
namespace Osds.Audit.CommandLog

inductive Outcome where
  | applied | rejected
  deriving DecidableEq, Repr

inductive Verdict (World : Type) where
  | applied (world : World) (event : Option Nat)
  | rejected (problem : Json)
  | raised

-- What there is to store of the payload: a value without a JSON form is refused, and a
-- text the column cannot hold raises.
inductive Receipt where
  | stored (payload : Json)
  | refused (problem : Json)
  | raised

structure Call (Command : Type) where
  tenant : TenantId
  idempotencyKey : Option String
  actor : Actor
  traceId : String
  origin : String
  command : Command

structure Handler (World Command : Type) where
  payload : Command → Receipt
  apply : Call Command → World → Verdict World

structure Row where
  id : Nat
  tenant : TenantId
  idempotencyKey : Option String
  adapterId : String
  actor : Actor
  traceId : String
  payload : Option Json
  outcome : Option Outcome
  resultEventId : Option Nat
  problem : Option Json

def Call.named (call : Call Command) : Option (TenantId × String) := (call.idempotencyKey.filter (· ≠ "")).map (call.tenant,·)

def Row.named (row : Row) : Option (TenantId × String) := row.idempotencyKey.map (row.tenant,·)

def replayProblem : Json := .obj [("idempotent_replay",.bool true)]

inductive Phase where
  | looking
  | replaying (event : Option Nat)
  | receiving
  | applying (row : Nat)
  | concluding (row : Nat) (outcome : Outcome) (event : Option Nat) (problem : Option Json)

structure Job (Command : Type) where
  call : Call Command
  phase : Phase

inductive Answer where
  | replayed (event : Option Nat)
  | applied (event : Option Nat)
  | rejected
  | raised

-- A transaction that was committed, and the row that was received for it.
structure Commit (Command : Type) where
  row : Nat
  call : Call Command
  event : Option Nat

structure State (World Command : Type) where
  world : World
  log : List Row
  nextRow : Nat
  jobs : Nat → Option (Job Command)
  nextJob : Nat
  commits : List (Commit Command)
  answers : List (Call Command × Answer)

inductive Action (Command : Type) where
  | call (call : Call Command)
  | next (p : Nat)
  -- the process dies, or its statement raises
  | abort (p : Nat)

def concluded (id : Nat) (outcome : Outcome) (event : Option Nat) (problem : Option Json) (row : Row) : Row :=
  if row.id = id then {row with outcome := some outcome,resultEventId := event,problem := problem} else row

section machine
variable {World Command : Type} (handler : Handler World Command)

namespace State

def start (world : World) : State World Command := ⟨world,[],0,fun _ => none,0,[],[]⟩

def set (s : State World Command) (p : Nat) (job : Option (Job Command)) : State World Command :=
  {s with jobs := fun q => if q = p then job else s.jobs q}

def answer (s : State World Command) (p : Nat) (call : Call Command) (answer : Answer) : State World Command :=
  {s.set p none with answers := s.answers ++ [(call,answer)]}

def receive (s : State World Command) (call : Call Command) (payload : Option Json) : State World Command :=
  {s with
    log := s.log ++ [⟨s.nextRow,call.tenant,call.idempotencyKey.filter (· ≠ ""),call.origin,call.actor,call.traceId,payload,none,none,none⟩]
    nextRow := s.nextRow + 1}

def replay (s : State World Command) (call : Call Command) (event : Option Nat) : State World Command :=
  {s with
    log := s.log ++ [⟨s.nextRow,call.tenant,call.idempotencyKey.filter (· ≠ ""),"",call.actor,call.traceId,none,some .applied,event,some replayProblem⟩]
    nextRow := s.nextRow + 1}

def prior (s : State World Command) (call : Call Command) : Option Row :=
  s.log.find? fun row => row.named = call.named ∧ row.outcome = some .applied

-- `upsert_listing` and the commands like it, one statement at a time.
def next (s : State World Command) (p : Nat) (job : Job Command) : State World Command :=
  match job.phase with
  | .looking => match s.prior job.call with
      | some row => s.set p (some ⟨job.call,.replaying row.resultEventId⟩)
      | none => s.set p (some ⟨job.call,.receiving⟩)
  | .replaying event => (s.replay job.call event).answer p job.call (.replayed event)
  | .receiving => match handler.payload job.call.command with
      | .stored payload => (s.receive job.call (some payload)).set p (some ⟨job.call,.applying s.nextRow⟩)
      | .refused problem => (s.receive job.call none).set p (some ⟨job.call,.concluding s.nextRow .rejected none (some problem)⟩)
      | .raised => s.answer p job.call .raised
  | .applying row => match handler.apply job.call s.world with
      | .applied world event =>
          {s.set p (some ⟨job.call,.concluding row .applied event none⟩) with world := world,commits := s.commits ++ [⟨row,job.call,event⟩]}
      | .rejected problem => s.set p (some ⟨job.call,.concluding row .rejected none (some problem)⟩)
      | .raised => s.answer p job.call .raised
  | .concluding row outcome event problem =>
      answer {s with log := s.log.map (concluded row outcome event problem)} p job.call (match outcome with | .applied => .applied event | .rejected => .rejected)

def step (s : State World Command) : Action Command → State World Command
  | .call call => {s.set s.nextJob (some ⟨call,if call.named.isSome then .looking else .receiving⟩) with nextJob := s.nextJob + 1}
  | .next p => match s.jobs p with
      | some job => s.next handler p job
      | none => s
  | .abort p => s.set p none

end State

-- The world is what the committed commands made of it, in their order.
inductive Chain (world : World) : List (Commit Command) → World → Prop where
  | nil : Chain world [] world
  | snoc : Chain world commits before → handler.apply c.call before = .applied after c.event → Chain world (commits ++ [c]) after

def Truth (commits : List (Commit Command)) (row : Row) : Prop :=
  match row.outcome,row.problem with
  | none,_ => True
  | some .rejected,_ => ∀ c ∈ commits, c.row ≠ row.id
  | some .applied,none => ∃ c ∈ commits, c.row = row.id ∧ c.event = row.resultEventId
  | some .applied,some _ => (∀ c ∈ commits, c.row ≠ row.id) ∧ ∃ c ∈ commits, c.call.named = row.named ∧ c.event = row.resultEventId

def Reported (commits : List (Commit Command)) : Call Command × Answer → Prop
  | (call,.replayed event) => ∃ c ∈ commits, c.call.named = call.named ∧ c.event = event
  | (call,.applied event) => ∃ c ∈ commits, c.call = call ∧ c.event = event
  | _ => True

structure Journal (world : World) (s : State World Command) : Prop where
  world : Chain handler world s.commits s.world
  -- each committed command has a row of its own
  received : ∀ c ∈ s.commits, ∃ row ∈ s.log, row.id = c.row ∧ row.named = c.call.named
  single : (s.commits.map (·.row)).Nodup
  truth : ∀ row ∈ s.log, Truth s.commits row
  answers : ∀ told ∈ s.answers, Reported s.commits told

section truth
variable {commits : List (Commit Command)} {c : Commit Command} {row : Row} {log : List Row} {told : Call Command × Answer}

theorem truth_commit (truth : Truth commits row) (other : c.row ≠ row.id) : Truth (commits ++ [c]) row := by
  have beside : (∀ d ∈ commits, d.row ≠ row.id) → ∀ d ∈ commits ++ [c], d.row ≠ row.id := by
    intro apart d there
    rcases List.mem_append.mp there with old | new
    · exact apart d old
    · exact List.mem_singleton.mp new ▸ other
  unfold Truth at truth ⊢
  split at truth
  · trivial
  · exact beside truth
  · obtain ⟨d,there,same⟩ := truth
    exact ⟨d,List.mem_append_left _ there,same⟩
  · obtain ⟨apart,d,there,same⟩ := truth
    exact ⟨beside apart,d,List.mem_append_left _ there,same⟩

theorem truth_applied (truth : Truth commits row) (received : ∀ c ∈ commits, ∃ row ∈ log, row.id = c.row ∧ row.named = c.call.named)
    (distinct : ∀ row ∈ log, ∀ other ∈ log, row.id = other.id → row = other) (listed : row ∈ log) (applied : row.outcome = some .applied) :
    ∃ c ∈ commits, c.call.named = row.named ∧ c.event = row.resultEventId := by
  unfold Truth at truth
  rw [applied] at truth
  cases problem : row.problem with
  | none =>
      rw [problem] at truth
      obtain ⟨c,there,own,event⟩ := truth
      obtain ⟨received_,listed',id,named⟩ := received c there
      have same := distinct received_ listed' row listed (id.trans own)
      exact ⟨c,there,(same ▸ named).symm,event⟩
  | some reason =>
      rw [problem] at truth
      exact truth.2

theorem reported_commit (reported : Reported commits told) : Reported (commits ++ [c]) told := by
  obtain ⟨call,answer⟩ := told
  cases answer with
  | replayed event =>
      obtain ⟨d,there,same⟩ := reported
      exact ⟨d,List.mem_append_left _ there,same⟩
  | applied event =>
      obtain ⟨d,there,same⟩ := reported
      exact ⟨d,List.mem_append_left _ there,same⟩
  | rejected => trivial
  | raised => trivial

end truth

def Pending (s : State World Command) (call : Call Command) (id : Nat) : Prop :=
  ∃ row ∈ s.log, row.id = id ∧ row.outcome = none ∧ row.named = call.named

def Phase.row : Phase → Option Nat
  | .applying row => some row
  | .concluding row _ _ _ => some row
  | _ => none

def Held (s : State World Command) (call : Call Command) : Phase → Prop
  | .looking => True
  | .replaying event => ∃ c ∈ s.commits, c.call.named = call.named ∧ c.event = event
  | .receiving => True
  | .applying row => Pending s call row ∧ ∀ c ∈ s.commits, c.row ≠ row
  | .concluding row .applied event problem => Pending s call row ∧ problem = none ∧ ⟨row,call,event⟩ ∈ s.commits
  | .concluding row .rejected _ _ => Pending s call row ∧ ∀ c ∈ s.commits, c.row ≠ row

structure Sound (world : World) (s : State World Command) : Prop extends Journal handler world s where
  ids : ∀ row ∈ s.log, row.id < s.nextRow
  distinct : ∀ row ∈ s.log, ∀ other ∈ s.log, row.id = other.id → row = other
  started : ∀ p job, s.jobs p = some job → p < s.nextJob
  held : ∀ p job, s.jobs p = some job → Held s job.call job.phase
  apart : ∀ p q job job' id, s.jobs p = some job → s.jobs q = some job' → job.phase.row = some id → job'.phase.row = some id → p = q

section sound
variable {handler} {world : World} {s s' : State World Command} {p : Nat} {job : Job Command} {call : Call Command} {phase : Phase} {id : Nat}

theorem held_pending (held : Held s call phase) (own : phase.row = some id) : Pending s call id := by
  cases phase with
  | applying row =>
      cases own
      exact held.1
  | concluding row outcome event problem =>
      cases own
      cases outcome with
      | applied => exact held.1
      | rejected => exact held.1
  | _ => cases own

theorem held_kept (held : Held s call phase) (pending : ∀ id, phase.row = some id → Pending s call id → Pending s' call id)
    (commits : s'.commits = s.commits) : Held s' call phase := by
  cases phase with
  | looking => trivial
  | replaying event =>
      unfold Held
      rw [commits]
      exact held
  | receiving => trivial
  | applying row => exact ⟨pending row rfl held.1,commits ▸ held.2⟩
  | concluding row outcome event problem =>
      cases outcome with
      | applied => exact ⟨pending row rfl held.1,commits ▸ held.2⟩
      | rejected => exact ⟨pending row rfl held.1,commits ▸ held.2⟩

theorem sound_set (sound : Sound handler world s) (moved : Option (Job Command)) (early : ∀ job, moved = some job → p < s.nextJob)
    (held : ∀ job, moved = some job → Held s job.call job.phase)
    (own : ∀ job id, moved = some job → job.phase.row = some id → ∀ q job', s.jobs q = some job' → job'.phase.row = some id → q = p) :
    Sound handler world (s.set p moved) where
  world := sound.world
  received := sound.received
  single := sound.single
  truth := sound.truth
  answers := sound.answers
  ids := sound.ids
  distinct := sound.distinct
  started q job there := by
    have there : (if q = p then moved else s.jobs q) = some job := there
    split at there
    · next same => exact same ▸ early job there
    · exact sound.started q job there
  held q job there := by
    have there : (if q = p then moved else s.jobs q) = some job := there
    have still : Held s job.call job.phase := by
      split at there
      · exact held job there
      · exact sound.held q job there
    exact held_kept still (fun _ _ => id) rfl
  apart q r job job' id there there' row row' := by
    have there : (if q = p then moved else s.jobs q) = some job := there
    have there' : (if r = p then moved else s.jobs r) = some job' := there'
    split at there <;> split at there'
    · next same same' => exact same.trans same'.symm
    · next same _ => exact same.trans (own job id there row r job' there' row').symm
    · next _ same => exact (own job' id there' row' q job there row).trans same.symm
    · exact sound.apart q r job job' id there there' row row'

theorem sound_goto (sound : Sound handler world s) (there : s.jobs p = some job) (held : Held s job.call phase)
    (own : ∀ id, phase.row = some id → job.phase.row = some id) : Sound handler world (s.set p (some ⟨job.call,phase⟩)) := by
  refine sound_set sound _ (fun _ _ => sound.started p job there) ?_ ?_
  · rintro moved ⟨⟩
    exact held
  · rintro moved id ⟨⟩ row q job' there' row'
    exact sound.apart q p job' job id there' there row' (own id row)

theorem sound_tell (sound : Sound handler world s) (reported : Reported s.commits told) :
    Sound handler world {s with answers := s.answers ++ [told]} where
  world := sound.world
  received := sound.received
  single := sound.single
  truth := sound.truth
  answers told' there := by
    rcases List.mem_append.mp there with old | new
    · exact sound.answers told' old
    · exact List.mem_singleton.mp new ▸ reported
  ids := sound.ids
  distinct := sound.distinct
  started := sound.started
  held q job there := held_kept (sound.held q job there) (fun _ _ => id) rfl
  apart := sound.apart

theorem sound_stop (sound : Sound handler world s) (p : Nat) : Sound handler world (s.set p none) :=
  sound_set sound none (by simp) (by simp) (by simp)

theorem sound_insert (sound : Sound handler world s) (row : Row) (id : row.id = s.nextRow) (truth : Truth s.commits row) :
    Sound handler world {s with log := s.log ++ [row],nextRow := s.nextRow + 1} where
  world := sound.world
  received c there := by
    obtain ⟨row',listed,same⟩ := sound.received c there
    exact ⟨row',List.mem_append_left _ listed,same⟩
  single := sound.single
  truth row' there := by
    rcases List.mem_append.mp there with old | new
    · exact sound.truth row' old
    · exact List.mem_singleton.mp new ▸ truth
  answers := sound.answers
  ids row' there := by
    rcases List.mem_append.mp there with old | new
    · exact Nat.lt_succ_of_lt (sound.ids row' old)
    · cases List.mem_singleton.mp new
      exact id ▸ Nat.lt_succ_self _
  distinct row' there other there' same := by
    rcases List.mem_append.mp there with old | new <;> rcases List.mem_append.mp there' with old' | new'
    · exact sound.distinct row' old other old' same
    · cases List.mem_singleton.mp new'
      exact absurd (same.trans id) (Nat.ne_of_lt (sound.ids row' old))
    · cases List.mem_singleton.mp new
      exact absurd (same.symm.trans id) (Nat.ne_of_lt (sound.ids other old'))
    · rw [List.mem_singleton.mp new,List.mem_singleton.mp new']
  started := sound.started
  held q job there := by
    refine held_kept (sound.held q job there) ?_ rfl
    rintro id' _ ⟨row',listed,same⟩
    exact ⟨row',List.mem_append_left _ listed,same⟩
  apart := sound.apart

def Free (s : State World Command) (id : Nat) : Prop := ∀ q job, s.jobs q = some job → job.phase.row ≠ some id

theorem sound_commit (sound : Sound handler world s) {row : Row} (listed : row ∈ s.log) (open_ : row.outcome = none) (named : row.named = call.named)
    (none_ : ∀ c ∈ s.commits, c.row ≠ row.id) (free : Free s row.id) {w : World} {event : Option Nat}
    (applied : handler.apply call s.world = .applied w event) :
    Sound handler world {s with world := w,commits := s.commits ++ [⟨row.id,call,event⟩]} where
  world := .snoc sound.world applied
  received c there := by
    rcases List.mem_append.mp there with old | new
    · exact sound.received c old
    · cases List.mem_singleton.mp new
      exact ⟨row,listed,rfl,named⟩
  single := by
    simp only [List.map_append,List.map_cons,List.map_nil]
    refine List.nodup_append.mpr ⟨sound.single,List.nodup_singleton _,?_⟩
    rintro a before b new rfl
    cases List.mem_singleton.mp new
    obtain ⟨c,there,same⟩ := List.mem_map.mp before
    exact none_ c there same
  truth other there := by
    by_cases same : row.id = other.id
    · cases sound.distinct row listed other there same
      simp [Truth,open_]
    · exact truth_commit (sound.truth other there) same
  answers told there := reported_commit (sound.answers told there)
  ids := sound.ids
  distinct := sound.distinct
  started := sound.started
  held q job there := by
    have still := sound.held q job there
    have other := free q job there
    have grown : ∀ c, c ∈ s.commits → c ∈ s.commits ++ [⟨row.id,call,event⟩] := fun c => List.mem_append_left _
    have beside : ∀ id, row.id ≠ id → (∀ c ∈ s.commits, c.row ≠ id) → ∀ c ∈ s.commits ++ [⟨row.id,call,event⟩], c.row ≠ id := by
      intro id apart none_ c there
      rcases List.mem_append.mp there with old | new
      · exact none_ c old
      · exact List.mem_singleton.mp new ▸ apart
    cases phase : job.phase with
    | looking => trivial
    | replaying event' =>
        rw [phase] at still
        obtain ⟨c,there',same⟩ := still
        exact ⟨c,grown c there',same⟩
    | receiving => trivial
    | applying id =>
        rw [phase] at still other
        exact ⟨still.1,beside id (fun same => other (congrArg some same.symm)) still.2⟩
    | concluding id outcome event' problem =>
        rw [phase] at still other
        cases outcome with
        | applied => exact ⟨still.1,still.2.1,grown _ still.2.2⟩
        | rejected => exact ⟨still.1,beside id (fun same => other (congrArg some same.symm)) still.2⟩
  apart := sound.apart

@[simp] theorem concluded_id (row : Row) (outcome : Outcome) (event : Option Nat) (problem : Option Json) :
    (concluded id outcome event problem row).id = row.id ∧ (concluded id outcome event problem row).named = row.named := by
  unfold concluded
  split <;> exact ⟨rfl,rfl⟩

theorem sound_conclude (sound : Sound handler world s) (free : Free s id) {outcome : Outcome} {event : Option Nat} {problem : Option Json}
    (truth : ∀ row ∈ s.log, row.id = id → Truth s.commits (concluded id outcome event problem row)) :
    Sound handler world {s with log := s.log.map (concluded id outcome event problem)} where
  world := sound.world
  received c there := by
    obtain ⟨row,listed,same,named⟩ := sound.received c there
    refine ⟨_,List.mem_map_of_mem listed,?_,?_⟩
    · rwa [(concluded_id row ..).1]
    · rwa [(concluded_id row ..).2]
  single := sound.single
  truth row there := by
    obtain ⟨row,listed,rfl⟩ := List.mem_map.mp there
    by_cases same : row.id = id
    · exact truth row listed same
    · simpa [concluded,same] using sound.truth row listed
  answers := sound.answers
  ids row there := by
    obtain ⟨row,listed,rfl⟩ := List.mem_map.mp there
    exact (concluded_id row ..).1 ▸ sound.ids row listed
  distinct row there other there' same := by
    obtain ⟨row,listed,rfl⟩ := List.mem_map.mp there
    obtain ⟨other,listed',rfl⟩ := List.mem_map.mp there'
    rw [(concluded_id row ..).1,(concluded_id other ..).1] at same
    rw [sound.distinct row listed other listed' same]
  started := sound.started
  held q job there := by
    refine held_kept (sound.held q job there) ?_ rfl
    rintro id' own ⟨row,listed,same,open_⟩
    have other : row.id ≠ id := fun named => free q job there (own.trans (congrArg some (same.symm.trans named)))
    exact ⟨row,List.mem_map.mpr ⟨row,listed,by simp [concluded,other]⟩,same,open_⟩
  apart := sound.apart

theorem prior_some {row : Row} (found : s.prior call = some row) : row ∈ s.log ∧ row.named = call.named ∧ row.outcome = some .applied := by
  have kept := List.find?_some found
  simp only [decide_eq_true_eq] at kept
  exact ⟨List.mem_of_find?_eq_some found,kept⟩

theorem free_of (sound : Sound handler world s) (there : s.jobs p = some job) (own : job.phase.row = some id) : Free (s.set p none) id := by
  intro q job' there' row'
  have there' : (if q = p then none else s.jobs q) = some job' := there'
  split at there'
  · cases there'
  · next other => exact other (sound.apart q p job' job id there' there row' own)

theorem pending_row (sound : Sound handler world s) {row : Row} (pending : Pending s call id) (listed : row ∈ s.log) (same : row.id = id) :
    row.outcome = none ∧ row.named = call.named := by
  obtain ⟨row',listed',same',open_,named⟩ := pending
  cases sound.distinct row listed row' listed' (same.trans same'.symm)
  exact ⟨open_,named⟩

theorem sound_received (sound : Sound handler world s) (there : s.jobs p = some job) (payload : Option Json)
    (own : phase.row = some s.nextRow)
    (held : ∀ s' : State World Command, Pending s' job.call s.nextRow → (∀ c ∈ s'.commits, c.row ≠ s.nextRow) → Held s' job.call phase) :
    Sound handler world ((s.receive job.call payload).set p (some ⟨job.call,phase⟩)) := by
  have logged : Sound handler world (s.receive job.call payload) := sound_insert sound _ rfl trivial
  refine sound_set logged _ (fun _ _ => sound.started p job there) ?_ ?_
  · rintro moved ⟨⟩
    refine held _ ⟨_,List.mem_append_right _ (List.mem_singleton_self _),rfl,rfl,rfl⟩ fun c committed same => ?_
    obtain ⟨row,listed,id,_⟩ := sound.received c committed
    exact Nat.lt_irrefl _ (same ▸ id ▸ sound.ids row listed)
  · rintro moved id ⟨⟩ row q job' there' row'
    cases own.symm.trans row
    obtain ⟨old,listed,same,_⟩ := held_pending (sound.held q job' there') row'
    exact absurd (same ▸ sound.ids old listed) (Nat.lt_irrefl _)

theorem sound_next (sound : Sound handler world s) (there : s.jobs p = some job) : Sound handler world (s.next handler p job) := by
  have held := sound.held p job there
  unfold State.next
  cases phase : job.phase with
  | looking =>
      dsimp only
      cases found : s.prior job.call with
      | none => exact sound_goto sound there trivial nofun
      | some row =>
          obtain ⟨listed,named,applied⟩ := prior_some found
          refine sound_goto sound there ?_ nofun
          obtain ⟨c,committed,same,event⟩ := truth_applied (sound.truth row listed) sound.received sound.distinct listed applied
          exact ⟨c,committed,same.trans named,event⟩
  | replaying event =>
      rw [phase] at held
      obtain ⟨c,committed,named,same⟩ := held
      have ended := sound_stop sound p
      refine sound_tell (sound_insert ended _ rfl ?_) ⟨c,committed,named,same⟩
      refine ⟨fun d committed' same' => ?_,c,committed,named,same⟩
      obtain ⟨row,listed,id,_⟩ := sound.received d committed'
      exact Nat.lt_irrefl _ (same' ▸ id ▸ sound.ids row listed)
  | receiving =>
      dsimp only
      cases handler.payload job.call.command with
      | stored payload => exact sound_received sound there _ rfl fun _ pending none_ => ⟨pending,none_⟩
      | refused problem => exact sound_received sound there _ rfl fun _ pending none_ => ⟨pending,none_⟩
      | raised => exact sound_tell (sound_stop sound p) trivial
  | applying id =>
      rw [phase] at held
      dsimp only
      cases verdict : handler.apply job.call s.world with
      | applied w event =>
          obtain ⟨⟨row,listed,rfl,open_,named⟩,none_⟩ := held
          have free : Free (s.set p none) row.id := free_of sound there (by rw [phase]; rfl)
          have committed := sound_commit (sound_stop sound p) listed open_ named none_ free verdict
          refine cast (congrArg (Sound handler world) ?_) (sound_set committed (some ⟨job.call,.concluding row.id .applied event none⟩)
            (fun _ _ => sound.started p job there) ?_ ?_)
          · unfold State.set
            congr
            funext q
            by_cases same : q = p <;> simp [same]
          · rintro moved ⟨⟩
            exact ⟨⟨row,listed,rfl,open_,named⟩,rfl,List.mem_append_right _ (List.mem_singleton_self _)⟩
          · rintro moved id ⟨⟩ ⟨⟩ q job' there' row'
            exact absurd row' (free q job' there')
      | rejected problem => exact sound_goto sound there held fun id own => by rw [phase]; exact own
      | raised => exact sound_tell (sound_stop sound p) trivial
  | concluding id outcome event problem =>
      rw [phase] at held
      have free : Free (s.set p none) id := free_of sound there (by rw [phase]; rfl)
      dsimp only
      cases outcome with
      | applied =>
          obtain ⟨pending,rfl,committed⟩ := held
          refine sound_tell (sound_conclude (sound_stop sound p) free fun row listed same => ?_) ⟨_,committed,rfl,rfl⟩
          subst same
          simp only [concluded,if_true,Truth]
          exact ⟨_,committed,rfl,rfl⟩
      | rejected =>
          obtain ⟨pending,none_⟩ := held
          refine sound_tell (sound_conclude (sound_stop sound p) free fun row listed same => ?_) trivial
          subst same
          simp only [concluded,if_true,Truth]
          exact none_

theorem sound_step (sound : Sound handler world s) (action : Action Command) : Sound handler world (s.step handler action) := by
  cases action with
  | call call =>
      have later : Sound handler world {s with nextJob := s.nextJob + 1} := by
        refine ⟨⟨sound.world,sound.received,sound.single,sound.truth,sound.answers⟩,sound.ids,sound.distinct,fun q job there => Nat.lt_succ_of_lt (sound.started q job there),?_,sound.apart⟩
        exact fun q job there => held_kept (sound.held q job there) (fun _ _ => id) rfl
      refine sound_set later _ (fun _ _ => Nat.lt_succ_self _) ?_ ?_
      · rintro moved ⟨⟩
        dsimp only
        split <;> trivial
      · rintro moved id ⟨⟩ row
        dsimp only at row
        split at row <;> cases row
  | next p =>
      unfold State.step
      dsimp only
      cases there : s.jobs p with
      | none => exact sound
      | some job => exact sound_next sound there
  | abort p => exact sound_stop sound p

theorem start_sound (world : World) : Sound handler world (State.start world : State World Command) where
  world := .nil
  received := by simp [State.start]
  single := List.nodup_nil
  truth := by simp [State.start]
  answers := by simp [State.start]
  ids := by simp [State.start]
  distinct := by simp [State.start]
  started := by simp [State.start]
  held := by simp [State.start]
  apart := by simp [State.start]

theorem kept_step (sound : Sound handler world s) (action : Action Command) {row : Row} (there : row ∈ s.log) (ended : row.outcome ≠ none) :
    row ∈ (s.step handler action).log := by
  cases action with
  | call call => exact there
  | abort p => exact there
  | next p =>
      unfold State.step
      dsimp only
      cases running : s.jobs p with
      | none => exact there
      | some job =>
          have held := sound.held p job running
          dsimp only
          unfold State.next
          cases phase : job.phase with
          | looking =>
              dsimp only
              split <;> exact there
          | replaying event => exact List.mem_append_left _ there
          | receiving =>
              dsimp only
              split
              · exact List.mem_append_left _ there
              · exact List.mem_append_left _ there
              · exact there
          | applying id =>
              dsimp only
              split <;> exact there
          | concluding id outcome event problem =>
              rw [phase] at held
              have other : row.id ≠ id := by
                intro same
                exact ended (pending_row sound (held_pending held rfl) there same).1
              exact List.mem_map.mpr ⟨row,there,by simp [concluded,other]⟩

theorem kept_run (sound : Sound handler world s) (actions : List (Action Command)) {row : Row} (there : row ∈ s.log) (ended : row.outcome ≠ none) :
    row ∈ (Runs.run (State.step handler) s actions).log := by
  induction actions generalizing s with
  | nil => exact there
  | cons action rest ih => exact ih (sound_step sound action) (kept_step sound action there ended)

end sound

section once

def Phase.working : Phase → Bool
  | .looking => false
  | .replaying _ => false
  | _ => true

def Phase.early : Phase → Bool
  | .receiving => true
  | .applying _ => true
  | .concluding _ .rejected _ _ => true
  | _ => false

def Job.busy (name : Option (TenantId × String)) (job : Job Command) : Bool := job.call.named = name && job.phase.working

def Row.settles (c : Commit Command) (row : Row) : Bool := row.id = c.row && row.outcome = some .applied

-- A call looks for its key when no other call with it is underway, and none has died
-- between its commit and its conclusion.
def alone (s : State World Command) : Action Command → Bool
  | .next p => match s.jobs p with
      | some ⟨call,.looking⟩ =>
          ((List.range s.nextJob).all fun q => !(s.jobs q).any (·.busy call.named)) &&
            s.commits.all fun c => c.call.named ≠ call.named || s.log.any (·.settles c)
      | _ => true
  | _ => true

structure Once (name : TenantId × String) (s : State World Command) : Prop where
  one : ∀ p q job job', s.jobs p = some job → s.jobs q = some job' → job.busy (some name) = true → job'.busy (some name) = true → p = q
  fresh : ∀ p job, s.jobs p = some job → job.call.named = some name → job.phase.early = true → ∀ c ∈ s.commits, c.call.named ≠ some name
  most : (s.commits.filter (·.call.named = some name)).length ≤ 1

variable {handler} {world : World} {s s' : State World Command} {p : Nat} {job : Job Command} {phase : Phase} {name : TenantId × String}

theorem once_congr (once : Once name s) (jobs : s'.jobs = s.jobs) (commits : s'.commits = s.commits) : Once name s' := by
  refine ⟨?_,?_,?_⟩
  · rw [jobs]
    exact once.one
  · rw [jobs,commits]
    exact once.fresh
  · rw [commits]
    exact once.most

theorem once_set (once : Once name s) (moved : Option (Job Command))
    (one : ∀ job, moved = some job → job.busy (some name) = true → ∀ q job', s.jobs q = some job' → job'.busy (some name) = true → q = p)
    (fresh : ∀ job, moved = some job → job.call.named = some name → job.phase.early = true → ∀ c ∈ s.commits, c.call.named ≠ some name) :
    Once name (s.set p moved) where
  one q r job job' there there' busy busy' := by
    have there : (if q = p then moved else s.jobs q) = some job := there
    have there' : (if r = p then moved else s.jobs r) = some job' := there'
    split at there <;> split at there'
    · next same same' => exact same.trans same'.symm
    · next same _ => exact same.trans (one job there busy r job' there' busy').symm
    · next _ same => exact (one job' there' busy' q job there busy).trans same.symm
    · exact once.one q r job job' there there' busy busy'
  fresh q job there named early := by
    have there : (if q = p then moved else s.jobs q) = some job := there
    split at there
    · exact fresh job there named early
    · exact once.fresh q job there named early
  most := once.most

theorem once_stop (once : Once name s) (p : Nat) : Once name (s.set p none) :=
  once_set once none (by simp) (by simp)

theorem once_goto (once : Once name s) (there : s.jobs p = some job) (working : phase.working = true → job.phase.working = true)
    (early : phase.early = true → job.phase.early = true) : Once name (s.set p (some ⟨job.call,phase⟩)) := by
  refine once_set once _ ?_ ?_
  · rintro moved ⟨⟩ busy q job' there' busy'
    refine once.one q p job' job there' there busy' ?_
    simp only [Job.busy,Bool.and_eq_true] at busy ⊢
    exact ⟨busy.1,working busy.2⟩
  · rintro moved ⟨⟩ named early'
    exact once.fresh p job there named (early early')

-- What `alone` says of a look that finds no applied row: no command with the key is
-- underway, and none was committed.
theorem alone_look (sound : Sound handler world s) {call : Call Command} (there : s.jobs p = some ⟨call,.looking⟩)
    (alone_ : alone s (.next p) = true) (none_ : s.prior call = none) :
    (∀ q job, s.jobs q = some job → job.busy call.named = false) ∧ ∀ c ∈ s.commits, c.call.named ≠ call.named := by
  simp only [alone,there,Bool.and_eq_true,List.all_eq_true,List.mem_range,Bool.or_eq_true,decide_eq_true_eq] at alone_
  obtain ⟨idle,settled⟩ := alone_
  constructor
  · intro q job there'
    simpa [there'] using idle q (sound.started q job there')
  · intro c committed named
    rcases settled c committed with other | found
    · exact other named
    · obtain ⟨row,listed,settles⟩ := List.any_eq_true.mp found
      simp only [Row.settles,Bool.and_eq_true,decide_eq_true_eq] at settles
      obtain ⟨row',listed',id,named'⟩ := sound.received c committed
      cases sound.distinct row listed row' listed' (settles.1.trans id.symm)
      have missing := List.find?_eq_none.mp none_ row listed
      exact missing (decide_eq_true ⟨named'.trans named,settles.2⟩)

theorem once_next (sound : Sound handler world s) (once : Once name s) (there : s.jobs p = some job) (alone_ : alone s (.next p) = true) :
    Once name (s.next handler p job) := by
  unfold State.next
  cases phase : job.phase with
  | looking =>
      dsimp only
      cases found : s.prior job.call with
      | some row => exact once_goto once there nofun nofun
      | none =>
          have there' : s.jobs p = some ⟨job.call,.looking⟩ := by rw [there,← phase]
          obtain ⟨idle,none_⟩ := alone_look sound there' alone_ found
          refine once_set once _ ?_ ?_
          · rintro moved ⟨⟩ busy q job' running busy'
            simp only [Job.busy,Bool.and_eq_true,decide_eq_true_eq] at busy
            have other := idle q job' running
            rw [busy.1,busy'] at other
            cases other
          · rintro moved ⟨⟩ named _
            rw [← named]
            exact none_
  | replaying event => exact once_congr (once_stop once p) rfl rfl
  | receiving =>
      have still : ∀ phase' : Phase, Once name (s.set p (some ⟨job.call,phase'⟩)) :=
        fun phase' => once_goto once there (by simp [phase,Phase.working]) (by simp [phase,Phase.early])
      dsimp only
      split
      · exact once_congr (still _) rfl rfl
      · exact once_congr (still _) rfl rfl
      · exact once_congr (once_stop once p) rfl rfl
  | applying id =>
      dsimp only
      split
      · next w event _ =>
          have moved : Once name (s.set p (some ⟨job.call,.concluding id .applied event none⟩)) :=
            once_goto once there (by simp [phase,Phase.working]) nofun
          refine ⟨moved.one,?_,?_⟩
          · intro q job' running named early c committed
            rcases List.mem_append.mp committed with old | new
            · exact moved.fresh q job' running named early c old
            · cases List.mem_singleton.mp new
              intro same
              have running : (if q = p then some _ else s.jobs q) = some job' := running
              split at running
              · cases running
                cases early
              · next other =>
                  have working : job'.phase.working = true := by
                    cases phase' : job'.phase <;> simp [phase',Phase.early,Phase.working] at early ⊢
                  exact other (once.one q p job' job running there (by simp [Job.busy,named,working]) (by simp [Job.busy,same,phase,Phase.working]))
          · simp only [List.filter_append,List.length_append]
            by_cases mine : job.call.named = some name
            · have none_ : s.commits.filter (·.call.named = some name) = [] :=
                List.filter_eq_nil_iff.mpr fun c committed => by
                  simpa using once.fresh p job there mine (by rw [phase]; rfl) c committed
              simp [none_,mine]
            · simpa [mine] using once.most
      · exact once_goto once there (by simp [phase,Phase.working]) (by simp [phase,Phase.early])
      · exact once_congr (once_stop once p) rfl rfl
  | concluding id outcome event problem => exact once_congr (once_stop once p) rfl rfl

theorem once_step (sound : Sound handler world s) (once : Once name s) (action : Action Command) (alone_ : alone s action = true) :
    Once name (s.step handler action) := by
  cases action with
  | call call =>
      refine once_congr (once_set once (p := s.nextJob) (some ⟨call,if call.named.isSome then .looking else .receiving⟩) ?_ ?_) rfl rfl
      · rintro moved ⟨⟩ busy
        cases named : call.named <;> simp [Job.busy,named,Phase.working] at busy
      · rintro moved ⟨⟩ named
        dsimp only at named
        simp [named,Phase.early]
  | next p =>
      unfold State.step
      dsimp only
      cases there : s.jobs p with
      | none => exact once
      | some job => exact once_next sound once there alone_
  | abort p => exact once_stop once p

theorem once_run (sound : Sound handler world s) (once : Once name s) (actions : List (Action Command))
    (serial : Runs.Along (State.step handler) (fun s action => alone s action = true) s actions) :
    Once name (Runs.run (State.step handler) s actions) := by
  induction actions generalizing s with
  | nil => exact once
  | cons action rest ih => exact ih (sound_step sound action) (once_step sound once action serial.1) serial.2

theorem start_once (world : World) (name : TenantId × String) : Once name (State.start world : State World Command) where
  one := by simp [State.start]
  fresh := by simp [State.start]
  most := by simp [State.start]

def Answer.told : Answer → Option (Option Nat)
  | .replayed event => some event
  | .applied event => some event
  | _ => none

theorem once_told (journal : Journal handler world s) (once : Once name s) {told told' : Call Command × Answer} (answered : told ∈ s.answers)
    (answered' : told' ∈ s.answers) (named : told.1.named = some name) (named' : told'.1.named = some name)
    (event : told.2.told = some e) (event' : told'.2.told = some e') : e = e' := by
  have source : ∀ x ∈ s.answers, x.1.named = some name → ∀ e, x.2.told = some e → ∃ c ∈ s.commits.filter (·.call.named = some name), c.event = e := by
    rintro ⟨call,answer⟩ listed named e event
    have reported := journal.answers _ listed
    cases answer with
    | replayed event' =>
        cases event
        obtain ⟨c,committed,same,event⟩ := reported
        exact ⟨c,List.mem_filter.mpr ⟨committed,decide_eq_true (same.trans named)⟩,event⟩
    | applied event' =>
        cases event
        obtain ⟨c,committed,same,event⟩ := reported
        exact ⟨c,List.mem_filter.mpr ⟨committed,decide_eq_true (same ▸ named)⟩,event⟩
    | rejected => cases event
    | raised => cases event
  obtain ⟨c,mine,rfl⟩ := source told answered named e event
  obtain ⟨c',mine',rfl⟩ := source told' answered' named' e' event'
  have most := once.most
  match listed : s.commits.filter (·.call.named = some name) with
  | [] => simp [listed] at mine
  | [only] =>
      rw [listed] at mine mine'
      rw [List.mem_singleton.mp mine,List.mem_singleton.mp mine']
  | _ :: _ :: _ => simp [listed] at most

end once

end machine

end Osds.Audit.CommandLog

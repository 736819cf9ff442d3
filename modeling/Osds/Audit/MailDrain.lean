import Osds.Audit.Deliveries
import Osds.Lib.Runs

namespace Osds.Audit.MailDrain
open Directory

inductive MailStatus where
  | pending | sent | dead | expired
  deriving DecidableEq, Repr

structure OutboundMessage where
  messageId : String
  tenant : TenantId
  kind : String
  toAddress : Option String
  subject : String
  bodyText : Option String
  status : MailStatus := .pending
  attempt : Nat := 0
  nextAttemptAt : Time
  expiresAt : Time
  firstAttemptedAt : Option Time := none
  lastAttemptedAt : Option Time := none
  lastError : String := ""
  sentAt : Option Time := none
  deriving DecidableEq, Repr

def UNCONFIGURED_RECHECK : Time := 60 * second

structure Outcome where
  status : MailStatus
  attempt : Option Nat := none
  nextAttemptAt : Option Time := none
  error : String := ""
  sent : Bool := false
  deriving DecidableEq, Repr

def OutboundMessage.settle (m : OutboundMessage) (now : Time) (o : Outcome) : OutboundMessage :=
  {m with
    status := o.status
    lastAttemptedAt := some now
    lastError := o.error
    firstAttemptedAt := some (m.firstAttemptedAt.getD now)
    attempt := o.attempt.getD m.attempt
    nextAttemptAt := o.nextAttemptAt.getD m.nextAttemptAt
    bodyText := if o.status = .pending then m.bodyText else none
    sentAt := if o.sent then some now else m.sentAt}

-- What comes of a call of the provider: a result or an exception, or that it is not
-- configured.
inductive Answer where
  | unconfigured (text : String)
  | returned (result : Except String Result)

def unconfigured (now : Time) (error : String) : Outcome :=
  {status := .pending,nextAttemptAt := some (now + UNCONFIGURED_RECHECK),error := error}

def attempted (loaded : OutboundMessage) (now : Time) (provider : Option Answer) (draw : Nat) : Outcome :=
  if loaded.expiresAt ≤ now then {status := .expired}
  else match provider with
    | none => unconfigured now "no email.send provider registered"
    | some (.unconfigured text) => unconfigured now (if text = "" then "email.send is not configured" else text)
    | some (.returned answer) =>
        let result := answered answer
        let completed := loaded.attempt + 1
        let reason := if result.reason = "" then result.status.value else result.reason
        if result.status = .ok then {status := .sent,attempt := some completed,sent := true}
        else if result.status = .failed && result.permanent then {status := .dead,attempt := some completed,error := reason}
        else {status := .pending,attempt := some completed,nextAttemptAt := some (now + backoff completed draw),error := reason}

inductive Phase where
  | starting
  | attempting (rest : List Nat)
  | sending (pk : Nat) (loaded : OutboundMessage) (rest : List Nat)
  | recording (pk : Nat) (loaded : OutboundMessage) (o : Outcome) (rest : List Nat)

structure Pass where
  now : Time
  -- the expiries there were when it began: for the statements only
  begun : Nat → Option Time
  phase : Phase

-- The messages, the passes under way, and the expiries of a pending code that have
-- read its message and not yet saved it.
structure Mail where
  messages : Nat → Option OutboundMessage
  nextMessage : Nat
  passes : Nat → Option Pass
  nextPass : Nat
  expiring : Nat → Option (Nat × Time)

inductive Action where
  | enqueue (messageId : String) (tenant : TenantId) (kind toAddress subject bodyText : String) (expiresAt now : Time)
  | start (now : Time)
  | claim (p batch : Nat) (locked : List Nat)
  | load (p : Nat)
  | send (p : Nat) (provider : Option Answer) (draw : Nat)
  | record (p : Nat)
  | crash (p : Nat)
  -- `expire_pending_code`: the message read, and its new expiry saved
  | look (e pk : Nat) (now : Time)
  | save (e : Nat)

namespace Mail

def goto (s : Mail) (p : Nat) (now : Time) (begun : Nat → Option Time) (phase : Phase) : Mail :=
  {s with passes := Function.update s.passes p (some ⟨now,begun,phase⟩)}

def put (s : Mail) (pk : Nat) (m : OutboundMessage) : Mail := {s with messages := Function.update s.messages pk (some m)}

def due (s : Mail) (now : Time) (pk : Nat) : Bool :=
  (s.messages pk).any fun m => m.status = .pending && m.nextAttemptAt ≤ now

def claimed (s : Mail) (now : Time) (batch : Nat) (locked : List Nat) : List Nat :=
  ((List.range s.nextMessage).filter fun pk => s.due now pk && pk ∉ locked).take batch

def stampAll (s : Mail) (now : Time) (pks : List Nat) : Mail :=
  {s with messages := fun pk =>
    if pk ∈ pks then (s.messages pk).map fun m => {m with nextAttemptAt := visibility now} else s.messages pk}

-- The outcome goes through only if the row is where this pass loaded it.
def record (s : Mail) (now : Time) (pk : Nat) (loaded : OutboundMessage) (o : Outcome) : Mail :=
  match s.messages pk with
  | none => s
  | some m => if m.nextAttemptAt = loaded.nextAttemptAt then s.put pk (m.settle now o) else s

def start : Mail := ⟨fun _ => none,0,fun _ => none,0,fun _ => none⟩

end Mail

def step (s : Mail) : Action → Mail
  | .enqueue messageId tenant kind toAddress subject bodyText expiresAt now =>
      let m : OutboundMessage := {messageId := messageId,tenant := tenant,kind := kind,toAddress := some toAddress,
                                  subject := subject,bodyText := some bodyText,nextAttemptAt := now,expiresAt := expiresAt}
      {s.put s.nextMessage m with nextMessage := s.nextMessage + 1}
  | .start now =>
      let begun := fun pk => (s.messages pk).map (·.expiresAt)
      {s.goto s.nextPass now begun .starting with nextPass := s.nextPass + 1}
  | .claim p batch locked =>
      match s.passes p with
      | some ⟨now,begun,.starting⟩ =>
          let pks := s.claimed now batch locked
          (s.stampAll now pks).goto p now begun (.attempting pks)
      | _ => s
  | .load p =>
      match s.passes p with
      | some ⟨now,begun,.attempting (pk :: rest)⟩ =>
          match s.messages pk with
          | none => s
          | some m => s.goto p now begun (.sending pk m rest)
      | _ => s
  | .send p provider draw =>
      match s.passes p with
      | some ⟨now,begun,.sending pk loaded rest⟩ =>
          s.goto p now begun (.recording pk loaded (attempted loaded now provider draw) rest)
      | _ => s
  | .record p =>
      match s.passes p with
      | some ⟨now,begun,.recording pk loaded o rest⟩ =>
          (s.record now pk loaded o).goto p now begun (.attempting rest)
      | _ => s
  | .crash p => {s with passes := Function.update s.passes p none}
  | .look e pk now =>
      let seen := if (s.messages pk).any (·.status = .pending) then some (pk,now) else none
      {s with expiring := Function.update s.expiring e seen}
  | .save e =>
      match s.expiring e with
      | none => s
      | some (pk,now) =>
          match s.messages pk with
          | none => s
          | some m => {s.put pk {m with expiresAt := now} with expiring := Function.update s.expiring e none}

def sends (s : Mail) : Action → Option (Nat × Pass × Nat × OutboundMessage)
  | .send p (some _) _ =>
      match s.passes p with
      | some ⟨now,begun,.sending pk loaded rest⟩ =>
          if loaded.expiresAt ≤ now then none else some (p,⟨now,begun,.sending pk loaded rest⟩,pk,loaded)
      | _ => none
  | _ => none

-- No provider is registered, or the one there is is not configured.
def unset : Option Answer → Bool
  | none => true
  | some (.unconfigured _) => true
  | some (.returned _) => false

structure Keeps (s : Mail) (action : Action) : Prop where
  settled : ∀ pk m, s.messages pk = some m → m.status ≠ .pending →
    ∃ m', (step s action).messages pk = some m' ∧ m'.status = m.status
  blank : ∀ pk m, (step s action).messages pk = some m → (m.bodyText = none ↔ m.status ≠ .pending)
  -- a message is sent with its body, before the expiry it had when the pass began
  live : ∀ p pass pk loaded, sends s action = some (p,pass,pk,loaded) →
    loaded.bodyText.isSome ∧ (∀ m, s.messages pk = some m → m.bodyText.isSome) ∧ ∀ e, pass.begun pk = some e → pass.now < e
  uncounted : ∀ p now pk loaded provider draw rest begun m m', action = .record p → unset provider →
    s.passes p = some ⟨now,begun,.recording pk loaded (attempted loaded now provider draw) rest⟩ → s.messages pk = some m →
    (step s action).messages pk = some m' → m'.attempt = m.attempt

-- A pass loads and sends a message while it bears the deadline of its own claim, and
-- no expiry that had passed when it began has been put off since.
def Timely (s : Mail) : Action → Prop
  | .load p => ∀ now pk rest begun m, s.passes p = some ⟨now,begun,.attempting (pk :: rest)⟩ → s.messages pk = some m →
      m.nextAttemptAt = visibility now ∧ ∀ e, begun pk = some e → e ≤ now → m.expiresAt ≤ now
  | .send p provider draw => ∀ p' pass pk loaded m, sends s (.send p provider draw) = some (p',pass,pk,loaded) →
      s.messages pk = some m → m.nextAttemptAt = visibility pass.now
  | _ => True

def Phase.work : Phase → List Nat
  | .starting => []
  | .attempting rest => rest
  | .sending pk _ rest => pk :: rest
  | .recording pk _ _ rest => pk :: rest

def Phase.loaded : Phase → Option (Nat × OutboundMessage)
  | .sending pk loaded _ => some (pk,loaded)
  | .recording pk loaded _ _ => some (pk,loaded)
  | _ => none

-- Of the passes that hold a message one claimed it past the deadlines of the others;
-- a message that bears the deadline of a pass that holds it is pending.
structure Sound (s : Mail) : Prop where
  numbered : ∀ pk m, s.messages pk = some m → pk < s.nextMessage
  blank : ∀ pk m, s.messages pk = some m → (m.bodyText = none ↔ m.status ≠ .pending)
  present : ∀ p pass pk, s.passes p = some pass → pk ∈ pass.phase.work → pk < s.nextMessage
  nodup : ∀ p pass, s.passes p = some pass → pass.phase.work.Nodup
  stamped : ∀ p pass pk m, s.passes p = some pass → pk ∈ pass.phase.work → s.messages pk = some m →
    visibility pass.now ≤ m.nextAttemptAt
  apart : ∀ p q pass other pk, p ≠ q → s.passes p = some pass → s.passes q = some other → pk ∈ pass.phase.work →
    pk ∈ other.phase.work → visibility pass.now ≤ other.now ∨ visibility other.now ≤ pass.now
  owner : ∀ p pass pk m, s.passes p = some pass → pk ∈ pass.phase.work → s.messages pk = some m →
    m.nextAttemptAt = visibility pass.now → m.status = .pending
  loaded : ∀ p pass pk l, s.passes p = some pass → pass.phase.loaded = some (pk,l) →
    l.nextAttemptAt = visibility pass.now ∧ l.bodyText.isSome
  unexpired : ∀ p now begun pk l rest, s.passes p = some ⟨now,begun,.sending pk l rest⟩ →
    ∀ e, begun pk = some e → e ≤ now → l.expiresAt ≤ now
  later : ∀ p now begun pk l o rest, s.passes p = some ⟨now,begun,.recording pk l o rest⟩ →
    ∀ v, o.nextAttemptAt = some v → now ≤ v ∧ o.status = .pending

section soundness

variable {s : Mail} {p q pk : Nat} {now : Time} {begun : Nat → Option Time} {phase old : Phase} {m : OutboundMessage}

theorem visibility_later (now : Time) : now < visibility now := by
  exact Int.lt_add_of_pos_right now (by decide)

theorem goto_passes {pass : Pass} (here : (s.goto p now begun phase).passes q = some pass) :
    q = p ∧ pass = ⟨now,begun,phase⟩ ∨ q ≠ p ∧ s.passes q = some pass := by
  unfold Mail.goto at here
  dsimp only at here
  by_cases own : q = p
  · rw [own,Function.update_self] at here
    exact .inl ⟨own,(Option.some.inj here).symm⟩
  · rw [Function.update_of_ne own] at here
    exact .inr ⟨own,here⟩

theorem start_sound : Sound Mail.start := by
  have noMessage : ∀ pk m, Mail.start.messages pk ≠ some m := fun _ _ => nofun
  have noPass : ∀ p pass, Mail.start.passes p ≠ some pass := fun _ _ => nofun
  exact ⟨fun pk m row => absurd row (noMessage pk m),fun pk m row => absurd row (noMessage pk m),
    fun p pass _ here => absurd here (noPass p pass),fun p pass here => absurd here (noPass p pass),
    fun p pass _ _ here => absurd here (noPass p pass),fun p _ pass _ _ _ here => absurd here (noPass p pass),
    fun p pass _ _ here => absurd here (noPass p pass),fun p pass _ _ here => absurd here (noPass p pass),
    fun p _ _ _ _ _ here => absurd here (noPass p _),fun p _ _ _ _ _ _ here => absurd here (noPass p _)⟩

theorem goto_sound (sound : Sound s) (here : s.passes p = some ⟨now,begun,old⟩) (work : phase.work.Sublist old.work)
    (loaded : ∀ pk l, phase.loaded = some (pk,l) → l.nextAttemptAt = visibility now ∧ l.bodyText.isSome)
    (unexpired : ∀ pk l rest, phase = .sending pk l rest → ∀ e, begun pk = some e → e ≤ now → l.expiresAt ≤ now)
    (later : ∀ pk l o rest, phase = .recording pk l o rest → ∀ v, o.nextAttemptAt = some v → now ≤ v ∧ o.status = .pending) :
    Sound (s.goto p now begun phase) := by
  refine ⟨sound.numbered,sound.blank,?_,?_,?_,?_,?_,?_,?_,?_⟩
  · intro q pass pk there held
    rcases goto_passes there with ⟨_,rfl⟩ | ⟨_,still⟩
    · exact sound.present p ⟨now,begun,old⟩ pk here (work.subset held)
    · exact sound.present q pass pk still held
  · intro q pass there
    rcases goto_passes there with ⟨_,rfl⟩ | ⟨_,still⟩
    · exact (sound.nodup p ⟨now,begun,old⟩ here).sublist work
    · exact sound.nodup q pass still
  · intro q pass pk m there held row
    rcases goto_passes there with ⟨_,rfl⟩ | ⟨_,still⟩
    · exact sound.stamped p ⟨now,begun,old⟩ pk m here (work.subset held) row
    · exact sound.stamped q pass pk m still held row
  · intro a b pass other pk differ one two held held'
    rcases goto_passes one with ⟨is,rfl⟩ | ⟨_,first⟩
    · rcases goto_passes two with ⟨is',_⟩ | ⟨_,second⟩
      · exact absurd (is.trans is'.symm) differ
      · exact sound.apart p b ⟨now,begun,old⟩ other pk (is ▸ differ) here second (work.subset held) held'
    · rcases goto_passes two with ⟨is,rfl⟩ | ⟨_,second⟩
      · exact sound.apart a p pass ⟨now,begun,old⟩ pk (is ▸ differ) first here held (work.subset held')
      · exact sound.apart a b pass other pk differ first second held held'
  · intro q pass pk m there held row
    rcases goto_passes there with ⟨_,rfl⟩ | ⟨_,still⟩
    · exact sound.owner p ⟨now,begun,old⟩ pk m here (work.subset held) row
    · exact sound.owner q pass pk m still held row
  · intro q pass pk l there copy
    rcases goto_passes there with ⟨_,rfl⟩ | ⟨_,still⟩
    · exact loaded pk l copy
    · exact sound.loaded q pass pk l still copy
  · intro q now' begun' pk l rest there
    rcases goto_passes there with ⟨_,same⟩ | ⟨_,still⟩
    · cases same
      exact unexpired pk l rest rfl
    · exact sound.unexpired q now' begun' pk l rest still
  · intro q now' begun' pk l o rest there
    rcases goto_passes there with ⟨_,same⟩ | ⟨_,still⟩
    · cases same
      exact later pk l o rest rfl
    · exact sound.later q now' begun' pk l o rest still

theorem idle_sound {next : Mail} (sound : Sound s) (messages : next.messages = s.messages) (drawn : next.nextMessage = s.nextMessage)
    (passes : ∀ q pass, next.passes q = some pass → pass.phase = .starting ∨ s.passes q = some pass) : Sound next := by
  have held : ∀ q pass pk, next.passes q = some pass → pk ∈ pass.phase.work → s.passes q = some pass := by
    intro q pass pk there work
    refine (passes q pass there).resolve_left ?_
    intro starting
    rw [starting] at work
    cases work
  refine ⟨?_,?_,?_,?_,?_,?_,?_,?_,?_,?_⟩
  · rw [messages,drawn]
    exact sound.numbered
  · rw [messages]
    exact sound.blank
  · intro q pass pk there work
    rw [drawn]
    exact sound.present q pass pk (held q pass pk there work) work
  · intro q pass there
    rcases passes q pass there with starting | still
    · rw [starting]
      exact List.nodup_nil
    · exact sound.nodup q pass still
  · intro q pass pk m there work row
    rw [messages] at row
    exact sound.stamped q pass pk m (held q pass pk there work) work row
  · intro a b pass other pk differ first second work work'
    exact sound.apart a b pass other pk differ (held a pass pk first work) (held b other pk second work') work work'
  · intro q pass pk m there work row
    rw [messages] at row
    exact sound.owner q pass pk m (held q pass pk there work) work row
  · intro q pass pk l there copy
    rcases passes q pass there with starting | still
    · rw [starting] at copy
      cases copy
    · exact sound.loaded q pass pk l still copy
  · intro q now begun pk l rest there
    rcases passes q _ there with starting | still
    · cases starting
    · exact sound.unexpired q now begun pk l rest still
  · intro q now begun pk l o rest there
    rcases passes q _ there with starting | still
    · cases starting
    · exact sound.later q now begun pk l o rest still

theorem put_sound (sound : Sound s) (known : pk < s.nextMessage) (blank : m.bodyText = none ↔ m.status ≠ .pending)
    (stamped : ∀ p pass, s.passes p = some pass → pk ∈ pass.phase.work → visibility pass.now ≤ m.nextAttemptAt)
    (owner : ∀ p pass, s.passes p = some pass → pk ∈ pass.phase.work → m.nextAttemptAt = visibility pass.now →
      m.status = .pending) : Sound (s.put pk m) := by
  have rows : ∀ pk' m', (s.put pk m).messages pk' = some m' → pk' = pk ∧ m' = m ∨ s.messages pk' = some m' := by
    intro pk' m' row
    unfold Mail.put at row
    dsimp only at row
    by_cases own : pk' = pk
    · rw [own,Function.update_self] at row
      exact .inl ⟨own,(Option.some.inj row).symm⟩
    · rw [Function.update_of_ne own] at row
      exact .inr row
  refine ⟨?_,?_,sound.present,sound.nodup,?_,sound.apart,?_,sound.loaded,sound.unexpired,sound.later⟩
  · intro pk' m' row
    rcases rows pk' m' row with ⟨is,_⟩ | still
    · rw [is]
      exact known
    · exact sound.numbered pk' m' still
  · intro pk' m' row
    rcases rows pk' m' row with ⟨_,is⟩ | still
    · rw [is]
      exact blank
    · exact sound.blank pk' m' still
  · intro p pass pk' m' there held row
    rcases rows pk' m' row with ⟨is,is'⟩ | still
    · rw [is] at held
      rw [is']
      exact stamped p pass there held
    · exact sound.stamped p pass pk' m' there held still
  · intro p pass pk' m' there held row
    rcases rows pk' m' row with ⟨is,is'⟩ | still
    · rw [is] at held
      rw [is']
      exact owner p pass there held
    · exact sound.owner p pass pk' m' there held still

theorem enqueue_sound (sound : Sound s) (messageId : String) (tenant : TenantId)
    (kind toAddress subject bodyText : String) (expiresAt now : Time) :
    Sound (step s (.enqueue messageId tenant kind toAddress subject bodyText expiresAt now)) := by
  have unheld : ∀ p pass, s.passes p = some pass → s.nextMessage ∉ pass.phase.work := by
    intro p pass there held
    exact Nat.lt_irrefl _ (sound.present p pass _ there held)
  let grown : Mail := {s with nextMessage := s.nextMessage + 1}
  have grows : Sound grown :=
    ⟨fun pk m row => Nat.lt_succ_of_lt (sound.numbered pk m row),sound.blank,
      fun p pass pk there held => Nat.lt_succ_of_lt (sound.present p pass pk there held),sound.nodup,sound.stamped,
      sound.apart,sound.owner,sound.loaded,sound.unexpired,sound.later⟩
  exact put_sound grows (Nat.lt_succ_self s.nextMessage) (iff_of_false nofun (fun pending => pending rfl))
    (fun p pass there held => absurd held (unheld p pass there)) (fun p pass there held => absurd held (unheld p pass there))

theorem save_sound (sound : Sound s) (e : Nat) : Sound (step s (.save e)) := by
  unfold step
  dsimp only
  split
  · exact sound
  · next pk now _ =>
      split
      · exact sound
      · next m row =>
          have put : Sound (s.put pk {m with expiresAt := now}) :=
            put_sound sound (sound.numbered pk m row) (sound.blank pk m row)
              (fun p pass there held => sound.stamped p pass pk m there held row)
              (fun p pass there held => sound.owner p pass pk m there held row)
          exact ⟨put.numbered,put.blank,put.present,put.nodup,put.stamped,put.apart,put.owner,put.loaded,put.unexpired,
            put.later⟩

theorem due_spec (taken : pk ∈ s.claimed now batch locked) :
    pk < s.nextMessage ∧ ∃ m, s.messages pk = some m ∧ m.status = .pending ∧ m.nextAttemptAt ≤ now := by
  obtain ⟨listed,due⟩ := List.mem_filter.mp (List.mem_of_mem_take taken)
  rw [Bool.and_eq_true] at due
  obtain ⟨m,row,holds⟩ := (Option.any_eq_true ..).mp due.1
  rw [Bool.and_eq_true,decide_eq_true_eq,decide_eq_true_eq] at holds
  exact ⟨List.mem_range.mp listed,m,row,holds⟩

theorem stampAll_row {pks : List Nat} (row : (s.stampAll now pks).messages pk = some m) :
    ∃ old, s.messages pk = some old ∧ m.status = old.status ∧ m.bodyText = old.bodyText ∧
      (pk ∈ pks ∧ m.nextAttemptAt = visibility now ∨ pk ∉ pks ∧ m.nextAttemptAt = old.nextAttemptAt) := by
  unfold Mail.stampAll at row
  dsimp only at row
  by_cases taken : pk ∈ pks
  · rw [if_pos taken] at row
    obtain ⟨old,there,is⟩ := Option.map_eq_some_iff.mp row
    subst is
    exact ⟨old,there,rfl,rfl,.inl ⟨taken,rfl⟩⟩
  · rw [if_neg taken] at row
    exact ⟨m,row,rfl,rfl,.inr ⟨taken,rfl⟩⟩

theorem claim_sound (sound : Sound s) (p : Nat) (now : Time) (begun : Nat → Option Time) (batch : Nat) (locked : List Nat) :
    Sound ((s.stampAll now (s.claimed now batch locked)).goto p now begun (.attempting (s.claimed now batch locked))) := by
  let pks := s.claimed now batch locked
  have nodup : pks.Nodup := ((List.nodup_range).filter _).sublist (List.take_sublist ..)
  have lapsed : ∀ q pass pk, s.passes q = some pass → pk ∈ pass.phase.work → pk ∈ pks → visibility pass.now ≤ now := by
    intro q pass pk there held taken
    obtain ⟨_,m,row,_,due⟩ := due_spec taken
    exact Int.le_trans (sound.stamped q pass pk m there held row) due
  refine ⟨?_,?_,?_,?_,?_,?_,?_,?_,?_,?_⟩
  · intro pk m row
    obtain ⟨old,there,_⟩ := stampAll_row row
    exact sound.numbered pk old there
  · intro pk m row
    obtain ⟨old,there,status,body,_⟩ := stampAll_row row
    rw [status,body]
    exact sound.blank pk old there
  · intro q pass pk there held
    rcases goto_passes there with ⟨_,rfl⟩ | ⟨_,still⟩
    · exact (due_spec held).1
    · exact sound.present q pass pk still held
  · intro q pass there
    rcases goto_passes there with ⟨_,rfl⟩ | ⟨_,still⟩
    · exact nodup
    · exact sound.nodup q pass still
  · intro q pass pk m there held row
    obtain ⟨old,before,_,_,⟨taken,stamp⟩ | ⟨untaken,same⟩⟩ := stampAll_row row
    · rw [stamp]
      rcases goto_passes there with ⟨_,rfl⟩ | ⟨_,still⟩
      · exact Int.le_refl _
      · exact Int.le_of_lt (Int.lt_of_le_of_lt (lapsed q pass pk still held taken) (visibility_later now))
    · rw [same]
      rcases goto_passes there with ⟨_,rfl⟩ | ⟨_,still⟩
      · exact absurd held untaken
      · exact sound.stamped q pass pk old still held before
  · intro a b pass other pk differ one two held held'
    rcases goto_passes one with ⟨is,rfl⟩ | ⟨_,first⟩
    · rcases goto_passes two with ⟨is',_⟩ | ⟨_,second⟩
      · exact absurd (is.trans is'.symm) differ
      · exact .inr (lapsed b other pk second held' held)
    · rcases goto_passes two with ⟨is,rfl⟩ | ⟨_,second⟩
      · exact .inl (lapsed a pass pk first held held')
      · exact sound.apart a b pass other pk differ first second held held'
  · intro q pass pk m there held row stamp
    obtain ⟨old,before,status,_,⟨taken,_⟩ | ⟨untaken,same⟩⟩ := stampAll_row row
    · obtain ⟨_,m',row',pends,_⟩ := due_spec taken
      cases before.symm.trans row'
      exact status.trans pends
    · rcases goto_passes there with ⟨_,rfl⟩ | ⟨_,still⟩
      · exact absurd held untaken
      · exact status.trans (sound.owner q pass pk old still held before (same ▸ stamp))
  · intro q pass pk l there copy
    rcases goto_passes there with ⟨_,rfl⟩ | ⟨_,still⟩
    · cases copy
    · exact sound.loaded q pass pk l still copy
  · intro q now' begun' pk l rest there
    rcases goto_passes there with ⟨_,same⟩ | ⟨_,still⟩
    · cases same
    · exact sound.unexpired q now' begun' pk l rest still
  · intro q now' begun' pk l o rest there
    rcases goto_passes there with ⟨_,same⟩ | ⟨_,still⟩
    · cases same
    · exact sound.later q now' begun' pk l o rest still

theorem record_pending {l : OutboundMessage} {o : Outcome} {rest : List Nat} (sound : Sound s)
    (here : s.passes p = some ⟨now,begun,.recording pk l o rest⟩) (row : s.messages pk = some m)
    (guard : m.nextAttemptAt = l.nextAttemptAt) : m.nextAttemptAt = visibility now ∧ m.status = .pending := by
  have stamp := guard.trans (sound.loaded p _ pk l here rfl).1
  exact ⟨stamp,sound.owner p _ pk m here (List.mem_cons_self ..) row stamp⟩

theorem record_sound {l : OutboundMessage} {o : Outcome} {rest : List Nat} (sound : Sound s)
    (here : s.passes p = some ⟨now,begun,.recording pk l o rest⟩) :
    Sound ((s.record now pk l o).goto p now begun (.attempting rest)) := by
  have done : Sound (s.goto p now begun (.attempting rest)) :=
    goto_sound sound here (List.sublist_cons_self pk rest) (fun _ _ copy => nomatch copy)
      (fun _ _ _ same => nomatch same) (fun _ _ _ _ same => nomatch same)
  have notMine : pk ∉ rest := (List.nodup_cons.mp (sound.nodup p _ here)).1
  unfold Mail.record
  split
  · exact done
  · next m row =>
      split
      · next guard =>
          obtain ⟨stamp,pends⟩ := record_pending sound here row guard
          -- whoever else holds the message claimed it before, and is past its deadline
          have others : ∀ q pass, (s.goto p now begun (.attempting rest)).passes q = some pass → pk ∈ pass.phase.work →
              visibility pass.now ≤ now := by
            intro q pass there held
            rcases goto_passes there with ⟨_,rfl⟩ | ⟨differ,still⟩
            · exact absurd held notMine
            · rcases sound.apart q p pass _ pk differ still here held (List.mem_cons_self ..) with before | after
              · exact before
              · have bound := sound.stamped q pass pk m still held row
                rw [stamp] at bound
                exact absurd (Int.lt_of_le_of_lt after (visibility_later pass.now)) (Int.not_lt.mpr bound)
          have put : Sound ((s.goto p now begun (.attempting rest)).put pk (m.settle now o)) := by
            refine put_sound done (sound.numbered pk m row) ?_ ?_ ?_
            · unfold OutboundMessage.settle
              dsimp only
              split
              · next still =>
                  rw [still,sound.blank pk m row,pends]
              · next terminal => exact iff_of_true rfl terminal
            · intro q pass there held
              have past := others q pass there held
              unfold OutboundMessage.settle
              dsimp only
              cases next_ : o.nextAttemptAt with
              | none =>
                  rw [Option.getD_none,stamp]
                  exact Int.le_trans past (Int.le_of_lt (visibility_later now))
              | some v =>
                  rw [Option.getD_some]
                  exact Int.le_trans past (sound.later p now begun pk l o rest here v next_).1
            · intro q pass there held equal
              have past := others q pass there held
              unfold OutboundMessage.settle at equal ⊢
              dsimp only at equal ⊢
              cases next_ : o.nextAttemptAt with
              | none =>
                  rw [next_,Option.getD_none,stamp] at equal
                  exact absurd (Int.lt_of_le_of_lt past (visibility_later now)) (Int.not_lt.mpr (Int.le_of_eq equal))
              | some v => exact (sound.later p now begun pk l o rest here v next_).2
          exact put
      · exact done

theorem backoff_nonneg (attempt draw : Nat) : 0 ≤ backoff attempt draw := by
  unfold backoff
  have bound := Int.mul_nonneg (Int.natCast_nonneg (min (2^(attempt-1)) BACKOFF_CAP_SECONDS)) (show 0 ≤ second by decide)
  exact Int.le_min.mpr ⟨Int.natCast_nonneg draw,bound⟩

theorem attempted_later {l : OutboundMessage} {provider : Option Answer} {draw : Nat} {v : Time}
    (next : (attempted l now provider draw).nextAttemptAt = some v) :
    now ≤ v ∧ (attempted l now provider draw).status = .pending := by
  have recheck : now ≤ now + UNCONFIGURED_RECHECK := Int.le_add_of_nonneg_right (by decide)
  unfold attempted at next ⊢
  split at next
  · cases next
  · next live =>
      rw [if_neg live]
      cases provider with
      | none =>
          cases next
          exact ⟨recheck,rfl⟩
      | some answer =>
          cases answer with
          | unconfigured text =>
              cases next
              exact ⟨recheck,rfl⟩
          | returned result =>
              dsimp only at next ⊢
              split at next
              · cases next
              · next notOk =>
                  rw [if_neg notOk]
                  split at next
                  · cases next
                  · next notPermanent =>
                      rw [if_neg notPermanent]
                      cases next
                      exact ⟨Int.le_add_of_nonneg_right (backoff_nonneg _ _),rfl⟩

theorem step_sound (s : Mail) (action : Action) (sound : Sound s) (timely : Timely s action) : Sound (step s action) := by
  cases action with
  | enqueue messageId tenant kind toAddress subject bodyText expiresAt now => exact enqueue_sound sound ..
  | save e => exact save_sound sound e
  | look e pk now =>
      exact ⟨sound.numbered,sound.blank,sound.present,sound.nodup,sound.stamped,sound.apart,sound.owner,sound.loaded,
        sound.unexpired,sound.later⟩
  | start now =>
      refine idle_sound sound rfl rfl ?_
      intro q pass there
      rcases goto_passes there with ⟨_,is⟩ | ⟨_,still⟩
      · rw [is]
        exact .inl rfl
      · exact .inr still
  | crash p =>
      refine idle_sound sound rfl rfl ?_
      intro q pass there
      unfold step at there
      dsimp only at there
      by_cases own : q = p
      · rw [own,Function.update_self] at there
        cases there
      · rw [Function.update_of_ne own] at there
        exact .inr there
  | claim p batch locked =>
      unfold step
      dsimp only
      split
      · next now begun _ => exact claim_sound sound p now begun batch locked
      · exact sound
  | load p =>
      unfold step
      dsimp only
      split
      · next now begun pk rest here =>
          split
          · exact sound
          · next m row =>
              obtain ⟨stamp,live⟩ := timely now pk rest begun m here row
              have pends := sound.owner p _ pk m here (List.mem_cons_self ..) row stamp
              have bodied : m.bodyText.isSome := by
                rw [Option.isSome_iff_ne_none]
                exact fun blank => (sound.blank pk m row).mp blank pends
              refine goto_sound sound here (List.Sublist.refl _) ?_ ?_ (fun _ _ _ _ same => nomatch same)
              · intro pk' l copy
                cases copy
                exact ⟨stamp,bodied⟩
              · intro pk' l rest' same
                cases same
                exact live
      · exact sound
  | send p provider draw =>
      unfold step
      dsimp only
      split
      · next now begun pk loaded rest here =>
          refine goto_sound sound here (List.Sublist.refl _) ?_ (fun _ _ _ same => nomatch same) ?_
          · intro pk' l copy
            cases copy
            exact sound.loaded p _ pk loaded here rfl
          · intro pk' l o rest' same v next
            cases same
            exact attempted_later next
      · exact sound
  | record p =>
      unfold step
      dsimp only
      split
      · next now begun pk loaded o rest here => exact record_sound sound here
      · exact sound

theorem attempted_unset (loaded : OutboundMessage) (now : Time) (draw : Nat) {provider : Option Answer} (unset_ : unset provider) :
    (attempted loaded now provider draw).attempt = none := by
  unfold attempted
  split
  · rfl
  · cases provider with
    | none => rfl
    | some answer => cases answer with
      | unconfigured text => rfl
      | returned result => cases unset_

theorem settled_step (action : Action) (sound : Sound s) (row : s.messages pk = some m)
    (terminal : m.status ≠ .pending) : ∃ m', (step s action).messages pk = some m' ∧ m'.status = m.status := by
  cases action with
  | enqueue messageId tenant kind toAddress subject bodyText expiresAt now =>
      refine ⟨m,?_,rfl⟩
      exact (Function.update_of_ne (Nat.ne_of_lt (sound.numbered pk m row)) ..).trans row
  | start now => exact ⟨m,row,rfl⟩
  | crash p => exact ⟨m,row,rfl⟩
  | look e pk' now => exact ⟨m,row,rfl⟩
  | claim p batch locked =>
      unfold step
      dsimp only
      split
      · next now begun _ =>
          unfold Mail.goto Mail.stampAll
          dsimp only
          split
          · exact ⟨{m with nextAttemptAt := visibility now},by rw [row]; rfl,rfl⟩
          · exact ⟨m,row,rfl⟩
      · exact ⟨m,row,rfl⟩
  | load p =>
      unfold step
      dsimp only
      split
      · split
        · exact ⟨m,row,rfl⟩
        · exact ⟨m,row,rfl⟩
      · exact ⟨m,row,rfl⟩
  | send p provider draw =>
      unfold step
      dsimp only
      split
      · exact ⟨m,row,rfl⟩
      · exact ⟨m,row,rfl⟩
  | record p =>
      unfold step
      dsimp only
      split
      · next now begun pk' l o rest here =>
          unfold Mail.goto Mail.record
          dsimp only
          split
          · exact ⟨m,row,rfl⟩
          · next m' row' =>
              split
              · next guard =>
                  by_cases own : pk = pk'
                  · subst own
                    cases row.symm.trans row'
                    exact absurd (record_pending sound here row guard).2 terminal
                  · exact ⟨m,(Function.update_of_ne own ..).trans row,rfl⟩
              · exact ⟨m,row,rfl⟩
      · exact ⟨m,row,rfl⟩
  | save e =>
      unfold step
      dsimp only
      split
      · exact ⟨m,row,rfl⟩
      · next pk' now _ =>
          split
          · exact ⟨m,row,rfl⟩
          · next m' row' =>
              unfold Mail.put
              dsimp only
              by_cases own : pk = pk'
              · subst own
                cases row.symm.trans row'
                exact ⟨{m with expiresAt := now},Function.update_self ..,rfl⟩
              · exact ⟨m,(Function.update_of_ne own ..).trans row,rfl⟩

theorem sent_step {pass : Pass} {loaded : OutboundMessage} {action : Action} (sound : Sound s) (timely : Timely s action)
    (sent : sends s action = some (p,pass,pk,loaded)) :
    loaded.bodyText.isSome ∧ (∀ m, s.messages pk = some m → m.bodyText.isSome) ∧ ∀ e, pass.begun pk = some e → pass.now < e := by
  cases action with
  | send p' provider draw =>
      have current := timely p pass pk loaded
      cases provider with
      | none => cases sent
      | some answer =>
          have given := sent
          unfold sends at sent
          dsimp only at sent
          split at sent
          · next now begun pk' loaded' rest here =>
              split at sent
              · cases sent
              · next live =>
                  cases sent
                  refine ⟨(sound.loaded p _ pk loaded here rfl).2,?_,?_⟩
                  · intro m row
                    have pends := sound.owner p _ pk m here (List.mem_cons_self ..) row (current m given row)
                    rw [Option.isSome_iff_ne_none]
                    exact fun blank => (sound.blank pk m row).mp blank pends
                  · intro e first
                    by_contra early
                    exact live (sound.unexpired p now begun pk loaded rest here e first (Int.not_lt.mp early))
          · cases sent
  | _ => cases sent

theorem uncounted_step {provider : Option Answer} {draw : Nat} {rest : List Nat} {loaded m' : OutboundMessage} (is : unset provider)
    (here : s.passes p = some ⟨now,begun,.recording pk loaded (attempted loaded now provider draw) rest⟩)
    (row : s.messages pk = some m) (after : (step s (.record p)).messages pk = some m') : m'.attempt = m.attempt := by
  have uncounted := attempted_unset loaded now draw is
  unfold step at after
  dsimp only at after
  rw [here] at after
  unfold Mail.goto Mail.record at after
  dsimp only at after
  rw [row] at after
  dsimp only at after
  split at after
  · have new := (Function.update_self ..).symm.trans after
    cases new
    unfold OutboundMessage.settle
    rw [uncounted]
    rfl
  · rw [row] at after
    cases after
    rfl

theorem keeps_step (s : Mail) (action : Action) (sound : Sound s) (timely : Timely s action) : Keeps s action := by
  refine ⟨fun _ _ => settled_step action sound,(step_sound s action sound timely).blank,fun _ _ _ _ => sent_step sound timely,?_⟩
  intro p now pk loaded provider draw rest begun m m' is unset here row after
  subst is
  exact uncounted_step unset here row after

end soundness

theorem mail_drain_keeps (actions : List Action) (timely : Runs.Along step Timely Mail.start actions) :
    Runs.Along step Keeps Mail.start actions :=
  Runs.along_keeps step step_sound keeps_step start_sound timely

def enqueueCode (messageId : String) : Action :=
  .enqueue messageId 1 "claim.verification_code" "ana@example.com" "Your code" "123456" (1800*second) 0

def answers (p : Nat) (status : ResultStatus) : Action := .send p (some (.returned (.ok {status := status}))) 0

-- A send outlasts its deadline, another pass sends the message again and records it.
def slowSend : List Action :=
  [enqueueCode "msg_1",.start 0,.claim 0 25 [],.load 0,answers 0 .retry,.start (90*second),.claim 1 25 [],.load 1,
    answers 1 .ok,.record 1,.record 0]

theorem mail_drain_keeps_slow : Runs.Along step Keeps Mail.start slowSend := by
  apply mail_drain_keeps
  refine ⟨trivial,trivial,trivial,?_,?_,trivial,trivial,?_,?_,trivial,trivial,trivial⟩
  · intro now pk rest begun m here row
    cases here
    cases row
    refine ⟨rfl,?_⟩
    intro e first passed
    cases first
    exact absurd passed (by decide)
  · intro p pass pk loaded m sent row
    cases sent
    cases row
    rfl
  · intro now pk rest begun m here row
    cases here
    cases row
    refine ⟨rfl,?_⟩
    intro e first passed
    cases first
    exact absurd passed (by decide)
  · intro p pass pk loaded m sent row
    cases sent
    cases row
    rfl

-- One pass is slow at its first message while another claims the second again and
-- sends it; the first then loads the second as the other left it.
def overtaken : List Action :=
  [enqueueCode "msg_1",enqueueCode "msg_2",.start 0,.claim 0 25 [],.load 0,answers 0 .ok,.record 0,
    .start (90*second),.claim 1 25 [],.load 1,answers 1 .ok,.record 1,.load 0]

theorem blank_mail_sent :
    ((Runs.run step Mail.start overtaken).messages 1).map (fun m => (m.status,m.bodyText)) = some (.sent,none) ∧
    ((sends (Runs.run step Mail.start overtaken) (answers 0 .retry)).map fun sent => (sent.2.2.1,sent.2.2.2.bodyText)) =
      some (1,none) ∧
    ((Runs.run step Mail.start (overtaken ++ [answers 0 .retry,.record 0])).messages 1).map (·.status) = some .pending ∧
    ¬Runs.Along step Keeps Mail.start (overtaken ++ [answers 0 .retry,.record 0]) := by
  have blank : ((sends (Runs.run step Mail.start overtaken) (answers 0 .retry)).map
      fun sent => (sent.2.2.1,sent.2.2.2.bodyText)) = some (1,none) := by decide +kernel
  refine ⟨by decide +kernel,blank,by decide +kernel,?_⟩
  intro all
  have here := ((Runs.along_append step Mail.start overtaken _).mp all).2.1
  obtain ⟨⟨p,pass,pk,loaded⟩,sent,is⟩ := Option.map_eq_some_iff.mp blank
  have bodied := (here.live p pass pk loaded sent).1
  rw [(Prod.mk.inj is).2] at bodied
  cases bodied

end Osds.Audit.MailDrain

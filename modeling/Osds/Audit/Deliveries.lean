import Osds.Audit.Wire
import Mathlib.Algebra.Group.Nat.Defs
import Mathlib.Logic.Function.Basic

namespace Osds.Audit
open Directory

inductive EventStatus where
  | pending | dispatched
  deriving DecidableEq, Repr

structure OutboxEntry extends OutboxRow where
  status : EventStatus
  dispatchedAt : Option Time
  payloadNulledAt : Option Time

inductive DeliveryStatus where
  | pending | delivered | dead
  deriving DecidableEq, Repr

structure OutboxDelivery where
  event : Nat
  tenant : Option TenantId
  subject : String
  adapterId : String
  status : DeliveryStatus
  attempt : Nat
  nextAttemptAt : Time
  firstAttemptedAt : Option Time
  lastAttemptedAt : Option Time
  lastError : String
  deliveredAt : Option Time
  deriving DecidableEq, Repr

structure Outbox where
  events : Nat → Option OutboxEntry
  nextEvent : Nat
  deliveries : Nat → Option OutboxDelivery
  nextDelivery : Nat

def second : Time := 1000000

def MAX_ATTEMPTS : Nat := 12
def BACKOFF_CAP_SECONDS : Nat := 3600
def CLAIM_VISIBILITY_SECONDS : Nat := 90
def FAN_OUT_CAP : Nat := 1000

-- The deadline a claim made at `now` stamps.
def visibility (now : Time) : Time := now + CLAIM_VISIBILITY_SECONDS * second

-- A registered adapter: whether one of its patterns matches a type, and its
-- filter of type and own configuration, which may raise.
structure Subscriber where
  id : String
  subscribes : EventType → Bool
  wants : Option (EventType → Option Json → Except String Bool)

def subscribersFor (registry : List Subscriber) (type : EventType) : List Subscriber :=
  registry.filter (·.subscribes type)

def deliveryTenant (e : OutboxEntry) : Option TenantId := if tenantPrefix e.type then none else some e.tenant

def wants (config : TenantId → String → Json) (subscriber : Subscriber) (e : OutboxEntry) : Bool :=
  match subscriber.wants with
  | none => true
  | some filter =>
      match filter e.type ((deliveryTenant e).map fun tenant => config tenant subscriber.id) with
      | .ok answer => answer
      | .error _ => true

def wanting (registry : List Subscriber) (config : TenantId → String → Json) (e : OutboxEntry) : List String :=
  ((subscribersFor registry e.type).filter (wants config · e)).map (·.id)

section outbox

variable (box : Outbox) (now : Time)

def Outbox.ids : List Nat := List.range box.nextDelivery

def Outbox.exists (p : OutboxDelivery → Bool) : Bool := box.ids.any fun pk => (box.deliveries pk).any p

def Outbox.insert (d : OutboxDelivery) : Outbox :=
  {box with deliveries := Function.update box.deliveries box.nextDelivery (some d),
            nextDelivery := box.nextDelivery + 1}

def Outbox.put (pk : Nat) (d : OutboxDelivery) : Outbox :=
  {box with deliveries := Function.update box.deliveries pk (some d)}

def Outbox.putEvent (pk : Nat) (e : OutboxEntry) : Outbox :=
  {box with events := Function.update box.events pk (some e)}

def Outbox.emit (e : OutboxRow) : Outbox :=
  {box with events := Function.update box.events box.nextEvent (some {e with
              status := .pending,dispatchedAt := none,payloadNulledAt := none}),
            nextEvent := box.nextEvent + 1}

def freshDelivery (event : Nat) (e : OutboxEntry) (adapterId : String) : OutboxDelivery where
  event := event
  tenant := deliveryTenant e
  subject := e.subject
  adapterId := adapterId
  status := .pending
  attempt := 0
  nextAttemptAt := now
  firstAttemptedAt := none
  lastAttemptedAt := none
  lastError := ""
  deliveredAt := none

def getOrCreate (event : Nat) (e : OutboxEntry) (adapterId : String) : Outbox :=
  if box.exists fun d => d.event = event && d.adapterId = adapterId then box
  else box.insert (freshDelivery now event e adapterId)

def createAll (event : Nat) (e : OutboxEntry) : List String → Outbox → Outbox
  | [],box => box
  | adapterId :: rest,box => createAll event e rest (getOrCreate box now event e adapterId)

def fanOut (registry : List Subscriber) (config : TenantId → String → Json) (pk : Nat) : Outbox :=
  match box.events pk with
  | none => box
  | some e =>
      if e.status = .pending then
        (createAll now pk e (wanting registry config e) box).putEvent pk
          {e with status := .dispatched,dispatchedAt := some now}
      else box

def pendingEvents : List Nat :=
  ((List.range box.nextEvent).filter fun pk => (box.events pk).any (·.status = .pending)).take FAN_OUT_CAP

def earlierPending (pk : Nat) (d : OutboxDelivery) : Bool :=
  (List.range pk).any fun earlier =>
    (box.deliveries earlier).any fun other =>
      other.adapterId = d.adapterId && other.subject = d.subject && other.status = .pending

def claimable (pk : Nat) : Bool :=
  (box.deliveries pk).any fun d =>
    d.status = .pending && d.nextAttemptAt ≤ now && !earlierPending box pk d

-- The rows other transactions have locked are skipped.
def claimed (batch : Nat) (locked : List Nat) : List Nat :=
  (box.ids.filter fun pk => claimable box now pk && pk ∉ locked).take batch

def stampAll (pks : List Nat) : Outbox :=
  {box with deliveries := fun pk =>
    if pk ∈ pks then (box.deliveries pk).map fun d => {d with nextAttemptAt := visibility now}
    else box.deliveries pk}

-- What one attempt writes; what it leaves alone is `none`.
structure Outcome where
  status : DeliveryStatus
  attempt : Option Nat
  nextAttemptAt : Option Time
  error : String
  deriving DecidableEq, Repr

def OutboxDelivery.settle (d : OutboxDelivery) (o : Outcome) : OutboxDelivery :=
  {d with
    status := o.status
    attempt := o.attempt.getD d.attempt
    nextAttemptAt := o.nextAttemptAt.getD d.nextAttemptAt
    firstAttemptedAt := d.firstAttemptedAt.orElse fun _ => some now
    lastAttemptedAt := some now
    lastError := o.error
    deliveredAt := if o.status = .delivered then some now else d.deliveredAt}

-- `loaded` is the row as the attempt read it.
def record (pk : Nat) (loaded : OutboxDelivery) (o : Outcome) : Outbox × Bool :=
  match box.deliveries pk with
  | none => (box,false)
  | some d =>
      if d.nextAttemptAt = loaded.nextAttemptAt then (box.put pk (d.settle now o),true)
      else (box,false)

end outbox

section rows

variable {box : Outbox} {now : Time} {pk : Nat} {d : OutboxDelivery}

structure Grows (a b : Outbox) : Prop where
  next : a.nextDelivery ≤ b.nextDelivery
  kept : ∀ pk, pk < a.nextDelivery → b.deliveries pk = a.deliveries pk

theorem grows_refl (a : Outbox) : Grows a a := ⟨Nat.le_refl _,fun _ _ => rfl⟩

theorem grows_trans (first : Grows a b) (later : Grows b c) : Grows a c := by
  refine ⟨Nat.le_trans first.next later.next,?_⟩
  intro pk below
  rw [later.kept pk (Nat.lt_of_lt_of_le below first.next),first.kept pk below]

def Numbered (box : Outbox) : Prop := ∀ pk d, box.deliveries pk = some d → pk < box.nextDelivery

theorem exists_exact (numbered : Numbered box) (p : OutboxDelivery → Bool) :
    box.exists p = true ↔ ∃ pk d, box.deliveries pk = some d ∧ p d = true := by
  unfold Outbox.exists Outbox.ids
  rw [List.any_eq_true]
  constructor
  · intro found
    obtain ⟨pk,_,holds⟩ := found
    obtain ⟨d,row,good⟩ := (Option.any_eq_true ..).mp holds
    exact ⟨pk,d,row,good⟩
  · intro found
    obtain ⟨pk,d,row,good⟩ := found
    refine ⟨pk,List.mem_range.mpr (numbered pk d row),?_⟩
    rw [row]
    exact good

theorem insert_grows (d : OutboxDelivery) : Grows box (box.insert d) := by
  refine ⟨Nat.le_succ _,?_⟩
  intro pk below
  exact Function.update_of_ne (Nat.ne_of_lt below) ..

theorem insert_numbered (numbered : Numbered box) (d : OutboxDelivery) : Numbered (box.insert d) := by
  intro pk other row
  by_cases new : pk = box.nextDelivery
  · rw [new]
    exact Nat.lt_succ_self _
  · have old : box.deliveries pk = some other := by
      rw [← row]
      exact (Function.update_of_ne new ..).symm
    exact Nat.lt_succ_of_lt (numbered pk other old)

theorem getOrCreate_grows : Grows box (getOrCreate box now event e adapterId) := by
  unfold getOrCreate
  split
  · exact grows_refl box
  · exact insert_grows _

theorem getOrCreate_numbered (numbered : Numbered box) : Numbered (getOrCreate box now event e adapterId) := by
  unfold getOrCreate
  split
  · exact numbered
  · exact insert_numbered numbered _

theorem createAll_grows (adapters : List String) : Grows box (createAll now event e adapters box) := by
  induction adapters generalizing box with
  | nil => exact grows_refl box
  | cons adapterId rest ih => exact grows_trans getOrCreate_grows ih

theorem createAll_numbered (numbered : Numbered box) (adapters : List String) :
    Numbered (createAll now event e adapters box) := by
  induction adapters generalizing box with
  | nil => exact numbered
  | cons adapterId rest ih => exact ih (getOrCreate_numbered numbered)

theorem fanOut_grows : Grows box (fanOut box now registry config event) := by
  unfold fanOut
  split
  · exact grows_refl box
  · split
    · next e _ _ =>
        have grown := @createAll_grows box now event e (wanting registry config e)
        exact ⟨grown.next,grown.kept⟩
    · exact grows_refl box

theorem fanOut_numbered (numbered : Numbered box) : Numbered (fanOut box now registry config event) := by
  unfold fanOut
  split
  · exact numbered
  · split
    · exact createAll_numbered numbered _
    · exact numbered

def OnePer (box : Outbox) : Prop := ∀ pk other d d', box.deliveries pk = some d → box.deliveries other = some d' →
  d.event = d'.event → d.adapterId = d'.adapterId → pk = other

def Delivers (box : Outbox) (event : Nat) (adapterId : String) : Prop :=
  ∃ pk d, box.deliveries pk = some d ∧ d.event = event ∧ d.adapterId = adapterId

theorem insert_origin (row : (box.insert new).deliveries pk = some d) :
    box.deliveries pk = some d ∨ pk = box.nextDelivery ∧ d = new := by
  by_cases own : pk = box.nextDelivery
  · rw [own] at row
    exact .inr ⟨own,(Option.some.inj (row.symm.trans (Function.update_self ..)))⟩
  · exact .inl ((Function.update_of_ne own ..).symm.trans row)

theorem getOrCreate_origin (row : (getOrCreate box now event e adapterId).deliveries pk = some d) :
    box.deliveries pk = some d ∨ box.nextDelivery ≤ pk ∧ d = freshDelivery now event e adapterId := by
  unfold getOrCreate at row
  split at row
  · exact .inl row
  · rcases insert_origin row with old | ⟨own,same⟩
    · exact .inl old
    · exact .inr ⟨Nat.le_of_eq own.symm,same⟩

theorem getOrCreate_delivers (numbered : Numbered box) :
    Delivers (getOrCreate box now event e adapterId) event adapterId := by
  unfold getOrCreate
  split
  · next found =>
      obtain ⟨pk,d,row,same⟩ := (exists_exact numbered _).mp found
      rw [Bool.and_eq_true,decide_eq_true_eq,decide_eq_true_eq] at same
      exact ⟨pk,d,row,same⟩
  · exact ⟨box.nextDelivery,freshDelivery now event e adapterId,Function.update_self ..,rfl,rfl⟩

theorem getOrCreate_onePer (numbered : Numbered box) (one : OnePer box) :
    OnePer (getOrCreate box now event e adapterId) := by
  unfold getOrCreate
  split
  · exact one
  · next missing =>
      have none_ : ∀ pk d, box.deliveries pk = some d → d.event = event → d.adapterId ≠ adapterId := by
        intro pk d row same adapter
        refine missing ((exists_exact numbered _).mpr ⟨pk,d,row,?_⟩)
        simp [same,adapter]
      intro pk other d d' row row' sameEvent sameAdapter
      rcases insert_origin row with old | ⟨own,new⟩
      · rcases insert_origin row' with old' | ⟨_,new'⟩
        · exact one pk other d d' old old' sameEvent sameAdapter
        · rw [new'] at sameEvent sameAdapter
          exact absurd sameAdapter (none_ pk d old sameEvent)
      · rcases insert_origin row' with old' | ⟨own',_⟩
        · rw [new] at sameEvent sameAdapter
          exact absurd sameAdapter.symm (none_ other d' old' sameEvent.symm)
        · rw [own,own']

theorem createAll_origin (adapters : List String)
    (row : (createAll now event e adapters box).deliveries pk = some d) :
    box.deliveries pk = some d ∨
      box.nextDelivery ≤ pk ∧ ∃ adapterId ∈ adapters, d = freshDelivery now event e adapterId := by
  induction adapters generalizing box with
  | nil => exact .inl row
  | cons adapterId rest ih =>
      rcases ih row with before | ⟨drawn,adapter,member,same⟩
      · rcases getOrCreate_origin before with old | ⟨drawn,same⟩
        · exact .inl old
        · exact .inr ⟨drawn,adapterId,List.mem_cons_self ..,same⟩
      · have grown : Grows box (getOrCreate box now event e adapterId) := getOrCreate_grows
        exact .inr ⟨Nat.le_trans grown.next drawn,adapter,List.mem_cons_of_mem _ member,same⟩

theorem delivers_grows (numbered : Numbered a) (grown : Grows a b) (held : Delivers a event adapterId) :
    Delivers b event adapterId := by
  obtain ⟨pk,d,row,same⟩ := held
  exact ⟨pk,d,(grown.kept pk (numbered pk d row)).trans row,same⟩

theorem createAll_delivers (numbered : Numbered box) (adapters : List String) (member : adapterId ∈ adapters) :
    Delivers (createAll now event e adapters box) event adapterId := by
  induction adapters generalizing box with
  | nil => cases member
  | cons first rest ih =>
      have created := @getOrCreate_numbered box now event e first numbered
      rcases List.mem_cons.mp member with rfl | later
      · exact delivers_grows created (createAll_grows rest) (getOrCreate_delivers numbered)
      · exact ih created later

theorem createAll_onePer (numbered : Numbered box) (one : OnePer box) (adapters : List String) :
    OnePer (createAll now event e adapters box) := by
  induction adapters generalizing box with
  | nil => exact one
  | cons adapterId rest ih => exact ih (getOrCreate_numbered numbered) (getOrCreate_onePer numbered one)

theorem createAll_events (adapters : List String) : (createAll now event e adapters box).events = box.events ∧
    (createAll now event e adapters box).nextEvent = box.nextEvent := by
  induction adapters generalizing box with
  | nil => exact ⟨rfl,rfl⟩
  | cons adapterId rest ih =>
      have same : (getOrCreate box now event e adapterId).events = box.events ∧
          (getOrCreate box now event e adapterId).nextEvent = box.nextEvent := by
        unfold getOrCreate
        split <;> exact ⟨rfl,rfl⟩
      have later := @ih (getOrCreate box now event e adapterId)
      exact ⟨later.1.trans same.1,later.2.trans same.2⟩

theorem stampAll_some (present : pk ∈ pks) (row : box.deliveries pk = some d) :
    (stampAll box now pks).deliveries pk = some {d with nextAttemptAt := visibility now} := by
  simp [stampAll,present,row]

theorem stampAll_other (absent : pk ∉ pks) : (stampAll box now pks).deliveries pk = box.deliveries pk := by
  simp [stampAll,absent]

theorem claimable_exact : claimable box now pk = true ↔ ∃ d, box.deliveries pk = some d ∧ d.status = .pending ∧
    d.nextAttemptAt ≤ now ∧ ∀ earlier < pk, ∀ other, box.deliveries earlier = some other →
      other.adapterId = d.adapterId → other.subject = d.subject → other.status ≠ .pending := by
  unfold claimable
  rw [Option.any_eq_true]
  apply exists_congr
  intro d
  apply and_congr_right
  intro _
  have blocked : earlierPending box pk d = false ↔ ∀ earlier < pk, ∀ other, box.deliveries earlier = some other →
      other.adapterId = d.adapterId → other.subject = d.subject → other.status ≠ .pending := by
    simp [earlierPending,Option.any_eq_false]
  rw [Bool.and_eq_true,Bool.and_eq_true,Bool.not_eq_true',decide_eq_true_eq,decide_eq_true_eq,blocked,and_assoc]

theorem claimed_claimable (taken : pk ∈ claimed box now batch locked) : claimable box now pk = true := by
  have listed := List.mem_of_mem_take taken
  rw [List.mem_filter,Bool.and_eq_true] at listed
  exact listed.2.1

theorem claimed_nodup : (claimed box now batch locked).Nodup :=
  ((List.nodup_range).filter _).sublist (List.take_sublist ..)

theorem record_applied (row : box.deliveries pk = some d) (guard : d.nextAttemptAt = loaded.nextAttemptAt) :
    record box now pk loaded o = (box.put pk (d.settle now o),true) := by
  simp [record,row,guard]

theorem record_discarded (stale : ∀ d, box.deliveries pk = some d → d.nextAttemptAt ≠ loaded.nextAttemptAt) :
    record box now pk loaded o = (box,false) := by
  unfold record
  split
  · rfl
  · next d row => rw [if_neg (stale d row)]

end rows

inductive ResultStatus where
  | ok | skipped | retry | failed
  deriving DecidableEq, Repr

def ResultStatus.value : ResultStatus → String
  | .ok => "ok"
  | .skipped => "skipped"
  | .retry => "retry"
  | .failed => "failed"

structure Result where
  status : ResultStatus
  reason : String := ""
  retryAfterMs : Option Int := none
  permanent : Bool := false
  deriving DecidableEq, Repr

-- What comes of a call of a handler: a result, or the class of what it raised.
def answered : Except String Result → Result
  | .ok result => result
  | .error class_ => {status := .failed,reason := class_}

def backoff (attempt draw : Nat) : Time :=
  min draw (min (2^(attempt-1)) BACKOFF_CAP_SECONDS * second)

def retryDelay (attempt draw : Nat) (retryAfterMs : Option Int) : Time :=
  match retryAfterMs with
  | some ms => if ms = 0 then backoff attempt draw
      else min (max (backoff attempt draw) (ms * 1000)) (BACKOFF_CAP_SECONDS * second)
  | none => backoff attempt draw

def handled (result : Result) : Bool := result.status = .ok || result.status = .skipped

def subscriberFor (registry : List Subscriber) (type : EventType) (adapterId : String) : Option Subscriber :=
  (subscribersFor registry type).find? (·.id = adapterId)

def outcome (loaded : OutboxDelivery) (now : Time) (draw : Nat) (result : Result) : Outcome :=
  let completed := loaded.attempt + 1
  let reason := if result.reason = "" then result.status.value else result.reason
  if handled result then ⟨.delivered,some completed,none,""⟩
  else if result.status = .failed && result.permanent || MAX_ATTEMPTS ≤ completed then
    ⟨.dead,some completed,none,reason⟩
  else ⟨.pending,some completed,some (now + retryDelay completed draw result.retryAfterMs),reason⟩

def unregistered : Outcome := ⟨.dead,none,none,"subscriber not registered"⟩

inductive ReplayRefused where
  | forbidden | notFound | notDead | payloadNulled
  deriving DecidableEq, Repr

def REPLAY_ROLE : Int := 4

def Outbox.first (box : Outbox) (p : OutboxDelivery → Bool) : Option Nat :=
  box.ids.find? fun pk => (box.deliveries pk).any p

def OutboxDelivery.requeued (d : OutboxDelivery) (now : Time) : OutboxDelivery :=
  {d with status := .pending,attempt := 0,nextAttemptAt := now,lastError := "",deliveredAt := none}

def eventNamed (box : Outbox) (eventId : String) (d : OutboxDelivery) : Bool :=
  (box.events d.event).any (·.eventId = eventId)

def applyReplay (box : Outbox) (tenant : TenantId) (adapterId eventId : String) (role : Int) (now : Time) :
    Except ReplayRefused (Nat × OutboxDelivery) :=
  if role < REPLAY_ROLE then .error .forbidden
  else
    match box.first fun d => d.tenant = some tenant && d.adapterId = adapterId && eventNamed box eventId d with
    | none => .error .notFound
    | some pk =>
        match box.deliveries pk with
        | none => .error .notFound
        | some d =>
            if d.status ≠ .dead then .error .notDead
            else if (box.events d.event).any (·.payloadNulledAt.isSome) then .error .payloadNulled
            else .ok (pk,d.requeued now)

theorem applyReplay_exact {box : Outbox}
    (accepted : applyReplay box tenant adapterId eventId role now = .ok (pk,d')) :
    ∃ d, box.deliveries pk = some d ∧ d.status = .dead ∧ d' = d.requeued now := by
  unfold applyReplay at accepted
  split at accepted
  · cases accepted
  · split at accepted
    · cases accepted
    · split at accepted
      · cases accepted
      · next row =>
          split at accepted
          · cases accepted
          · next dead =>
              split at accepted
              · cases accepted
              · cases accepted
                exact ⟨_,row,Decidable.not_not.mp dead,rfl⟩

theorem outcome_attempt (loaded : OutboxDelivery) (now : Time) (draw : Nat) (result : Result) :
    (outcome loaded now draw result).attempt = some (loaded.attempt + 1) := by
  unfold outcome
  dsimp only
  split
  · rfl
  · split <;> rfl

theorem outcome_delivered (delivered : (outcome loaded now draw result).status = .delivered) :
    handled result = true := by
  unfold outcome at delivered
  dsimp only at delivered
  split at delivered
  · assumption
  · split at delivered <;> cases delivered

end Osds.Audit

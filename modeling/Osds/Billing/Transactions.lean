import Osds.Billing.Delivery

namespace Osds.Billing
open Directory Audit

structure Call where
  publicId : ListingId
  trigger : Trigger
  now : Time
  actor : Actor
  origin : String
  params : Params
  deriving DecidableEq

inductive Job where
  | report (d : Delivery)
  | call (c : Call)

-- Where a job stands, with what it has read so far. A report's transaction is
-- open from `reserved` to `seen`.
inductive Pc where
  | waiting
  -- found no row of the command log; then no receipt, and is logged as received
  | looked
  | received
  -- has inserted its receipt
  | reserved
  | resolved (publicId : ListingId) (attempt : Option (AttemptId × CheckoutAttempt))
  | mapped (c : Call) (attempt : Option (AttemptId × CheckoutAttempt)) (data : Payload)
  -- has read the entitlement for update, and holds its lock if there is one
  | seen (c : Call) (attempt : Option (AttemptId × CheckoutAttempt)) (data : Payload) (row : Option EntitlementRow)
  | committed
  | refused (reason : Refusal) (attempt : Option AttemptId)
  | ended (answer : Answer)
  -- the same of a call
  | calling (row : Option EntitlementRow)
  | called (result : Except Failure Unit)

-- The committed tables, the jobs, the locks on entitlement rows, and the receipts
-- inserted but not committed. A statement reads what is committed when it runs.
structure Sys (ι : Type) where
  store : Store
  pcs : ι → Pc
  locks : ListingId → Option ι
  reserved : Event → Option ι

-- The rest of `apply_trigger`, under the listing's lock: it creates the row it
-- did not see, unless one was committed since.
def applySeen (cfg : Config) (s : Store) (c : Call) (seen : Option EntitlementRow) : Except Failure Moved :=
  match s.listings c.publicId with
  | none => .error .doesNotExist
  | some l => do
      let row ← openRow seen (s.entitlements c.publicId).isSome c.trigger c.params
      advance (cfg.tiers l.tenant) (cfg.entitlementId c.publicId) c.publicId row l c.trigger c.now c.actor c.origin
        c.params

theorem applySeen_alone (cfg : Config) (s : Store) (c : Call) :
    applyTrigger cfg s c.publicId c.trigger c.now c.actor c.origin c.params =
      (applySeen cfg s c (s.entitlements c.publicId)).map (fun m => (s.commit c.publicId m,m)) := by
  unfold applyTrigger applySeen
  cases s.listings c.publicId with
  | none => rfl
  | some l =>
      dsimp only
      have opened : openRow (s.entitlements c.publicId) (s.entitlements c.publicId).isSome c.trigger c.params =
          openRow (s.entitlements c.publicId) false c.trigger c.params := by
        cases s.entitlements c.publicId <;> rfl
      rw [opened]
      cases openRow (s.entitlements c.publicId) false c.trigger c.params with
      | error f => rfl
      | ok row =>
          dsimp only [bind,Except.bind]
          cases advance (cfg.tiers l.tenant) (cfg.entitlementId c.publicId) c.publicId row l c.trigger c.now c.actor
              c.origin c.params with
          | error f => rfl
          | ok m => rfl

section sys

variable {ι : Type} [DecidableEq ι]

def Sys.goto (σ : Sys ι) (i : ι) (pc : Pc) : Sys ι := {σ with pcs := Function.update σ.pcs i pc}

def Sys.write (σ : Sys ι) (s : Store) : Sys ι := {σ with store := s}

def Sys.release (σ : Sys ι) (publicId : ListingId) (seen : Option EntitlementRow) : Sys ι :=
  if seen.isSome then {σ with locks := Function.update σ.locks publicId none} else σ

def Sys.unreserve (σ : Sys ι) (event : Event) : Sys ι :=
  {σ with reserved := Function.update σ.reserved event none}

-- `select_for_update` on the listing's entitlement: it waits for the holder, and
-- locks nothing when there is no row.
def Sys.lock (σ : Sys ι) (i : ι) (publicId : ListingId) : Option (Sys ι × Option EntitlementRow) :=
  if (σ.locks publicId).isSome then none
  else match σ.store.entitlements publicId with
    | none => some (σ,none)
    | some row => some ({σ with locks := Function.update σ.locks publicId (some i)},some row)

def concludeReported (cfg : Config) (σ : Sys ι) (i : ι) (d : Delivery) (c : Call)
    (attempt : Option (AttemptId × CheckoutAttempt)) (data : Payload) (row : Option EntitlementRow) : Sys ι :=
  let freed := (σ.release c.publicId row).unreserve d.event
  let key := reportKey d.adapter d.report
  match applySeen cfg σ.store c row with
  | .ok m =>
      (freed.write (concludeReport (σ.store.commit c.publicId m) d.tenant d.adapter d.report d.now c.publicId
        attempt c.trigger data)).goto i .committed
  | .error f =>
      match finishedOnRefusal (attempt.map (·.1)) d.report.kind f with
      | some (.refused reason finished) => freed.goto i (.refused reason finished)
      | _ =>
          if f = .integrityError then
            (freed.write (σ.store.logged d.tenant key (some .applied) true)).goto i (.ended .replayed)
          else (freed.write (σ.store.logged d.tenant key none false)).goto i (.ended (.raised f))

def reportMove (cfg : Config) (σ : Sys ι) (i : ι) (d : Delivery) : Sys ι :=
  let s := σ.store
  let key := reportKey d.adapter d.report
  match σ.pcs i with
  | .waiting =>
      if appliedBefore s d.tenant key then
        (σ.write (s.logged d.tenant key (some .applied) true)).goto i (.ended .replayed)
      else σ.goto i .looked
  | .looked =>
      if receiptExists s d.tenant d.adapter d.report then σ.goto i (.ended .replayed)
      else if 200 < key.length then σ.goto i (.ended (.raised .dataError))
      else σ.goto i .received
  | .received =>
      if d.report.kind.value ∉ reportKinds then σ.goto i (.refused .unknownKind none)
      else if d.report.externalEventId = "" then σ.goto i (.refused .badReport none)
      -- waits for the transaction that inserted the same receipt
      else if (σ.reserved d.event).isSome then σ
      else if s.receipts.any ((receiptFor d.tenant d.adapter d.report .applied "" none).sameEvent ·) then
        (σ.write (s.logged d.tenant key (some .applied) true)).goto i (.ended .replayed)
      else Sys.goto {σ with reserved := Function.update σ.reserved d.event (some i)} i .reserved
  | .reserved =>
      match resolve s d.tenant d.report with
      | .error reason => (σ.unreserve d.event).goto i (.refused reason none)
      | .ok (publicId,_,attempt) => σ.goto i (.resolved publicId attempt)
  | .resolved publicId attempt =>
      match reportTrigger (cfg.tiers d.tenant) publicId ((s.entitlements publicId).map (·.toEntitlement))
          (attempt.map (·.2)) d.report with
      | .error reason => (σ.unreserve d.event).goto i (.refused reason none)
      | .ok (trigger,params,data) =>
          σ.goto i (.mapped ⟨publicId,trigger,d.now,reportActor d.adapter,d.adapter.name,params⟩ attempt data)
  | .mapped c attempt data =>
      match σ.lock i c.publicId with
      | none => σ
      | some (locked,row) => locked.goto i (.seen c attempt data row)
  | .seen c attempt data row => concludeReported cfg σ i d c attempt data row
  | .committed => (σ.write (s.logged d.tenant key (some .applied) false)).goto i (.ended .applied)
  | .refused reason attempt =>
      if (σ.reserved d.event).isSome then σ
      else (σ.write (((s.logged d.tenant key (some .rejected) false).ignore d.tenant d.adapter d.report reason).finish
        attempt d.now)).goto i (.ended (.ignored reason))
  | _ => σ

def callMove (cfg : Config) (σ : Sys ι) (i : ι) (c : Call) : Sys ι :=
  match σ.pcs i with
  | .waiting =>
      match σ.lock i c.publicId with
      | none => σ
      | some (locked,row) => locked.goto i (.calling row)
  | .calling row =>
      match applySeen cfg σ.store c row with
      | .ok m => ((σ.release c.publicId row).write (σ.store.commit c.publicId m)).goto i (.called (.ok ()))
      | .error f => (σ.release c.publicId row).goto i (.called (.error f))
  | _ => σ

def Action.elsewhere : Action → Bool
  | .list _ _ | .edit _ _ | .prepare .. | .recordStarted .. | .failAttempt _ => true
  | _ => false

inductive Move (ι : Type) where
  | job (i : ι)
  | other (action : Action)

def move (cfg : Config) (site : Site) (jobs : ι → Job) (σ : Sys ι) : Move ι → Sys ι
  | .job i =>
      match jobs i with
      | .report d => reportMove cfg σ i d
      | .call c => callMove cfg σ i c
  | .other action => if action.elsewhere then σ.write (step cfg site σ.store action) else σ

def Sys.start (s : Store) : Sys ι := ⟨s,fun _ => .waiting,fun _ => none,fun _ => none⟩

end sys

end Osds.Billing

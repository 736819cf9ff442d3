import Osds.Billing.Entitlements

namespace Osds.Billing
open Directory Audit

def CHUNK : Nat := 200

-- The rows the tick selects; the database compares with `now` less the margin.
def dueQ (e : Entitlement) (now : Time) : Bool :=
  (e.status = .pastDue && elapsed e.dunningEndsAt now) ||
  (e.status = .grace && elapsed e.graceEndsAt now) ||
  (e.status = .canceled && elapsed e.currentPeriodEnd now) ||
  (e.status = .comped && elapsed e.compExpiresAt now) ||
  (e.status = .active && e.billingMode = .term && elapsed e.currentPeriodEnd now) ||
  (e.status = .trialing && elapsed e.trialEndsAt (now-TRIAL_OVERDUE))

def triggerFor (e : Entitlement) (now : Time) : Option Trigger :=
  clockTriggers.find? (fun trigger => isDue e trigger now)

structure Selected where
  publicId : ListingId
  row : EntitlementRow

def selected (s : Store) (now : Time) : List Selected :=
  ((s.created.filterMap (fun publicId => (s.entitlements publicId).map (Selected.mk publicId))).filter
    (fun x => dueQ x.row.toEntitlement now)).take CHUNK

-- The job on one selected row: what it leaves, and whether it counts as done.
-- Only `NotDue` is caught.
def transition (cfg : Config) (s : Store) (x : Selected) (now : Time) : Except Failure (Store × Bool) :=
  match triggerFor x.row.toEntitlement now with
  | none => .ok (s,false)
  | some trigger =>
      match applyTrigger cfg s x.publicId trigger now systemActor "" {} with
      | .ok (s',_) => .ok (s',true)
      | .error (.notDue _) => .ok (s,false)
      | .error f => .error f

structure TickResult where
  done : Nat
  more : Bool
  deriving DecidableEq, Repr

def transitions (cfg : Config) (now : Time) : Store → List Selected → Except Failure (Store × Nat)
  | s,[] => .ok (s,0)
  | s,x :: rest => do
      let (s,done) ← transition cfg s x now
      let (s,more) ← transitions cfg now s rest
      pure (s,more+done.toNat)

def entitlementTransitions (cfg : Config) (s : Store) (now : Time) : Except Failure (Store × TickResult) := do
  let rows := selected s now
  let (s,done) ← transitions cfg now s rows
  pure (s,⟨done,rows.length = CHUNK⟩)

def notifyRenewal (cfg : Config) (s : Store) (publicId : ListingId) (now : Time) : Store :=
  match s.listings publicId,s.entitlements publicId with
  | some l,some row =>
      match row.currentPeriodEnd with
      | none => s
      | some ends =>
          if row.status ≠ .active ∨ row.renewalNotifiedAt.isSome ∨ ends ≤ now then s
          else
            let event := ⟨l.tenant,cfg.entitlementId publicId,systemActor,"",
              .entitlementRenewalDue (cfg.entitlementId publicId) publicId (max 0 (days (ends-now))) row.termDays⟩
            {s with
              entitlements := Function.update s.entitlements publicId
                (some {row with renewalNotifiedAt := some now})
              outbox := s.outbox ++ [event]}
  | _,_ => s

theorem elapsed_shift : elapsed deadline (now-margin) = elapsed (deadline.map (· + margin)) now := by
  cases deadline with
  | none => rfl
  | some t => exact decide_eq_decide.mpr ⟨Int.add_le_of_le_sub_right,Int.le_sub_right_of_add_le⟩

theorem dueQ_exact : dueQ e now = (triggerFor e now).isSome := by
  unfold dueQ triggerFor
  rw [elapsed_shift,Bool.eq_iff_iff,List.find?_isSome]
  simp [clockTriggers,isDue,or_assoc]

theorem triggerFor_exact : triggerFor e now = some trigger ↔
    trigger ∈ clockTriggers ∧ isDue e trigger now = true := by
  unfold triggerFor
  constructor
  · intro found
    have due := List.find?_some found
    exact ⟨List.mem_of_find?_eq_some found,due⟩
  · rintro ⟨clock,due⟩
    cases found : clockTriggers.find? (fun trigger => isDue e trigger now) with
    | none => exact (List.find?_eq_none.mp found trigger clock due).elim
    | some other =>
        have otherDue := List.find?_some found
        have here := isDue_status clock due
        have there := isDue_status (List.mem_of_find?_eq_some found) otherDue
        rw [← clockTrigger_of_clockStatus here,← clockTrigger_of_clockStatus there]

end Osds.Billing

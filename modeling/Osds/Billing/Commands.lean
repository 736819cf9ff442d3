import Osds.Billing.System
import Osds.Lib.Text

namespace Osds.Billing.Commands
open Directory Audit

def MANAGER : Int := 3
def ADMIN : Int := 4

structure Operator where
  publicId : String
  role : Option Int
  deriving DecidableEq, Repr

def Operator.manages (o : Operator) : Bool := o.role.any (MANAGER ≤ ·)

def Operator.actor (o : Operator) : Actor :=
  ⟨if o.role.any (ADMIN ≤ ·) then "admin" else "staff",some o.publicId⟩

inductive EntitlementRefused where
  | forbidden | reasonRequired | tierUnknown | tierSlot | expiryInPast | notComped | invalidState | badParameters
  deriving DecidableEq, Repr

-- What stops a command: a refusal it logs, or an error that leaves the row of the
-- log without an outcome.
inductive Stopped where
  | refused (reason : EntitlementRefused)
  | raised (f : Failure)
  deriving DecidableEq, Repr

def stopped : Failure → Stopped
  | .invalidTransition .. => .refused .invalidState
  | .entitlementError _ => .refused .badParameters
  | f => .raised f

def refuseUnless (holds : Bool) (reason : EntitlementRefused) : Except Stopped Unit :=
  if holds then .ok () else .error (.refused reason)

def stripReason (reason : String) : Except Stopped String :=
  let stripped := Text.strip reason
  if stripped = "" then .error (.refused .reasonRequired) else .ok stripped

def commandTier (tiers : Tiers) (tierKey : String) : Except Stopped TierId :=
  match if tierKey = "" then none else tiers.byKey tierKey with
  | none => .error (.refused .tierUnknown)
  | some tier => if (tiers.row tier).usesSlot then .error (.refused .tierSlot) else .ok tier

def applied (cfg : Config) (s : Store) (publicId : ListingId) (trigger : Trigger) (now : Time) (actor : Actor)
    (p : Params) : Except Stopped Store :=
  match applyTrigger cfg s publicId trigger now actor "" p with
  | .ok (s',_) => .ok s'
  | .error f => .error (stopped f)

section commands

variable (cfg : Config) (s : Store) (tenant : TenantId) (publicId : ListingId) (operator : Operator) (now : Time)

def grantComp (tierKey reason : String) (expiresAt : Option Time) : Except Stopped Store := do
  refuseUnless operator.manages .forbidden
  let why ← stripReason reason
  let tier ← commandTier (cfg.tiers tenant) tierKey
  refuseUnless (expiresAt.all (now < ·)) .expiryInPast
  applied cfg s publicId .grant now operator.actor
    {tier := some tier,operator := some operator.publicId,reason := some why,expiresAt := expiresAt}

def revokeComp (reason : String) : Except Stopped Store := do
  refuseUnless operator.manages .forbidden
  let why ← stripReason reason
  refuseUnless (statusOf (s.entitlements publicId) = .comped) .notComped
  applied cfg s publicId .revoke now operator.actor {operator := some operator.publicId,reason := some why}

def overrideTier (tierKey : String) : Except Stopped (Option TierId) :=
  if tierKey = "" then .ok none else (commandTier (cfg.tiers tenant) tierKey).map some

def overrideEntitlement (toStatus reason tierKey : String) (periodEnd trialEndsAt : Option Time) :
    Except Stopped Store := do
  refuseUnless operator.manages .forbidden
  let why ← stripReason reason
  let tier ← overrideTier cfg tenant tierKey
  refuseUnless (toStatus ≠ Status.comped.value) .invalidState
  applied cfg s publicId .override now operator.actor
    {tier := tier,operator := some operator.publicId,reason := some why,toStatus := some toStatus,
     periodEnd := periodEnd,trialEndsAt := trialEndsAt}

end commands

section triggers

variable {cfg : Config} {s s' : Store} {publicId : ListingId}

theorem applied_step (site : Site) (done : applied cfg s publicId trigger now actor p = .ok s') :
    step cfg site s (.trigger publicId trigger now actor "" p) = s' := by
  unfold applied at done
  unfold step
  dsimp only
  cases accepted : applyTrigger cfg s publicId trigger now actor "" p with
  | error f =>
      rw [accepted] at done
      cases done
  | ok r =>
      rw [accepted] at done
      exact Except.ok.inj done

theorem grantComp_step (site : Site) (done : grantComp cfg s tenant publicId operator now tierKey reason expiresAt = .ok s') :
    ∃ p, step cfg site s (.trigger publicId .grant now operator.actor "" p) = s' := by
  obtain ⟨_,_,rest⟩ := Fallible.bind_exact.mp done
  obtain ⟨_,_,rest⟩ := Fallible.bind_exact.mp rest
  obtain ⟨_,_,rest⟩ := Fallible.bind_exact.mp rest
  obtain ⟨_,_,rest⟩ := Fallible.bind_exact.mp rest
  exact ⟨_,applied_step site rest⟩

theorem revokeComp_step (site : Site) (done : revokeComp cfg s publicId operator now reason = .ok s') :
    ∃ p, step cfg site s (.trigger publicId .revoke now operator.actor "" p) = s' := by
  obtain ⟨_,_,rest⟩ := Fallible.bind_exact.mp done
  obtain ⟨_,_,rest⟩ := Fallible.bind_exact.mp rest
  obtain ⟨_,_,rest⟩ := Fallible.bind_exact.mp rest
  exact ⟨_,applied_step site rest⟩

theorem overrideEntitlement_step (site : Site) (done : overrideEntitlement cfg s tenant publicId operator now toStatus
      reason tierKey periodEnd trialEndsAt = .ok s') :
    ∃ p, step cfg site s (.trigger publicId .override now operator.actor "" p) = s' := by
  obtain ⟨_,_,rest⟩ := Fallible.bind_exact.mp done
  obtain ⟨_,_,rest⟩ := Fallible.bind_exact.mp rest
  obtain ⟨_,_,rest⟩ := Fallible.bind_exact.mp rest
  obtain ⟨_,_,rest⟩ := Fallible.bind_exact.mp rest
  exact ⟨_,applied_step site rest⟩

end triggers

end Osds.Billing.Commands

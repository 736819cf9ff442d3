import Osds.Billing.Notices
import Mathlib.Logic.Function.Basic

namespace Osds.Billing
open Directory Audit

def systemActor : Actor := ⟨"system",some "billing"⟩

structure Outcome where
  fromStatus : Status
  toStatus : Status
  events : List RuleEvent
  tierChanged : Bool
  hidListing : Bool
  unhidListing : Bool
  deriving DecidableEq, Repr

structure Params where
  tier : Option TierId := none
  periodEnd : Option Time := none
  trialEndsAt : Option Time := none
  billingMode : Option BillingMode := none
  termDays : Option Int := none
  paymentRef : PaymentRef := []
  failureCode : String := ""
  attempt : Option Int := none
  canceledBy : Option String := none
  reason : Option String := none
  operator : Option String := none
  expiresAt : Option Time := none
  toStatus : Option String := none
  deriving DecidableEq, Repr

structure Facts where
  fromTier : String
  daysInDunning : Option Int := none
  daysInGrace : Option Int := none
  attempt : Int := 0
  dunningEndsAt : Time := 0
  failureCode : String := ""
  graceEndsAt : Time := 0
  canceledBy : String := ""
  reason : String := ""
  atPeriodEnd : Bool := false
  deriving DecidableEq, Repr

def effectiveTier (tiers : Tiers) (e : Entitlement) : Option TierId :=
  if e.status.perks then some e.tier else tiers.rank0

def setTier (tiers : Tiers) (publicId : ListingId) (l : Listing) (tier : Option TierId)
    (cause : TierCause) (now : Time) (actor : Actor) (origin : String) : Listing × List OutboxEvent :=
  if l.currentTier = tier then (l,[])
  else ({l with currentTier := tier},
    [{tenant := l.tenant,subject := publicId,actor := actor,origin := origin,
      payload := .listingTierChanged (l.currentTier.map (tiers.row · |>.key))
        (tier.map (tiers.row · |>.key)) now cause.value}])

def missing (names : List String) : Failure :=
  .entitlementError ("missing parameter(s): " ++ ", ".intercalate names)

def need (name : String) : Option α → Except Failure α
  | some value => .ok value
  | none => .error (missing [name])

def absent (given : List (String × Bool)) : List String :=
  given.filterMap (fun (name,present) => if present then none else some name)

def resetLifecycle (e : Entitlement) : Entitlement :=
  {e with
    dunningStartedAt := none
    dunningEndsAt := none
    graceEndsAt := none
    failedAttempts := 0
    lastFailureCode := ""
    cancelAtPeriodEnd := false
    canceledAt := none
    canceledBy := ""
    renewalNotifiedAt := none}

def clearComp (e : Entitlement) : Entitlement :=
  {e with compGrantedBy := none,compReason := "",compExpiresAt := none}

-- A reported attempt number, unless it is missing or zero.
def countedAttempts (e : Entitlement) (attempt : Option Int) : Int :=
  match attempt with
  | some n => if n = 0 then e.failedAttempts+1 else n
  | none => e.failedAttempts+1

def enterDunning (e : Entitlement) (now : Time) (code : String) (attempt : Option Int) : Entitlement :=
  {e with
    dunningStartedAt := some now
    dunningEndsAt := some (now+DUNNING)
    failedAttempts := countedAttempts e attempt
    lastFailureCode := code}

def purchase (e : Entitlement) (now : Time) (p : Params) (tier : TierId) (status : Status)
    (trialEndsAt : Option Time) (periodEnd : Time) : Entitlement :=
  clearComp (resetLifecycle {e with
    tier := tier
    billingMode := p.billingMode.getD .recurring
    termDays := p.termDays
    status := status
    startedAt := some now
    trialEndsAt := trialEndsAt
    currentPeriodEnd := some periodEnd
    paymentRef := p.paymentRef})

def paid (e : Entitlement) (p : Params) (periodEnd : Time) : Entitlement :=
  {e with
    tier := p.tier.getD e.tier
    status := .active
    currentPeriodEnd := some periodEnd
    paymentRef := if p.paymentRef = [] then e.paymentRef else p.paymentRef}

-- A payment also turns a comp into a plan that bills.
def pay (e : Entitlement) (p : Params) (periodEnd : Time) : Entitlement :=
  resetLifecycle (if e.status = .comped then
    clearComp {paid e p periodEnd with billingMode := p.billingMode.getD .recurring} else paid e p periodEnd)

def failPayment (e : Entitlement) (now : Time) (code : String) (attempt : Option Int) : Entitlement :=
  if e.status = .pastDue ∨ e.status = .grace then
    {e with
      failedAttempts := countedAttempts e attempt
      lastFailureCode := if code = "" then e.lastFailureCode else code}
  else {enterDunning e now code attempt with status := .pastDue}

def cancelEntitlement (e : Entitlement) (r : Rule) (now : Time) (by_ : String) : Entitlement :=
  let noted := {e with canceledAt := some now,canceledBy := by_}
  if r.to_ = .status .canceled then
    {noted with
      status := .canceled
      cancelAtPeriodEnd := true
      currentPeriodEnd := e.currentPeriodEnd <|> e.trialEndsAt}
  else {noted with status := .expired}

def grantComp (e : Entitlement) (now : Time) (p : Params) (tier : TierId) (operator reason : String) :
    Entitlement :=
  resetLifecycle {e with
    tier := tier
    status := .comped
    billingMode := .comp
    termDays := none
    startedAt := e.startedAt <|> some now
    currentPeriodEnd := none
    trialEndsAt := none
    compGrantedBy := some operator
    compReason := reason
    compExpiresAt := p.expiresAt}

def land (e : Entitlement) (now : Time) (p : Params) : Status → Except Failure Entitlement
  | .trialing => do
      let ends ← need "trial_ends_at" p.trialEndsAt
      pure {e with trialEndsAt := some ends,currentPeriodEnd := e.currentPeriodEnd <|> some ends}
  | .pastDue => pure (enterDunning e now "override" none)
  | .grace => pure {e with graceEndsAt := some (now+GRACE)}
  | .canceled => do
      let _ ← need "period_end" p.periodEnd
      pure {e with cancelAtPeriodEnd := true,canceledAt := some now,canceledBy := "operator"}
  | .none | .expired => pure (resetLifecycle e)
  | .active | .comped => pure e

def override (e : Entitlement) (now : Time) (p : Params) (to_ : Status) : Except Failure Entitlement := do
  let moved := {e with
    tier := p.tier.getD e.tier
    status := to_
    currentPeriodEnd := p.periodEnd <|> e.currentPeriodEnd}
  let landed ← land moved now p to_
  pure (if to_ = .comped then landed else clearComp landed)

-- Timedelta's `days`: whole days, rounded down.
def days (elapsed : Time) : Int := elapsed / day

def mutate (tiers : Tiers) (e : Entitlement) (trigger : Trigger) (r : Rule) (now : Time) (p : Params) :
    Except Failure (Entitlement × Facts) :=
  let facts : Facts := {fromTier := (tiers.row e.tier).key}
  match trigger with
  | .start => do
      let tier ← need "tier" p.tier
      let periodEnd ← need "period_end" p.periodEnd
      pure (purchase e now p tier .active none periodEnd,facts)
  | .startTrial => do
      let tier ← need "tier" p.tier
      let trialEndsAt ← need "trial_ends_at" p.trialEndsAt
      pure (purchase e now p tier .trialing (some trialEndsAt) (p.periodEnd.getD trialEndsAt),facts)
  | .paymentSucceeded => do
      let periodEnd ← need "period_end" p.periodEnd
      pure (pay e p periodEnd,{facts with
        daysInDunning :=
          if e.status = .pastDue then e.dunningStartedAt.map (fun t => days (now-t)) else none
        daysInGrace :=
          if e.status = .grace then e.graceEndsAt.map (fun t => days (now-(t-GRACE)))
          else if e.status = .canceled then some 0 else none})
  | .paymentFailed | .trialOverdue =>
      let code := if trigger = .trialOverdue then "trial_unreported" else p.failureCode
      let failed := failPayment e now code p.attempt
      pure (failed,if e.status = .pastDue ∨ e.status = .grace then facts else {facts with
        attempt := failed.failedAttempts
        dunningEndsAt := now+DUNNING
        failureCode := failed.lastFailureCode})
  | .dunningElapsed =>
      pure ({e with status := .grace,graceEndsAt := some (now+GRACE)},{facts with graceEndsAt := now+GRACE})
  | .cancel =>
      let by_ := match p.canceledBy with
        | some name => if name = "" then "owner" else name
        | none => "owner"
      pure (cancelEntitlement e r now by_,{facts with
        canceledBy := by_
        reason := p.reason.getD ""
        atPeriodEnd := r.to_ = .status .canceled})
  | .refund | .subscriptionEnded | .termEnded | .graceElapsed | .periodElapsed | .compExpired =>
      pure ({e with status := .expired},facts)
  | .grant =>
      match p.tier,p.operator,p.reason with
      | some tier,some operator,some reason => pure (grantComp e now p tier operator reason,facts)
      | _,_,_ => throw (missing (absent
          [("tier",p.tier.isSome),("operator",p.operator.isSome),("reason",p.reason.isSome)]))
  | .revoke =>
      match p.operator,p.reason with
      | some _,some _ => pure (clearComp {e with status := .expired},facts)
      | _,_ => throw (missing (absent [("operator",p.operator.isSome),("reason",p.reason.isSome)]))
  | .override =>
      match p.toStatus,p.operator,p.reason with
      | some text,some _,some _ =>
          match Status.ofValue text with
          | some to_ => do pure (← override e now p to_,facts)
          | none => throw (.entitlementError ("unknown status '" ++ text ++ "'"))
      | _,_,_ => throw (missing (absent
          [("to_status",p.toStatus.isSome),("operator",p.operator.isSome),("reason",p.reason.isSome)]))

def save (e : Entitlement) : Except Failure EntitlementRow :=
  if representable : e.Representable then
    if nonNegative : e.NonNegative then .ok ⟨e,representable,nonNegative⟩ else .error .integrityError
  else .error .dataError

def newRow (tier : TierId) : EntitlementRow :=
  {tier := tier
   status := .none
   billingMode := .none
   termDays := none
   startedAt := none
   currentPeriodEnd := none
   trialEndsAt := none
   dunningStartedAt := none
   graceEndsAt := none
   cancelAtPeriodEnd := false
   dunningEndsAt := none
   failedAttempts := 0
   lastFailureCode := ""
   canceledAt := none
   canceledBy := ""
   renewalNotifiedAt := none
   hiddenByExpiry := false
   compGrantedBy := none
   compReason := ""
   compExpiresAt := none
   paymentRef := []
   representable := by simp [Entitlement.Representable,smallint]
   nonNegative := by simp [Entitlement.NonNegative]}

def creators : List Trigger := [.start,.startTrial,.grant,.override]

-- The row the trigger applies to: the one read, or a new one. A new one loses to
-- a row that another transaction committed since the read.
def openRow (seen : Option EntitlementRow) (taken : Bool) (trigger : Trigger) (p : Params) :
    Except Failure EntitlementRow :=
  match seen with
  | some row => .ok row
  | none =>
      if trigger ∈ creators then do
        let tier ← need "tier" p.tier
        if taken then .error .integrityError else .ok (newRow tier)
      else .error (.invalidTransition .none trigger)

def eventData (tiers : Tiers) (entitlementId publicId : String) (e : Entitlement) (name : RuleEvent)
    (r : Rule) (facts : Facts) (toTier : Option TierId) (p : Params) (prior : Status) : Payload :=
  let tier := (tiers.row e.tier).key
  match name with
  | .started =>
      .entitlementStarted entitlementId publicId tier e.billingMode.value e.currentPeriodEnd e.trialEndsAt
  | .trialConverted => .entitlementTrialConverted entitlementId publicId tier e.currentPeriodEnd
  | .dunningStarted =>
      .entitlementDunningStarted entitlementId publicId facts.attempt facts.dunningEndsAt facts.failureCode
  | .recovered => .entitlementRecovered entitlementId publicId (facts.daysInDunning.getD 0)
  | .downgraded =>
      .entitlementDowngraded entitlementId publicId facts.fromTier (toTier.map (tiers.row · |>.key))
        facts.graceEndsAt
  | .restored => .entitlementRestored entitlementId publicId tier (facts.daysInGrace.getD 0)
  | .expired => .entitlementExpired entitlementId publicId facts.fromTier r.expiredCause.value
  | .canceled =>
      .entitlementCanceled entitlementId publicId facts.atPeriodEnd facts.reason facts.canceledBy
  | .overridden =>
      .entitlementOverridden entitlementId publicId (p.operator.getD "") (p.reason.getD "") prior.value
        e.status.value

def RuleEvent.type : RuleEvent → EventType
  | .started => .entitlementStarted
  | .trialConverted => .entitlementTrialConverted
  | .dunningStarted => .entitlementDunningStarted
  | .recovered => .entitlementRecovered
  | .downgraded => .entitlementDowngraded
  | .restored => .entitlementRestored
  | .expired => .entitlementExpired
  | .canceled => .entitlementCanceled
  | .overridden => .entitlementOverridden

@[simp] theorem eventData_type (name : RuleEvent) : (eventData tiers entitlementId publicId e name r facts toTier p
    prior).type = name.type := by
  cases name <;> rfl

-- A payment that moves the tier is an upgrade or a downgrade by rank; every
-- other cause is the rule's.
def tierCause (tiers : Tiers) (r : Rule) (prior target : Option TierId) : TierCause :=
  if r.tierCause = .unset ∨ r.tierCause = .upgrade then
    match target,prior with
    | some _,none => .upgrade
    | some to_,some frm => if (tiers.row frm).rank ≤ (tiers.row to_).rank then .upgrade else .downgrade
    | none,_ => .downgrade
  else r.tierCause

structure Moved where
  row : EntitlementRow
  listing : Listing
  events : List OutboxEvent
  mail : List OutboundMessage
  outcome : Outcome

-- With no rank-0 tier an expired listing is hidden; a repurchase undoes that.
def visibilityAfter (tiers : Tiers) (publicId : ListingId) (row : EntitlementRow) (l : Listing)
    (actor : Actor) : EntitlementRow × Listing × List OutboxEvent × Bool × Bool :=
  if row.status = .expired ∧ tiers.rank0 = none then
    if l.visibility = .published then
      let (hidden,events) := setListingVisibility publicId l .hidden actor "entitlement_expired"
      ({row with hiddenByExpiry := true},hidden,events,true,false)
    else (row,l,[],false,false)
  else if row.hiddenByExpiry ∧ row.status.perks then
    if l.visibility = .hidden then
      let (shown,events) := setListingVisibility publicId l .published actor "entitlement_restored"
      ({row with hiddenByExpiry := false},shown,events,false,true)
    else ({row with hiddenByExpiry := false},l,[],false,false)
  else (row,l,[],false,false)

def settle (tiers : Tiers) (entitlementId : String) (publicId : ListingId) (prior : Status)
    (row : EntitlementRow) (l : Listing) (r : Rule) (facts : Facts) (now : Time) (actor : Actor)
    (origin : String) (p : Params) (mail : List OutboundMessage) : Moved :=
  let target := effectiveTier tiers row.toEntitlement
  let events := r.events.map (fun name =>
    {tenant := l.tenant,subject := entitlementId,actor := actor,origin := origin,
      payload := eventData tiers entitlementId publicId row.toEntitlement name r facts target p prior})
  let (tiered,tierEvents) :=
    setTier tiers publicId l target (tierCause tiers r l.currentTier target) now actor origin
  let (settled,shown,visibilityEvents,hid,unhid) := visibilityAfter tiers publicId row tiered actor
  {row := settled
   listing := shown
   events := events ++ tierEvents ++ visibilityEvents
   mail := mail
   outcome := ⟨prior,row.status,r.events,l.currentTier ≠ target,hid,unhid⟩}

def clockGuard (e : Entitlement) (trigger : Trigger) (now : Time) : Except Failure Unit :=
  if trigger ∈ clockTriggers ∧ isDue e trigger now = false then .error (.notDue trigger) else .ok ()

-- `apply_trigger` on the rows it read: the entitlement and the listing.
def advance (tiers : Tiers) (entitlementId : String) (publicId : ListingId)
    (row : EntitlementRow) (l : Listing) (trigger : Trigger) (now : Time) (actor : Actor)
    (origin : String) (p : Params) : Except Failure Moved := do
  let r ← ruleFor row.status trigger
  clockGuard row.toEntitlement trigger now
  let (draft,facts) ← mutate tiers row.toEntitlement trigger r now p
  let saved ← save draft
  let mail ← afterTransition saved.toEntitlement l r now
  pure (settle tiers entitlementId publicId row.status saved l r facts now actor origin p mail)

def Store.commit (s : Store) (publicId : ListingId) (m : Moved) : Store :=
  {s with
    listings := Function.update s.listings publicId (some m.listing)
    entitlements := Function.update s.entitlements publicId (some m.row)
    created := if (s.entitlements publicId).isSome then s.created else s.created ++ [publicId]
    outbox := s.outbox ++ m.events
    mail := s.mail ++ m.mail}

def applyTrigger (cfg : Config) (s : Store) (publicId : ListingId) (trigger : Trigger) (now : Time)
    (actor : Actor) (origin : String) (p : Params) : Except Failure (Store × Moved) :=
  match s.listings publicId with
  | none => .error .doesNotExist
  | some l => do
      let row ← openRow (s.entitlements publicId) false trigger p
      let moved ← advance (cfg.tiers l.tenant) (cfg.entitlementId publicId) publicId row l trigger now
        actor origin p
      pure (s.commit publicId moved,moved)

end Osds.Billing

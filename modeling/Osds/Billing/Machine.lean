import Osds.Billing.Models

namespace Osds.Billing
open Directory Audit

def DUNNING : Time := 14*day
def GRACE : Time := 30*day
def TRIAL_OVERDUE : Time := 3*day
def RENEWAL_NOTICE : Time := 10*day

inductive Trigger where
  -- reported by a payment adapter
  | start | startTrial | paymentSucceeded | paymentFailed | refund | subscriptionEnded
  -- a person's decision
  | cancel
  -- the clock
  | termEnded | dunningElapsed | graceElapsed | periodElapsed | compExpired | trialOverdue
  -- an operator
  | grant | revoke | override
  deriving DecidableEq, Repr

def clockTriggers : List Trigger :=
  [.dunningElapsed,.graceElapsed,.periodElapsed,.compExpired,.termEnded,.trialOverdue]

def Status.perks : Status → Bool
  | .trialing | .active | .pastDue | .canceled | .comped => true
  | .none | .grace | .expired => false

def paidStatuses : List Status := [.trialing,.active,.pastDue,.grace,.canceled]

inductive Target where
  | status (s : Status)
  | any
  deriving DecidableEq, Repr

inductive RuleEvent where
  | started | trialConverted | dunningStarted | recovered | downgraded | restored
  | expired | canceled | overridden
  deriving DecidableEq, Repr

inductive ExpiredCause where
  | unset | termEnded | graceElapsed | canceled | periodEnded | compExpired | refund | revoked
  deriving DecidableEq, Repr

def ExpiredCause.value : ExpiredCause → String
  | .unset => ""
  | .termEnded => "term_ended"
  | .graceElapsed => "grace_elapsed"
  | .canceled => "canceled"
  | .periodEnded => "period_ended"
  | .compExpired => "comp_expired"
  | .refund => "refund"
  | .revoked => "revoked"

inductive TierCause where
  | unset | purchase | upgrade | downgrade | expiry | grace | restore | refund | revoke
  | comp | override
  deriving DecidableEq, Repr

def TierCause.value : TierCause → String
  | .unset => ""
  | .purchase => "purchase"
  | .upgrade => "upgrade"
  | .downgrade => "downgrade"
  | .expiry => "expiry"
  | .grace => "grace"
  | .restore => "restore"
  | .refund => "refund"
  | .revoke => "revoke"
  | .comp => "comp"
  | .override => "override"

structure Rule where
  to_ : Target
  events : List RuleEvent
  expiredCause : ExpiredCause
  tierCause : TierCause
  deriving DecidableEq, Repr

def rule (to_ : Target) (events : List RuleEvent) (cause : ExpiredCause := .unset)
    (tier : TierCause := .unset) : Rule := ⟨to_,events,cause,tier⟩

abbrev Table := List ((Status × Trigger) × Rule)

def build : Table :=
  -- starting
  [Status.none,.expired,.comped,.canceled].map (fun frm =>
    ((frm,.start),rule (.status .active) [.started] .unset .purchase)) ++
  [Status.none,.expired].map (fun frm =>
    ((frm,.startTrial),rule (.status .trialing) [.started] .unset .purchase)) ++
  ([((.trialing,.paymentSucceeded),rule (.status .active) [.trialConverted]),
    ((.trialing,.paymentFailed),rule (.status .pastDue) [.dunningStarted]),
    ((.trialing,.cancel),rule (.status .canceled) [.canceled]),
    ((.trialing,.trialOverdue),rule (.status .pastDue) [.dunningStarted]),
    ((.active,.paymentSucceeded),rule (.status .active) [] .unset .upgrade),
    ((.active,.paymentFailed),rule (.status .pastDue) [.dunningStarted]),
    ((.active,.cancel),rule (.status .canceled) [.canceled]),
    ((.active,.termEnded),rule (.status .expired) [.expired] .termEnded .expiry),
    ((.pastDue,.paymentSucceeded),rule (.status .active) [.recovered]),
    ((.pastDue,.paymentFailed),rule (.status .pastDue) []),
    ((.pastDue,.dunningElapsed),rule (.status .grace) [.downgraded] .unset .grace),
    ((.pastDue,.cancel),rule (.status .canceled) [.canceled]),
    ((.grace,.paymentSucceeded),rule (.status .active) [.restored] .unset .restore),
    ((.grace,.paymentFailed),rule (.status .grace) []),
    ((.grace,.graceElapsed),rule (.status .expired) [.expired] .graceElapsed .expiry),
    ((.grace,.cancel),rule (.status .expired) [.canceled,.expired] .canceled .expiry),
    ((.canceled,.paymentSucceeded),rule (.status .active) [.restored]),
    ((.canceled,.periodElapsed),rule (.status .expired) [.expired] .periodEnded .expiry),
    ((.comped,.paymentSucceeded),rule (.status .active) [] .unset .purchase),
    ((.comped,.compExpired),rule (.status .expired) [.expired] .compExpired .expiry),
    ((.comped,.revoke),rule (.status .expired) [.overridden,.expired] .revoked .revoke)] : Table) ++
  -- a refund and an ended subscription, in every paid status
  paidStatuses.flatMap (fun frm =>
    [((frm,.refund),rule (.status .expired) [.expired] .refund .refund),
      ((frm,.subscriptionEnded),rule (.status .expired) [.expired] .canceled .expiry)]) ++
  -- an operator's comp and override
  Status.all.flatMap (fun frm =>
    [((frm,.grant),rule (.status .comped) [.overridden] .unset .comp),
      ((frm,.override),rule .any [.overridden] .unset .override)])

-- `build` asserts that it adds no key twice.
theorem build_keys_nodup : (build.map Prod.fst).Nodup := by decide

inductive Failure where
  | invalidTransition (status : Status) (trigger : Trigger)
  | notDue (trigger : Trigger)
  | entitlementError (message : String)
  -- the listing was deleted under the caller
  | doesNotExist
  -- the database's refusals: a constraint, and a value a column cannot hold
  | integrityError
  | dataError
  deriving DecidableEq, Repr

def ruleFor (status : Status) (trigger : Trigger) : Except Failure Rule :=
  match build.lookup (status,trigger) with
  | some r => .ok r
  | none => .error (.invalidTransition status trigger)

def elapsed (deadline : Option Time) (now : Time) : Bool :=
  match deadline with
  | some t => t ≤ now
  | none => false

-- Whether a clock trigger's condition holds of the row.
def isDue (e : Entitlement) (trigger : Trigger) (now : Time) : Bool :=
  match trigger with
  | .dunningElapsed => e.status = .pastDue && elapsed e.dunningEndsAt now
  | .graceElapsed => e.status = .grace && elapsed e.graceEndsAt now
  | .periodElapsed => e.status = .canceled && elapsed e.currentPeriodEnd now
  | .compExpired => e.status = .comped && elapsed e.compExpiresAt now
  | .termEnded => e.status = .active && e.billingMode = .term && elapsed e.currentPeriodEnd now
  | .trialOverdue => e.status = .trialing && elapsed (e.trialEndsAt.map (· + TRIAL_OVERDUE)) now
  | _ => true

def clockStatus : Trigger → Option Status
  | .dunningElapsed => some .pastDue
  | .graceElapsed => some .grace
  | .periodElapsed => some .canceled
  | .compExpired => some .comped
  | .termEnded => some .active
  | .trialOverdue => some .trialing
  | _ => none

theorem isDue_status (clock : trigger ∈ clockTriggers) (due : isDue e trigger now) :
    clockStatus trigger = some e.status := by
  cases trigger <;> simp [clockTriggers] at clock <;> simp [isDue] at due <;> simp [clockStatus,due]

def clockTrigger : Status → Option Trigger
  | .pastDue => some .dunningElapsed
  | .grace => some .graceElapsed
  | .canceled => some .periodElapsed
  | .comped => some .compExpired
  | .active => some .termEnded
  | .trialing => some .trialOverdue
  | .none | .expired => none

theorem clockTrigger_of_clockStatus (named : clockStatus trigger = some status) :
    clockTrigger status = some trigger := by
  cases trigger <;> cases named <;> rfl

theorem ruleFor_clock (clock : trigger ∈ clockTriggers) (status : Status) :
    (ruleFor status trigger).isOk ↔ clockStatus trigger = some status := by
  cases trigger <;> simp [clockTriggers] at clock <;> cases status <;> decide

section table

theorem ruleFor_paymentFailed : ruleFor s .paymentFailed = match s with
    | .trialing | .active => .ok (rule (.status .pastDue) [.dunningStarted])
    | .pastDue => .ok (rule (.status .pastDue) [])
    | .grace => .ok (rule (.status .grace) [])
    | s => .error (.invalidTransition s .paymentFailed) := by
  cases s <;> rfl

theorem ruleFor_refund : ruleFor s .refund = match s with
    | .trialing | .active | .pastDue | .grace | .canceled =>
        .ok (rule (.status .expired) [.expired] .refund .refund)
    | s => .error (.invalidTransition s .refund) := by
  cases s <;> rfl

theorem ruleFor_subscriptionEnded : ruleFor s .subscriptionEnded = match s with
    | .trialing | .active | .pastDue | .grace | .canceled =>
        .ok (rule (.status .expired) [.expired] .canceled .expiry)
    | s => .error (.invalidTransition s .subscriptionEnded) := by
  cases s <;> rfl

theorem ruleFor_cancel : ruleFor s .cancel = match s with
    | .trialing | .active | .pastDue => .ok (rule (.status .canceled) [.canceled])
    | .grace => .ok (rule (.status .expired) [.canceled,.expired] .canceled .expiry)
    | s => .error (.invalidTransition s .cancel) := by
  cases s <;> rfl

end table

end Osds.Billing

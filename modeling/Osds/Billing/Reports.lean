import Osds.Billing.Payments

namespace Osds.Billing
open Directory Audit

def reportKinds : List String :=
  ["checkout_completed","payment_succeeded","payment_failed","refunded","subscription_changed",
    "subscription_canceled"]

inductive ReportKind where
  | checkoutCompleted | paymentSucceeded | paymentFailed | refunded | subscriptionChanged
  | subscriptionCanceled
  | unknown (name : String) (unlisted : name ∉ reportKinds)
  deriving DecidableEq

def ReportKind.value : ReportKind → String
  | .checkoutCompleted => "checkout_completed"
  | .paymentSucceeded => "payment_succeeded"
  | .paymentFailed => "payment_failed"
  | .refunded => "refunded"
  | .subscriptionChanged => "subscription_changed"
  | .subscriptionCanceled => "subscription_canceled"
  | .unknown name _ => name

structure PaymentReport where
  kind : ReportKind
  externalEventId : String
  checkoutAttemptId : String := ""
  listingId : String := ""
  tierKey : String := ""
  periodEnd : Option Time := none
  trialEndsAt : Option Time := none
  paymentRef : PaymentRef := []
  amountMinor : Option Int := none
  currency : String := ""
  invoiceRef : String := ""
  failureCode : String := ""
  attempt : Option Int := none
  nextRetryAt : Option Time := none
  atPeriodEnd : Bool := true
  canceledBy : String := ""
  reason : String := ""
  deriving DecidableEq

inductive Refusal where
  | unknownCheckout | unknownListing | checkoutMismatch | unknownTier | checkoutAlreadyCompleted
  | badReport | noEntitlement | invalidTransition | unknownKind
  deriving DecidableEq, Repr

def Refusal.value : Refusal → String
  | .unknownCheckout => "unknown_checkout"
  | .unknownListing => "unknown_listing"
  | .checkoutMismatch => "checkout_mismatch"
  | .unknownTier => "unknown_tier"
  | .checkoutAlreadyCompleted => "checkout_already_completed"
  | .badReport => "bad_report"
  | .noEntitlement => "no_entitlement"
  | .invalidTransition => "invalid_transition"
  | .unknownKind => "unknown_kind"

inductive Answer where
  | applied | replayed
  | ignored (reason : Refusal)
  -- an error the caller of `report_payment` sees; the provider delivers again
  | raised (failure : Failure)
  deriving DecidableEq, Repr

inductive ApplyError where
  | refused (reason : Refusal) (attempt : Option AttemptId)
  | failed (failure : Failure)
  deriving DecidableEq, Repr

def reportCommand : String := "entitlement.reportPayment"

def reportKey (adapter : AdapterId) (report : PaymentReport) : String :=
  adapter.name ++ ":" ++ report.externalEventId

def reportActor (adapter : AdapterId) : Actor := ⟨"adapter",some adapter.name⟩

def externalId (ref : PaymentRef) : String := (ref.lookup "external_id").getD ""

def reportAttempt (s : Store) (tenant : TenantId) (id : AttemptId) :
    Except Refusal (Option (AttemptId × CheckoutAttempt)) :=
  if id = "" then .ok none
  else match s.attempts id with
    | some a => if a.tenant = tenant then .ok (some (id,a)) else .error .unknownCheckout
    | none => .error .unknownCheckout

def reportListing (s : Store) (tenant : TenantId) (publicId : ListingId) : Except Refusal (Option ListingId) :=
  if publicId = "" then .ok none
  else match s.listings publicId with
    | some l => if l.tenant = tenant then .ok (some publicId) else .error .unknownListing
    | none => .error .unknownListing

def listingOf : Option (AttemptId × CheckoutAttempt) → Option ListingId → Except Refusal ListingId
  | some (_,a),some found => if found = a.listing then .ok a.listing else .error .checkoutMismatch
  | some (_,a),none => .ok a.listing
  | none,some found => .ok found
  | none,none => .error .unknownListing

-- The listing and the checkout attempt, if any, a report is about. An attempt's
-- listing is there while the attempt is.
def resolve (s : Store) (tenant : TenantId) (report : PaymentReport) :
    Except Refusal (ListingId × Listing × Option (AttemptId × CheckoutAttempt)) := do
  let attempt ← reportAttempt s tenant report.checkoutAttemptId
  let listing ← reportListing s tenant report.listingId
  let publicId ← listingOf attempt listing
  match s.listings publicId with
  | some l => .ok (publicId,l,attempt)
  | none => .error .unknownListing

def reportTier (tiers : Tiers) (key : String) : Except Refusal (Option TierId) :=
  if key = "" then .ok none
  else match tiers.byKey key with
    | some tier => .ok (some tier)
    | none => .error .unknownTier

def reportTrigger (tiers : Tiers) (publicId : ListingId) (ent : Option Entitlement)
    (attempt : Option CheckoutAttempt) (report : PaymentReport) :
    Except Refusal (Trigger × Params × Payload) :=
  let status := (ent.map (·.status)).getD .none
  let ref := report.paymentRef
  let cur := if report.currency = "" then
    (attempt.map (fun a => (tiers.row a.tier).currency)).getD "" else report.currency
  match report.kind with
  | .checkoutCompleted =>
      match attempt with
      | none => throw .unknownCheckout
      | some a =>
          if a.status ≠ .started then throw .checkoutAlreadyCompleted
          else
            let plan := (tiers.row a.tier).key
            match report.trialEndsAt,report.periodEnd with
            | some trialEndsAt,periodEnd =>
                pure (.startTrial,{tier := some a.tier,trialEndsAt := some trialEndsAt,paymentRef := ref},
                  .billingSubscriptionStarted publicId (externalId ref) plan (periodEnd.getD trialEndsAt))
            | none,some periodEnd =>
                pure (.start,{tier := some a.tier,periodEnd := some periodEnd,paymentRef := ref},
                  .billingSubscriptionStarted publicId (externalId ref) plan periodEnd)
            | none,none => throw .badReport
  | .paymentSucceeded =>
      match report.periodEnd with
      | none => throw .badReport
      | some periodEnd =>
          let data := Payload.billingPaymentSucceeded publicId report.amountMinor cur report.invoiceRef
          if status = .none ∨ status = .expired then
            -- the first invoice can arrive before the checkout completion
            match attempt with
            | none => throw .noEntitlement
            | some a =>
                if a.status ≠ .started then throw .noEntitlement
                else pure (.start,{tier := some a.tier,periodEnd := some periodEnd,paymentRef := ref},data)
          else do
            let tier ← reportTier tiers report.tierKey
            pure (.paymentSucceeded,{tier := tier,periodEnd := some periodEnd,paymentRef := ref},data)
  | .paymentFailed =>
      pure (.paymentFailed,{failureCode := report.failureCode,attempt := report.attempt},
        .billingPaymentFailed publicId report.attempt report.failureCode report.nextRetryAt)
  | .refunded => pure (.refund,{},.billingRefundIssued publicId report.amountMinor cur report.reason)
  | .subscriptionChanged =>
      match report.periodEnd with
      | none => throw .badReport
      | some periodEnd => do
          if report.tierKey = "" then throw .badReport
          match ← reportTier tiers report.tierKey with
          | none => throw .unknownTier
          | some new =>
              pure (.paymentSucceeded,{tier := some new,periodEnd := some periodEnd,paymentRef := ref},
                .billingSubscriptionChanged publicId (ent.map (fun e => (tiers.row e.tier).key))
                  (tiers.row new).key)
  | .subscriptionCanceled =>
      let by_ (other : String) := if report.canceledBy = "" then other else report.canceledBy
      let data := Payload.billingSubscriptionCanceled publicId report.atPeriodEnd report.reason (by_ "provider")
      if report.atPeriodEnd then
        pure (.cancel,{canceledBy := some (by_ "owner"),reason := some report.reason},data)
      else pure (.subscriptionEnded,{},data)
  | .unknown _ _ => throw .unknownKind

def receiptFor (tenant : TenantId) (adapter : AdapterId) (report : PaymentReport)
    (outcome : ReceiptOutcome) (reason : String) (listing : Option ListingId) : PaymentReceipt :=
  {tenant := tenant
   adapterId := adapter.name
   externalEventId := clip 200 report.externalEventId
   kind := clip 40 report.kind.value
   listing := listing
   outcome := outcome
   reason := clip 60 reason}

def PaymentReceipt.sameEvent (a b : PaymentReceipt) : Bool :=
  a.tenant = b.tenant ∧ a.adapterId = b.adapterId ∧ a.externalEventId = b.externalEventId

def completed (a : CheckoutAttempt) (report : PaymentReport) (now : Time) : CheckoutAttempt :=
  {a with
    status := .completed
    completedAt := some now
    externalRef := if a.externalRef = "" then clip 200 (externalId report.paymentRef) else a.externalRef}

-- A purchase the machine refused still finishes its attempt.
def finishedOnRefusal (attempt : Option AttemptId) (kind : ReportKind) : Failure → Option ApplyError
  | .invalidTransition _ _ => some (.refused .invalidTransition
      (if kind = .checkoutCompleted ∨ kind = .paymentSucceeded then attempt else none))
  | .entitlementError _ => some (.refused .badReport none)
  | _ => none

def starts : List Trigger := [.start,.startTrial]

def concludeReport (s : Store) (tenant : TenantId) (adapter : AdapterId) (report : PaymentReport)
    (now : Time) (publicId : ListingId) (attempt : Option (AttemptId × CheckoutAttempt)) (trigger : Trigger)
    (data : Payload) : Store :=
  let s := match attempt with
    | some (id,a) => if trigger ∈ starts then s.setAttempt id (completed a report now) else s
    | none => s
  let event := ⟨tenant,publicId,reportActor adapter,adapter.name,data⟩
  {s with
    receipts := s.receipts ++ [receiptFor tenant adapter report .applied "" (some publicId)]
    outbox := s.outbox ++ [event]}

def applyResolved (cfg : Config) (s : Store) (tenant : TenantId) (adapter : AdapterId)
    (report : PaymentReport) (now : Time) (publicId : ListingId)
    (attempt : Option (AttemptId × CheckoutAttempt)) : Except ApplyError Store :=
  let ent := (s.entitlements publicId).map (·.toEntitlement)
  match reportTrigger (cfg.tiers tenant) publicId ent (attempt.map (·.2)) report with
  | .error reason => .error (.refused reason none)
  | .ok (trigger,params,data) =>
      match applyTrigger cfg s publicId trigger now (reportActor adapter) adapter.name params with
      | .error f => .error ((finishedOnRefusal (attempt.map (·.1)) report.kind f).getD (.failed f))
      | .ok (s',_) => .ok (concludeReport s' tenant adapter report now publicId attempt trigger data)

-- The receipt is tried first: another delivery of the same event stops there.
def applyReport (cfg : Config) (s : Store) (tenant : TenantId) (adapter : AdapterId)
    (report : PaymentReport) (now : Time) : Except ApplyError Store :=
  if report.kind.value ∉ reportKinds then .error (.refused .unknownKind none)
  else if report.externalEventId = "" then .error (.refused .badReport none)
  else if s.receipts.any ((receiptFor tenant adapter report .applied "" none).sameEvent ·) then
    .error (.failed .integrityError)
  else match resolve s tenant report with
    | .error reason => .error (.refused reason none)
    | .ok (publicId,_,attempt) => applyResolved cfg s tenant adapter report now publicId attempt

def Store.logged (s : Store) (tenant : TenantId) (key : String) (outcome : Option LogOutcome)
    (replay : Bool) : Store :=
  {s with log := s.log ++ [⟨reportCommand,tenant,some key,outcome,replay⟩]}

-- The receipt of an ignored report; one that is there already stays.
def Store.ignore (s : Store) (tenant : TenantId) (adapter : AdapterId) (report : PaymentReport)
    (reason : Refusal) : Store :=
  let receipt := receiptFor tenant adapter report .ignored reason.value none
  if s.receipts.any (receipt.sameEvent ·) then s else {s with receipts := s.receipts ++ [receipt]}

def Store.finish (s : Store) (attempt : Option AttemptId) (now : Time) : Store :=
  match attempt with
  | none => s
  | some id =>
      match s.attempts id with
      | none => s
      | some a =>
          if a.status = .started then s.setAttempt id {a with status := .completed,completedAt := some now}
          else s

def appliedBefore (s : Store) (tenant : TenantId) (key : String) : Bool :=
  s.log.any (fun row => row.command = reportCommand ∧ row.tenant = tenant ∧
    row.idempotencyKey = some key ∧ row.outcome = some .applied)

def receiptExists (s : Store) (tenant : TenantId) (adapter : AdapterId) (report : PaymentReport) : Bool :=
  s.receipts.any (fun row => row.tenant = tenant ∧ row.adapterId = adapter.name ∧
    row.externalEventId = report.externalEventId)

def concludeCommand (s : Store) (tenant : TenantId) (adapter : AdapterId) (report : PaymentReport)
    (now : Time) : Except ApplyError Store → Store × Answer
  | .ok s' => (s'.logged tenant (reportKey adapter report) (some .applied) false,.applied)
  -- taken for another delivery of the same event, whatever the constraint
  | .error (.failed .integrityError) =>
      (s.logged tenant (reportKey adapter report) (some .applied) true,.replayed)
  | .error (.failed f) => (s.logged tenant (reportKey adapter report) none false,.raised f)
  | .error (.refused reason attempt) =>
      (((s.logged tenant (reportKey adapter report) (some .rejected) false).ignore tenant adapter report
        reason).finish attempt now,.ignored reason)

-- The command. It always answers: an error the caller sees is an answer too.
def reportPayment (cfg : Config) (s : Store) (tenant : TenantId) (adapter : AdapterId)
    (report : PaymentReport) (now : Time) : Store × Answer :=
  let key := reportKey adapter report
  if appliedBefore s tenant key then (s.logged tenant key (some .applied) true,.replayed)
  else if receiptExists s tenant adapter report then (s,.replayed)
  -- the received row's key column
  else if 200 < key.length then (s,.raised .dataError)
  else concludeCommand s tenant adapter report now (applyReport cfg s tenant adapter report now)

end Osds.Billing

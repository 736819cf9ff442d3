import Osds.Adapters.Stripe
import Osds.Billing.Reports
import Osds.Lib.Outcomes
import Osds.Tenants.SettingsSaves

namespace Osds.Adapters.StripeEvents
open Billing (PaymentReport ReportKind PaymentRef clip)
open Directory (Time)
open Tenants.SettingsSaves (Fields truthy)

def ADAPTER_ID : String := "stripe"

-- What ends a handler early: Stripe refusing, a secret that is not there, or an error.
-- A field of another type than Stripe's own makes one here.
inductive Trouble where
  | notFound
  | paymentError
  | secretNotFound
  | raised
  deriving DecidableEq

abbrev Reading := Except Trouble

section read

def orDict (value : Option Json) : Reading Fields :=
  if truthy value then match value with
    | some (.obj fields) => .ok fields
    | _ => .error .raised
  else .ok []

def orText (value : Option Json) : Reading String :=
  if truthy value then match value with
    | some (.str text) => .ok text
    | _ => .error .raised
  else .ok ""

def idOf : Option Json → Reading String
  | some (.obj fields) => orText (fields.lookup "id")
  | value => orText value

def orList : Option Json → Reading (List Json)
  | none => .ok []
  | some (.arr items) => .ok items
  | some _ => .error .raised

def asDict : Json → Reading Fields
  | .obj fields => .ok fields
  | _ => .error .raised

def orInt : Option Json → Reading (Option Int)
  | none | some .null => .ok none
  | some (.num n) => if n.den = 1 then .ok (some n.num) else .error .raised
  | some _ => .error .raised

def EARLIEST : Int := -62135596800
def LATEST : Int := 253402300799

def fromTimestamp (seconds : Int) : Reading (Option Time) :=
  if seconds < EARLIEST ∨ LATEST < seconds then .error .raised else .ok (some (seconds*1000000))

variable (other : Char → Option (Fin 10))

def ts : Option Json → Reading (Option Time)
  | none | some .null | some (.str "") | some (.bool false) => .ok none
  | some (.bool true) => fromTimestamp 1
  | some (.num n) => if n = 0 then .ok none else fromTimestamp (n.num.tdiv n.den)
  | some (.str text) => match Numerals.integer other text with
      | some seconds => fromTimestamp seconds
      | none => .error .raised
  | some _ => .error .raised

def latest (ends : List (Option Json)) : Reading (Option Json) :=
  (ends.filter truthy).foldlM (fun best value => match best,value with
    | none,some (.num n) => .ok (some (.num n))
    | some (.num m),some (.num n) => .ok (some (.num (if m < n then n else m)))
    | _,_ => .error .raised) none

end read

def ref (subscriptionId customerId : String) : PaymentRef :=
  [("adapter",ADAPTER_ID),("external_id",subscriptionId)] ++ if customerId = "" then [] else [("customer",customerId)]

section fields

variable (other : Char → Option (Fin 10))

def parentDetails (obj : Fields) : Reading Fields := do
  let parent ← orDict (obj.lookup "parent")
  orDict (parent.lookup "subscription_details")

def subId (obj : Fields) : Reading String := do
  let value ← if truthy (obj.lookup "subscription") then pure (obj.lookup "subscription")
    else (parentDetails obj).map fun details => details.lookup "subscription"
  idOf value

def invoiceMetadata (invoice : Fields) : Reading Fields := do
  let details ← orDict (invoice.lookup "subscription_details")
  if truthy (details.lookup "metadata") then orDict (details.lookup "metadata")
  else do
    let details ← parentDetails invoice
    orDict (details.lookup "metadata")

def periodEnd (subscription : Fields) : Reading (Option Time) := do
  if truthy (subscription.lookup "current_period_end") then ts other (subscription.lookup "current_period_end")
  else do
    let items ← orDict (subscription.lookup "items")
    let items ← (← orList (items.lookup "data")).mapM asDict
    ts other (← latest (items.map (·.lookup "current_period_end")))

def invoicePeriodEnd (invoice : Fields) : Reading (Option Time) := do
  let lines ← orDict (invoice.lookup "lines")
  let lines ← (← orList (lines.lookup "data")).mapM asDict
  let ends ← lines.mapM fun line => (orDict (line.lookup "period")).map (·.lookup "end")
  let last ← latest ends
  ts other (if truthy last then last else invoice.lookup "period_end")

def metaIds (metadata : Fields) : Reading (String × String) := do
  pure (← orText (metadata.lookup "attempt_id"),← orText (metadata.lookup "listing_id"))

end fields

structure ApiAnswer where
  status : Int
  data : Json

def answered (answer : ApiAnswer) : Reading Fields :=
  if 200 ≤ answer.status ∧ answer.status < 300 then match answer.data with
    | .obj fields => .ok fields
    | _ => .error .paymentError
  else match answer.data with
    | .obj fields => match fields.lookup "error" with
        | none => .error .paymentError
        | some (.obj error) =>
            .error (if answer.status = 404 ∧ error.lookup "code" = some (.str "resource_missing") then .notFound else .paymentError)
        | some _ => .error .raised
    | _ => .error .paymentError

def pathId (start value : String) : Reading String :=
  let tail := value.toList.drop (start.length+1)
  if (start ++ "_").toList.isPrefixOf value.toList ∧ tail ≠ [] ∧ tail.all Char.isAlphanum then .ok value else .error .paymentError

-- What Stripe is asked for, by its path and its query. The secret key may be missing,
-- and the call itself may fail.
abbrev Client := String → Fields → Reading ApiAnswer

section client

variable (client : Client)

def get (path : String) (query : Fields) : Reading Fields := do
  answered (← client path query)

def fetchSubscription (id : String) : Reading Fields := do
  get client ("subscriptions/" ++ (← pathId "sub" id)) []

end client

def parsePriceIds (raw : String) : List (String × String) :=
  (Text.split ',' raw).foldl (fun out element => match Text.partition '=' element with
    | (key,some value) => if Text.strip key ≠ "" ∧ Text.strip value ≠ "" then Dict.set out (Text.strip key,some (Text.strip value)) else out
    | (_,none) => out) []

def tierForPrice (priceIds price : String) : String :=
  (((parsePriceIds priceIds).find? fun item => item.2 = price).map Prod.fst).getD ""

structure StripeEvent where
  id : String
  type : String
  object : Fields
  -- event["data"].get("previous_attributes")
  previous : Option Json

section handlers

variable (other : Char → Option (Fin 10)) (upper : String → String) (client : Client) (priceIds : String) (event : StripeEvent)

def checkoutCompleted : Reading (List PaymentReport) := do
  let session := event.object
  if session.lookup "mode" ≠ some (.str "subscription") then return []
  let metadata ← orDict (session.lookup "metadata")
  let attempt ← orText (if truthy (session.lookup "client_reference_id") then session.lookup "client_reference_id"
    else metadata.lookup "attempt_id")
  if attempt = "" then return []
  let sub ← idOf (session.lookup "subscription")
  if sub = "" then return []
  let customer ← idOf (session.lookup "customer")
  let subscription ← fetchSubscription client sub
  let listing ← orText (metadata.lookup "listing_id")
  let base : PaymentReport := {
    kind := .checkoutCompleted,externalEventId := event.id,checkoutAttemptId := attempt,listingId := listing,paymentRef := ref sub customer}
  if subscription.lookup "status" = some (.str "trialing") ∧ truthy (subscription.lookup "trial_end") then
    let trial ← ts other (subscription.lookup "trial_end")
    let end_ ← periodEnd other subscription
    return [{base with trialEndsAt := trial,periodEnd := end_}]
  match ← periodEnd other subscription with
  | none => .error .paymentError
  | some end_ => return [{base with periodEnd := some end_}]

def contextForInvoice (invoice : Fields) : Reading (String × String × String) := do
  let sub ← subId invoice
  let (attempt,listing) ← metaIds (← invoiceMetadata invoice)
  if sub ≠ "" ∧ attempt = "" ∧ listing = "" then
    match fetchSubscription client sub with
    | .error .notFound => pure (sub,attempt,listing)
    | .error trouble => .error trouble
    | .ok subscription => (orDict (subscription.lookup "metadata") >>= metaIds).map fun ids => (sub,ids)
  else pure (sub,attempt,listing)

def invoicePaid : Reading (List PaymentReport) := do
  let invoice := event.object
  let (sub,attempt,listing) ← contextForInvoice client invoice
  if attempt = "" ∧ listing = "" then return []
  let amount ← orInt (invoice.lookup "amount_paid")
  if amount = some 0 ∧ invoice.lookup "billing_reason" = some (.str "subscription_create") then return []
  match ← invoicePeriodEnd other invoice with
  | none => .error .paymentError
  | some end_ => do
      let customer ← idOf (invoice.lookup "customer")
      let currency ← orText (invoice.lookup "currency")
      let invoiceId ← orText (invoice.lookup "id")
      return [{kind := .paymentSucceeded,externalEventId := event.id,checkoutAttemptId := attempt,listingId := listing
               periodEnd := some end_,paymentRef := ref sub customer,amountMinor := amount,currency := upper currency
               invoiceRef := invoiceId}]

def invoiceFailed : Reading (List PaymentReport) := do
  let invoice := event.object
  let (sub,attempt,listing) ← contextForInvoice client invoice
  if attempt = "" ∧ listing = "" then return []
  let count ← orInt (invoice.lookup "attempt_count")
  let retry ← ts other (invoice.lookup "next_payment_attempt")
  return [{kind := .paymentFailed,externalEventId := event.id,checkoutAttemptId := attempt,listingId := listing
           failureCode := "invoice_payment_failed",attempt := count,nextRetryAt := retry,paymentRef := ref sub ""}]

def firstPrice (sub : Fields) : Reading String := do
  let items ← orDict (sub.lookup "items")
  match ← orList (items.lookup "data") with
  | [] => pure ""
  | first :: _ => do
      let price ← orDict ((← asDict first).lookup "price")
      orText (price.lookup "id")

def reasonOf (sub : Fields) : Reading String := do
  let details ← orDict (sub.lookup "cancellation_details")
  (orText (details.lookup "reason")).map (clip 100)

def subscriptionUpdated : Reading (List PaymentReport) := do
  let sub := event.object
  let previous ← orDict event.previous
  let (attempt,listing) ← metaIds (← orDict (sub.lookup "metadata"))
  if attempt = "" ∧ listing = "" then return []
  let customer ← idOf (sub.lookup "customer")
  let id ← orText (sub.lookup "id")
  let base (kind : ReportKind) : PaymentReport :=
    {kind := kind,externalEventId := event.id,checkoutAttemptId := attempt,listingId := listing,paymentRef := ref id customer}
  if (previous.lookup "cancel_at_period_end").isSome then
    if truthy (sub.lookup "cancel_at_period_end") then
      let reason ← reasonOf sub
      return [{base .subscriptionCanceled with atPeriodEnd := true,canceledBy := "owner",reason := reason}]
    match ← periodEnd other sub with
    | none => .error .paymentError
    | some end_ => return [{base .paymentSucceeded with periodEnd := some end_}]
  if (previous.lookup "items").isSome then
    let tier := tierForPrice priceIds (← firstPrice sub)
    let end_ ← periodEnd other sub
    if tier ≠ "" ∧ end_.isSome then return [{base .subscriptionChanged with tierKey := tier,periodEnd := end_}]
  return []

def subscriptionDeleted : Reading (List PaymentReport) := do
  let sub := event.object
  let (attempt,listing) ← metaIds (← orDict (sub.lookup "metadata"))
  if attempt = "" ∧ listing = "" then return []
  let reason ← reasonOf sub
  let id ← orText (sub.lookup "id")
  return [{kind := .subscriptionCanceled,externalEventId := event.id,checkoutAttemptId := attempt,listingId := listing
           atPeriodEnd := false,canceledBy := "provider",reason := reason,paymentRef := ref id ""}]

def refundOf (charge : Fields) (customer : String) : List Json → Reading (List PaymentReport)
  | [] => pure []
  | first :: rest => do
      let sub ← asDict first
      let (attempt,listing) ← metaIds (← orDict (sub.lookup "metadata"))
      if attempt = "" ∧ listing = "" then refundOf charge customer rest
      else do
        let amount ← orInt (charge.lookup "amount_refunded")
        let currency ← orText (charge.lookup "currency")
        let id ← orText (sub.lookup "id")
        return [{kind := .refunded,externalEventId := event.id,checkoutAttemptId := attempt,listingId := listing
                 amountMinor := amount,currency := upper currency,reason := "refunded",paymentRef := ref id customer}]

def chargeRefunded : Reading (List PaymentReport) := do
  let charge := event.object
  if ¬truthy (charge.lookup "refunded") then return []
  let customer ← idOf (charge.lookup "customer")
  if customer = "" then return []
  let found ← get client "subscriptions" [("customer",.str customer),("status",.str "all"),("limit",.num 10)]
  refundOf upper event charge customer (← orList (found.lookup "data"))

def mapEvent : Reading (List PaymentReport) :=
  match event.type with
  | "checkout.session.completed" => checkoutCompleted other client event
  | "invoice.paid" => invoicePaid other upper client event
  | "invoice.payment_failed" => invoiceFailed other client event
  | "customer.subscription.updated" => subscriptionUpdated other priceIds event
  | "customer.subscription.deleted" => subscriptionDeleted event
  | "charge.refunded" => chargeRefunded upper client event
  | _ => pure []

end handlers

-- What core needs of a report: its event, something to find the listing by, and the
-- dates that go with its kind.
structure Formed (event : StripeEvent) (report : PaymentReport) : Prop where
  id : report.externalEventId = event.id
  found : report.checkoutAttemptId ≠ "" ∨ report.listingId ≠ ""
  dated : match report.kind with
    | .checkoutCompleted => report.checkoutAttemptId ≠ "" ∧ (report.trialEndsAt.isSome ∨ report.periodEnd.isSome)
    | .paymentSucceeded => report.periodEnd.isSome
    | .subscriptionChanged => report.periodEnd.isSome ∧ report.tierKey ≠ ""
    | .unknown _ _ => False
    | _ => True

def Single (event : StripeEvent) (reports : List PaymentReport) : Prop := reports = [] ∨ ∃ report, reports = [report] ∧ Formed event report

section single

open Fallible

variable (other : Char → Option (Fin 10)) (upper : String → String) (client : Client) (priceIds : String) (event : StripeEvent)

theorem single_none : Single event [] := Or.inl rfl

theorem single_of {event : StripeEvent} {report : PaymentReport} (formed : Formed event report) : Single event [report] := Or.inr ⟨report,rfl,formed⟩

theorem found_of {attempt listing : String} (some_ : ¬(attempt = "" ∧ listing = "")) : attempt ≠ "" ∨ listing ≠ "" := by
  by_cases empty : attempt = ""
  · exact Or.inr fun none_ => some_ ⟨empty,none_⟩
  · exact Or.inl empty

theorem fromTimestamp_some (read : fromTimestamp seconds = .ok found) : found.isSome = true := by
  unfold fromTimestamp at read
  split at read
  · cases read
  · cases read
    rfl

theorem ts_truthy {value : Option Json} (some_ : truthy value = true) (read : ts other value = .ok found) : found.isSome = true := by
  cases value with
  | none => cases some_
  | some value =>
      cases value with
      | null => cases some_
      | bool b =>
          cases b with
          | false => cases some_
          | true => exact fromTimestamp_some read
      | num n =>
          have nonzero : n ≠ 0 := by simpa [truthy] using some_
          simp only [ts,if_neg nonzero] at read
          exact fromTimestamp_some read
      | instant t => simp [ts] at read
      | str text =>
          have nonempty : text ≠ "" := by simpa [truthy] using some_
          simp only [ts] at read
          split at read
          · exact fromTimestamp_some read
          · cases read
      | arr items => simp [ts] at read
      | obj fields => simp [ts] at read

theorem checkoutCompleted_single : Gives (Single event) (checkoutCompleted other client event) := by
  unfold checkoutCompleted
  refine gives_ite (fun _ => gives_pure (single_none event)) fun _ => gives_bind fun metadata _ => gives_bind fun attempt _ => ?_
  refine gives_ite (fun _ => gives_pure (single_none event)) fun some_ => gives_bind fun sub _ => ?_
  refine gives_ite (fun _ => gives_pure (single_none event)) fun _ => ?_
  refine gives_bind fun customer _ => gives_bind fun subscription _ => gives_bind fun listing _ => ?_
  refine gives_ite (fun trialing => ?_) fun _ => gives_bind fun end_ _ => ?_
  · refine gives_bind fun trial read => gives_bind fun end_ _ => gives_pure (single_of ⟨rfl,Or.inl some_,some_,Or.inl ?_⟩)
    exact ts_truthy other trialing.2 read
  · cases end_ with
    | none => exact gives_error _
    | some end_ => exact gives_pure (single_of ⟨rfl,Or.inl some_,some_,Or.inr rfl⟩)

theorem invoicePaid_single : Gives (Single event) (invoicePaid other upper client event) := by
  unfold invoicePaid
  refine gives_bind fun ids _ => gives_ite (fun _ => gives_pure (single_none event)) fun some_ => gives_bind fun amount _ => ?_
  refine gives_ite (fun _ => gives_pure (single_none event)) fun _ => gives_bind fun end_ _ => ?_
  cases end_ with
  | none => exact gives_error _
  | some end_ =>
      refine gives_bind fun customer _ => gives_bind fun currency _ => gives_bind fun id _ => ?_
      exact gives_pure (single_of ⟨rfl,found_of some_,rfl⟩)

theorem invoiceFailed_single : Gives (Single event) (invoiceFailed other client event) := by
  unfold invoiceFailed
  refine gives_bind fun ids _ => gives_ite (fun _ => gives_pure (single_none event)) fun some_ => ?_
  exact gives_bind fun count _ => gives_bind fun retry _ => gives_pure (single_of ⟨rfl,found_of some_,trivial⟩)

theorem subscriptionUpdated_single : Gives (Single event) (subscriptionUpdated other priceIds event) := by
  unfold subscriptionUpdated
  refine gives_bind fun previous _ => gives_bind fun metadata _ => gives_bind fun ids _ => ?_
  refine gives_ite (fun _ => gives_pure (single_none event)) fun some_ => gives_bind fun customer _ => gives_bind fun id _ => ?_
  refine gives_ite (fun _ => ?_) fun _ => gives_ite (fun _ => ?_) fun _ => gives_pure (single_none event)
  · refine gives_ite (fun _ => ?_) fun _ => gives_bind fun end_ _ => ?_
    · exact gives_bind fun reason _ => gives_pure (single_of ⟨rfl,found_of some_,trivial⟩)
    · cases end_ with
      | none => exact gives_error _
      | some end_ => exact gives_pure (single_of ⟨rfl,found_of some_,rfl⟩)
  · refine gives_bind fun price _ => gives_bind fun end_ _ => ?_
    refine gives_ite (fun sold => ?_) fun _ => gives_pure (single_none event)
    exact gives_pure (single_of ⟨rfl,found_of some_,sold.2,sold.1⟩)

theorem subscriptionDeleted_single : Gives (Single event) (subscriptionDeleted event) := by
  unfold subscriptionDeleted
  refine gives_bind fun metadata _ => gives_bind fun ids _ => ?_
  refine gives_ite (fun _ => gives_pure (single_none event)) fun some_ => ?_
  exact gives_bind fun reason _ => gives_bind fun id _ => gives_pure (single_of ⟨rfl,found_of some_,trivial⟩)

theorem refundOf_single (charge : Fields) (customer : String) (subs : List Json) :
    Gives (Single event) (refundOf upper event charge customer subs) := by
  induction subs with
  | nil => exact gives_pure (single_none event)
  | cons sub rest ih =>
      unfold refundOf
      refine gives_bind fun sub _ => gives_bind fun metadata _ => gives_bind fun ids _ => gives_ite (fun _ => ih) fun some_ => ?_
      refine gives_bind fun amount _ => gives_bind fun currency _ => gives_bind fun id _ => ?_
      exact gives_pure (single_of ⟨rfl,found_of some_,trivial⟩)

theorem chargeRefunded_single : Gives (Single event) (chargeRefunded upper client event) := by
  unfold chargeRefunded
  refine gives_ite (fun _ => gives_pure (single_none event)) fun _ => gives_bind fun customer _ => ?_
  refine gives_ite (fun _ => gives_pure (single_none event)) fun _ => gives_bind fun found _ => gives_bind fun subs _ => ?_
  exact refundOf_single upper event event.object customer subs

-- Every event makes at most one report, and core can read it.
theorem mapEvent_single : Gives (Single event) (mapEvent other upper client priceIds event) := by
  unfold mapEvent
  split
  · exact checkoutCompleted_single other client event
  · exact invoicePaid_single other upper client event
  · exact invoiceFailed_single other client event
  · exact subscriptionUpdated_single other priceIds event
  · exact subscriptionDeleted_single event
  · exact chargeRefunded_single upper client event
  · exact gives_pure (single_none event)

end single

end Osds.Adapters.StripeEvents

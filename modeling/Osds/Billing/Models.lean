import Osds.Directory.Listings
import Osds.Directory.Slug

namespace Osds.Billing
open Directory Audit

def day : Time := 86400000000

def clip (n : Nat) (text : String) : String := String.ofList (text.toList.take n)

inductive Interval where
  | month | year
  deriving DecidableEq, Repr

-- A tenant-configured placement level. The two fields are the row's check
-- constraints: the fallback tier is the free one, and a tier that can be bought
-- says what it costs and how often.
structure Tier where
  key : String
  name : String
  rank : Nat
  purchasable : Bool
  usesSlot : Bool
  priceMinor : Option Nat
  currency : String
  interval : Option Interval
  trialDays : Option Nat
  free : rank = 0 → purchasable = false
  priced : purchasable → (∃ price ∈ priceMinor, 0 < price) ∧ currency ≠ "" ∧ interval.isSome

structure Tiers where
  ids : List TierId
  row : TierId → Tier
  keyUnique : ∀ a ∈ ids, ∀ b ∈ ids, (row a).key = (row b).key → a = b
  rankUnique : ∀ a ∈ ids, ∀ b ∈ ids, (row a).rank = (row b).rank → a = b

def Tiers.byKey (tiers : Tiers) (key : String) : Option TierId :=
  tiers.ids.find? (fun id => (tiers.row id).key = key)

def Tiers.rank0 (tiers : Tiers) : Option TierId :=
  tiers.ids.find? (fun id => (tiers.row id).rank = 0)

inductive Status where
  | none | trialing | active | pastDue | grace | expired | canceled | comped
  deriving DecidableEq, Repr

def Status.value : Status → String
  | .none => "none"
  | .trialing => "trialing"
  | .active => "active"
  | .pastDue => "past_due"
  | .grace => "grace"
  | .expired => "expired"
  | .canceled => "canceled"
  | .comped => "comped"

def Status.all : List Status :=
  [.none,.trialing,.active,.pastDue,.grace,.expired,.canceled,.comped]

def Status.ofValue (text : String) : Option Status := Status.all.find? (·.value = text)

inductive BillingMode where
  | recurring | term | comp | none
  deriving DecidableEq, Repr

def BillingMode.value : BillingMode → String
  | .recurring => "recurring"
  | .term => "term"
  | .comp => "comp"
  | .none => "none"

abbrev PaymentRef := List (String × String)

-- Tier and period state of one listing, as a draft no column has checked yet.
structure Entitlement where
  tier : TierId
  status : Status
  billingMode : BillingMode
  termDays : Option Int
  startedAt : Option Time
  currentPeriodEnd : Option Time
  trialEndsAt : Option Time
  dunningStartedAt : Option Time
  graceEndsAt : Option Time
  cancelAtPeriodEnd : Bool
  dunningEndsAt : Option Time
  failedAttempts : Int
  lastFailureCode : String
  canceledAt : Option Time
  canceledBy : String
  renewalNotifiedAt : Option Time
  hiddenByExpiry : Bool
  compGrantedBy : Option String
  compReason : String
  compExpiresAt : Option Time
  paymentRef : PaymentRef
  deriving DecidableEq, Repr

def smallint (n : Int) : Prop := -32768 ≤ n ∧ n ≤ 32767

instance : Decidable (smallint n) := inferInstanceAs (Decidable (_ ∧ _))

def Entitlement.Representable (e : Entitlement) : Prop :=
  smallint e.failedAttempts ∧ (∀ n ∈ e.termDays, smallint n) ∧
    e.lastFailureCode.length ≤ 100 ∧ e.canceledBy.length ≤ 20

def Entitlement.NonNegative (e : Entitlement) : Prop :=
  0 ≤ e.failedAttempts ∧ ∀ n ∈ e.termDays, 0 ≤ n

instance (e : Entitlement) : Decidable e.Representable :=
  inferInstanceAs (Decidable (_ ∧ _ ∧ _ ∧ _))

instance (e : Entitlement) : Decidable e.NonNegative :=
  inferInstanceAs (Decidable (_ ∧ _))

structure EntitlementRow extends Entitlement where
  representable : toEntitlement.Representable
  nonNegative : toEntitlement.NonNegative
  deriving DecidableEq

-- The absence of a row is the status `none`.
def statusOf (seen : Option EntitlementRow) : Status := (seen.map (·.status)).getD .none

inductive AttemptStatus where
  | started | completed | failed
  deriving DecidableEq, Repr

abbrev AttemptId := String

structure CheckoutAttempt where
  tenant : TenantId
  listing : ListingId
  tier : TierId
  status : AttemptStatus
  adapterId : String
  externalRef : String
  startedBy : Option String
  expiresAt : Time
  completedAt : Option Time
  deriving DecidableEq, Repr

structure AdapterId where
  name : String
  slug : isSlug name.toList
  short : name.length ≤ 50
  deriving DecidableEq

inductive ReceiptOutcome where
  | applied | ignored
  deriving DecidableEq, Repr

structure PaymentReceipt where
  tenant : TenantId
  adapterId : String
  externalEventId : String
  kind : String
  listing : Option ListingId
  outcome : ReceiptOutcome
  reason : String
  deriving DecidableEq, Repr

inductive LogOutcome where
  | applied | rejected | blocked
  deriving DecidableEq, Repr

structure CommandLog where
  command : String
  tenant : TenantId
  idempotencyKey : Option String
  outcome : Option LogOutcome
  replay : Bool
  deriving DecidableEq, Repr

structure OutboundMessage where
  tenant : TenantId
  kind : String
  toAddress : String
  subject : String
  expiresAt : Time
  deriving DecidableEq, Repr

-- What does not change while payments run: each tenant's tiers, and the public
-- id an entitlement row of a listing bears.
structure Config where
  tiers : TenantId → Tiers
  entitlementId : ListingId → String

-- The tables. A listing has at most one entitlement row; `created` lists the
-- listings that have one in the order of the rows' primary keys.
structure Store where
  listings : ListingId → Option Listing
  entitlements : ListingId → Option EntitlementRow
  created : List ListingId
  attempts : AttemptId → Option CheckoutAttempt
  receipts : List PaymentReceipt
  log : List CommandLog
  outbox : List OutboxEvent
  mail : List OutboundMessage

end Osds.Billing

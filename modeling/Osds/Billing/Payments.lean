import Osds.Billing.Entitlements
import Osds.Lib.Fallible

namespace Osds.Billing
open Directory Audit

def checkoutTtl : Time := 24*3600*1000000

inductive PaymentRefused where
  | unavailable | notOwner | listingSuspended | tierUnknown | tierNotForSale
  | alreadySubscribed | usePortal
  deriving DecidableEq, Repr

def PaymentRefused.reason : PaymentRefused → String
  | .unavailable => "unavailable"
  | .notOwner => "not_owner"
  | .listingSuspended => "listing_suspended"
  | .tierUnknown => "tier_unknown"
  | .tierNotForSale => "tier_not_for_sale"
  | .alreadySubscribed => "already_subscribed"
  | .usePortal => "use_portal"

-- What the installation and the registered provider answer. `configured` is the
-- provider's own answer, `none` when a secret it needs is not there.
structure Site where
  provider : Option AdapterId
  verifiedDomain : TenantId → Option String
  configured : TenantId → Option Bool

def Site.available (site : Site) (tenant : TenantId) : Bool :=
  site.provider.isSome && (site.verifiedDomain tenant).isSome && (site.configured tenant).getD false

def Site.absoluteUrl (site : Site) (tenant : TenantId) (path : String) : String :=
  Directory.absoluteUrl (site.verifiedDomain tenant) path

def Interval.value : Interval → String
  | .month => "month"
  | .year => "year"

-- What the provider is handed: never the price's meaning, only its amount.
structure CheckoutRequest where
  attemptId : AttemptId
  listingId : ListingId
  listingName : String
  tierKey : String
  tierName : String
  priceMinor : Option Nat
  currency : String
  interval : String
  trialDays : Option Nat
  customerEmail : String
  successUrl : String
  cancelUrl : String
  deriving DecidableEq, Repr

def ownedListing (s : Store) (tenant : TenantId) (publicId : ListingId) (user : DirectoryUser) :
    Except PaymentRefused Listing :=
  match s.listings publicId with
  | none => throw .notOwner
  | some l =>
      if l.tenant ≠ tenant ∨ l.owner.map (·.id) ≠ some user.id then throw .notOwner
      else if l.status = .suspended then throw .listingSuspended
      else pure l

def forSale (t : Tier) : Bool := t.purchasable && t.rank ≠ 0 && !t.usesSlot

def checkoutGuard : Status → Except PaymentRefused Unit
  | .pastDue | .grace => .error .usePortal
  | .trialing | .active => .error .alreadySubscribed
  | .none | .expired | .canceled | .comped => .ok ()

def checkoutProvider (site : Site) (tenant : TenantId) : Except PaymentRefused AdapterId :=
  match site.provider with
  | some prov => if site.available tenant then .ok prov else .error .unavailable
  | none => .error .unavailable

def checkoutTier (tiers : Tiers) (tierKey : String) : Except PaymentRefused TierId :=
  match if tierKey = "" then none else tiers.byKey tierKey with
  | none => .error .tierUnknown
  | some tier => if forSale (tiers.row tier) then .ok tier else .error .tierNotForSale

def newAttempt (tenant : TenantId) (publicId : ListingId) (tier : TierId) (prov : AdapterId)
    (user : DirectoryUser) (now : Time) : CheckoutAttempt :=
  {tenant := tenant
   listing := publicId
   tier := tier
   status := .started
   adapterId := prov.name
   externalRef := ""
   startedBy := some user.id
   expiresAt := now+checkoutTtl
   completedAt := none}

def checkoutRequest (site : Site) (tenant : TenantId) (publicId : ListingId) (l : Listing) (row : Tier)
    (user : DirectoryUser) (attempt : AttemptId) : CheckoutRequest :=
  let base := "/owner/listings/" ++ publicId ++ "/billing/return/"
  {attemptId := attempt
   listingId := publicId
   listingName := l.name
   tierKey := row.key
   tierName := row.name
   priceMinor := row.priceMinor
   currency := row.currency
   interval := (row.interval.map Interval.value).getD ""
   trialDays := row.trialDays
   customerEmail := user.email
   successUrl := site.absoluteUrl tenant (base ++ "?checkout=success")
   cancelUrl := site.absoluteUrl tenant (base ++ "?checkout=cancel")}

def Store.setAttempt (s : Store) (attempt : AttemptId) (a : CheckoutAttempt) : Store :=
  {s with attempts := Function.update s.attempts attempt (some a)}

theorem setAttempt_self (s : Store) : (s.setAttempt attempt a).attempts attempt = some a :=
  Function.update_self ..

-- `attempt` is the new row's public id.
def prepare (cfg : Config) (site : Site) (s : Store) (tenant : TenantId) (publicId : ListingId)
    (user : DirectoryUser) (tierKey : String) (attempt : AttemptId) (now : Time) :
    Except PaymentRefused (Store × CheckoutRequest × AdapterId) := do
  let prov ← checkoutProvider site tenant
  let fresh ← ownedListing s tenant publicId user
  let tier ← checkoutTier (cfg.tiers tenant) tierKey
  checkoutGuard (statusOf (s.entitlements publicId))
  pure (s.setAttempt attempt (newAttempt tenant publicId tier prov user now),
    checkoutRequest site tenant publicId fresh ((cfg.tiers tenant).row tier) user attempt,prov)

def failAttempt (s : Store) (attempt : AttemptId) : Store :=
  match s.attempts attempt with
  | some a => s.setAttempt attempt {a with status := .failed}
  | none => s

def recordStarted (cfg : Config) (s : Store) (attempt : AttemptId) (externalRef : String) (actor : Actor) :
    Store :=
  match s.attempts attempt with
  | none => s
  | some a =>
      let row := (cfg.tiers a.tenant).row a.tier
      let event := ⟨a.tenant,a.listing,actor,"",
        .billingCheckoutStarted row.key a.listing row.priceMinor row.currency⟩
      {s.setAttempt attempt {a with externalRef := clip 200 externalRef} with outbox := s.outbox ++ [event]}

theorem prepare_exact : prepare cfg site s tenant publicId user tierKey attempt now = .ok (s',request,prov) ↔
    checkoutProvider site tenant = .ok prov ∧ ∃ fresh tier, ownedListing s tenant publicId user = .ok fresh ∧
      checkoutTier (cfg.tiers tenant) tierKey = .ok tier ∧
      checkoutGuard (statusOf (s.entitlements publicId)) = .ok () ∧
      s' = s.setAttempt attempt (newAttempt tenant publicId tier prov user now) ∧
      request = checkoutRequest site tenant publicId fresh ((cfg.tiers tenant).row tier) user attempt := by
  unfold prepare
  simp only [Fallible.bind_exact,Fallible.pure_exact,Prod.mk.injEq]
  constructor
  · intro accepted
    obtain ⟨_,configured,fresh,owned,tier,sold,_,open_,rfl,rfl,rfl⟩ := accepted
    exact ⟨configured,fresh,tier,owned,sold,open_,rfl,rfl⟩
  · intro accepted
    obtain ⟨configured,fresh,tier,owned,sold,open_,rfl,rfl⟩ := accepted
    exact ⟨prov,configured,fresh,owned,tier,sold,(),open_,rfl,rfl,rfl⟩

end Osds.Billing

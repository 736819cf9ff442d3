import Osds.Lib.Runs
import Osds.Billing.Payments
import Osds.Billing.Jobs
import Osds.Billing.ReportSteps

namespace Osds.Billing
open Directory Audit

-- Everything that writes the tables of payments, each step one transaction that
-- commits or leaves the tables as they were.
inductive Action where
  -- the directory adds a listing, or edits one
  | list (publicId : ListingId) (l : Listing)
  | edit (publicId : ListingId) (l : Listing)
  -- any caller of `apply_trigger`: a person, an operator, the clock
  | trigger (publicId : ListingId) (trigger : Trigger) (now : Time) (actor : Actor) (origin : String)
      (p : Params)
  | report (tenant : TenantId) (adapter : AdapterId) (report : PaymentReport) (now : Time)
  | prepare (tenant : TenantId) (publicId : ListingId) (user : DirectoryUser) (tierKey : String)
      (attempt : AttemptId) (now : Time)
  | recordStarted (attempt : AttemptId) (externalRef : String) (actor : Actor)
  | failAttempt (attempt : AttemptId)
  | renewal (publicId : ListingId) (now : Time)

def step (cfg : Config) (site : Site) (s : Store) : Action → Store
  | .list publicId l =>
      match s.listings publicId with
      | none => {s with listings := Function.update s.listings publicId (some {l with currentTier := none})}
      | some _ => s
  | .edit publicId l =>
      match s.listings publicId with
      | none => s
      | some old =>
          let edited := {l with tenant := old.tenant,currentTier := old.currentTier}
          {s with listings := Function.update s.listings publicId (some edited)}
  | .trigger publicId trigger now actor origin p =>
      match applyTrigger cfg s publicId trigger now actor origin p with
      | .ok (s',_) => s'
      | .error _ => s
  | .report tenant adapter report now => (reportPayment cfg s tenant adapter report now).1
  | .prepare tenant publicId user tierKey attempt now =>
      if (s.attempts attempt).isSome then s
      else match prepare cfg site s tenant publicId user tierKey attempt now with
        | .ok (s',_) => s'
        | .error _ => s
  | .recordStarted attempt externalRef actor => recordStarted cfg s attempt externalRef actor
  | .failAttempt attempt => failAttempt s attempt
  | .renewal publicId now => notifyRenewal cfg s publicId now

def Store.empty : Store :=
  {listings := fun _ => none
   entitlements := fun _ => none
   created := []
   attempts := fun _ => none
   receipts := []
   log := []
   outbox := []
   mail := []}

abbrev Reached (cfg : Config) (site : Site) : Store → Prop := Runs.Reached (step cfg site) (· = Store.empty)

theorem run_reached (cfg : Config) (site : Site) (actions : List Action) :
    Reached cfg site (Runs.run (step cfg site) Store.empty actions) := by
  have start : Reached cfg site Store.empty := .initial rfl
  exact Runs.reached_run (step cfg site) start actions

inductive Effect (cfg : Config) (s s' : Store) : Prop where
  | applied (publicId : ListingId) (l : Listing) (row : EntitlementRow) (trigger : Trigger) (now : Time)
      (actor : Actor) (origin : String) (p : Params) (m : Moved) (extra : List OutboxEvent)
      (present : s.listings publicId = some l)
      (opened : openRow (s.entitlements publicId) false trigger p = .ok row)
      (advanced : advance (cfg.tiers l.tenant) (cfg.entitlementId publicId) publicId row l trigger now actor
        origin p = .ok m)
      (listings : s'.listings = Function.update s.listings publicId (some m.listing))
      (entitlements : s'.entitlements = Function.update s.entitlements publicId (some m.row))
      (outbox : s'.outbox = s.outbox ++ m.events ++ extra)
      (money : ∀ e ∈ extra, e.type ≠ .listingTierChanged)
  | noticed (publicId : ListingId) (row : EntitlementRow) (now : Time) (extra : List OutboxEvent)
      (present : s.entitlements publicId = some row)
      (listings : s'.listings = s.listings)
      (entitlements : s'.entitlements = Function.update s.entitlements publicId
        (some {row with renewalNotifiedAt := some now}))
      (outbox : s'.outbox = s.outbox ++ extra)
      (money : ∀ e ∈ extra, e.type ≠ .listingTierChanged)
  | listed (publicId : ListingId) (l : Listing)
      (absent : s.listings publicId = none)
      (untiered : l.currentTier = none)
      (listings : s'.listings = Function.update s.listings publicId (some l))
      (entitlements : s'.entitlements = s.entitlements)
      (outbox : s'.outbox = s.outbox)
  | edited (publicId : ListingId) (old l : Listing)
      (present : s.listings publicId = some old)
      (tenant : l.tenant = old.tenant)
      (tier : l.currentTier = old.currentTier)
      (listings : s'.listings = Function.update s.listings publicId (some l))
      (entitlements : s'.entitlements = s.entitlements)
      (outbox : s'.outbox = s.outbox)
  | quiet (extra : List OutboxEvent)
      (listings : s'.listings = s.listings)
      (entitlements : s'.entitlements = s.entitlements)
      (outbox : s'.outbox = s.outbox ++ extra)
      (money : ∀ e ∈ extra, e.type ≠ .listingTierChanged)

theorem Effect.none : Effect cfg s s := .quiet [] rfl rfl (List.append_nil _).symm (List.forall_mem_nil _)

theorem Unmoved.effect (unmoved : Unmoved s s') : Effect cfg s s' :=
  .quiet [] unmoved.listings unmoved.entitlements (by rw [unmoved.outbox,List.append_nil]) (List.forall_mem_nil _)

def reportTriggers : List Trigger :=
  [.start,.startTrial,.paymentSucceeded,.paymentFailed,.refund,.subscriptionEnded,.cancel]

def moneyEvents : List EventType :=
  [.billingSubscriptionStarted,.billingSubscriptionChanged,.billingPaymentSucceeded,.billingPaymentFailed,
    .billingSubscriptionCanceled,.billingRefundIssued]

def PaymentReport.asks (report : PaymentReport) : List (Trigger × EventType) :=
  match report.kind with
  | .checkoutCompleted => [(.startTrial,.billingSubscriptionStarted),(.start,.billingSubscriptionStarted)]
  | .paymentSucceeded => [(.start,.billingPaymentSucceeded),(.paymentSucceeded,.billingPaymentSucceeded)]
  | .paymentFailed => [(.paymentFailed,.billingPaymentFailed)]
  | .refunded => [(.refund,.billingRefundIssued)]
  | .subscriptionChanged => [(.paymentSucceeded,.billingSubscriptionChanged)]
  | .subscriptionCanceled => [(if report.atPeriodEnd then .cancel else .subscriptionEnded,.billingSubscriptionCanceled)]
  | .unknown _ _ => []

theorem reportTrigger_told {attempt : Option CheckoutAttempt} (mapped : reportTrigger tiers publicId ent attempt report = .ok (trigger,params,data)) :
    (trigger,data.type) ∈ report.asks := by
  unfold reportTrigger at mapped
  unfold PaymentReport.asks
  cases kind : report.kind with
  | checkoutCompleted =>
      simp only [kind] at mapped
      split at mapped
      · cases mapped
      · split at mapped
        · cases mapped
        · split at mapped <;> cases mapped
          · exact List.mem_cons_self ..
          · exact List.mem_cons_of_mem _ (List.mem_cons_self ..)
  | paymentSucceeded =>
      simp only [kind] at mapped
      split at mapped
      · cases mapped
      · split at mapped
        · split at mapped
          · cases mapped
          · split at mapped <;> cases mapped
            exact List.mem_cons_self ..
        · obtain ⟨tier,_,rest⟩ := Fallible.bind_exact.mp mapped
          cases rest
          exact List.mem_cons_of_mem _ (List.mem_cons_self ..)
  | paymentFailed | refunded =>
      simp only [kind] at mapped
      cases mapped
      exact List.mem_cons_self ..
  | subscriptionChanged =>
      simp only [kind] at mapped
      split at mapped
      · cases mapped
      · split at mapped
        · cases mapped
        · obtain ⟨tier,_,rest⟩ := Fallible.bind_exact.mp mapped
          split at rest <;> cases rest
          exact List.mem_cons_self ..
  | subscriptionCanceled =>
      simp only [kind] at mapped
      dsimp only
      split at mapped <;> next ends =>
        cases mapped
        first | rw [if_pos ends] | rw [if_neg ends]
        exact List.mem_cons_self ..
  | unknown name unlisted => simp only [kind] at mapped; cases mapped

theorem reportTrigger_asks {attempt : Option CheckoutAttempt} (mapped : reportTrigger tiers publicId ent attempt report = .ok (trigger,params,data)) :
    trigger ∈ reportTriggers ∧ data.type ∈ moneyEvents := by
  have told := reportTrigger_told mapped
  have each : ∀ options : List (Trigger × EventType), (options.all fun asked => asked.1 ∈ reportTriggers ∧ asked.2 ∈ moneyEvents) = true →
      (trigger,data.type) ∈ options → trigger ∈ reportTriggers ∧ data.type ∈ moneyEvents :=
    fun options all there => of_decide_eq_true (List.all_eq_true.mp all _ there)
  unfold PaymentReport.asks at told
  cases ends : report.atPeriodEnd <;> rw [ends] at told <;> split at told <;> exact each _ (by decide) told

theorem reportTrigger_money {attempt : Option CheckoutAttempt} (mapped : reportTrigger tiers publicId ent attempt report = .ok (trigger,params,data)) :
    data.type ≠ .listingTierChanged := by
  intro tier
  have money := (reportTrigger_asks mapped).2
  rw [tier] at money
  exact absurd money (by decide)

theorem report_effect (cfg : Config) (s : Store) (tenant : TenantId) (adapter : AdapterId)
    (report : PaymentReport) (now : Time) :
    Effect cfg s (reportPayment cfg s tenant adapter report now).1 := by
  rcases reportPayment_cases cfg s tenant adapter report now with applied | unmoved
  · obtain ⟨s',_,accepted,answer⟩ := applied
    obtain ⟨_,_,_,publicId,_,attempt,trigger,params,data,s₁,m,_,mapped,moved,equal⟩ := applyReport_exact.mp accepted
    obtain ⟨l,row,present,opened,advanced,committed⟩ := applyTrigger_exact.mp moved
    subst committed
    have listings := congrArg Store.listings equal
    have entitlements := congrArg Store.entitlements equal
    have outbox := congrArg Store.outbox equal
    rw [concludeReport_listings] at listings
    rw [concludeReport_entitlements] at entitlements
    rw [concludeReport_outbox] at outbox
    rw [answer]
    refine .applied publicId l row trigger now (reportActor adapter) adapter.name params m
      [⟨tenant,publicId,reportActor adapter,adapter.name,data⟩] present opened advanced listings entitlements
      outbox ?_
    intro e only
    rw [List.mem_singleton.mp only]
    exact reportTrigger_money mapped
  · exact unmoved.1.effect

theorem step_effect (cfg : Config) (site : Site) (s : Store) (action : Action) :
    Effect cfg s (step cfg site s action) := by
  cases action with
  | list publicId l =>
      unfold step
      dsimp only
      split
      · rename_i absent
        exact .listed publicId _ absent rfl rfl rfl rfl
      · exact .none
  | edit publicId l =>
      unfold step
      dsimp only
      split
      · exact .none
      · rename_i old present
        exact .edited publicId old {l with tenant := old.tenant,currentTier := old.currentTier} present
          rfl rfl rfl rfl rfl
  | trigger publicId trigger now actor origin p =>
      unfold step
      dsimp only
      split
      · rename_i s' m moved
        obtain ⟨l,row,present,opened,advanced,rfl⟩ := applyTrigger_exact.mp moved
        exact .applied publicId l row trigger now actor origin p m [] present opened advanced rfl rfl
          (List.append_nil _).symm (List.forall_mem_nil _)
      · exact .none
  | report tenant adapter report now => exact report_effect cfg s tenant adapter report now
  | prepare tenant publicId user tierKey attempt now =>
      unfold step
      dsimp only
      split
      · exact .none
      · split
        · rename_i s' rest prepared
          obtain ⟨_,_,_,_,_,_,rfl,_⟩ := prepare_exact.mp prepared
          exact .quiet [] rfl rfl (List.append_nil _).symm (List.forall_mem_nil _)
        · exact .none
  | recordStarted attempt externalRef actor =>
      unfold step recordStarted
      dsimp only
      split
      · exact .none
      · refine .quiet _ rfl rfl rfl ?_
        intro e only
        rw [List.mem_singleton.mp only]
        exact fun moved => by cases moved
  | failAttempt attempt =>
      unfold step failAttempt
      dsimp only
      split
      · exact .quiet [] rfl rfl (List.append_nil _).symm (List.forall_mem_nil _)
      · exact .none
  | renewal publicId now =>
      unfold step notifyRenewal
      dsimp only
      split
      · rename_i l row listed present
        split
        · exact .none
        · split
          · exact .none
          · refine .noticed publicId row now _ present rfl rfl rfl ?_
            intro e only
            rw [List.mem_singleton.mp only]
            exact fun moved => by cases moved
      · exact .none

section example_directory

-- One directory for the fixed inputs of the later modules: a free tier, two
-- plans and one that opens with a trial.
def freeTier : Tier :=
  {key := "free"
   name := "Free"
   rank := 0
   purchasable := false
   usesSlot := false
   priceMinor := none
   currency := ""
   interval := none
   trialDays := none
   free := fun _ => rfl
   priced := nofun}

def paidTier (key : String) (rank : Nat) (trialDays : Option Nat) (paid : rank ≠ 0) : Tier :=
  {key := key
   name := key
   rank := rank
   purchasable := true
   usesSlot := false
   priceMinor := some 1000
   currency := "EUR"
   interval := some .month
   trialDays := trialDays
   free := fun zero => (paid zero).elim
   priced := fun _ => ⟨⟨1000,rfl,by decide⟩,by decide,rfl⟩}

def exampleTiers : Tiers :=
  {ids := [0,1,2,3]
   row := fun
     | 1 => paidTier "basic" 1 none (by decide)
     | 2 => paidTier "gold" 2 none (by decide)
     | 3 => paidTier "tryout" 3 (some 14) (by decide)
     | _ => freeTier
   keyUnique := by decide
   rankUnique := by decide}

def exampleConfig : Config := ⟨fun _ => exampleTiers,fun publicId => "ent_" ++ publicId⟩

def exampleAdapter : AdapterId := ⟨"stripe",by decide,by decide⟩

def exampleSite : Site := ⟨some exampleAdapter,fun _ => some "example.test",fun _ => some true⟩

def exampleOwner : DirectoryUser := ⟨"usr","owner@example.test"⟩

def exampleListing : Listing :=
  {tenant := 1
   typeKey := "shop"
   projection :=
     {slug := "corner"
      name := "Corner Shop"
      description := none
      categories := []
      location := ⟨none,none,none,none,none,none,none,none,"none"⟩
      contact := ⟨none,none,none,[]⟩
      externalProfiles := []
      attributes := []
      media := .obj []
      reviewsDisabled := false
      customFields := []
      source := "manual"
      provenanceNotes := none}
   status := .claimed
   visibility := .published
   currentTier := none
   owner := some exampleOwner}

def exampleRun (actions : List Action) : Store :=
  Runs.run (step exampleConfig exampleSite) Store.empty (.list "lst" exampleListing :: actions)

def exampleCheckout (tierKey : String) : Action := .prepare 1 "lst" exampleOwner tierKey "chk" 0

def exampleGrant : Action :=
  .trigger "lst" .grant 0 systemActor "" {tier := some 2,operator := some "adm",reason := some "launch"}

def completionReport : PaymentReport :=
  {kind := .checkoutCompleted
   externalEventId := "evt_checkout"
   checkoutAttemptId := "chk"
   periodEnd := some day
   paymentRef := [("external_id","sub_1")]}

def invoiceReport : PaymentReport :=
  {kind := .paymentSucceeded
   externalEventId := "evt_invoice"
   checkoutAttemptId := "chk"
   periodEnd := some day
   paymentRef := [("external_id","sub_1")]}

end example_directory

end Osds.Billing

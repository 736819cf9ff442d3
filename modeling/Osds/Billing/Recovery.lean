import Osds.Billing.Purchase

namespace Osds.Billing
open Directory Audit

def unpaidKinds : List ReportKind := [.paymentFailed,.refunded,.subscriptionChanged,.subscriptionCanceled]

def recoverable : List Status := [.trialing,.pastDue,.grace,.canceled,.comped]

def recoveryEvents : List EventType := [.entitlementRecovered,.entitlementRestored,.entitlementTrialConverted]

def withoutPlan (e : Entitlement) : Entitlement := {e with tier := 0,currentPeriodEnd := none,paymentRef := []}

def NoUnpaidRecovery (cfg : Config) (s : Store) : Action → Prop
  | .report tenant adapter report now =>
      report.kind ∈ unpaidKinds →
      let s' := (reportPayment cfg s tenant adapter report now).1
      (∀ publicId before after, s.entitlements publicId = some before → s'.entitlements publicId = some after →
        before.status ∈ recoverable → after.status ≠ .active) ∧
      (report.kind = .subscriptionChanged →
        (∀ publicId, (s'.entitlements publicId).map (fun row => withoutPlan row.toEntitlement) =
          (s.entitlements publicId).map (fun row => withoutPlan row.toEntitlement)) ∧
        ∀ e ∈ s'.outbox.drop s.outbox.length, e.type ∉ recoveryEvents)
  | _ => True

-- A change of plan, not seen before and complete, that reaches a row that is not
-- active, or an active one that still has something a payment resets.
def PaidByChange (cfg : Config) (s : Store) : Action → Prop
  | .report tenant adapter report _ =>
      report.kind = .subscriptionChanged ∧ Unseen s tenant adapter report ∧ report.externalEventId ≠ "" ∧
      report.periodEnd.isSome ∧ report.tierKey ≠ "" ∧ ((cfg.tiers tenant).byKey report.tierKey).isSome ∧
      ∃ publicId l attempt row, resolve s tenant report = .ok (publicId,l,attempt) ∧
        s.entitlements publicId = some row ∧ (row.status ∈ recoverable ∨
          row.status = .active ∧ resetLifecycle row.toEntitlement ≠ row.toEntitlement)
  | _ => False

def Shown (s : Store) : Prop :=
  ∀ publicId row, s.entitlements publicId = some row → row.status.perks → row.hiddenByExpiry = false

theorem effect_shown (effect : Effect cfg s s') (shown : Shown s) : Shown s' := by
  intro other found present perks
  have kept : s'.entitlements other = s.entitlements other → found.hiddenByExpiry = false := by
    intro same
    rw [same] at present
    exact shown other found present perks
  cases effect with
  | applied publicId l row trigger now actor origin p m extra _ _ advanced _ entitlements _ _ =>
      by_cases equal : other = publicId
      · subst equal
        rw [entitlements,Function.update_self] at present
        cases present
        obtain ⟨_,_,_,_,_,_,landed,_⟩ := advance_landed advanced
        exact landed.shown (landed.status ▸ perks)
      · exact kept (by rw [entitlements,Function.update_of_ne equal])
  | noticed publicId row now extra stored _ entitlements _ _ =>
      by_cases equal : other = publicId
      · subst equal
        rw [entitlements,Function.update_self] at present
        cases present
        exact shown other row stored perks
      · exact kept (by rw [entitlements,Function.update_of_ne equal])
  | listed _ _ _ _ _ entitlements _ => exact kept (by rw [entitlements])
  | edited _ _ _ _ _ _ _ entitlements _ => exact kept (by rw [entitlements])
  | quiet _ _ entitlements _ _ => exact kept (by rw [entitlements])

theorem step_shown (cfg : Config) (site : Site) (s : Store) (action : Action) (shown : Shown s) :
    Shown (step cfg site s action) :=
  effect_shown (step_effect cfg site s action) shown

theorem empty_shown : Shown Store.empty := by
  intro publicId row present
  cases present

def lapses : List Trigger := [.paymentFailed,.refund,.cancel,.subscriptionEnded]

theorem mutate_lapse (lapse : trigger ∈ lapses) (mutated : mutate tiers e trigger r now p = .ok (draft,facts)) :
    draft.status ≠ .active := by
  cases trigger with
  | paymentFailed =>
      have equal := (Prod.mk.inj (Except.ok.inj mutated)).1
      rw [← equal]
      unfold failPayment
      split
      · rename_i late
        rcases late with late | late
        · change e.status ≠ .active
          rw [late]
          nofun
        · change e.status ≠ .active
          rw [late]
          nofun
      · nofun
  | cancel =>
      have equal := (Prod.mk.inj (Except.ok.inj mutated)).1
      rw [← equal]
      unfold cancelEntitlement
      dsimp only
      split <;> nofun
  | refund => cases mutated; nofun
  | subscriptionEnded => cases mutated; nofun
  | _ => exact absurd lapse (by decide)

section mapping

variable {tiers : Tiers} {ent : Option Entitlement} {attempt : Option CheckoutAttempt} {report : PaymentReport}

theorem reportTrigger_lapse (kind : report.kind ∈ unpaidKinds) (plain : report.kind ≠ .subscriptionChanged)
    (mapped : reportTrigger tiers publicId ent attempt report = .ok (trigger,params,data)) :
    trigger ∈ lapses ∧ (trigger = .paymentFailed ↔ report.kind = .paymentFailed) := by
  unfold reportTrigger at mapped
  cases shape : report.kind with
  | paymentFailed => simp only [shape] at mapped; cases mapped; decide
  | refunded => simp only [shape] at mapped; cases mapped; decide
  | subscriptionCanceled =>
      simp only [shape] at mapped
      split at mapped <;> cases mapped <;> decide
  | subscriptionChanged => exact (plain shape).elim
  | checkoutCompleted => rw [shape] at kind; exact absurd kind (by decide)
  | paymentSucceeded => rw [shape] at kind; exact absurd kind (by decide)
  | unknown name unlisted => simp only [shape] at mapped; cases mapped

theorem reportTrigger_change (kind : report.kind = .subscriptionChanged) :
    reportTrigger tiers publicId ent attempt report = .ok (trigger,params,data) ↔
      ∃ ends tier, report.periodEnd = some ends ∧ report.tierKey ≠ "" ∧ tiers.byKey report.tierKey = some tier ∧
        trigger = .paymentSucceeded ∧ params = {tier := some tier,periodEnd := some ends,paymentRef := report.paymentRef} ∧
        data = .billingSubscriptionChanged publicId (ent.map (fun e => (tiers.row e.tier).key)) (tiers.row tier).key := by
  simp only [reportTrigger,kind]
  cases ends : report.periodEnd with
  | none => exact iff_of_false (fun refused => by cases refused) (by rintro ⟨_,_,absurd,_⟩; cases absurd)
  | some periodEnd =>
      by_cases blank : report.tierKey = ""
      · simp only [if_pos blank]
        exact iff_of_false (fun refused => by cases refused) (by rintro ⟨_,_,_,keyed,_⟩; exact keyed blank)
      · simp only [if_neg blank,reportTier]
        cases chosen : tiers.byKey report.tierKey with
        | none => exact iff_of_false (fun refused => by cases refused) (by rintro ⟨_,_,_,_,absurd,_⟩; cases absurd)
        | some tier =>
            constructor
            · intro mapped
              cases mapped
              exact ⟨periodEnd,tier,rfl,blank,rfl,rfl,rfl,rfl⟩
            · intro shape
              obtain ⟨_,_,period,_,plan,rfl,rfl,rfl⟩ := shape
              cases period
              cases plan
              rfl

theorem reportTrigger_payment (kind : report.kind = .paymentSucceeded)
    (mapped : reportTrigger tiers publicId ent attempt report = .ok (trigger,params,data)) :
    (trigger = .start ∧ ((ent.map (·.status)).getD .none = .none ∨ (ent.map (·.status)).getD .none = .expired)) ∨
      ∃ ends tier, trigger = .paymentSucceeded ∧ report.periodEnd = some ends ∧
        reportTier tiers report.tierKey = .ok tier ∧
        params = {tier := tier,periodEnd := some ends,paymentRef := report.paymentRef} := by
  simp only [reportTrigger,kind] at mapped
  split at mapped
  · cases mapped
  rename_i ends period
  split at mapped
  · rename_i first
    split at mapped
    · cases mapped
    split at mapped
    · cases mapped
    · cases mapped
      exact .inl ⟨rfl,first⟩
  · obtain ⟨tier,chosen,rest⟩ := Fallible.bind_exact.mp mapped
    cases rest
    exact .inr ⟨ends,tier,rfl,period,chosen,rfl⟩

end mapping

theorem resolve_listed {attempt : Option (AttemptId × CheckoutAttempt)} (resolved : resolve s tenant report = .ok (publicId,l,attempt)) :
    s.listings publicId = some l := by
  unfold resolve at resolved
  obtain ⟨attempt',_,rest⟩ := Fallible.bind_exact.mp resolved
  obtain ⟨listing,_,rest⟩ := Fallible.bind_exact.mp rest
  obtain ⟨found,_,rest⟩ := Fallible.bind_exact.mp rest
  split at rest
  · rename_i stored
    cases rest
    exact stored
  · cases rest

theorem withoutPlan_pay {e : Entitlement} (active : e.status = .active) (clean : resetLifecycle e = e) :
    withoutPlan (pay e p ends) = withoutPlan e := by
  have plain : pay e p ends = paid (resetLifecycle e) p ends := by
    unfold pay
    rw [if_neg (by rw [active]; nofun)]
    rfl
  rw [plain,clean]
  unfold withoutPlan paid
  rw [← active]

theorem clean_of_withoutPlan {e stored : Entitlement} {flag : Bool}
    (row : stored = {pay e p ends with hiddenByExpiry := flag})
    (same : withoutPlan stored = withoutPlan e) : resetLifecycle e = e := by
  rw [row] at same
  exact congrArg (fun other : Entitlement => {e with
    dunningStartedAt := other.dunningStartedAt
    dunningEndsAt := other.dunningEndsAt
    graceEndsAt := other.graceEndsAt
    failedAttempts := other.failedAttempts
    lastFailureCode := other.lastFailureCode
    cancelAtPeriodEnd := other.cancelAtPeriodEnd
    canceledAt := other.canceledAt
    canceledBy := other.canceledBy
    renewalNotifiedAt := other.renewalNotifiedAt}) same

theorem recoverable_payable (lapsed : status ∈ recoverable) : status ∈ payable := by
  revert lapsed
  cases status <;> decide

-- A change of plan that reaches such a row is applied as a payment.
theorem paidByChange_recovers (paid : PaidByChange cfg s (.report tenant adapter report now)) :
    ¬NoUnpaidRecovery cfg s (.report tenant adapter report now) := by
  obtain ⟨kind,unseen,named,ends,keyed,chosen,publicId,l,attempt,row,resolved,present,fits⟩ := paid
  obtain ⟨periodEnd,ends⟩ := Option.isSome_iff_exists.mp ends
  obtain ⟨tier,chosen⟩ := Option.isSome_iff_exists.mp chosen
  have known : report.kind.value ∈ reportKinds := by rw [kind]; decide
  have mapped : reportTrigger (cfg.tiers tenant) publicId ((s.entitlements publicId).map (·.toEntitlement))
      (attempt.map (·.2)) report = .ok (.paymentSucceeded,
        {tier := some tier,periodEnd := some periodEnd,paymentRef := report.paymentRef},_) :=
    (reportTrigger_change kind).mpr ⟨periodEnd,tier,ends,keyed,chosen,rfl,rfl,rfl⟩
  have reached : row.status ∈ payable := by
    rcases fits with lapsed | active
    · exact recoverable_payable lapsed
    · rw [active.1]
      decide
  obtain ⟨m,applied,landed⟩ := applyTrigger_pay cfg
    {tier := some tier,periodEnd := some periodEnd,paymentRef := report.paymentRef} (resolve_listed resolved)
    present reached rfl
  obtain ⟨_,entitlements,_,_⟩ := reportPayment_commits unseen named known resolved mapped applied
  intro safe
  obtain ⟨kept,plan⟩ := safe (by rw [kind]; decide)
  rcases fits with lapsed | active
  · have stored : (reportPayment cfg s tenant adapter report now).1.entitlements publicId = some m.row := by
      rw [entitlements,Function.update_self]
    exact kept publicId row m.row present stored lapsed (landed.status.trans pay_status)
  · obtain ⟨flag,equal⟩ := landed.row
    have same := (plan kind).1 publicId
    rw [entitlements,Function.update_self,present] at same
    exact active.2 (clean_of_withoutPlan equal (Option.some.inj same))

theorem unpaid_applied (kind : report.kind ∈ unpaidKinds) (shown : Shown s)
    (unseen : Unseen s tenant adapter report) (accepted : applyReport cfg s tenant adapter report now = .ok s')
    (safe : ¬PaidByChange cfg s (.report tenant adapter report now)) :
    ∃ publicId row m extra, s'.entitlements = Function.update s.entitlements publicId (some m) ∧
      s.entitlements publicId = some row ∧ s'.outbox = s.outbox ++ extra ∧
      (report.kind ≠ .subscriptionChanged ∧ m.status ≠ .active ∨
        report.kind = .subscriptionChanged ∧ row.status = .active ∧
          withoutPlan m.toEntitlement = withoutPlan row.toEntitlement ∧ ∀ e ∈ extra, e.type ∉ recoveryEvents) := by
  obtain ⟨_,named,_,publicId,l,attempt,trigger,params,data,s₁,m,resolved,mapped,applied,rfl⟩ :=
    applyReport_exact.mp accepted
  obtain ⟨l',row,listed,opened,advanced,rfl⟩ := applyTrigger_exact.mp applied
  obtain ⟨r,draft,facts,legal,_,mutated,landed,events⟩ := advance_landed advanced
  have creators_ : trigger ∉ creators → s.entitlements publicId = some row := by
    intro plain
    rcases openRow_exact.mp opened with present | absent
    · exact present
    · exact (plain absent.2.1).elim
  refine ⟨publicId,row,m.row,m.events ++ [⟨tenant,publicId,reportActor adapter,adapter.name,data⟩],
    concludeReport_entitlements,?_,by rw [concludeReport_outbox,← List.append_assoc]; rfl,?_⟩
  · apply creators_
    by_cases change : report.kind = .subscriptionChanged
    · obtain ⟨_,_,_,_,_,rfl,_⟩ := (reportTrigger_change change).mp mapped
      decide
    · have lapse := (reportTrigger_lapse kind change mapped).1
      revert lapse
      cases trigger <;> decide
  by_cases change : report.kind = .subscriptionChanged
  · right
    obtain ⟨periodEnd,tier,ends,keyed,chosen,rfl,rfl,rfl⟩ := (reportTrigger_change change).mp mapped
    have present := creators_ (by decide)
    have active : row.status = .active ∧ resetLifecycle row.toEntitlement = row.toEntitlement := by
      by_contra other
      apply safe
      refine ⟨change,unseen,named,by rw [ends]; rfl,keyed,by rw [chosen]; rfl,publicId,l,attempt,row,resolved,present,?_⟩
      by_cases active : row.status = .active
      · exact .inr ⟨active,fun clean => other ⟨active,clean⟩⟩
      · left
        have reached : row.status ∈ payable := by
          by_contra shut
          rw [pay_illegal shut] at legal
          cases legal
        revert reached active
        cases row.status <;> decide
    have paid : draft = pay row.toEntitlement
        {tier := some tier,periodEnd := some periodEnd,paymentRef := report.paymentRef} periodEnd := by
      cases mutated
      rfl
    subst paid
    have exact_ : m.row.toEntitlement = _ := landed.exact (by rw [pay_status]; rfl)
      (by rw [pay_hidden]; exact shown publicId row present (by rw [active.1]; rfl))
    refine ⟨change,active.1,by rw [exact_,withoutPlan_pay active.1 active.2],?_⟩
    intro e emitted
    rcases List.mem_append.mp emitted with moved | money
    · rw [active.1] at legal
      cases legal
      rcases events e moved with named | other
      · obtain ⟨_,absurd,_⟩ := named
        cases absurd
      · simp only [List.mem_cons,List.not_mem_nil,or_false] at other
        rcases other with other | other | other <;> rw [other] <;> decide
    · rw [List.mem_singleton.mp money]
      change EventType.billingSubscriptionChanged ∉ recoveryEvents
      decide
  · left
    refine ⟨change,?_⟩
    rw [landed.status]
    exact mutate_lapse (reportTrigger_lapse kind change mapped).1 mutated

theorem recovery_exact (shown : Shown s) : NoUnpaidRecovery cfg s action ↔ ¬PaidByChange cfg s action := by
  cases action with
  | report tenant adapter report now =>
      refine ⟨fun safe paid => paidByChange_recovers paid safe,?_⟩
      intro safe kind
      rcases reportPayment_cases cfg s tenant adapter report now with applied | unmoved
      · obtain ⟨s',unseen,accepted,answer⟩ := applied
        obtain ⟨publicId,row,m,extra,entitlements,present,outbox,outcome⟩ :=
          unpaid_applied kind shown unseen accepted safe
        rw [answer]
        dsimp only [Store.logged]
        rw [entitlements,outbox]
        refine ⟨?_,?_⟩
        · intro other before after had has lapsed
          by_cases equal : other = publicId
          · subst equal
            rw [Function.update_self] at has
            cases has
            rw [present] at had
            cases had
            rcases outcome with off | active
            · exact off.2
            · rw [active.2.1] at lapsed
              exact absurd lapsed (by decide)
          · rw [Function.update_of_ne equal,had] at has
            cases has
            intro active
            rw [active] at lapsed
            exact absurd lapsed (by decide)
        · intro change
          have plan := (outcome.resolve_left (fun off => off.1 change)).2.2
          refine ⟨?_,by rw [List.drop_left]; exact plan.2⟩
          intro other
          by_cases equal : other = publicId
          · subst equal
            rw [Function.update_self,present,Option.map_some,Option.map_some,plan.1]
          · rw [Function.update_of_ne equal]
      · dsimp only
        rw [unmoved.1.entitlements,unmoved.1.outbox]
        refine ⟨?_,fun _ => ⟨fun _ => rfl,by rw [List.drop_length]; exact List.forall_mem_nil _⟩⟩
        intro other before after had has lapsed active
        rw [had] at has
        cases has
        rw [active] at lapsed
        exact absurd lapsed (by decide)
  | _ => exact iff_of_true trivial id

-- In every run, no report without money returns a listing to active, and a
-- change of plan changes the plan only, exactly when no step of the run is a
-- change of plan that reaches a lapsed row, or one with something to reset.
theorem unpaid_recovery_exact (cfg : Config) (site : Site) (actions : List Action) :
    Runs.Along (step cfg site) (NoUnpaidRecovery cfg) Store.empty actions ↔
      Runs.Along (step cfg site) (fun s action => ¬PaidByChange cfg s action) Store.empty actions :=
  Runs.along_congr (step cfg site) (step_shown cfg site) actions (fun _ _ _ shown => recovery_exact shown) empty_shown

def failureReport : PaymentReport :=
  {kind := .paymentFailed
   externalEventId := "evt_failed"
   listingId := "lst"
   failureCode := "card_declined"}

def changeReport : PaymentReport :=
  {kind := .subscriptionChanged
   externalEventId := "evt_change"
   listingId := "lst"
   tierKey := "gold"
   periodEnd := some (30*day)}

-- A listing whose payment failed changes its plan and is active again, with no
-- payment made.
theorem past_due_recovers_by_change :
    let s := exampleRun [exampleCheckout "basic",.report 1 exampleAdapter completionReport 5,
      .report 1 exampleAdapter failureReport 6]
    let result := reportPayment exampleConfig s 1 exampleAdapter changeReport 7
    (s.entitlements "lst").map (·.status) = some .pastDue ∧ result.2 = .applied ∧
      (result.1.entitlements "lst").map (·.status) = some .active ∧
      (result.1.outbox.drop s.outbox.length).map (·.type) =
        [.entitlementRecovered,.listingTierChanged,.billingSubscriptionChanged] ∧
      ¬NoUnpaidRecovery exampleConfig s (.report 1 exampleAdapter changeReport 7) := by
  intro s result
  have late : (s.entitlements "lst").map (·.status) = some .pastDue := rfl
  have active : (result.1.entitlements "lst").map (·.status) = some .active := rfl
  refine ⟨late,rfl,active,rfl,?_⟩
  intro safe
  obtain ⟨before,had,lapsed⟩ := Option.map_eq_some_iff.mp late
  obtain ⟨after,has,recovered⟩ := Option.map_eq_some_iff.mp active
  exact (safe (by decide)).1 "lst" before after had has (by rw [lapsed]; decide) recovered

end Osds.Billing

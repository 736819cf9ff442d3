import Osds.Billing.Recovery
import Osds.Billing.PaymentRef

namespace Osds.Billing
open Directory Audit

def laterKinds : List ReportKind :=
  [.paymentSucceeded,.paymentFailed,.refunded,.subscriptionChanged,.subscriptionCanceled]

def planOf (row : EntitlementRow) : Status × TierId × Option Time × PaymentRef :=
  (row.status,row.tier,row.currentPeriodEnd,row.paymentRef)

def Keeps (s s' : Store) (publicId : ListingId) : Prop :=
  (s'.entitlements publicId).map planOf = (s.entitlements publicId).map planOf

def About (s : Store) (tenant : TenantId) (report : PaymentReport) (publicId : ListingId) : Prop :=
  ∃ l attempt, resolve s tenant report = .ok (publicId,l,attempt)

def Counted (row : EntitlementRow) (report : PaymentReport) : Prop :=
  report.kind = .paymentFailed ∧ (row.status = .pastDue ∨ row.status = .grace)

def Repeats (tiers : Tiers) (row : EntitlementRow) (report : PaymentReport) : Prop :=
  (report.kind = .paymentSucceeded ∨ report.kind = .subscriptionChanged) ∧ row.status = .active ∧
    (report.tierKey = "" ∨ tiers.byKey report.tierKey = some row.tier) ∧
    row.currentPeriodEnd = report.periodEnd ∧ row.paymentRef = report.paymentRef

section mapping

variable {tiers : Tiers} {ent : Option Entitlement} {attempt : Option CheckoutAttempt} {report : PaymentReport}

theorem reportTier_exact : reportTier tiers key = .ok tier ↔
    (key = "" ∧ tier = none) ∨ (key ≠ "" ∧ tier.isSome ∧ tiers.byKey key = tier) := by
  unfold reportTier
  by_cases blank : key = ""
  · rw [if_pos blank]
    cases tier <;> simp [blank]
  · rw [if_neg blank]
    cases tiers.byKey key with
    | none => cases tier <;> simp [blank]
    | some found => cases tier <;> simp [blank]

theorem reportTrigger_pays (paying : report.kind = .paymentSucceeded ∨ report.kind = .subscriptionChanged)
    (mapped : reportTrigger tiers publicId ent attempt report = .ok (trigger,params,data)) :
    (trigger = .start ∧ ((ent.map (·.status)).getD .none = .none ∨ (ent.map (·.status)).getD .none = .expired)) ∨
      ∃ ends tier, trigger = .paymentSucceeded ∧ report.periodEnd = some ends ∧
        reportTier tiers report.tierKey = .ok tier ∧
        params = {tier := tier,periodEnd := some ends,paymentRef := report.paymentRef} := by
  rcases paying with paid | changed
  · exact reportTrigger_payment paid mapped
  · obtain ⟨ends,tier,period,keyed,found,pay,plan,_⟩ := (reportTrigger_change changed).mp mapped
    exact .inr ⟨ends,some tier,pay,period,reportTier_exact.mpr (.inr ⟨keyed,rfl,found⟩),plan⟩

end mapping

theorem Landed.plan (landed : Landed tiers l draft m) :
    planOf m.row = (draft.status,draft.tier,draft.currentPeriodEnd,draft.paymentRef) := by
  obtain ⟨flag,equal⟩ := landed.row
  unfold planOf
  rw [equal]

theorem pay_plan {e : Entitlement} (chosen : reportTier tiers key = .ok tier) (named : ref ≠ []) :
    let draft := pay e {tier := tier,periodEnd := some ends,paymentRef := ref} ends
    (draft.status,draft.tier,draft.currentPeriodEnd,draft.paymentRef) =
        (e.status,e.tier,e.currentPeriodEnd,e.paymentRef) ↔
      e.status = .active ∧ (key = "" ∨ tiers.byKey key = some e.tier) ∧ e.currentPeriodEnd = some ends ∧
        e.paymentRef = ref := by
  intro draft
  have status : draft.status = .active := pay_status
  have plan : draft.tier = tier.getD e.tier := pay_tier
  have period : draft.currentPeriodEnd = some ends := pay_period
  have bill : draft.paymentRef = ref := pay_ref.trans (if_neg named)
  rw [status,plan,period,bill]
  simp only [Prod.mk.injEq]
  have same : tier.getD e.tier = e.tier ↔ key = "" ∨ tiers.byKey key = some e.tier := by
    rcases reportTier_exact.mp chosen with blank | found
    · simp [blank.1,blank.2]
    · obtain ⟨plan,equal⟩ := Option.isSome_iff_exists.mp found.2.1
      simp [found.1,found.2.2,equal]
  rw [same]
  exact ⟨fun kept => ⟨kept.1.symm,kept.2.1,kept.2.2.1.symm,kept.2.2.2.symm⟩,
    fun kept => ⟨kept.1.symm,kept.2.1,kept.2.2.1.symm,kept.2.2.2.symm⟩⟩

theorem lapse_plan {row : EntitlementRow} (lapse : trigger ∈ lapses)
    (legal : ruleFor row.status trigger = .ok r)
    (mutated : mutate tiers row.toEntitlement trigger r now p = .ok (draft,facts)) :
    (draft.status,draft.tier,draft.currentPeriodEnd,draft.paymentRef) = planOf row ↔
      trigger = .paymentFailed ∧ (row.status = .pastDue ∨ row.status = .grace) := by
  have moves : draft.status ≠ row.status →
      (draft.status,draft.tier,draft.currentPeriodEnd,draft.paymentRef) ≠ planOf row := by
    intro moved same
    exact moved (congrArg Prod.fst same)
  cases trigger with
  | paymentFailed =>
      have equal : failPayment row.toEntitlement now p.failureCode p.attempt = draft :=
        (Prod.mk.inj (Except.ok.inj mutated)).1
      by_cases late : row.status = .pastDue ∨ row.status = .grace
      · refine iff_of_true ?_ ⟨rfl,late⟩
        rw [← equal,failPayment,if_pos late]
        rfl
      · refine iff_of_false (moves ?_) (fun counted => late counted.2)
        rw [← equal,failPayment,if_neg late]
        intro same
        exact late (.inl same.symm)
  | cancel =>
      have equal : cancelEntitlement row.toEntitlement r now _ = draft := (Prod.mk.inj (Except.ok.inj mutated)).1
      refine iff_of_false (moves ?_) nofun
      have open_ : row.status ≠ .canceled ∧ row.status ≠ .expired := by
        constructor <;> intro closed <;> rw [ruleFor_cancel,closed] at legal <;> cases legal
      rw [← equal]
      unfold cancelEntitlement
      dsimp only
      split
      · exact open_.1.symm
      · exact open_.2.symm
  | refund =>
      have equal : {row.toEntitlement with status := .expired} = draft := (Prod.mk.inj (Except.ok.inj mutated)).1
      refine iff_of_false (moves ?_) nofun
      rw [← equal]
      intro same
      rw [ruleFor_refund,← same] at legal
      cases legal
  | subscriptionEnded =>
      have equal : {row.toEntitlement with status := .expired} = draft := (Prod.mk.inj (Except.ok.inj mutated)).1
      refine iff_of_false (moves ?_) nofun
      rw [← equal]
      intro same
      rw [ruleFor_subscriptionEnded,← same] at legal
      cases legal
  | _ => exact absurd lapse (by decide)

theorem applied_plan (kind : report.kind ∈ laterKinds) (named : report.paymentRef ≠ [])
    (accepted : applyReport cfg s tenant adapter report now = .ok s') :
    ∃ publicId m, About s tenant report publicId ∧ s'.entitlements = Function.update s.entitlements publicId (some m) ∧
      ∀ row, s.entitlements publicId = some row →
        (planOf m = planOf row ↔ Counted row report ∨ Repeats (cfg.tiers tenant) row report) := by
  obtain ⟨_,_,_,publicId,l,attempt,trigger,params,data,s₁,m,resolved,mapped,applied,rfl⟩ :=
    applyReport_exact.mp accepted
  obtain ⟨l',opened,listed,present,advanced,rfl⟩ := applyTrigger_exact.mp applied
  obtain ⟨r,draft,facts,legal,_,mutated,landed,_⟩ := advance_landed advanced
  refine ⟨publicId,m.row,⟨l,attempt,resolved⟩,concludeReport_entitlements,?_⟩
  intro row stored
  rw [stored] at present mapped
  have same : row = opened := Except.ok.inj present
  subst same
  rw [landed.plan]
  by_cases paying : report.kind = .paymentSucceeded ∨ report.kind = .subscriptionChanged
  · have uncounted : ¬Counted row report := by
      intro counted
      rw [counted.1] at paying
      exact absurd paying (by decide)
    rw [or_iff_right uncounted]
    rcases reportTrigger_pays paying mapped with started | paid
    · obtain ⟨rfl,closed⟩ := started
      obtain ⟨tier,_,rest⟩ := Fallible.bind_exact.mp mutated
      obtain ⟨periodEnd,_,drafted⟩ := Fallible.bind_exact.mp rest
      cases drafted
      change row.status = .none ∨ row.status = .expired at closed
      have idle : row.status ≠ .active := by
        intro active
        rw [active] at closed
        exact absurd closed (by decide)
      exact iff_of_false (fun kept => idle (congrArg Prod.fst kept).symm) (fun repeats => idle repeats.2.1)
    · obtain ⟨ends,tier,rfl,period,chosen,rfl⟩ := paid
      cases mutated
      refine (pay_plan chosen named).trans ?_
      unfold Repeats
      rw [period]
      exact (and_iff_right paying).symm
  · have kinds : report.kind ∈ unpaidKinds ∧ report.kind ≠ .subscriptionChanged := by
      revert kind paying
      cases report.kind <;> simp [laterKinds,unpaidKinds]
    obtain ⟨lapse,failed⟩ := reportTrigger_lapse kinds.1 kinds.2 mapped
    rw [lapse_plan lapse legal mutated,failed]
    exact (or_iff_left (fun repeats => paying repeats.1)).symm

structure Restarted (cfg : Config) (s : Store) (tenant : TenantId) (adapter : AdapterId) (report : PaymentReport)
    (now : Time) (publicId : ListingId) (earlier : String) : Prop where
  kind : report.kind = .checkoutCompleted
  applied : (reportPayment cfg s tenant adapter report now).2 = .applied
  named : earlier ≠ ""
  billed : ∃ row, s.entitlements publicId = some row ∧ externalId row.paymentRef = earlier
  replaced : ∃ row, (reportPayment cfg s tenant adapter report now).1.entitlements publicId = some row ∧
    externalId row.paymentRef ≠ earlier

-- A report about the earlier subscription does what it would do with any other
-- reference, and keeps the plan exactly when it is not applied to the listing,
-- counts one more failure, or brings what is there.
def Indifferent (cfg : Config) (publicId : ListingId) (earlier : String) (s : Store) : Action → Prop
  | .report tenant adapter report now =>
      report.kind ∈ laterKinds → externalId report.paymentRef = earlier →
        let result := reportPayment cfg s tenant adapter report now
        (∀ ref, (reportPayment cfg s tenant adapter (report.billed ref) now).2 = result.2 ∧
          Alike result.1 (reportPayment cfg s tenant adapter (report.billed ref) now).1) ∧
        ∃ row, s.entitlements publicId = some row ∧
          (Keeps s result.1 publicId ↔ ¬(result.2 = .applied ∧ About s tenant report publicId) ∨
            Counted row report ∨ Repeats (cfg.tiers tenant) row report)
  | _ => True

theorem indifferent (named : earlier ≠ "") (present : s.entitlements publicId = some row) (action : Action) :
    Indifferent cfg publicId earlier s action := by
  cases action with
  | report tenant adapter report now =>
      intro kind names result
      have later : report.kind ≠ .checkoutCompleted := by
        intro checkout
        rw [checkout] at kind
        exact absurd kind (by decide)
      have referenced : report.paymentRef ≠ [] := by
        intro blank
        rw [blank] at names
        exact named names.symm
      refine ⟨fun ref => reportPayment_billed cfg s tenant adapter now ref later,row,present,?_⟩
      rcases reportPayment_cases cfg s tenant adapter report now with applied | unmoved
      · obtain ⟨s',_,accepted,answer⟩ := applied
        obtain ⟨other,m,about,entitlements,plan⟩ := applied_plan kind referenced accepted
        have stored : result.1.entitlements = Function.update s.entitlements other (some m) := by
          change (reportPayment cfg s tenant adapter report now).1.entitlements = _
          rw [answer]
          exact entitlements
        have here : result.2 = .applied := congrArg Prod.snd answer
        unfold Keeps
        rw [stored,present,here]
        by_cases equal : publicId = other
        · subst equal
          rw [Function.update_self,Option.map_some,Option.map_some,Option.some_inj,plan row present]
          exact (or_iff_right (not_not_intro ⟨rfl,about⟩)).symm
        · rw [Function.update_of_ne equal,present]
          refine iff_of_true rfl (.inl ?_)
          intro both
          obtain ⟨_,l,attempt,resolved⟩ := both
          obtain ⟨l',attempt',found⟩ := about
          rw [resolved] at found
          exact equal (congrArg Prod.fst (Except.ok.inj found))
      · refine iff_of_true ?_ (.inl (fun both => unmoved.2 both.1))
        exact congrArg (fun rows => (rows publicId).map planOf) unmoved.1.entitlements
  | _ => trivial

theorem effect_present (effect : Effect cfg s s') (present : ∃ row, s.entitlements publicId = some row) :
    ∃ row, s'.entitlements publicId = some row := by
  have updated : ∀ other m, s'.entitlements = Function.update s.entitlements other (some m) →
      ∃ row, s'.entitlements publicId = some row := by
    intro other m entitlements
    rw [entitlements]
    by_cases equal : publicId = other
    · exact ⟨m,by rw [equal,Function.update_self]⟩
    · rw [Function.update_of_ne equal]
      exact present
  cases effect with
  | applied _ _ _ _ _ _ _ _ m _ _ _ _ _ entitlements _ _ => exact updated _ _ entitlements
  | noticed _ _ _ _ _ _ entitlements _ _ => exact updated _ _ entitlements
  | listed _ _ _ _ _ entitlements _ => rw [entitlements]; exact present
  | edited _ _ _ _ _ _ _ entitlements _ => rw [entitlements]; exact present
  | quiet _ _ entitlements _ _ => rw [entitlements]; exact present

-- After a restart, core goes on treating the earlier subscription's reports as
-- reports about the listing's plan.
theorem superseded_reports_exact (site : Site) (after : List Action)
    (restarted : Restarted cfg s tenant adapter report now publicId earlier) :
    Runs.Along (step cfg site) (Indifferent cfg publicId earlier) (reportPayment cfg s tenant adapter report now).1
      after := by
  obtain ⟨current,present,_⟩ := restarted.replaced
  have preserved : ∀ s action, (∃ row, s.entitlements publicId = some row) →
      ∃ row, (step cfg site s action).entitlements publicId = some row :=
    fun s action present => effect_present (step_effect cfg site s action) present
  have always : ∀ s action, (∃ row, s.entitlements publicId = some row) → Indifferent cfg publicId earlier s action := by
    intro s action present
    obtain ⟨row,present⟩ := present
    exact indifferent restarted.named present action
  exact Runs.along_of_forall (step cfg site) preserved always ⟨current,present⟩ after

section second_purchase

def ownerCancels : Action := .trigger "lst" .cancel 6 ⟨"owner",some "usr"⟩ "" {canceledBy := some "owner"}

-- A canceled owner buys again, with the first subscription still billed.
def resubscribing : Store :=
  exampleRun [exampleCheckout "basic",.report 1 exampleAdapter completionReport 5,ownerCancels,
    .prepare 1 "lst" exampleOwner "gold" "again" 7]

def secondCompletion : PaymentReport :=
  {completionReport with
    externalEventId := "evt_second"
    checkoutAttemptId := "again"
    paymentRef := [("external_id","sub_2")]}

def firstRefund : PaymentReport :=
  {kind := .refunded
   externalEventId := "evt_refund"
   listingId := "lst"
   paymentRef := [("external_id","sub_1")]}

theorem resubscribing_restarted :
    Restarted exampleConfig resubscribing 1 exampleAdapter secondCompletion 8 "lst" "sub_1" :=
  ⟨rfl,rfl,by decide,⟨_,rfl,rfl⟩,⟨_,rfl,by decide⟩⟩

theorem superseded_reports_refund :
    Runs.Along (step exampleConfig exampleSite) (Indifferent exampleConfig "lst" "sub_1")
      (reportPayment exampleConfig resubscribing 1 exampleAdapter secondCompletion 8).1
      [.report 1 exampleAdapter firstRefund 9] :=
  superseded_reports_exact exampleSite _ resubscribing_restarted

-- It ends the plan the second one pays for.
theorem superseded_refund_expires :
    let s := (reportPayment exampleConfig resubscribing 1 exampleAdapter secondCompletion 8).1
    let result := reportPayment exampleConfig s 1 exampleAdapter firstRefund 9
    Restarted exampleConfig resubscribing 1 exampleAdapter secondCompletion 8 "lst" "sub_1" ∧
      (s.entitlements "lst").map planOf = some (.active,2,some day,[("external_id","sub_2")]) ∧
      result.2 = .applied ∧
      (result.1.entitlements "lst").map planOf = some (.expired,2,some day,[("external_id","sub_2")]) ∧
      ¬Keeps s result.1 "lst" := by
  intro s result
  have before : (s.entitlements "lst").map planOf = some (.active,2,some day,[("external_id","sub_2")]) := rfl
  have after : (result.1.entitlements "lst").map planOf = some (.expired,2,some day,[("external_id","sub_2")]) := rfl
  refine ⟨resubscribing_restarted,before,rfl,after,?_⟩
  unfold Keeps
  rw [before,after]
  nofun

end second_purchase

end Osds.Billing

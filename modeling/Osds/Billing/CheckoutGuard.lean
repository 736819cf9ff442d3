import Osds.Billing.Purchase

namespace Osds.Billing
open Directory Audit

-- A completion of an attempt for a tier: it carries a trial end exactly when the
-- tier has a trial, and a period end when it has none.
structure CompletionOf (publicId : ListingId) (attempt : AttemptId) (tier : Tier) (report : PaymentReport) : Prop
    extends Names publicId attempt report where
  kind : report.kind = .checkoutCompleted
  trial : report.trialEndsAt.isSome = tier.trialDays.isSome
  ends : report.trialEndsAt = none → report.periodEnd.isSome

-- The row `prepare` wrote, once the provider's reference was recorded on it.
def sinceOpened (externalRef : String) (a : CheckoutAttempt) : CheckoutAttempt := {a with externalRef := externalRef}

section guard

variable (cfg : Config) (now : Time) {s : Store} {tenant : TenantId} {publicId : ListingId} {l : Listing}
  {attempt : AttemptId} {a : CheckoutAttempt} {adapter : AdapterId} {report : PaymentReport}

theorem row_of_status (present : statusOf seen ≠ .none) : ∃ row, seen = some row := by
  cases seen with
  | none => exact (present rfl).elim
  | some row => exact ⟨row,rfl⟩

theorem trial_exact (offer : Offer s tenant publicId l attempt a) (started : a.status = .started)
    (names : Names publicId attempt report) (kind : report.kind = .checkoutCompleted)
    (trial : report.trialEndsAt = some trialEndsAt) (unseen : Unseen s tenant adapter report) :
    if statusOf (s.entitlements publicId) ∈ trialable then
      (reportPayment cfg s tenant adapter report now).2 = .applied ∧
        Holds (reportPayment cfg s tenant adapter report now).1 publicId attempt .trialing a.tier
    else (reportPayment cfg s tenant adapter report now).2 = .ignored .invalidTransition := by
  have known : report.kind.value ∈ reportKinds := by rw [kind]; decide
  obtain ⟨data,mapped⟩ := reportTrigger_trial (cfg.tiers tenant) publicId
    ((s.entitlements publicId).map (·.toEntitlement)) kind started trial
  split
  · rename_i open_
    obtain ⟨e,m,applied,landed⟩ := applyTrigger_startTrial cfg
      {tier := some a.tier,trialEndsAt := some trialEndsAt,paymentRef := report.paymentRef} offer.listed open_
        rfl rfl rfl
    obtain ⟨answer,holds,_⟩ :=
      starts_hold cfg now offer names unseen known mapped (by decide) applied landed rfl rfl
    exact ⟨answer,holds⟩
  · rename_i shut
    have some_ : statusOf (s.entitlements publicId) ≠ .none := by
      intro none
      rw [none] at shut
      exact shut (by decide)
    obtain ⟨row,present⟩ := row_of_status some_
    rw [present] at shut
    exact (checkout_refused cfg now offer names unseen known (.inl kind) started present mapped
      (startTrial_illegal shut)).1

-- The completion of a checkout that the guard let start, and whose listing no
-- trigger moved since, is applied exactly when its tier has no trial or the
-- listing had no plan in force.
theorem checkout_guard_exact
    (prepared : prepare cfg site s tenant publicId user tierKey attempt opened = .ok (s',request,prov))
    (named : attempt ≠ "") (chosen : (cfg.tiers tenant).byKey tierKey = some tier)
    (unmoved : later.entitlements publicId = s.entitlements publicId)
    (kept : later.attempts attempt = (s'.attempts attempt).map (sinceOpened externalRef))
    (listed : later.listings publicId = some l) (tenancy : l.tenant = tenant)
    (completion : CompletionOf publicId attempt ((cfg.tiers tenant).row tier) report)
    (unseen : Unseen later tenant adapter report) :
    let result := reportPayment cfg later tenant adapter report now
    result.2 = .applied ∧
      (Holds result.1 publicId attempt .trialing tier ∨ Holds result.1 publicId attempt .active tier) ↔
    ((cfg.tiers tenant).row tier).trialDays = none ∨ statusOf (s.entitlements publicId) ∈ trialable := by
  intro result
  obtain ⟨_,fresh,bought,_,sold,guarded,rfl,_⟩ := prepare_exact.mp prepared
  have same : bought = tier := by
    unfold checkoutTier at sold
    by_cases blank : tierKey = ""
    · rw [if_pos blank] at sold
      cases sold
    · rw [if_neg blank,chosen] at sold
      dsimp only at sold
      split at sold
      · exact (Except.ok.inj sold).symm
      · cases sold
  subst same
  have stored : later.attempts attempt =
      some (sinceOpened externalRef (newAttempt tenant publicId bought prov user opened)) := by
    rw [kept,setAttempt_self]
    rfl
  have offer : Offer later tenant publicId l attempt
      (sinceOpened externalRef (newAttempt tenant publicId bought prov user opened)) :=
    ⟨listed,tenancy,named,stored,rfl,rfl⟩
  rw [← unmoved] at guarded ⊢
  have known : report.kind.value ∈ reportKinds := by rw [completion.kind]; decide
  cases trial : report.trialEndsAt with
  | none =>
      have plain : ((cfg.tiers tenant).row bought).trialDays = none := by
        have none_ := completion.trial
        rw [trial] at none_
        exact Option.isSome_eq_false_iff.mp none_.symm |> Option.isNone_iff_eq_none.mp
      obtain ⟨periodEnd,ends⟩ := Option.isSome_iff_exists.mp (completion.ends trial)
      obtain ⟨answer,bought_,_⟩ := start_bought cfg now offer completion.toNames unseen known
        (guard_startable guarded) (reportTrigger_checkout _ _ _ completion.kind rfl trial ends)
      exact iff_of_true ⟨answer,.inr bought_⟩ (.inl plain)
  | some trialEndsAt =>
      have trialed : ((cfg.tiers tenant).row bought).trialDays ≠ none := by
        have some_ := completion.trial
        rw [trial] at some_
        exact Option.isSome_iff_ne_none.mp some_.symm
      have outcome := trial_exact cfg now offer rfl completion.toNames completion.kind trial unseen
      split at outcome
      · rename_i open_
        exact iff_of_true ⟨outcome.1,.inl outcome.2⟩ (.inr open_)
      · rename_i shut
        refine iff_of_false ?_ (by simp [trialed,shut])
        intro applied
        have ignored : result.2 = .ignored .invalidTransition := outcome
        rw [ignored] at applied
        cases applied.1

end guard

def trialReport : PaymentReport :=
  {kind := .checkoutCompleted
   externalEventId := "evt_checkout"
   checkoutAttemptId := "chk"
   trialEndsAt := some (14*day)
   paymentRef := [("external_id","sub_1")]}

theorem checkout_guard_fresh :
    let s := exampleRun []
    let later := exampleRun [exampleCheckout "tryout",.recordStarted "chk" "cs_1" systemActor]
    let result := reportPayment exampleConfig later 1 exampleAdapter trialReport 5
    (prepare exampleConfig exampleSite s 1 "lst" exampleOwner "tryout" "chk" 0).isOk ∧ result.2 = .applied ∧
      (Holds result.1 "lst" "chk" .trialing 3 ∨ Holds result.1 "lst" "chk" .active 3) := by
  intro s later result
  obtain ⟨out,prepared⟩ : ∃ out, prepare exampleConfig exampleSite s 1 "lst" exampleOwner "tryout" "chk" 0 =
      .ok out := ⟨_,rfl⟩
  have kept : later.attempts "chk" = (out.1.attempts "chk").map (sinceOpened "cs_1") := by
    cases prepared
    rfl
  have unseen : Unseen later 1 exampleAdapter trialReport := ⟨rfl,rfl,by decide⟩
  have completion : CompletionOf "lst" "chk" ((exampleConfig.tiers 1).row 3) trialReport :=
    ⟨⟨rfl,.inl rfl,by decide⟩,rfl,rfl,nofun⟩
  have listed : later.listings "lst" = some exampleListing := rfl
  have chosen : (exampleConfig.tiers 1).byKey "tryout" = some 3 := rfl
  have unmoved : later.entitlements "lst" = s.entitlements "lst" := rfl
  refine ⟨by rw [prepared]; rfl,?_⟩
  exact (checkout_guard_exact exampleConfig 5 prepared (by decide) chosen unmoved kept listed rfl completion
    unseen).mpr (.inr (by decide))

-- A comped listing may start a checkout for a tier with a trial; its completion
-- is ignored and finishes the attempt, and the comp stays on its tier.
theorem comp_trial_ignored :
    let s := exampleRun [exampleGrant]
    let later := exampleRun [exampleGrant,exampleCheckout "tryout"]
    let result := reportPayment exampleConfig later 1 exampleAdapter trialReport 5
    (prepare exampleConfig exampleSite s 1 "lst" exampleOwner "tryout" "chk" 0).isOk ∧
      later.entitlements "lst" = s.entitlements "lst" ∧
      result.2 = .ignored .invalidTransition ∧
      (result.1.entitlements "lst").map (fun row => (row.status,row.tier)) = some (.comped,2) ∧
      (result.1.attempts "chk").map (·.status) = some .completed :=
  ⟨rfl,rfl,rfl,rfl,rfl⟩

end Osds.Billing

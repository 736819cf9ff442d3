import Osds.Billing.Entitlements
import Osds.Lib.Fallible

namespace Osds.Billing
open Directory Audit

theorem save_exact : save e = .ok row ↔ row.toEntitlement = e := by
  unfold save
  constructor
  · intro accepted
    split at accepted
    · split at accepted
      · cases accepted
        rfl
      · cases accepted
    · cases accepted
  · intro equal
    subst equal
    rw [dif_pos row.representable,dif_pos row.nonNegative]

theorem need_exact {value : Option α} : need name value = .ok a ↔ value = some a := by
  cases value with
  | none => exact ⟨nofun,nofun⟩
  | some b => exact ⟨fun equal => congrArg some (Except.ok.inj equal),fun equal => congrArg Except.ok (Option.some.inj equal)⟩

theorem clockGuard_exact : clockGuard e trigger now = .ok () ↔
    (trigger ∈ clockTriggers → isDue e trigger now = true) := by
  unfold clockGuard
  split
  · rename_i late
    exact iff_of_false nofun (fun due => by simp [due late.1] at late)
  · rename_i timely
    refine iff_of_true rfl (fun clock => ?_)
    cases due : isDue e trigger now with
    | true => rfl
    | false => exact (timely ⟨clock,due⟩).elim

-- What a trigger that was applied did: every guard it passed and every row it
-- leaves. The later results split on this and on the table.
theorem advance_exact : advance tiers entitlementId publicId row l trigger now actor origin p = .ok m ↔
    ∃ r facts saved mail, ruleFor row.status trigger = .ok r ∧
      (trigger ∈ clockTriggers → isDue row.toEntitlement trigger now = true) ∧
      mutate tiers row.toEntitlement trigger r now p = .ok (saved.toEntitlement,facts) ∧
      afterTransition saved.toEntitlement l r now = .ok mail ∧
      m = settle tiers entitlementId publicId row.status saved l r facts now actor origin p mail := by
  unfold advance
  simp only [Fallible.bind_exact,Fallible.pure_exact]
  constructor
  · rintro ⟨r,legal,_,timely,⟨draft,facts⟩,mutated,saved,stored,mail,queued,rfl⟩
    cases save_exact.mp stored
    exact ⟨r,facts,saved,mail,legal,clockGuard_exact.mp timely,mutated,queued,rfl⟩
  · rintro ⟨r,facts,saved,mail,legal,timely,mutated,queued,rfl⟩
    exact ⟨r,legal,(),clockGuard_exact.mpr timely,(saved.toEntitlement,facts),mutated,saved,
      save_exact.mpr rfl,mail,queued,rfl⟩

theorem openRow_exact : openRow seen false trigger p = .ok row ↔
    seen = some row ∨ seen = none ∧ trigger ∈ creators ∧ ∃ tier, p.tier = some tier ∧ row = newRow tier := by
  cases seen with
  | some found => simp [openRow]
  | none =>
      unfold openRow
      by_cases creates : trigger ∈ creators
      · simp only [if_pos creates,Fallible.bind_exact,need_exact,Bool.false_eq_true,if_false]
        simp [creates,eq_comm]
      · rw [if_neg creates]
        exact iff_of_false nofun (by simp [creates])

theorem applyTrigger_exact : applyTrigger cfg s publicId trigger now actor origin p = .ok (s',m) ↔
    ∃ l row, s.listings publicId = some l ∧
      openRow (s.entitlements publicId) false trigger p = .ok row ∧
      advance (cfg.tiers l.tenant) (cfg.entitlementId publicId) publicId row l trigger now actor origin p = .ok m ∧
      s' = s.commit publicId m := by
  unfold applyTrigger
  cases present : s.listings publicId with
  | none => exact iff_of_false nofun (by rintro ⟨_,_,absurd,_⟩; cases absurd)
  | some l =>
      simp only [Fallible.bind_exact,Fallible.pure_exact,Prod.mk.injEq]
      constructor
      · rintro ⟨row,opened,moved,advanced,rfl,rfl⟩
        exact ⟨l,row,rfl,opened,advanced,rfl⟩
      · rintro ⟨_,row,equal,opened,advanced,rfl⟩
        cases equal
        exact ⟨row,opened,m,advanced,rfl,rfl⟩

theorem override_status (overridden : override e now p to_ = .ok draft) : draft.status = to_ := by
  obtain ⟨landed,lands,kept⟩ := Fallible.bind_exact.mp overridden
  cases to_ with
  | trialing =>
      obtain ⟨ends,_,rest⟩ := Fallible.bind_exact.mp lands
      cases rest
      cases kept
      rfl
  | canceled =>
      obtain ⟨ends,_,rest⟩ := Fallible.bind_exact.mp lands
      cases rest
      cases kept
      rfl
  | _ =>
      cases lands
      cases kept
      rfl

theorem granted_exact : mutate tiers e .grant r now p = .ok (draft,facts) ↔
    ∃ tier operator reason, (p.tier = some tier ∧ p.operator = some operator ∧ p.reason = some reason) ∧
      draft = grantComp e now p tier operator reason ∧ facts = {fromTier := (tiers.row e.tier).key} := by
  unfold mutate
  dsimp only
  constructor
  · intro mutated
    split at mutated
    · next tier operator reason ofTier given why =>
        cases mutated
        exact ⟨tier,operator,reason,⟨ofTier,given,why⟩,rfl,rfl⟩
    · cases mutated
  · intro granted
    obtain ⟨tier,operator,reason,⟨ofTier,given,why⟩,rfl,rfl⟩ := granted
    rw [ofTier,given,why]
    rfl

theorem revoked_exact : mutate tiers e .revoke r now p = .ok (draft,facts) ↔
    (p.operator.isSome ∧ p.reason.isSome) ∧ draft = clearComp {e with status := .expired} ∧
      facts = {fromTier := (tiers.row e.tier).key} := by
  unfold mutate
  dsimp only
  constructor
  · intro mutated
    split at mutated
    · next given why =>
        cases mutated
        rw [given,why]
        exact ⟨⟨rfl,rfl⟩,rfl,rfl⟩
    · cases mutated
  · intro revoked
    obtain ⟨⟨given,why⟩,rfl,rfl⟩ := revoked
    obtain ⟨operator,given⟩ := Option.isSome_iff_exists.mp given
    obtain ⟨reason,why⟩ := Option.isSome_iff_exists.mp why
    rw [given,why]
    rfl

theorem overridden_exact : mutate tiers e .override r now p = .ok (draft,facts) ↔
    ∃ to_, p.toStatus.bind Status.ofValue = some to_ ∧ p.operator.isSome ∧ p.reason.isSome ∧
      override e now p to_ = .ok draft ∧ facts = {fromTier := (tiers.row e.tier).key} := by
  unfold mutate
  dsimp only
  cases p.toStatus with
  | none => simp [throw,throwThe,MonadExceptOf.throw]
  | some text =>
      cases p.operator with
      | none => simp [throw,throwThe,MonadExceptOf.throw]
      | some operator =>
          cases p.reason with
          | none => simp [throw,throwThe,MonadExceptOf.throw]
          | some reason =>
              cases named : Status.ofValue text with
              | none => simp [named,throw,throwThe,MonadExceptOf.throw]
              | some to_ =>
                  simp only [named,Fallible.bind_exact,Fallible.pure_exact,Prod.mk.injEq,Option.bind_some,
                    Option.some.injEq,Option.isSome_some,true_and,exists_eq_left']
                  constructor
                  · intro ⟨found,overridden,equal⟩
                    rw [equal.1] at overridden
                    exact ⟨overridden,equal.2.symm⟩
                  · intro ⟨overridden,equal⟩
                    exact ⟨draft,overridden,rfl,equal.symm⟩

section settle

variable {tiers : Tiers} {saved : EntitlementRow} {l : Listing} {r : Rule}

theorem visibilityAfter_row : ∃ hidden, (visibilityAfter tiers publicId saved l actor).1.toEntitlement =
    {saved.toEntitlement with hiddenByExpiry := hidden} := by
  unfold visibilityAfter
  split
  · split
    · exact ⟨true,rfl⟩
    · exact ⟨saved.hiddenByExpiry,rfl⟩
  · split
    · split
      · exact ⟨false,rfl⟩
      · exact ⟨false,rfl⟩
    · exact ⟨saved.hiddenByExpiry,rfl⟩

theorem visibilityAfter_tier : (visibilityAfter tiers publicId saved l actor).2.1.currentTier = l.currentTier := by
  unfold visibilityAfter
  split
  · split
    · exact setListingVisibility_tier
    · rfl
  · split
    · split
      · exact setListingVisibility_tier
      · rfl
    · rfl

theorem visibilityAfter_tenant : (visibilityAfter tiers publicId saved l actor).2.1.tenant = l.tenant := by
  unfold visibilityAfter
  split
  · split
    · exact setListingVisibility_tenant
    · rfl
  · split
    · split
      · exact setListingVisibility_tenant
      · rfl
    · rfl

theorem visibilityAfter_shown (perks : saved.status.perks) :
    (visibilityAfter tiers publicId saved l actor).1.hiddenByExpiry = false := by
  unfold visibilityAfter
  have open_ : saved.status ≠ .expired := by
    intro equal
    rw [equal] at perks
    cases perks
  rw [if_neg (fun both => open_ both.1)]
  split
  · split
    · rfl
    · rfl
  · rename_i plain
    cases hidden : saved.hiddenByExpiry with
    | false => rfl
    | true => exact (plain ⟨hidden,perks⟩).elim

theorem visibilityAfter_events (present : e ∈ (visibilityAfter tiers publicId saved l actor).2.2.1) :
    e.type = .listingPublished ∨ e.type = .listingUnpublished := by
  unfold visibilityAfter at present
  split at present
  · split at present
    · exact setListingVisibility_events present
    · cases present
  · split at present
    · split at present
      · exact setListingVisibility_events present
      · cases present
    · cases present

theorem setTier_events (present : e ∈ (setTier tiers publicId l tier cause now actor origin).2) :
    e.type = .listingTierChanged := by
  unfold setTier at present
  split at present
  · cases present
  · rw [List.mem_singleton.mp present]
    rfl

theorem setTier_tier : (setTier tiers publicId l tier cause now actor origin).1.currentTier = tier := by
  unfold setTier
  split
  · rename_i equal
    exact equal
  · rfl

theorem setTier_tenant : (setTier tiers publicId l tier cause now actor origin).1.tenant = l.tenant := by
  unfold setTier
  split <;> rfl

theorem settle_row : ∃ hidden, (settle tiers entitlementId publicId prior saved l r facts now actor origin p
    mail).row.toEntitlement = {saved.toEntitlement with hiddenByExpiry := hidden} :=
  visibilityAfter_row

theorem settle_tier : (settle tiers entitlementId publicId prior saved l r facts now actor origin p
    mail).listing.currentTier = effectiveTier tiers saved.toEntitlement :=
  visibilityAfter_tier.trans setTier_tier

theorem effectiveTier_settle : effectiveTier tiers (settle tiers entitlementId publicId prior saved l r facts
    now actor origin p mail).row.toEntitlement = effectiveTier tiers saved.toEntitlement := by
  obtain ⟨hidden,equal⟩ : ∃ hidden, (settle tiers entitlementId publicId prior saved l r facts now actor
    origin p mail).row.toEntitlement = {saved.toEntitlement with hiddenByExpiry := hidden} := settle_row
  rw [equal]
  rfl

theorem settle_tenant : (settle tiers entitlementId publicId prior saved l r facts now actor origin p
    mail).listing.tenant = l.tenant :=
  visibilityAfter_tenant.trans setTier_tenant

theorem settle_shown (perks : saved.status.perks) : (settle tiers entitlementId publicId prior saved l r
    facts now actor origin p mail).row.hiddenByExpiry = false :=
  visibilityAfter_shown perks

theorem settle_events (present : e ∈ (settle tiers entitlementId publicId prior saved l r facts now actor origin
    p mail).events) : (∃ name ∈ r.events, e.type = name.type) ∨
    e.type ∈ [EventType.listingTierChanged,.listingPublished,.listingUnpublished] := by
  rcases List.mem_append.mp present with early | shown
  · rcases List.mem_append.mp early with named | tiered
    · obtain ⟨name,listed,rfl⟩ := List.mem_map.mp named
      exact .inl ⟨name,listed,eventData_type name⟩
    · rw [setTier_events tiered]
      exact .inr (by decide)
  · rcases visibilityAfter_events shown with published | unpublished
    · rw [published]; exact .inr (by decide)
    · rw [unpublished]; exact .inr (by decide)

end settle

def Rule.quiet (r : Rule) : Prop := ∀ name ∈ r.events, name ∉ [RuleEvent.dunningStarted,.downgraded,.canceled,.expired]

instance (r : Rule) : Decidable r.quiet := inferInstanceAs (Decidable (∀ name ∈ r.events,_))

theorem notices_quiet (quiet : r.quiet) : notices e name r now = [] := by
  have silent : .dunningStarted ∉ r.events ∧ .downgraded ∉ r.events ∧ .canceled ∉ r.events ∧ .expired ∉ r.events := by
    refine ⟨?_,?_,?_,?_⟩ <;> intro present <;> exact quiet _ present (by decide)
  obtain ⟨dunning,downgraded,canceled,expired⟩ := silent
  unfold notices
  cases e.dunningEndsAt <;> cases e.graceEndsAt <;> simp [dunning,downgraded,canceled,expired]

theorem afterTransition_quiet (quiet : r.quiet) : afterTransition e l r now = .ok [] := by
  unfold afterTransition
  rw [notices_quiet quiet]
  cases address l <;> rfl

theorem advance_quiet {row : EntitlementRow} (legal : ruleFor row.status trigger = .ok r) (quiet : r.quiet)
    (anytime : trigger ∉ clockTriggers)
    (mutated : mutate tiers row.toEntitlement trigger r now p = .ok (saved.toEntitlement,facts)) :
    advance tiers entitlementId publicId row l trigger now actor origin p =
      .ok (settle tiers entitlementId publicId row.status saved l r facts now actor origin p []) :=
  advance_exact.mpr ⟨r,facts,saved,[],legal,fun clock => (anytime clock).elim,mutated,
    afterTransition_quiet quiet,rfl⟩

theorem advance_illegal {row : EntitlementRow} (refused : ruleFor row.status trigger = .error f) :
    advance tiers entitlementId publicId row l trigger now actor origin p = .error f := by
  unfold advance
  rw [refused]
  rfl

section drafts

@[simp] theorem resetLifecycle_status : (resetLifecycle e).status = e.status := rfl
@[simp] theorem resetLifecycle_tier : (resetLifecycle e).tier = e.tier := rfl
@[simp] theorem resetLifecycle_period : (resetLifecycle e).currentPeriodEnd = e.currentPeriodEnd := rfl
@[simp] theorem resetLifecycle_ref : (resetLifecycle e).paymentRef = e.paymentRef := rfl
@[simp] theorem clearComp_status : (clearComp e).status = e.status := rfl
@[simp] theorem clearComp_tier : (clearComp e).tier = e.tier := rfl
@[simp] theorem clearComp_period : (clearComp e).currentPeriodEnd = e.currentPeriodEnd := rfl
@[simp] theorem clearComp_ref : (clearComp e).paymentRef = e.paymentRef := rfl

@[simp] theorem pay_status : (pay e p periodEnd).status = .active := by
  unfold pay
  split <;> rfl

@[simp] theorem pay_tier : (pay e p periodEnd).tier = p.tier.getD e.tier := by
  unfold pay
  split <;> rfl

@[simp] theorem pay_hidden : (pay e p periodEnd).hiddenByExpiry = e.hiddenByExpiry := by
  unfold pay
  split <;> rfl

@[simp] theorem pay_period : (pay e p periodEnd).currentPeriodEnd = some periodEnd := by
  unfold pay
  split <;> rfl

@[simp] theorem pay_ref : (pay e p periodEnd).paymentRef =
    if p.paymentRef = [] then e.paymentRef else p.paymentRef := by
  unfold pay
  by_cases comped : e.status = .comped
  · rw [if_pos comped]
    rfl
  · rw [if_neg comped]
    rfl

theorem reset_fits (e : Entitlement) (within : ∀ n ∈ e.termDays, smallint n) (positive : ∀ n ∈ e.termDays, 0 ≤ n) :
    ∃ saved : EntitlementRow, saved.toEntitlement = resetLifecycle e := by
  have counter : smallint 0 := by decide
  exact ⟨⟨resetLifecycle e,⟨counter,within,Nat.zero_le _,Nat.zero_le _⟩,⟨Int.le_refl _,positive⟩⟩,rfl⟩

theorem pay_fits (row : EntitlementRow) (p : Params) (periodEnd : Time) :
    ∃ saved : EntitlementRow, saved.toEntitlement = pay row.toEntitlement p periodEnd := by
  unfold pay
  apply reset_fits
  · split <;> exact row.representable.2.1
  · split <;> exact row.nonNegative.2

theorem purchase_fits (e : Entitlement) (termless : p.termDays = none) :
    ∃ saved : EntitlementRow, saved.toEntitlement = purchase e now p tier status trialEndsAt periodEnd := by
  unfold purchase
  refine reset_fits (clearComp _) ?_ ?_
  · intro n present
    change n ∈ p.termDays at present
    rw [termless] at present
    cases present
  · intro n present
    change n ∈ p.termDays at present
    rw [termless] at present
    cases present

end drafts

-- What a draft became: the stored row up to the flag expiry sets, and the tier
-- the listing shows for it.
structure Landed (tiers : Tiers) (l : Listing) (draft : Entitlement) (m : Moved) : Prop where
  row : ∃ hidden, m.row.toEntitlement = {draft with hiddenByExpiry := hidden}
  shown : draft.status.perks → m.row.hiddenByExpiry = false
  tier : m.listing.currentTier = effectiveTier tiers draft
  tenant : m.listing.tenant = l.tenant

theorem settle_landed : Landed tiers l saved.toEntitlement (settle tiers entitlementId publicId prior saved l r
    facts now actor origin p mail) :=
  ⟨settle_row,settle_shown,settle_tier,settle_tenant⟩

theorem advance_landed (advanced : advance tiers entitlementId publicId row l trigger now actor origin p = .ok m) :
    ∃ r draft facts, ruleFor row.status trigger = .ok r ∧
      (trigger ∈ clockTriggers → isDue row.toEntitlement trigger now = true) ∧
      mutate tiers row.toEntitlement trigger r now p = .ok (draft,facts) ∧ Landed tiers l draft m ∧
      ∀ e ∈ m.events, (∃ name ∈ r.events, e.type = name.type) ∨
        e.type ∈ [EventType.listingTierChanged,.listingPublished,.listingUnpublished] := by
  obtain ⟨r,facts,saved,mail,legal,timely,mutated,_,rfl⟩ := advance_exact.mp advanced
  exact ⟨r,saved.toEntitlement,facts,legal,timely,mutated,settle_landed,fun _ present => settle_events present⟩

theorem Landed.status (landed : Landed tiers l draft m) : m.row.status = draft.status := by
  obtain ⟨_,equal⟩ := landed.row
  rw [equal]

theorem Landed.rowTier (landed : Landed tiers l draft m) : m.row.tier = draft.tier := by
  obtain ⟨_,equal⟩ := landed.row
  rw [equal]

theorem Landed.exact (landed : Landed tiers l draft m) (perks : draft.status.perks)
    (open_ : draft.hiddenByExpiry = false) : m.row.toEntitlement = draft := by
  have shown := landed.shown perks
  obtain ⟨flag,equal⟩ := landed.row
  rw [equal] at shown
  change flag = false at shown
  rw [equal,shown,← open_]

theorem Landed.perks (landed : Landed tiers l draft m) (perks : draft.status.perks) :
    m.listing.currentTier = some draft.tier := by
  rw [landed.tier,effectiveTier,if_pos perks]

theorem applyTrigger_quiet (listed : s.listings publicId = some l)
    (opened : openRow (s.entitlements publicId) false trigger p = .ok row)
    (legal : ruleFor row.status trigger = .ok r) (quiet : r.quiet) (anytime : trigger ∉ clockTriggers)
    (mutated : mutate (cfg.tiers l.tenant) row.toEntitlement trigger r now p = .ok (draft,facts))
    (fits : ∃ saved : EntitlementRow, saved.toEntitlement = draft) :
    ∃ m, applyTrigger cfg s publicId trigger now actor origin p = .ok (s.commit publicId m,m) ∧
      Landed (cfg.tiers l.tenant) l draft m := by
  obtain ⟨saved,rfl⟩ := fits
  refine ⟨_,applyTrigger_exact.mpr ⟨l,row,listed,opened,advance_quiet legal quiet anytime mutated,rfl⟩,?_⟩
  exact settle_landed

theorem applyTrigger_illegal (listed : s.listings publicId = some l) (present : s.entitlements publicId = some row)
    (refused : ruleFor row.status trigger = .error f) :
    applyTrigger cfg s publicId trigger now actor origin p = .error f := by
  unfold applyTrigger
  rw [listed]
  dsimp only
  rw [present,openRow]
  dsimp only [bind,Except.bind]
  rw [advance_illegal refused]

def startable : List Status := [.none,.expired,.comped,.canceled]
def trialable : List Status := [.none,.expired]
def payable : List Status := [.trialing,.active,.pastDue,.grace,.canceled,.comped]

theorem start_legal (startable : status ∈ startable) :
    ruleFor status .start = .ok (rule (.status .active) [.started] .unset .purchase) := by
  cases status <;> first | rfl | exact absurd startable (by decide)

theorem startTrial_legal (trialable : status ∈ trialable) :
    ruleFor status .startTrial = .ok (rule (.status .trialing) [.started] .unset .purchase) := by
  cases status <;> first | rfl | exact absurd trialable (by decide)

theorem pay_legal (payable : status ∈ payable) : ∃ r, ruleFor status .paymentSucceeded = .ok r ∧ r.quiet := by
  cases status <;> first | exact ⟨_,rfl,by decide⟩ | exact absurd payable (by decide)

theorem start_illegal (refused : status ∉ startable) :
    ruleFor status .start = .error (.invalidTransition status .start) := by
  cases status <;> first | rfl | exact absurd (by decide) refused

theorem startTrial_illegal (refused : status ∉ trialable) :
    ruleFor status .startTrial = .error (.invalidTransition status .startTrial) := by
  cases status <;> first | rfl | exact absurd (by decide) refused

theorem pay_illegal (refused : status ∉ payable) :
    ruleFor status .paymentSucceeded = .error (.invalidTransition status .paymentSucceeded) := by
  cases status <;> first | rfl | exact absurd (by decide) refused

theorem openRow_creator (seen : Option EntitlementRow) (creates : trigger ∈ creators) (offered : p.tier = some tier) :
    ∃ row, openRow seen false trigger p = .ok row ∧ row.status = statusOf seen := by
  cases seen with
  | none =>
      refine ⟨newRow tier,?_,rfl⟩
      exact openRow_exact.mpr (.inr ⟨rfl,creates,tier,offered,rfl⟩)
  | some row => exact ⟨row,rfl,rfl⟩

theorem applyTrigger_start (cfg : Config) (p : Params) (listed : s.listings publicId = some l)
    (open_ : statusOf (s.entitlements publicId) ∈ startable) (offered : p.tier = some tier)
    (ends : p.periodEnd = some periodEnd) (termless : p.termDays = none) :
    ∃ e m, applyTrigger cfg s publicId .start now actor origin p = .ok (s.commit publicId m,m) ∧
      Landed (cfg.tiers l.tenant) l (purchase e now p tier .active none periodEnd) m := by
  have creates : Trigger.start ∈ creators := by decide
  obtain ⟨row,opened,status⟩ := openRow_creator (s.entitlements publicId) creates offered
  rw [← status] at open_
  have mutated : mutate (cfg.tiers l.tenant) row.toEntitlement .start (rule (.status .active) [.started] .unset
      .purchase) now p = .ok (purchase row.toEntitlement now p tier .active none periodEnd,
        {fromTier := ((cfg.tiers l.tenant).row row.tier).key}) := by
    rw [mutate,offered,ends]
    rfl
  exact ⟨row.toEntitlement,applyTrigger_quiet listed opened (start_legal open_) (by decide) (by decide) mutated
    (purchase_fits _ termless)⟩

theorem applyTrigger_startTrial (cfg : Config) (p : Params) (listed : s.listings publicId = some l)
    (open_ : statusOf (s.entitlements publicId) ∈ trialable) (offered : p.tier = some tier)
    (ends : p.trialEndsAt = some trialEndsAt) (termless : p.termDays = none) :
    ∃ e m, applyTrigger cfg s publicId .startTrial now actor origin p = .ok (s.commit publicId m,m) ∧
      Landed (cfg.tiers l.tenant) l
        (purchase e now p tier .trialing (some trialEndsAt) (p.periodEnd.getD trialEndsAt)) m := by
  have creates : Trigger.startTrial ∈ creators := by decide
  obtain ⟨row,opened,status⟩ := openRow_creator (s.entitlements publicId) creates offered
  rw [← status] at open_
  have mutated : mutate (cfg.tiers l.tenant) row.toEntitlement .startTrial (rule (.status .trialing) [.started]
      .unset .purchase) now p = .ok (purchase row.toEntitlement now p tier .trialing (some trialEndsAt)
        (p.periodEnd.getD trialEndsAt),{fromTier := ((cfg.tiers l.tenant).row row.tier).key}) := by
    rw [mutate,offered,ends]
    rfl
  exact ⟨row.toEntitlement,applyTrigger_quiet listed opened (startTrial_legal open_) (by decide) (by decide)
    mutated (purchase_fits _ termless)⟩

theorem applyTrigger_pay (cfg : Config) (p : Params) (listed : s.listings publicId = some l)
    (present : s.entitlements publicId = some row) (reached : row.status ∈ payable)
    (ends : p.periodEnd = some periodEnd) : ∃ m, applyTrigger cfg s publicId .paymentSucceeded now actor origin p = .ok (s.commit publicId m,m) ∧
      Landed (cfg.tiers l.tenant) l (pay row.toEntitlement p periodEnd) m := by
  obtain ⟨r,legal,quiet⟩ := pay_legal reached
  have opened : openRow (s.entitlements publicId) false .paymentSucceeded p = .ok row := by rw [present]; rfl
  obtain ⟨facts,mutated⟩ : ∃ facts, mutate (cfg.tiers l.tenant) row.toEntitlement .paymentSucceeded r now p =
      .ok (pay row.toEntitlement p periodEnd,facts) := by
    rw [mutate,ends]
    exact ⟨_,rfl⟩
  exact applyTrigger_quiet listed opened legal quiet (by decide) mutated (pay_fits row p periodEnd)

end Osds.Billing

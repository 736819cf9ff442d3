import Osds.Billing.RowInvariants
import Osds.Billing.TimedStates

namespace Osds.Billing
open Directory Audit

def Uncanceled (e : Entitlement) : Prop := e.cancelAtPeriodEnd = false ∧ e.canceledAt = none

def Unlapsed (e : Entitlement) : Prop :=
  e.dunningStartedAt = none ∧ e.dunningEndsAt = none ∧ e.graceEndsAt = none ∧ e.failedAttempts = 0

def Uncomped (e : Entitlement) : Prop := e.compGrantedBy = none ∧ e.compReason = "" ∧ e.compExpiresAt = none

instance (e : Entitlement) : Decidable (Uncanceled e) := inferInstanceAs (Decidable (_ ∧ _))
instance (e : Entitlement) : Decidable (Unlapsed e) := inferInstanceAs (Decidable (_ ∧ _))
instance (e : Entitlement) : Decidable (Uncomped e) := inferInstanceAs (Decidable (_ ∧ _))

def upToDate : List Status := [.trialing,.active,.comped]

structure Coherent (e : Entitlement) : Prop where
  uncanceled : e.status ∈ upToDate → Uncanceled e
  unlapsed : e.status ∈ upToDate → Unlapsed e
  uncomped : e.status ∈ upToDate → e.status ≠ .comped → Uncomped e
  pastDue : e.status = .pastDue → Uncanceled e ∧ e.graceEndsAt = none

structure Marked (e : Entitlement) : Prop extends Coherent e where
  comp : e.status ∉ [Status.comped,.expired] → Uncomped e

-- The parameters an override passes its checks with, and the count of attempts
-- that a new dunning adds to.
structure Overrides (e : Entitlement) (p : Params) (to_ : Status) : Prop where
  names : p.toStatus.bind Status.ofValue = some to_
  operator : p.operator.isSome
  reason : p.reason.isSome
  trial : to_ = .trialing → p.trialEndsAt.isSome
  counted : to_ = .pastDue → smallint (e.failedAttempts+1)

-- Nothing left on a row that the status it is to get has no use for.
structure Unburdened (e : Entitlement) (to_ : Status) : Prop where
  upToDate : to_ ∈ upToDate → Uncanceled e ∧ Unlapsed e
  pastDue : to_ = .pastDue → Uncanceled e ∧ e.graceEndsAt = none

-- Each override in force meets a row without leftover marks.
def OverridesUnburdened (s : Store) : Action → Prop
  | .trigger publicId .override _ _ _ p => ∀ row, s.entitlements publicId = some row →
      ∀ to_, Overrides row.toEntitlement p to_ → Unburdened row.toEntitlement to_
  | _ => True

theorem unmarked_unstamped : Unstamped Marked where
  hidden _ _ marked := ⟨⟨marked.uncanceled,marked.unlapsed,marked.uncomped,marked.pastDue⟩,marked.comp⟩
  notified _ _ marked := ⟨⟨marked.uncanceled,marked.unlapsed,marked.uncomped,marked.pastDue⟩,marked.comp⟩

section mutations

variable {tiers : Tiers} {e draft : Entitlement} {p : Params}

theorem Marked.clear (uncanceled : Uncanceled e) (unlapsed : Unlapsed e)
    (uncomped : e.status ∉ [Status.comped,.expired] → Uncomped e) : Marked e := by
  refine ⟨⟨fun _ => uncanceled,fun _ => unlapsed,?_,fun _ => ⟨uncanceled,unlapsed.2.2.1⟩⟩,uncomped⟩
  intro upToDate plan
  apply uncomped
  intro past
  rcases List.mem_pair.mp past with comped | expired
  · exact plan comped
  · rw [expired] at upToDate
    exact absurd upToDate (by decide)

theorem Marked.past (status : Status) (is : e.status = status) (past : status ∉ upToDate ∧ status ≠ .pastDue)
    (uncomped : e.status ∉ [Status.comped,.expired] → Uncomped e) : Marked e := by
  subst is
  exact ⟨⟨fun current => (past.1 current).elim,fun current => (past.1 current).elim,
    fun current => (past.1 current).elim,fun late => (past.2 late).elim⟩,uncomped⟩

theorem Marked.late (is : e.status = .pastDue) (uncanceled : Uncanceled e) (ungraced : e.graceEndsAt = none)
    (uncomped : Uncomped e) : Marked e := by
  have past : e.status ∉ upToDate := by
    rw [is]
    decide
  exact ⟨⟨fun current => (past current).elim,fun current => (past current).elim,fun _ _ => uncomped,
    fun _ => ⟨uncanceled,ungraced⟩⟩,fun _ => uncomped⟩

theorem newRow_marked (tier : TierId) : Marked (newRow tier).toEntitlement :=
  .clear ⟨rfl,rfl⟩ ⟨rfl,rfl,rfl,rfl⟩ (fun _ => ⟨rfl,rfl,rfl⟩)

theorem expired_marked (expired : e.status = .expired) : Marked e := by
  refine .past .expired expired (by decide) ?_
  intro kept
  rw [expired] at kept
  exact absurd (by decide) kept

theorem purchase_marked : Marked (purchase e now p tier status trialEndsAt periodEnd) :=
  .clear ⟨rfl,rfl⟩ ⟨rfl,rfl,rfl,rfl⟩ (fun _ => ⟨rfl,rfl,rfl⟩)

theorem pay_marked (marked : Marked e) (reached : e.status ∈ payable) : Marked (pay e p periodEnd) := by
  unfold pay
  by_cases comped : e.status = .comped
  · rw [if_pos comped]
    exact .clear ⟨rfl,rfl⟩ ⟨rfl,rfl,rfl,rfl⟩ (fun _ => ⟨rfl,rfl,rfl⟩)
  · rw [if_neg comped]
    have uncomped : Uncomped e := by
      apply marked.comp
      intro past
      rcases List.mem_pair.mp past with still | expired
      · exact comped still
      · rw [expired] at reached
        exact absurd reached (by decide)
    exact .clear ⟨rfl,rfl⟩ ⟨rfl,rfl,rfl,rfl⟩ (fun _ => uncomped)

theorem failPayment_marked {attempt : Option Int} (marked : Marked e) (reached : e.status ∈ [Status.trialing,.active,.pastDue,.grace]) :
    Marked (failPayment e now code attempt) := by
  have uncomped : Uncomped e := by
    apply marked.comp
    intro past
    rcases List.mem_pair.mp past with comped | expired
    · rw [comped] at reached
      exact absurd reached (by decide)
    · rw [expired] at reached
      exact absurd reached (by decide)
  unfold failPayment
  split
  · next late =>
      refine ⟨⟨?_,?_,fun _ _ => uncomped,marked.pastDue⟩,fun _ => uncomped⟩
      · exact marked.uncanceled
      · intro current
        have impossible : e.status ∈ upToDate := current
        rcases late with late | late
        · rw [late] at impossible
          exact absurd impossible (by decide)
        · rw [late] at impossible
          exact absurd impossible (by decide)
  · next early =>
      have current : e.status ∈ upToDate := by
        cases status : e.status with
        | trialing => decide
        | active => decide
        | pastDue => exact (early (.inl status)).elim
        | grace => exact (early (.inr status)).elim
        | none => rw [status] at reached; exact absurd reached (by decide)
        | expired => rw [status] at reached; exact absurd reached (by decide)
        | canceled => rw [status] at reached; exact absurd reached (by decide)
        | comped => rw [status] at reached; exact absurd reached (by decide)
      exact .late rfl (marked.uncanceled current) (marked.unlapsed current).2.2.1 uncomped

theorem cancel_marked (marked : Marked e) (legal : ruleFor e.status .cancel = .ok r) :
    Marked (cancelEntitlement e r now by_) := by
  unfold cancelEntitlement
  dsimp only
  split
  · have uncomped : Uncomped e := by
      apply marked.comp
      intro past
      rcases List.mem_pair.mp past with comped | expired
      · rw [comped] at legal
        cases legal
      · rw [expired] at legal
        cases legal
    exact .past .canceled rfl (by decide) (fun _ => uncomped)
  · exact expired_marked rfl

theorem override_marked (unburdened : Unburdened e to_) (overridden : override e now p to_ = .ok draft) :
    Marked draft := by
  obtain ⟨landed,lands,kept⟩ := Fallible.bind_exact.mp overridden
  cases to_ with
  | comped =>
      cases lands
      cases kept
      obtain ⟨uncanceled,unlapsed⟩ := unburdened.upToDate (by decide)
      exact .clear uncanceled unlapsed (fun other => (other (List.mem_cons_self ..)).elim)
  | active =>
      cases lands
      cases kept
      obtain ⟨uncanceled,unlapsed⟩ := unburdened.upToDate (by decide)
      exact .clear uncanceled unlapsed (fun _ => ⟨rfl,rfl,rfl⟩)
  | trialing =>
      obtain ⟨ends,_,rest⟩ := Fallible.bind_exact.mp lands
      cases rest
      cases kept
      obtain ⟨uncanceled,unlapsed⟩ := unburdened.upToDate (by decide)
      exact .clear uncanceled unlapsed (fun _ => ⟨rfl,rfl,rfl⟩)
  | pastDue =>
      cases lands
      cases kept
      obtain ⟨uncanceled,ungraced⟩ := unburdened.pastDue rfl
      exact .late rfl uncanceled ungraced ⟨rfl,rfl,rfl⟩
  | canceled =>
      obtain ⟨ends,_,rest⟩ := Fallible.bind_exact.mp lands
      cases rest
      cases kept
      exact .past .canceled rfl (by decide) (fun _ => ⟨rfl,rfl,rfl⟩)
  | grace =>
      cases lands
      cases kept
      exact .past .grace rfl (by decide) (fun _ => ⟨rfl,rfl,rfl⟩)
  | none =>
      cases lands
      cases kept
      exact .clear ⟨rfl,rfl⟩ ⟨rfl,rfl,rfl,rfl⟩ (fun _ => ⟨rfl,rfl,rfl⟩)
  | expired =>
      cases lands
      cases kept
      exact expired_marked rfl

theorem override_counted (overridden : override e now p to_ = .ok draft) (stored : draft.Representable) :
    (to_ = .trialing → p.trialEndsAt.isSome) ∧ (to_ = .pastDue → smallint (e.failedAttempts+1)) := by
  obtain ⟨landed,lands,kept⟩ := Fallible.bind_exact.mp overridden
  constructor
  · intro trial
    subst trial
    obtain ⟨ends,given,_⟩ := Fallible.bind_exact.mp lands
    simp [need_exact.mp given]
  · intro late
    subst late
    cases lands
    cases kept
    exact stored.1

theorem mutate_marked (legal : ruleFor e.status trigger = .ok r)
    (mutated : mutate tiers e trigger r now p = .ok (draft,facts)) (stored : draft.Representable)
    (unburdened : trigger = .override → ∀ to_, Overrides e p to_ → Unburdened e to_) (marked : Marked e) :
    Marked draft := by
  cases trigger with
  | start =>
      obtain ⟨tier,_,rest⟩ := Fallible.bind_exact.mp mutated
      obtain ⟨ends,_,rest⟩ := Fallible.bind_exact.mp rest
      cases rest
      exact purchase_marked
  | startTrial =>
      obtain ⟨tier,_,rest⟩ := Fallible.bind_exact.mp mutated
      obtain ⟨ends,_,rest⟩ := Fallible.bind_exact.mp rest
      cases rest
      exact purchase_marked
  | paymentSucceeded =>
      obtain ⟨ends,_,rest⟩ := Fallible.bind_exact.mp mutated
      cases rest
      refine pay_marked marked (Decidable.byContradiction ?_)
      intro refused
      rw [pay_illegal refused] at legal
      cases legal
  | paymentFailed =>
      cases mutated
      refine failPayment_marked marked ?_
      rw [ruleFor_paymentFailed] at legal
      cases status : e.status <;> rw [status] at legal <;> first | decide | cases legal
  | trialOverdue =>
      cases mutated
      have trial : e.status = .trialing := by
        cases status : e.status <;> rw [status] at legal <;> first | rfl | cases legal
      exact failPayment_marked marked (by rw [trial]; decide)
  | dunningElapsed =>
      cases mutated
      have late : e.status = .pastDue := by
        cases status : e.status <;> rw [status] at legal <;> first | rfl | cases legal
      exact .past .grace rfl (by decide) (fun _ => marked.comp (by rw [late]; decide))
  | cancel =>
      cases mutated
      exact cancel_marked marked legal
  | grant =>
      obtain ⟨_,_,_,_,rfl,_⟩ := granted_exact.mp mutated
      exact .clear ⟨rfl,rfl⟩ ⟨rfl,rfl,rfl,rfl⟩ (fun other => (other (List.mem_cons_self ..)).elim)
  | revoke =>
      obtain ⟨_,rfl,_⟩ := revoked_exact.mp mutated
      exact expired_marked rfl
  | override =>
      obtain ⟨to_,named,operator,reason,overridden,_⟩ := overridden_exact.mp mutated
      obtain ⟨trial,counted⟩ := override_counted overridden stored
      exact override_marked (unburdened rfl to_ ⟨named,operator,reason,trial,counted⟩) overridden
  | _ =>
      cases mutated
      exact expired_marked rfl

end mutations

theorem unburdened_fresh (tier : TierId) (to_ : Status) : Unburdened (newRow tier).toEntitlement to_ :=
  ⟨fun _ => ⟨⟨rfl,rfl⟩,⟨rfl,rfl,rfl,rfl⟩⟩,fun _ => ⟨⟨rfl,rfl⟩,rfl⟩⟩

theorem step_kept (unburdened : OverridesUnburdened s action) : Kept Marked cfg s action := by
  intro publicId trigger now p row r tiers draft facts applies opened legal mutated stored marked
  refine mutate_marked legal mutated stored ?_ marked
  intro overrides to_ asked
  subst overrides
  cases applies with
  | called =>
      rcases openRow_exact.mp opened with present | ⟨_,_,tier,_,new⟩
      · exact unburdened row present to_ asked
      · subst new
        exact unburdened_fresh tier to_
  | reported _ _ _ mapped => exact absurd (reportTrigger_asks mapped).1 (by decide)

theorem step_marked (cfg : Config) (site : Site) (s : Store) (action : Action) (marked : EachRow Marked s)
    (unburdened : OverridesUnburdened s action) : EachRow Marked (step cfg site s action) :=
  step_rows site unmarked_unstamped newRow_marked (step_kept unburdened) marked

theorem override_burdened (row : EntitlementRow) (now : Time) (asked : Overrides row.toEntitlement p to_)
    (checked : to_ ∈ upToDate ∨ to_ = .pastDue) : ∃ saved : EntitlementRow,
      override row.toEntitlement now p to_ = .ok saved.toEntitlement ∧
      (Coherent saved.toEntitlement → Unburdened row.toEntitlement to_) := by
  have stored := row.representable
  have nonNegative := row.nonNegative
  cases to_ with
  | active =>
      refine ⟨⟨clearComp {row.toEntitlement with
        tier := p.tier.getD row.tier
        status := .active
        currentPeriodEnd := p.periodEnd <|> row.currentPeriodEnd},stored,nonNegative⟩,rfl,?_⟩
      intro coherent
      exact ⟨fun current => ⟨coherent.uncanceled current,coherent.unlapsed current⟩,fun late => nomatch late⟩
  | comped =>
      refine ⟨⟨{row.toEntitlement with
        tier := p.tier.getD row.tier
        status := .comped
        currentPeriodEnd := p.periodEnd <|> row.currentPeriodEnd},stored,nonNegative⟩,rfl,?_⟩
      intro coherent
      exact ⟨fun current => ⟨coherent.uncanceled current,coherent.unlapsed current⟩,fun late => nomatch late⟩
  | trialing =>
      obtain ⟨ends,given⟩ := Option.isSome_iff_exists.mp (asked.trial rfl)
      refine ⟨⟨clearComp {row.toEntitlement with
        tier := p.tier.getD row.tier
        status := .trialing
        currentPeriodEnd := p.periodEnd <|> row.currentPeriodEnd <|> some ends
        trialEndsAt := some ends},stored,nonNegative⟩,?_,?_⟩
      · unfold override land
        rw [given]
        cases p.periodEnd <;> rfl
      · intro coherent
        exact ⟨fun current => ⟨coherent.uncanceled current,coherent.unlapsed current⟩,fun late => nomatch late⟩
  | pastDue =>
      have more : 0 ≤ row.failedAttempts+1 := Int.le_add_one nonNegative.1
      have short : "override".length ≤ 100 := by decide
      refine ⟨⟨clearComp (enterDunning {row.toEntitlement with
        tier := p.tier.getD row.tier
        status := .pastDue
        currentPeriodEnd := p.periodEnd <|> row.currentPeriodEnd} now "override" none),
        ⟨asked.counted rfl,stored.2.1,short,stored.2.2.2⟩,⟨more,nonNegative.2⟩⟩,rfl,?_⟩
      intro coherent
      exact ⟨fun current => absurd current (by decide),fun _ => coherent.pastDue rfl⟩
  | none => exact absurd checked (by decide)
  | grace => exact absurd checked (by decide)
  | expired => exact absurd checked (by decide)
  | canceled => exact absurd checked (by decide)

theorem step_burdened (stored : Stored s) (coherent : EachRow Coherent (step cfg site s action)) :
    OverridesUnburdened s action := by
  unfold OverridesUnburdened
  split
  · next publicId now actor origin p =>
      intro row present to_ asked
      by_cases checked : to_ ∈ upToDate ∨ to_ = .pastDue
      · obtain ⟨l,listed⟩ := stored.owned publicId row present
        obtain ⟨saved,overridden,marks⟩ := override_burdened row now asked checked
        have opened : openRow (s.entitlements publicId) false .override p = .ok row := by rw [present]; rfl
        have legal : ruleFor row.status .override = .ok (rule .any [.overridden] .unset .override) := by
          cases row.status <;> rfl
        have mutated : mutate (cfg.tiers l.tenant) row.toEntitlement .override (rule .any [.overridden] .unset .override)
            now p = .ok (saved.toEntitlement,{fromTier := ((cfg.tiers l.tenant).row row.tier).key}) :=
          overridden_exact.mpr ⟨to_,asked.names,asked.operator,asked.reason,overridden,rfl⟩
        obtain ⟨m,moved,landed⟩ : ∃ m, applyTrigger cfg s publicId .override now actor origin p =
            .ok (s.commit publicId m,m) ∧ Landed (cfg.tiers l.tenant) l saved.toEntitlement m :=
          applyTrigger_quiet listed opened legal (by decide) (by decide) mutated ⟨saved,rfl⟩
        have after : (step cfg site s (.trigger publicId .override now actor origin p)).entitlements publicId =
            some m.row := by
          unfold step
          dsimp only
          rw [moved]
          exact Function.update_self ..
        have left := coherent publicId m.row after
        obtain ⟨flag,equal⟩ := landed.row
        rw [equal] at left
        exact marks ⟨left.uncanceled,left.unlapsed,left.uncomped,left.pastDue⟩
      · exact ⟨fun current => (checked (.inl current)).elim,fun late => (checked (.inr late)).elim⟩
  · trivial

-- Over every run: the rows are coherent in each state it reaches if and only if
-- each of its overrides in force meets a row without leftover marks.
theorem marks_coherent (cfg : Config) (site : Site) (actions : List Action) :
    Runs.Along (step cfg site) (fun s action => EachRow Coherent (step cfg site s action)) Store.empty actions ↔
      Runs.Along (step cfg site) OverridesUnburdened Store.empty actions := by
  have start : EachRow Marked Store.empty ∧ Stored Store.empty := by
    refine ⟨?_,reached_stored (.initial rfl : Reached cfg site _)⟩
    intro _ _ present
    cases present
  have preserved : ∀ s action, EachRow Marked s ∧ Stored s → OverridesUnburdened s action →
      EachRow Marked (step cfg site s action) ∧ Stored (step cfg site s action) :=
    fun s action valid unburdened => ⟨step_marked cfg site s action valid.1 unburdened,step_stored cfg site s action valid.2⟩
  refine Runs.along_exact (step cfg site) preserved ?_ start
  intro s action valid
  constructor
  · exact step_burdened valid.2
  · intro unburdened publicId row present
    exact (step_marked cfg site s action valid.1 unburdened publicId row present).toCoherent

def reinstated : List Action :=
  [exampleCheckout "basic",.report 1 exampleAdapter completionReport 0,
    .trigger "lst" .cancel 100 ⟨"owner",some "usr"⟩ "" {},
    .trigger "lst" .override 200 exampleOperator.actor ""
      {operator := some "adm",reason := some "stays",toStatus := some "active",periodEnd := some (90*day)}]

def lapsed : List Action :=
  [.trigger "lst" .paymentFailed day systemActor "" {},
    .trigger "lst" .dunningElapsed (15*day) systemActor "" {},
    .trigger "lst" .cancel (16*day) ⟨"owner",some "usr"⟩ "" {}]

-- The first cancellation's mark is still on the active row, and the notice of the
-- second one goes by it: it is good until a period end the expired plan no longer has.
theorem cancel_mark_left :
    ¬(∀ actions, EachRow Coherent (Runs.run (step exampleConfig exampleSite) Store.empty actions)) ∧
    (∃ row, (exampleRun (reinstated ++ lapsed)).entitlements "lst" = some row ∧ row.status = .expired) ∧
    (exampleRun (reinstated ++ lapsed)).mail.getLast?.map (fun m => (m.kind,m.expiresAt)) =
      some ("billing.canceled",90*day) := by
  have expired : ((exampleRun (reinstated ++ lapsed)).entitlements "lst").map (·.status) = some .expired := by
    decide +kernel
  refine ⟨?_,Option.map_eq_some_iff.mp expired,by decide +kernel⟩
  intro coherent
  have marks := (coherent (.list "lst" exampleListing :: reinstated) "lst" _ rfl).uncanceled (by decide)
  exact absurd marks (by decide)

end Osds.Billing

import Osds.Billing.RowInvariants

namespace Osds.Billing.RenewalNotices
open Directory Audit

def noticeQ (e : Entitlement) (now : Time) : Bool :=
  e.status = .active && e.billingMode = .term && e.renewalNotifiedAt.isNone &&
    e.currentPeriodEnd.any (fun ends => now < ends && ends ≤ now+RENEWAL_NOTICE)

def selectedForNotice (s : Store) (now : Time) : List ListingId :=
  (s.created.filter (fun publicId => (s.entitlements publicId).any (fun row => noticeQ row.toEntitlement now))).take CHUNK

def renewalNotices (cfg : Config) (s : Store) (now : Time) : Store × TickResult :=
  let rows := selectedForNotice s now
  let notified := rows.foldl (fun s publicId => notifyRenewal cfg s publicId now) s
  (notified,⟨notified.outbox.length-s.outbox.length,rows.length = CHUNK⟩)

-- A pass of the job: its clock, and the rows it has selected and not come to.
structure Pass where
  now : Time
  rows : List ListingId

structure Notice where
  publicId : ListingId
  periodEnd : Time
  deriving DecidableEq, Repr

structure State where
  store : Store
  passes : Nat → Pass
  notices : List Notice

def State.empty : State := ⟨.empty,fun _ => ⟨0,[]⟩,[]⟩

inductive Move where
  | act (action : Action) (other : ∀ publicId now, action ≠ .renewal publicId now)
  | select (k : Nat) (now : Time)
  | check (k : Nat)

def noticed (s s' : Store) (publicId : ListingId) : List Notice :=
  if s'.outbox.length = s.outbox.length then []
  else ((s.entitlements publicId).bind (·.currentPeriodEnd)).toList.map (Notice.mk publicId)

def step (cfg : Config) (site : Site) (r : State) : Move → State
  | .act action _ => {r with store := Billing.step cfg site r.store action}
  | .select k now => {r with passes := Function.update r.passes k ⟨now,selectedForNotice r.store now⟩}
  | .check k =>
      match (r.passes k).rows with
      | [] => r
      | publicId :: rest =>
          let now := (r.passes k).now
          let store := notifyRenewal cfg r.store publicId now
          ⟨store,Function.update r.passes k ⟨now,rest⟩,r.notices ++ noticed r.store store publicId⟩

-- What the job is for: an active term whose period ends within the window, and no
-- notice of that period end so far.
def wanted (r : State) (now : Time) (publicId : ListingId) : Bool :=
  (r.store.entitlements publicId).any (fun row =>
    row.status = .active && row.billingMode = .term && row.currentPeriodEnd.any (fun ends =>
      now < ends && ends ≤ now+RENEWAL_NOTICE && !r.notices.contains ⟨publicId,ends⟩))

def dueSubjects (events : List OutboxEvent) : List String :=
  (events.filter (·.type = .entitlementRenewalDue)).map (·.subject)

def emitted (cfg : Config) (site : Site) (r : State) (move : Move) : List String :=
  dueSubjects ((step cfg site r move).store.outbox.drop r.store.outbox.length)

def due (cfg : Config) (r : State) : Move → List String
  | .check k =>
      match (r.passes k).rows with
      | [] => []
      | publicId :: _ => if wanted r (r.passes k).now publicId then [cfg.entitlementId publicId] else []
  | _ => []

structure Proper (cfg : Config) (site : Site) (r : State) (move : Move) : Prop where
  emits : emitted cfg site r move = due cfg r move
  selects : ∀ k now, move = .select k now →
    selectedForNotice r.store now = (r.store.created.filter (wanted r now)).take CHUNK

def activates (trigger : Trigger) (p : Params) : Bool :=
  match trigger with
  | .start => p.tier.isSome && p.periodEnd.isSome
  | .paymentSucceeded => p.periodEnd.isSome
  | .override => p.toStatus.bind Status.ofValue = some .active && p.operator.isSome && p.reason.isSome
  | _ => false

def endAfter (e : Entitlement) (p : Params) : Trigger → Option Time
  | .override => p.periodEnd <|> e.currentPeriodEnd
  | _ => p.periodEnd

def modeAfter (e : Entitlement) (p : Params) : Trigger → BillingMode
  | .start => p.billingMode.getD .recurring
  | .paymentSucceeded => if e.status = .comped then p.billingMode.getD .recurring else e.billingMode
  | _ => e.billingMode

def stampedAfter (e : Entitlement) : Trigger → Bool
  | .override => e.renewalNotifiedAt.isSome
  | _ => false

-- It keeps a stamp just for a period end there was a notice of, and where a pass is
-- on its way to the row, it leaves no unstamped row outside that pass's window.
structure Renews (r : State) (publicId : ListingId) (e : Entitlement) (trigger : Trigger) (p : Params) : Prop where
  stamp : modeAfter e p trigger = .term → ∀ ends ∈ endAfter e p trigger,
    (stampedAfter e trigger ↔ ⟨publicId,ends⟩ ∈ r.notices)
  window : stampedAfter e trigger = false → ∀ k, publicId ∈ (r.passes k).rows →
    ∀ ends ∈ endAfter e p trigger, (r.passes k).now < ends →
      modeAfter e p trigger = .term ∧ ends ≤ (r.passes k).now+RENEWAL_NOTICE

def Admitted (cfg : Config) (r : State) : Move → Prop
  | .act action _ => ∀ publicId trigger now p row law, Applies cfg r.store action publicId trigger now p →
      openRow (r.store.entitlements publicId) false trigger p = .ok row → ruleFor row.status trigger = .ok law →
      activates trigger p → Renews r publicId row.toEntitlement trigger p
  | _ => True

section triggers

variable {tiers : Tiers} {e draft : Entitlement} {p : Params}

theorem override_active (overridden : override e now p .active = .ok draft) :
    draft.currentPeriodEnd = (p.periodEnd <|> e.currentPeriodEnd) ∧ draft.billingMode = e.billingMode ∧
      draft.renewalNotifiedAt = e.renewalNotifiedAt := by
  obtain ⟨landed,lands,kept⟩ := Fallible.bind_exact.mp overridden
  cases lands
  cases kept
  exact ⟨rfl,rfl,rfl⟩

theorem failPayment_inactive {attempt : Option Int} : (failPayment e now code attempt).status ≠ .active := by
  unfold failPayment
  split
  · next late =>
      intro active
      rcases late with late | late
      · exact absurd (late.symm.trans active) (by decide)
      · exact absurd (late.symm.trans active) (by decide)
  · nofun

theorem mutate_active (mutated : mutate tiers e trigger r now p = .ok (draft,facts)) (active : draft.status = .active) :
    activates trigger p ∧ draft.currentPeriodEnd = endAfter e p trigger ∧ draft.billingMode = modeAfter e p trigger ∧
      draft.renewalNotifiedAt.isSome = stampedAfter e trigger := by
  cases trigger with
  | start =>
      obtain ⟨tier,chosen,rest⟩ := Fallible.bind_exact.mp mutated
      obtain ⟨ends,dated,rest⟩ := Fallible.bind_exact.mp rest
      cases rest
      refine ⟨?_,(need_exact.mp dated).symm,rfl,rfl⟩
      unfold activates
      rw [need_exact.mp chosen,need_exact.mp dated]
      rfl
  | startTrial =>
      obtain ⟨tier,_,rest⟩ := Fallible.bind_exact.mp mutated
      obtain ⟨ends,_,rest⟩ := Fallible.bind_exact.mp rest
      cases rest
      cases active
  | paymentSucceeded =>
      obtain ⟨ends,dated,rest⟩ := Fallible.bind_exact.mp mutated
      cases rest
      refine ⟨?_,pay_period.trans (need_exact.mp dated).symm,?_,?_⟩
      · unfold activates
        rw [need_exact.mp dated]
        rfl
      · unfold pay modeAfter
        dsimp only
        split <;> rfl
      · rfl
  | paymentFailed =>
      cases mutated
      exact (failPayment_inactive active).elim
  | trialOverdue =>
      cases mutated
      exact (failPayment_inactive active).elim
  | cancel =>
      cases mutated
      unfold cancelEntitlement at active
      dsimp only at active
      split at active <;> cases active
  | grant =>
      obtain ⟨_,_,_,_,rfl,_⟩ := granted_exact.mp mutated
      cases active
  | revoke =>
      obtain ⟨_,rfl,_⟩ := revoked_exact.mp mutated
      cases active
  | override =>
      obtain ⟨to_,named,operator,reason,overridden,_⟩ := overridden_exact.mp mutated
      have is := (override_status overridden).symm.trans active
      subst is
      obtain ⟨ends,mode,stamp⟩ := override_active overridden
      refine ⟨?_,ends,mode,congrArg Option.isSome stamp⟩
      unfold activates
      dsimp only
      rw [named,operator,reason]
      rfl
  | _ =>
      cases mutated
      cases active

end triggers

section checks

variable {cfg : Config} {s : Store}

def renewalDue (cfg : Config) (publicId : ListingId) (l : Listing) (row : EntitlementRow) (ends now : Time) : OutboxEvent :=
  ⟨l.tenant,cfg.entitlementId publicId,systemActor,"",
    .entitlementRenewalDue (cfg.entitlementId publicId) publicId (max 0 (days (ends-now))) row.termDays⟩

structure Passes (s : Store) (publicId : ListingId) (now : Time) (l : Listing) (row : EntitlementRow) (ends : Time) :
    Prop where
  listed : s.listings publicId = some l
  present : s.entitlements publicId = some row
  dated : row.currentPeriodEnd = some ends
  active : row.status = .active
  unstamped : row.renewalNotifiedAt = none
  ahead : now < ends

theorem notify_passes (passes : Passes s publicId now l row ends) : notifyRenewal cfg s publicId now =
    {s with
      entitlements := Function.update s.entitlements publicId (some {row with renewalNotifiedAt := some now})
      outbox := s.outbox ++ [renewalDue cfg publicId l row ends now]} := by
  unfold notifyRenewal
  rw [passes.listed,passes.present]
  dsimp only
  rw [passes.dated]
  dsimp only
  rw [if_neg]
  · rfl
  · intro refused
    rcases refused with inactive | stamped | passed
    · exact inactive passes.active
    · rw [passes.unstamped] at stamped
      cases stamped
    · exact Int.not_le.mpr passes.ahead passed

theorem notify_refuses (refused : ∀ l row ends, ¬Passes s publicId now l row ends) :
    notifyRenewal cfg s publicId now = s := by
  unfold notifyRenewal
  split
  · next l row listed present =>
      split
      · rfl
      · next ends dated =>
          split
          · rfl
          · next open_ =>
              rw [not_or,not_or,Decidable.not_not,Bool.not_eq_true,Option.isSome_eq_false_iff,Option.isNone_iff_eq_none,
                Int.not_le] at open_
              exact (refused l row ends ⟨listed,present,dated,open_.1,open_.2.1,open_.2.2⟩).elim
  · rfl

end checks

def Told (notices : List Notice) (publicId : ListingId) (e : Entitlement) : Prop :=
  e.status = .active → e.billingMode = .term → ∀ ends ∈ e.currentPeriodEnd,
    (e.renewalNotifiedAt.isSome ↔ ⟨publicId,ends⟩ ∈ notices)

-- What a check leaves out it need not ask.
def Within (now : Time) (e : Entitlement) : Prop :=
  e.status = .active → e.renewalNotifiedAt = none → ∀ ends ∈ e.currentPeriodEnd, now < ends →
    e.billingMode = .term ∧ ends ≤ now+RENEWAL_NOTICE

structure Sound (cfg : Config) (r : State) : Prop where
  stored : Stored r.store
  told : ∀ publicId row, r.store.entitlements publicId = some row → Told r.notices publicId row.toEntitlement
  within : ∀ k publicId row, publicId ∈ (r.passes k).rows → r.store.entitlements publicId = some row →
    Within (r.passes k).now row.toEntitlement
  once : r.notices.Nodup
  traced : dueSubjects r.store.outbox = r.notices.map (cfg.entitlementId ·.publicId)

section steps

variable {cfg : Config} {site : Site} {r : State} {action : Action} {publicId : ListingId} {now : Time}

theorem dueSubjects_append {first second : List OutboxEvent} : dueSubjects (first ++ second) = dueSubjects first ++ dueSubjects second := by
  unfold dueSubjects
  rw [List.filter_append,List.map_append]

theorem dueSubjects_other (other : ∀ e ∈ events, e.type ≠ .entitlementRenewalDue) : dueSubjects events = [] := by
  unfold dueSubjects
  rw [List.filter_eq_nil_iff.mpr fun e present due => other e present (of_decide_eq_true due)]
  rfl

theorem noticeQ_exact : noticeQ e now = true ↔ e.status = .active ∧ e.billingMode = .term ∧
    e.renewalNotifiedAt = none ∧ ∃ ends, e.currentPeriodEnd = some ends ∧ now < ends ∧ ends ≤ now+RENEWAL_NOTICE := by
  unfold noticeQ
  simp only [Bool.and_eq_true,decide_eq_true_eq,Option.isNone_iff_eq_none,Option.any_eq_true,and_assoc]

theorem wanted_exact : wanted r now publicId = true ↔ ∃ row, r.store.entitlements publicId = some row ∧
    row.status = .active ∧ row.billingMode = .term ∧ ∃ ends, row.currentPeriodEnd = some ends ∧ now < ends ∧
      ends ≤ now+RENEWAL_NOTICE ∧ ⟨publicId,ends⟩ ∉ r.notices := by
  unfold wanted
  simp only [Bool.and_eq_true,decide_eq_true_eq,Option.any_eq_true,and_assoc,Bool.not_eq_true',List.contains_eq_mem,
    decide_eq_false_iff_not]

theorem Renews.kept (renews : activates trigger p → Renews r publicId e trigger p)
    (mutated : mutate tiers e trigger law now p = .ok (draft,facts)) :
    Told r.notices publicId draft ∧ ∀ k, publicId ∈ (r.passes k).rows → Within (r.passes k).now draft := by
  constructor
  · intro active term ends dated
    obtain ⟨activated,period,mode,stamp⟩ := mutate_active mutated active
    rw [stamp]
    exact (renews activated).stamp (mode.symm.trans term) ends (period ▸ dated)
  · intro k waiting active unstamped ends dated ahead
    obtain ⟨activated,period,mode,stamp⟩ := mutate_active mutated active
    rw [unstamped] at stamp
    rw [mode]
    exact (renews activated).window stamp.symm k waiting ends (period ▸ dated) ahead

theorem act_rows (sound : Sound cfg r) (other : ∀ publicId now, action ≠ .renewal publicId now)
    (admitted : Admitted cfg r (.act action other))
    (present : (Billing.step cfg site r.store action).entitlements key = some row) :
    Told r.notices key row.toEntitlement ∧
      ∀ k, key ∈ (r.passes k).rows → Within (r.passes k).now row.toEntitlement := by
  cases step_touch cfg site r.store action with
  | kept same _ _ _ =>
      rw [same] at present
      exact ⟨sound.told key row present,fun k waiting => sound.within k key row waiting present⟩
  | noticed publicId now _ check => exact (other publicId now check).elim
  | moved publicId trigger now p old law tiers l draft facts m applies opened legal mutated landed entitlements _ _ _ =>
      rw [entitlements] at present
      by_cases equal : key = publicId
      · subst equal
        rw [Function.update_self] at present
        cases present
        obtain ⟨flag,shown⟩ := landed.row
        rw [shown]
        have kept := Renews.kept (admitted key trigger now p old law applies opened legal) mutated
        exact kept
      · rw [Function.update_of_ne equal] at present
        exact ⟨sound.told key row present,fun k waiting => sound.within k key row waiting present⟩

theorem act_sound (sound : Sound cfg r) (other : ∀ publicId now, action ≠ .renewal publicId now)
    (admitted : Admitted cfg r (.act action other)) : Sound cfg (step cfg site r (.act action other)) := by
  obtain ⟨new,outbox,told⟩ : Unannounced r.store (Billing.step cfg site r.store action) :=
    step_unannounced site other
  refine ⟨step_stored cfg site r.store action sound.stored,?_,?_,sound.once,?_⟩
  · intro key row present
    exact (act_rows sound other admitted present).1
  · intro k key row waiting present
    exact (act_rows sound other admitted present).2 k waiting
  · change dueSubjects (Billing.step cfg site r.store action).outbox = _
    rw [outbox,dueSubjects_append,dueSubjects_other told,List.append_nil]
    exact sound.traced

theorem act_proper (other : ∀ publicId now, action ≠ .renewal publicId now) :
    Proper cfg site r (.act action other) := by
  obtain ⟨new,outbox,told⟩ : Unannounced r.store (Billing.step cfg site r.store action) :=
    step_unannounced site other
  refine ⟨?_,nofun⟩
  change dueSubjects ((Billing.step cfg site r.store action).outbox.drop _) = []
  rw [outbox,List.drop_left,dueSubjects_other told]

theorem select_sound (sound : Sound cfg r) : Sound cfg (step cfg site r (.select k now)) := by
  refine ⟨sound.stored,sound.told,?_,sound.once,sound.traced⟩
  intro j key row waiting present
  change key ∈ (Function.update r.passes k ⟨now,selectedForNotice r.store now⟩ j).rows at waiting
  change Within (Function.update r.passes k ⟨now,selectedForNotice r.store now⟩ j).now row.toEntitlement
  by_cases equal : j = k
  · subst equal
    rw [Function.update_self] at waiting ⊢
    obtain ⟨_,matched⟩ := List.mem_filter.mp (List.mem_of_mem_take waiting)
    obtain ⟨found,there,chosen⟩ := (Option.any_eq_true _ _).mp matched
    cases present.symm.trans there
    obtain ⟨_,term,_,ends,dated,_,near⟩ := noticeQ_exact.mp chosen
    intro _ _ e given _
    cases dated.symm.trans given
    exact ⟨term,near⟩
  · rw [Function.update_of_ne equal] at waiting ⊢
    exact sound.within j key row waiting present

theorem selected_wanted (sound : Sound cfg r) (publicId : ListingId) :
    ((r.store.entitlements publicId).any fun row => noticeQ row.toEntitlement now) = wanted r now publicId := by
  rw [Bool.eq_iff_iff,wanted_exact,Option.any_eq_true]
  refine exists_congr fun row => and_congr_right fun present => ?_
  rw [noticeQ_exact]
  have told := sound.told publicId row present
  constructor
  · intro chosen
    obtain ⟨active,term,unstamped,ends,dated,ahead,near⟩ := chosen
    refine ⟨active,term,ends,dated,ahead,near,fun notified => ?_⟩
    have stamped := (told active term ends dated).mpr notified
    rw [unstamped] at stamped
    cases stamped
  · intro open_
    obtain ⟨active,term,ends,dated,ahead,near,unnotified⟩ := open_
    refine ⟨active,term,?_,ends,dated,ahead,near⟩
    exact Option.not_isSome_iff_eq_none.mp fun stamped => unnotified ((told active term ends dated).mp stamped)

theorem select_proper (sound : Sound cfg r) : Proper cfg site r (.select k now) := by
  refine ⟨?_,?_⟩
  · change dueSubjects (r.store.outbox.drop r.store.outbox.length) = []
    rw [List.drop_length]
    rfl
  · intro j time same
    cases same
    unfold selectedForNotice
    rw [funext (selected_wanted sound)]

theorem check_wanted (sound : Sound cfg r) (chosen : (r.passes k).rows = publicId :: rest) :
    wanted r (r.passes k).now publicId = true ↔ ∃ l row ends, Passes r.store publicId (r.passes k).now l row ends := by
  rw [wanted_exact]
  constructor
  · intro open_
    obtain ⟨row,present,active,term,ends,dated,ahead,_,unnotified⟩ := open_
    obtain ⟨l,listed⟩ := sound.stored.owned publicId row present
    refine ⟨l,row,ends,listed,present,dated,active,?_,ahead⟩
    exact Option.not_isSome_iff_eq_none.mp fun stamped =>
      unnotified ((sound.told publicId row present active term ends dated).mp stamped)
  · intro passed
    obtain ⟨l,row,ends,passes⟩ := passed
    have waiting : publicId ∈ (r.passes k).rows := chosen ▸ List.mem_cons_self ..
    obtain ⟨term,near⟩ := sound.within k publicId row waiting passes.present passes.active passes.unstamped ends
      passes.dated passes.ahead
    refine ⟨row,passes.present,passes.active,term,ends,passes.dated,passes.ahead,near,fun notified => ?_⟩
    have stamped := (sound.told publicId row passes.present passes.active term ends passes.dated).mpr notified
    rw [passes.unstamped] at stamped
    cases stamped

theorem check_passes (chosen : (r.passes k).rows = publicId :: rest)
    (passes : Passes r.store publicId (r.passes k).now l row ends) : step cfg site r (.check k) =
      ⟨{r.store with
          entitlements := Function.update r.store.entitlements publicId
            (some {row with renewalNotifiedAt := some (r.passes k).now})
          outbox := r.store.outbox ++ [renewalDue cfg publicId l row ends (r.passes k).now]},
        Function.update r.passes k ⟨(r.passes k).now,rest⟩,r.notices ++ [⟨publicId,ends⟩]⟩ := by
  unfold step
  dsimp only
  rw [chosen]
  dsimp only
  rw [notify_passes passes]
  unfold noticed
  rw [if_neg,passes.present,Option.bind_some,passes.dated]
  · rfl
  · intro same
    rw [List.length_append,List.length_singleton] at same
    exact absurd same (Nat.succ_ne_self _)

theorem check_refuses (chosen : (r.passes k).rows = publicId :: rest)
    (refused : ∀ l row ends, ¬Passes r.store publicId (r.passes k).now l row ends) : step cfg site r (.check k) =
      {r with passes := Function.update r.passes k ⟨(r.passes k).now,rest⟩} := by
  unfold step
  dsimp only
  rw [chosen]
  dsimp only
  rw [notify_refuses refused]
  unfold noticed
  rw [if_pos rfl,List.append_nil]

theorem check_proper (sound : Sound cfg r) : Proper cfg site r (.check k) := by
  refine ⟨?_,nofun⟩
  unfold emitted due
  dsimp only
  cases chosen : (r.passes k).rows with
  | nil =>
      unfold step
      dsimp only
      rw [chosen]
      dsimp only
      rw [List.drop_length]
      rfl
  | cons publicId rest =>
      dsimp only
      by_cases passed : ∃ l row ends, Passes r.store publicId (r.passes k).now l row ends
      · rw [if_pos ((check_wanted sound chosen).mpr passed)]
        obtain ⟨l,row,ends,passes⟩ := passed
        rw [check_passes chosen passes,List.drop_left]
        rfl
      · rw [if_neg fun want => passed ((check_wanted sound chosen).mp want)]
        rw [check_refuses chosen fun l row ends passes => passed ⟨l,row,ends,passes⟩,List.drop_length]
        rfl

theorem waiting_before (chosen : (r.passes k).rows = publicId :: rest)
    (waiting : key ∈ (Function.update r.passes k ⟨(r.passes k).now,rest⟩ j).rows) :
    key ∈ (r.passes j).rows ∧ (Function.update r.passes k ⟨(r.passes k).now,rest⟩ j).now = (r.passes j).now := by
  by_cases equal : j = k
  · subst equal
    rw [Function.update_self] at waiting ⊢
    rw [chosen]
    exact ⟨List.mem_cons_of_mem _ waiting,rfl⟩
  · rw [Function.update_of_ne equal] at waiting ⊢
    exact ⟨waiting,rfl⟩

theorem check_sound (sound : Sound cfg r) : Sound cfg (step cfg site r (.check k)) := by
  cases chosen : (r.passes k).rows with
  | nil =>
      unfold step
      dsimp only
      rw [chosen]
      exact sound
  | cons publicId rest =>
      by_cases passed : ∃ l row ends, Passes r.store publicId (r.passes k).now l row ends
      · have want := (check_wanted sound chosen).mpr passed
        obtain ⟨l,row,ends,passes⟩ := passed
        have stored := step_stored cfg site r.store (.renewal publicId (r.passes k).now) sound.stored
        change Stored (notifyRenewal cfg r.store publicId (r.passes k).now) at stored
        rw [notify_passes passes] at stored
        have unnotified : (⟨publicId,ends⟩ : Notice) ∉ r.notices := by
          obtain ⟨_,present,_,_,_,dated,_,_,fresh⟩ := wanted_exact.mp want
          cases passes.present.symm.trans present
          cases passes.dated.symm.trans dated
          exact fresh
        rw [check_passes chosen passes]
        refine ⟨stored,?_,?_,?_,?_⟩
        · intro key found present
          change Function.update _ _ _ key = _ at present
          by_cases equal : key = publicId
          · subst equal
            rw [Function.update_self] at present
            cases present
            intro _ _ e dated
            cases passes.dated.symm.trans dated
            exact iff_of_true rfl (List.mem_append_right _ (List.mem_singleton_self _))
          · rw [Function.update_of_ne equal] at present
            intro active term e dated
            rw [sound.told key found present active term e dated,List.mem_append,List.mem_singleton,Notice.mk.injEq]
            simp [equal]
        · intro j key found waiting present
          obtain ⟨before,time⟩ := waiting_before chosen waiting
          change Function.update _ _ _ key = _ at present
          change Within (Function.update r.passes k ⟨(r.passes k).now,rest⟩ j).now found.toEntitlement
          rw [time]
          by_cases equal : key = publicId
          · subst equal
            rw [Function.update_self] at present
            cases present
            exact fun _ unstamped => nomatch unstamped
          · rw [Function.update_of_ne equal] at present
            exact sound.within j key found before present
        · exact sound.once.append (List.nodup_singleton _) (List.disjoint_singleton.mpr unnotified)
        · change dueSubjects (r.store.outbox ++ _) = (r.notices ++ _).map _
          rw [dueSubjects_append,List.map_append,sound.traced]
          rfl
      · rw [check_refuses chosen fun l row ends passes => passed ⟨l,row,ends,passes⟩]
        refine ⟨sound.stored,sound.told,?_,sound.once,sound.traced⟩
        intro j key row waiting present
        obtain ⟨before,time⟩ := waiting_before chosen waiting
        change Within (Function.update r.passes k ⟨(r.passes k).now,rest⟩ j).now row.toEntitlement
        rw [time]
        exact sound.within j key row before present

theorem step_sound (sound : Sound cfg r) (admitted : Admitted cfg r move) : Sound cfg (step cfg site r move) := by
  cases move with
  | act action other => exact act_sound sound other admitted
  | select k now => exact select_sound sound
  | check k => exact check_sound sound

theorem step_proper (sound : Sound cfg r) : Proper cfg site r move := by
  cases move with
  | act action other => exact act_proper other
  | select k now => exact select_proper sound
  | check k => exact check_proper sound

theorem empty_sound : Sound cfg .empty := by
  have stored : Stored Store.empty := reached_stored (run_reached cfg ⟨none,fun _ => none,fun _ => none⟩ [])
  refine ⟨stored,?_,?_,List.nodup_nil,rfl⟩
  · intro publicId row present
    cases present
  · intro k publicId row waiting
    cases waiting

end steps

theorem pass_run (cfg : Config) (site : Site) (k : Nat) (rows : List ListingId) (r : State)
    (selected : r.passes k = ⟨now,rows⟩) :
    (Runs.run (step cfg site) r (rows.map fun _ => .check k)).store =
      rows.foldl (fun s publicId => notifyRenewal cfg s publicId now) r.store := by
  induction rows generalizing r with
  | nil => rfl
  | cons publicId rest ih =>
      have checked : (step cfg site r (.check k)).passes k = ⟨now,rest⟩ ∧
          (step cfg site r (.check k)).store = notifyRenewal cfg r.store publicId now := by
        unfold step
        dsimp only
        rw [selected]
        exact ⟨Function.update_self ..,rfl⟩
      rw [List.map_cons,Runs.run,List.foldl_cons,ih _ checked.1,checked.2]

theorem renewalNotices_run (cfg : Config) (site : Site) (r : State) (k : Nat) (now : Time) :
    (Runs.run (step cfg site) r (.select k now :: (selectedForNotice r.store now).map fun _ => .check k)).store =
      (renewalNotices cfg r.store now).1 :=
  pass_run cfg site k _ _ (Function.update_self ..)

theorem renewal_notices_once (cfg : Config) (site : Site) (moves : List Move)
    (admitted : Runs.Along (step cfg site) (Admitted cfg) .empty moves) :
    Runs.Along (step cfg site) (Proper cfg site) .empty moves ∧
      (Runs.run (step cfg site) .empty moves).notices.Nodup ∧
      dueSubjects (Runs.run (step cfg site) .empty moves).store.outbox =
        (Runs.run (step cfg site) .empty moves).notices.map (cfg.entitlementId ·.publicId) := by
  have preserved : ∀ r move, Sound cfg r → Admitted cfg r move → Sound cfg (step cfg site r move) :=
    fun _ _ sound allowed => step_sound sound allowed
  have final := Runs.along_invariant (step cfg site) preserved empty_sound admitted
  refine ⟨?_,final.once,final.traced⟩
  exact Runs.along_keeps (step cfg site) preserved (fun _ _ sound _ => step_proper sound) empty_sound admitted

section terms

def termStart (periodEnd now : Time) : Move :=
  .act (.trigger "lst" .start now systemActor ""
    {tier := some 1,periodEnd := some periodEnd,billingMode := some .term,termDays := some 30}) nofun

def termPaid (periodEnd now : Time) : Move :=
  .act (.trigger "lst" .paymentSucceeded now systemActor "" {periodEnd := some periodEnd}) nofun

def termMoved (periodEnd now : Time) : Move :=
  .act (.trigger "lst" .override now systemActor ""
    {toStatus := some "active",operator := some "adm",reason := some "longer",periodEnd := some periodEnd}) nofun

def renewedTerm : List Move :=
  [.act (.list "lst" exampleListing) nofun,termStart (10*day) 0,termPaid (40*day) (2*day),
    .select 0 (31*day),.select 1 (31*day),.check 1,.check 0]

theorem renewal_notices_renewed :
    Runs.Along (step exampleConfig exampleSite) (Proper exampleConfig exampleSite) .empty renewedTerm ∧
      (Runs.run (step exampleConfig exampleSite) .empty renewedTerm).notices = [⟨"lst",40*day⟩] := by
  have admitted : Runs.Along (step exampleConfig exampleSite) (Admitted exampleConfig) .empty renewedTerm := by
    refine ⟨?_,?_,?_,trivial,trivial,trivial,trivial,trivial⟩
    · intro publicId trigger now p row law applies
      cases applies
    · intro publicId trigger now p row law applies opened legal active
      cases applies
      refine ⟨?_,fun _ k waiting => nomatch waiting⟩
      intro _ ends given
      cases given
      exact iff_of_false nofun nofun
    · intro publicId trigger now p row law applies opened legal active
      cases applies
      refine ⟨?_,fun _ k waiting => nomatch waiting⟩
      intro _ ends given
      cases given
      exact iff_of_false nofun nofun
  exact ⟨(renewal_notices_once exampleConfig exampleSite renewedTerm admitted).1,by decide +kernel⟩

theorem last_proper {before : List Move}
    (all : Runs.Along (step cfg site) (Proper cfg site) .empty (before ++ [move])) :
    Proper cfg site (Runs.run (step cfg site) .empty before) move :=
  ((Runs.along_append _ _ before [move]).mp all).2.1

def notifiedTerm : List Move :=
  [.act (.list "lst" exampleListing) nofun,termStart (10*day) 0,.select 0 0,.check 0]

-- Overridden to a later end it keeps the stamp, and nobody is told of the new one;
-- paid for the same end it loses the stamp, and the owner is told twice; paid for
-- between the selection and the check it is told of a month before its end.
theorem renewal_notices_fail :
    ¬Runs.Along (step exampleConfig exampleSite) (Proper exampleConfig exampleSite) .empty
        (notifiedTerm ++ [termMoved (40*day) (5*day)] ++ [.select 0 (31*day)]) ∧
      ¬Runs.Along (step exampleConfig exampleSite) (Proper exampleConfig exampleSite) .empty
        (notifiedTerm ++ [termPaid (10*day) 1,.select 0 1] ++ [.check 0]) ∧
      ¬Runs.Along (step exampleConfig exampleSite) (Proper exampleConfig exampleSite) .empty
        (notifiedTerm.take 3 ++ [termPaid (40*day) 0] ++ [.check 0]) := by
  refine ⟨?_,?_,?_⟩
  · intro all
    have missed := (last_proper all).selects 0 (31*day) rfl
    exact absurd missed (by decide +kernel)
  · intro all
    have twice := (last_proper all).emits
    exact absurd twice (by decide +kernel)
  · intro all
    have early := (last_proper all).emits
    exact absurd early (by decide +kernel)

end terms

end Osds.Billing.RenewalNotices

import Osds.Billing.Commands
import Osds.Billing.RowInvariants

namespace Osds.Billing
open Directory Audit

structure Timed (e : Entitlement) : Prop where
  trialing : e.status = .trialing → e.trialEndsAt.isSome
  pastDue : e.status = .pastDue → e.dunningEndsAt.isSome
  grace : e.status = .grace → e.graceEndsAt.isSome
  canceled : e.status = .canceled → e.currentPeriodEnd.isSome

def timedStatuses : List Status := [.trialing,.pastDue,.grace,.canceled]

def ComesDue (e : Entitlement) : Prop :=
  ∃ trigger ∈ clockTriggers, ∃ t, ∀ now, t ≤ now → isDue e trigger now = true

def NoStuck (s : Store) : Prop := ∀ publicId row, s.entitlements publicId = some row →
  Timed row.toEntitlement ∧ (row.status ∈ timedStatuses → ComesDue row.toEntitlement)

def Dated (s : Store) (publicId : ListingId) : Prop := ∀ row, s.entitlements publicId = some row →
  row.status ∈ [Status.trialing,.active,.pastDue] → row.currentPeriodEnd.isSome ∨ row.trialEndsAt.isSome

-- Every cancel, whoever asks for it, is of such a plan.
def CancelsDated (s : Store) : Action → Prop
  | .trigger publicId .cancel _ _ _ _ => Dated s publicId
  | .report tenant _ report _ => report.kind = .subscriptionCanceled → report.atPeriodEnd = true →
      ∀ publicId ent attempt, resolve s tenant report = .ok (publicId,ent,attempt) → Dated s publicId
  | _ => True

theorem elapsed_from (deadline : Option Time) (set_ : deadline.isSome) : ∃ t, ∀ now, t ≤ now → elapsed deadline now = true := by
  obtain ⟨t,equal⟩ := Option.isSome_iff_exists.mp set_
  subst equal
  exact ⟨t,fun now reached => decide_eq_true reached⟩

theorem Timed.comesDue (timed : Timed e) (clocked : e.status ∈ timedStatuses) : ComesDue e := by
  have cases_ : e.status = .trialing ∨ e.status = .pastDue ∨ e.status = .grace ∨ e.status = .canceled := by
    simpa [timedStatuses] using clocked
  rcases cases_ with trialing | pastDue | grace | canceled
  · have ends : (e.trialEndsAt.map (· + TRIAL_OVERDUE)).isSome := by simpa using timed.trialing trialing
    obtain ⟨t,due⟩ := elapsed_from _ ends
    exact ⟨.trialOverdue,by decide,t,fun now reached => by simp [isDue,trialing,due now reached]⟩
  · obtain ⟨t,due⟩ := elapsed_from _ (timed.pastDue pastDue)
    exact ⟨.dunningElapsed,by decide,t,fun now reached => by simp [isDue,pastDue,due now reached]⟩
  · obtain ⟨t,due⟩ := elapsed_from _ (timed.grace grace)
    exact ⟨.graceElapsed,by decide,t,fun now reached => by simp [isDue,grace,due now reached]⟩
  · obtain ⟨t,due⟩ := elapsed_from _ (timed.canceled canceled)
    exact ⟨.periodElapsed,by decide,t,fun now reached => by simp [isDue,canceled,due now reached]⟩

section mutations

variable {tiers : Tiers} {e draft : Entitlement} {p : Params}

theorem Timed.untimed (status : Status) (is : e.status = status) (free : status ∉ timedStatuses) : Timed e := by
  subst is
  constructor <;> intro is <;> rw [is] at free <;> exact absurd (by decide) free

theorem override_timed (overridden : override e now p to_ = .ok draft) : Timed draft := by
  obtain ⟨landed,lands,kept⟩ := Fallible.bind_exact.mp overridden
  have same : Timed landed → Timed draft := by
    intro timed
    split at kept
    · rw [← Except.ok.inj kept]
      exact timed
    · rw [← Except.ok.inj kept]
      exact ⟨timed.trialing,timed.pastDue,timed.grace,timed.canceled⟩
  apply same
  cases to_ with
  | trialing =>
      obtain ⟨ends,_,rest⟩ := Fallible.bind_exact.mp lands
      cases rest
      exact ⟨fun _ => rfl,nofun,nofun,nofun⟩
  | pastDue =>
      cases lands
      exact ⟨nofun,fun _ => rfl,nofun,nofun⟩
  | grace =>
      cases lands
      exact ⟨nofun,nofun,fun _ => rfl,nofun⟩
  | canceled =>
      obtain ⟨ends,given,rest⟩ := Fallible.bind_exact.mp lands
      cases rest
      refine ⟨nofun,nofun,nofun,fun _ => ?_⟩
      simp [need_exact.mp given]
  | none =>
      cases lands
      exact .untimed .none rfl (by decide)
  | expired =>
      cases lands
      exact .untimed .expired rfl (by decide)
  | active =>
      cases lands
      exact .untimed .active rfl (by decide)
  | comped =>
      cases lands
      exact .untimed .comped rfl (by decide)

theorem failPayment_timed {attempt : Option Int} (timed : Timed e) : Timed (failPayment e now code attempt) := by
  unfold failPayment
  split
  · exact ⟨timed.trialing,timed.pastDue,timed.grace,timed.canceled⟩
  · exact ⟨nofun,fun _ => rfl,nofun,nofun⟩

theorem cancel_timed (legal : ruleFor e.status .cancel = .ok r)
    (dated : e.status ∈ [Status.trialing,.active,.pastDue] → e.currentPeriodEnd.isSome ∨ e.trialEndsAt.isSome) :
    Timed (cancelEntitlement e r now by_) := by
  have ends : e.status ∈ [Status.trialing,.active,.pastDue] → (e.currentPeriodEnd <|> e.trialEndsAt).isSome := by
    intro plan
    rcases dated plan with period | trial
    · cases known : e.currentPeriodEnd with
      | none => simp [known] at period
      | some t => rfl
    · cases e.currentPeriodEnd with
      | none => exact trial
      | some t => rfl
  rw [ruleFor_cancel] at legal
  cases status : e.status with
  | grace =>
      rw [status] at legal
      cases legal
      exact .untimed .expired rfl (by decide)
  | trialing =>
      rw [status] at legal ends
      cases legal
      exact ⟨nofun,nofun,nofun,fun _ => ends (by decide)⟩
  | active =>
      rw [status] at legal ends
      cases legal
      exact ⟨nofun,nofun,nofun,fun _ => ends (by decide)⟩
  | pastDue =>
      rw [status] at legal ends
      cases legal
      exact ⟨nofun,nofun,nofun,fun _ => ends (by decide)⟩
  | none => rw [status] at legal; cases legal
  | expired => rw [status] at legal; cases legal
  | canceled => rw [status] at legal; cases legal
  | comped => rw [status] at legal; cases legal

theorem mutate_timed (legal : ruleFor e.status trigger = .ok r)
    (mutated : mutate tiers e trigger r now p = .ok (draft,facts)) (timed : Timed e)
    (dated : trigger = .cancel → e.status ∈ [Status.trialing,.active,.pastDue] →
      e.currentPeriodEnd.isSome ∨ e.trialEndsAt.isSome) : Timed draft := by
  cases trigger with
  | start =>
      obtain ⟨tier,_,rest⟩ := Fallible.bind_exact.mp mutated
      obtain ⟨ends,_,rest⟩ := Fallible.bind_exact.mp rest
      cases rest
      exact .untimed .active rfl (by decide)
  | startTrial =>
      obtain ⟨tier,_,rest⟩ := Fallible.bind_exact.mp mutated
      obtain ⟨ends,_,rest⟩ := Fallible.bind_exact.mp rest
      cases rest
      exact ⟨fun _ => rfl,nofun,nofun,nofun⟩
  | paymentSucceeded =>
      obtain ⟨ends,_,rest⟩ := Fallible.bind_exact.mp mutated
      cases rest
      exact .untimed .active pay_status (by decide)
  | paymentFailed =>
      cases mutated
      exact failPayment_timed timed
  | trialOverdue =>
      cases mutated
      exact failPayment_timed timed
  | dunningElapsed =>
      cases mutated
      exact ⟨nofun,nofun,fun _ => rfl,nofun⟩
  | cancel =>
      cases mutated
      exact cancel_timed legal (dated rfl)
  | grant =>
      obtain ⟨_,_,_,_,rfl,_⟩ := granted_exact.mp mutated
      exact .untimed .comped rfl (by decide)
  | revoke =>
      obtain ⟨_,rfl,_⟩ := revoked_exact.mp mutated
      exact .untimed .expired rfl (by decide)
  | override =>
      obtain ⟨_,_,_,_,overridden,_⟩ := overridden_exact.mp mutated
      exact override_timed overridden
  | _ =>
      cases mutated
      exact .untimed .expired rfl (by decide)

end mutations

def AllTimed (s : Store) : Prop := ∀ publicId row, s.entitlements publicId = some row → Timed row.toEntitlement

theorem AllTimed.noStuck (timed : AllTimed s) : NoStuck s :=
  fun publicId row present => ⟨timed publicId row present,(timed publicId row present).comesDue⟩

theorem timed_unstamped : Unstamped Timed where
  hidden _ _ timed := ⟨timed.trialing,timed.pastDue,timed.grace,timed.canceled⟩
  notified _ _ timed := ⟨timed.trialing,timed.pastDue,timed.grace,timed.canceled⟩

theorem newRow_timed (tier : TierId) : Timed (newRow tier).toEntitlement := .untimed .none rfl (by decide)

theorem reportTrigger_cancel {attempt : Option CheckoutAttempt} (mapped : reportTrigger tiers publicId ent attempt report = .ok (.cancel,p,data)) :
    report.kind = .subscriptionCanceled ∧ report.atPeriodEnd = true := by
  have told := reportTrigger_told mapped
  unfold PaymentReport.asks at told
  cases kind : report.kind with
  | subscriptionCanceled =>
      rw [kind] at told
      dsimp only at told
      split at told
      · next ends => exact ⟨rfl,ends⟩
      · simp at told
  | _ =>
      rw [kind] at told
      simp at told

theorem step_kept_timed (dated : CancelsDated s action) : Kept Timed cfg s action := by
  intro publicId trigger now p row r tiers draft facts applies opened legal mutated _ timed
  refine mutate_timed legal mutated timed ?_
  intro cancels
  subst cancels
  have plan : Dated s publicId := by
    cases applies with
    | called => exact dated
    | reported _ _ resolved mapped =>
        obtain ⟨kind,ends⟩ := reportTrigger_cancel mapped
        exact dated kind ends _ _ _ resolved
  rcases openRow_exact.mp opened with present | ⟨_,creates,_⟩
  · exact plan row present
  · exact absurd creates (by decide)

theorem step_timed (cfg : Config) (site : Site) (s : Store) (action : Action) (timed : AllTimed s)
    (dated : CancelsDated s action) : AllTimed (step cfg site s action) :=
  step_rows site timed_unstamped newRow_timed (step_kept_timed dated) timed

-- Over every run: as long as each plan that is cancelled has a date to run to, no
-- entitlement is in a timed status the clock will never end.
theorem timed_states_end (cfg : Config) (site : Site) (actions : List Action)
    (dated : Runs.Along (step cfg site) CancelsDated Store.empty actions) :
    NoStuck (Runs.run (step cfg site) Store.empty actions) := by
  have start : AllTimed Store.empty := fun _ _ present => by cases present
  have preserved : ∀ s action, AllTimed s → CancelsDated s action → AllTimed (step cfg site s action) :=
    step_timed cfg site
  exact (Runs.along_invariant (step cfg site) preserved start dated).noStuck

theorem timed_states_end_trial : NoStuck (exampleRun [exampleCheckout "tryout",
    .report 1 exampleAdapter {completionReport with trialEndsAt := some (14*day)} 0,
    .trigger "lst" .cancel day ⟨"owner",some "usr"⟩ "" {}]) := by
  refine timed_states_end exampleConfig exampleSite _ ⟨trivial,trivial,?_,?_,trivial⟩
  · exact fun kind => by cases kind
  · intro row present _
    cases present
    exact .inl rfl

def exampleOperator : Commands.Operator := ⟨"adm",some Commands.ADMIN⟩

def compedStore : Store := exampleRun [exampleGrant]

def uncompedStore : Store := step exampleConfig exampleSite compedStore (.trigger "lst" .override day
  exampleOperator.actor "" {operator := some "adm",reason := some "bills by hand",toStatus := some "active"})

def canceledStore : Store :=
  step exampleConfig exampleSite uncompedStore (.trigger "lst" .cancel (2*day) ⟨"owner",some "usr"⟩ "" {})

-- A comp overridden to active has no period end; cancelled, it keeps its perks
-- and nothing is ever due for it.
theorem canceled_comp_stuck :
    Commands.overrideEntitlement exampleConfig compedStore 1 "lst" exampleOperator day "active" "bills by hand" ""
      none none = .ok uncompedStore ∧
    Reached exampleConfig exampleSite canceledStore ∧ ¬NoStuck canceledStore ∧
    ∃ row, canceledStore.entitlements "lst" = some row ∧ row.status = .canceled ∧ row.status.perks ∧
      row.currentPeriodEnd = none ∧ ∀ trigger ∈ clockTriggers, ∀ now, isDue row.toEntitlement trigger now = false := by
  have comped : Reached exampleConfig exampleSite compedStore := run_reached exampleConfig exampleSite _
  have undue : ∃ row, canceledStore.entitlements "lst" = some row ∧ row.status = .canceled ∧ row.status.perks ∧
      row.currentPeriodEnd = none ∧ ∀ trigger ∈ clockTriggers, ∀ now, isDue row.toEntitlement trigger now = false := by
    refine ⟨_,rfl,rfl,rfl,rfl,?_⟩
    intro trigger clock now
    cases trigger <;> first | rfl | exact absurd clock (by decide)
  refine ⟨rfl,.step (.step comped),?_,undue⟩
  intro noStuck
  obtain ⟨row,present,canceled,_,endless,_⟩ := undue
  have ends := (noStuck "lst" row present).1.canceled canceled
  rw [endless] at ends
  cases ends

end Osds.Billing

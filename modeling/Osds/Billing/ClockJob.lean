import Osds.Billing.Recovery

namespace Osds.Billing
open Directory Audit

-- The job on the rows it selected, each row with what other transactions
-- commit before the job locks it.
def jobRun (cfg : Config) (site : Site) (now : Time) :
    Store → List (Selected × List Action) → Except Failure (Store × Nat)
  | s,[] => .ok (s,0)
  | s,(x,others) :: rest => do
      let (s,done) ← transition cfg (Runs.run (step cfg site) s others) x now
      let (s,more) ← jobRun cfg site now s rest
      pure (s,more+done.toNat)

theorem jobRun_alone (s : Store) (rows : List Selected) :
    jobRun cfg site now s (rows.map (fun x => (x,[]))) = transitions cfg now s rows := by
  induction rows generalizing s with
  | nil => rfl
  | cons x rest ih =>
      rw [List.map_cons,jobRun,transitions]
      change (transition cfg s x now >>= _) = (transition cfg s x now >>= _)
      simp only [ih]

def turn (cfg : Config) (site : Site) (now : Time) (s : Store) (row : Selected × List Action) : Store :=
  let s₁ := Runs.run (step cfg site) s row.2
  match transition cfg s₁ row.1 now with
  | .ok (s₂,_) => s₂
  | .error _ => s₁

-- The job's call on the re-read row applied a clock trigger that is due there,
-- or skipped the row and left everything as it was.
def Yielded (cfg : Config) (now : Time) (x : Selected) (s : Store) : Prop :=
  transition cfg s x now = .ok (s,false) ∨
    ∃ trigger ∈ clockTriggers, ∃ row m s', s.entitlements x.publicId = some row ∧
      isDue row.toEntitlement trigger now = true ∧
      applyTrigger cfg s x.publicId trigger now systemActor "" {} = .ok (s',m) ∧
      transition cfg s x now = .ok (s',true)

def clockSubject (name : String) : Trigger → Option String
  | .trialOverdue => some ("Payment failed for " ++ name)
  | .dunningElapsed => some (name ++ " has been downgraded")
  | .graceElapsed | .periodElapsed | .termEnded => some (name ++ " is back on the free listing")
  | _ => none

def Fits (e : Entitlement) (l : Listing) (trigger : Trigger) : Prop :=
  (trigger = .trialOverdue → smallint (e.failedAttempts+1)) ∧
    (address l = none ∨ ∀ subject ∈ clockSubject l.name trigger, subject.length ≤ 200)

-- The others left the row on the status it was selected in, with room for what
-- the job writes.
def Undisturbed (now : Time) (x : Selected) (s : Store) : Prop :=
  ∀ l row, s.listings x.publicId = some l → s.entitlements x.publicId = some row →
    row.status = x.row.status ∧
      ∀ trigger ∈ clockTriggers, isDue row.toEntitlement trigger now = true → Fits row.toEntitlement l trigger

section draft

variable (tiers : Tiers) (now : Time) {row : EntitlementRow}

theorem row_fits (e : Entitlement) (within : e.Representable) (positive : e.NonNegative) :
    ∃ saved : EntitlementRow, saved.toEntitlement = e := ⟨⟨e,within,positive⟩,rfl⟩

theorem failPayment_trial (trial : row.status = .trialing) :
    (∃ saved : EntitlementRow, saved.toEntitlement = failPayment row.toEntitlement now "trial_unreported" none) ↔
      smallint (row.failedAttempts+1) := by
  have plain : ¬(row.status = .pastDue ∨ row.status = .grace) := by rw [trial]; decide
  obtain ⟨_,term,_,by_⟩ := row.representable
  obtain ⟨attempts,positive⟩ := row.nonNegative
  unfold failPayment
  rw [if_neg plain]
  constructor
  · intro fits
    obtain ⟨saved,equal⟩ := fits
    have room := saved.representable.1
    rw [equal] at room
    exact room
  · intro room
    have code : "trial_unreported".length ≤ 100 := by decide
    have counted : 0 ≤ row.failedAttempts+1 := by omega
    exact row_fits _ ⟨room,term,code,by_⟩ ⟨counted,positive⟩

theorem clock_draft (named : clockStatus trigger = some row.status) :
    ∃ r draft facts, ruleFor row.status trigger = .ok r ∧
      mutate tiers row.toEntitlement trigger r now {} = .ok (draft,facts) ∧
      ((∃ saved : EntitlementRow, saved.toEntitlement = draft) ↔
        (trigger = .trialOverdue → smallint (row.failedAttempts+1))) ∧
      ∀ l, Deliverable draft l r now ↔
        (address l = none ∨ ∀ subject ∈ clockSubject l.name trigger, subject.length ≤ 200) := by
  cases trigger with
  | trialOverdue =>
      have status := (Option.some.inj named).symm
      rw [status]
      refine ⟨_,_,_,rfl,rfl,?_,?_⟩
      · exact (failPayment_trial now status).trans ⟨fun room _ => room,fun room => room rfl⟩
      · intro l
        have plain : ¬(row.status = .pastDue ∨ row.status = .grace) := by rw [status]; decide
        unfold failPayment
        rw [if_neg plain]
        cases graced : row.graceEndsAt <;> simp [Deliverable,notices,clockSubject,enterDunning,graced,rule]
  | dunningElapsed =>
      rw [(Option.some.inj named).symm]
      refine ⟨_,_,_,rfl,rfl,iff_of_true (row_fits _ row.representable row.nonNegative) nofun,?_⟩
      intro l
      cases row.dunningEndsAt <;> simp [Deliverable,notices,clockSubject,rule]
  | graceElapsed | periodElapsed | termEnded | compExpired =>
      rw [(Option.some.inj named).symm]
      refine ⟨_,_,_,rfl,rfl,iff_of_true (row_fits _ row.representable row.nonNegative) nofun,?_⟩
      intro l
      cases row.dunningEndsAt <;> cases row.graceEndsAt <;>
        simp [Deliverable,notices,clockSubject,rule,quietCauses]
  | _ => cases named

theorem advance_clock (clock : trigger ∈ clockTriggers) (named : clockStatus trigger = some row.status) :
    (∃ m, advance tiers entitlementId publicId row l trigger now actor origin {} = .ok m) ↔
      isDue row.toEntitlement trigger now = true ∧ Fits row.toEntitlement l trigger := by
  obtain ⟨r,draft,facts,legal,drafted,room,mail⟩ := clock_draft tiers now named
  constructor
  · intro applied
    obtain ⟨m,advanced⟩ := applied
    obtain ⟨r',facts',saved,queued,legal',due,mutated,sent,_⟩ := advance_exact.mp advanced
    cases legal.symm.trans legal'
    cases drafted.symm.trans mutated
    exact ⟨due clock,room.mp ⟨saved,rfl⟩,(mail l).mp (afterTransition_exact.mp ⟨queued,sent⟩)⟩
  · intro ready
    obtain ⟨due,counter,subject⟩ := ready
    obtain ⟨saved,rfl⟩ := room.mpr counter
    obtain ⟨queued,sent⟩ := afterTransition_exact.mpr ((mail l).mpr subject)
    exact ⟨_,advance_exact.mpr ⟨r,facts,saved,queued,legal,fun _ => due,drafted,sent,rfl⟩⟩

theorem save_error (refused : save e = .error f) : f = .dataError ∨ f = .integrityError := by
  unfold save at refused
  split at refused
  · split at refused
    · cases refused
    · exact .inr (Except.error.inj refused).symm
  · exact .inl (Except.error.inj refused).symm

theorem ruleFor_other (clock : trigger ∈ clockTriggers) (moved : clockStatus trigger ≠ some status) :
    ruleFor status trigger = .error (.invalidTransition status trigger) := by
  cases found : ruleFor status trigger with
  | ok r => exact (moved ((ruleFor_clock clock status).mp (by rw [found]; rfl))).elim
  | error f =>
      unfold ruleFor at found
      split at found
      · cases found
      · exact found.symm

theorem advance_notDue (clock : trigger ∈ clockTriggers) :
    advance tiers entitlementId publicId row l trigger now actor origin {} = .error (.notDue other) ↔
      other = trigger ∧ clockStatus trigger = some row.status ∧ isDue row.toEntitlement trigger now = false := by
  by_cases named : clockStatus trigger = some row.status
  · obtain ⟨r,draft,facts,legal,drafted,_⟩ := clock_draft tiers now named
    unfold advance
    rw [legal]
    cases due : isDue row.toEntitlement trigger now with
    | false =>
        have early : clockGuard row.toEntitlement trigger now = .error (.notDue trigger) := if_pos ⟨clock,due⟩
        simp only [bind,Except.bind,early]
        simp [named,eq_comm]
    | true =>
        refine iff_of_false ?_ (by simp)
        simp only [Fallible.bind_error]
        rintro (absurd | ⟨_,equal,late⟩)
        · cases absurd
        cases equal
        rcases late with absurd | ⟨_,_,late⟩
        · have timely := clockGuard_exact.mpr (fun _ => due)
          rw [timely] at absurd
          cases absurd
        rcases late with absurd | ⟨_,equal,late⟩
        · rw [drafted] at absurd
          cases absurd
        rcases late with refused | ⟨_,_,refused | ⟨_,_,absurd⟩⟩
        · rcases save_error refused with absurd | absurd <;> cases absurd
        · cases afterTransition_error refused
        · cases absurd
  · refine iff_of_false ?_ (fun early => named early.2.1)
    rw [advance_illegal (ruleFor_other clock named)]
    nofun

end draft

theorem transition_exact (cfg : Config) (listed : s.listings x.publicId = some l) (present : s.entitlements x.publicId = some row)
    (chosen : triggerFor x.row.toEntitlement now = some trigger) :
    transition cfg s x now =
      match advance (cfg.tiers l.tenant) (cfg.entitlementId x.publicId) x.publicId row l trigger now systemActor "" {} with
      | .ok m => .ok (s.commit x.publicId m,true)
      | .error (.notDue _) => .ok (s,false)
      | .error f => .error f := by
  unfold transition applyTrigger
  rw [chosen,listed]
  dsimp only
  rw [present,openRow]
  dsimp only [bind,Except.bind]
  cases advance (cfg.tiers l.tenant) (cfg.entitlementId x.publicId) x.publicId row l trigger now systemActor "" {} with
  | ok m => rfl
  | error f => cases f <;> rfl

theorem yielded_exact (listed : s.listings x.publicId = some l) (present : s.entitlements x.publicId = some row)
    (chosen : triggerFor x.row.toEntitlement now = some trigger) : Yielded cfg now x s ↔ Undisturbed now x s := by
  obtain ⟨clock,due⟩ := triggerFor_exact.mp chosen
  have selectedIn := isDue_status clock due
  have exact_ := transition_exact cfg listed present chosen
  -- on the row the job re-reads no other clock trigger can be due
  have only : clockStatus trigger = some row.status → ∀ other ∈ clockTriggers,
      isDue row.toEntitlement other now = true → other = trigger := by
    intro named other listed late
    have there := clockTrigger_of_clockStatus (isDue_status listed late)
    rw [clockTrigger_of_clockStatus named] at there
    exact (Option.some.inj there).symm
  have same : clockStatus trigger = some row.status → row.status = x.row.status := by
    intro named
    exact Option.some.inj (named.symm.trans selectedIn)
  constructor
  · intro yielded l' row' listed' present'
    cases listed.symm.trans listed'
    cases present.symm.trans present'
    cases result : advance (cfg.tiers l.tenant) (cfg.entitlementId x.publicId) x.publicId row l trigger now
        systemActor "" {} with
    | ok m =>
        obtain ⟨r,_,_,_,legal,_⟩ := advance_exact.mp result
        have named := (ruleFor_clock clock row.status).mp (by rw [legal]; rfl)
        have fits := ((advance_clock (cfg.tiers l.tenant) now clock named).mp ⟨m,result⟩).2
        refine ⟨same named,?_⟩
        intro other listed late
        rw [only named other listed late]
        exact fits
    | error f =>
        rw [result] at exact_
        have skipped : ∃ other, f = .notDue other := by
          cases f with
          | notDue other => exact ⟨other,rfl⟩
          | _ =>
              rcases yielded with kept | ⟨_,_,_,_,_,_,_,_,kept⟩
              · rw [kept] at exact_
                cases exact_
              · rw [kept] at exact_
                cases exact_
        obtain ⟨other,rfl⟩ := skipped
        obtain ⟨_,named,early⟩ := (advance_notDue (cfg.tiers l.tenant) now clock).mp result
        refine ⟨same named,?_⟩
        intro other listed late
        rw [only named other listed late,early] at late
        cases late
  · intro undisturbed
    obtain ⟨status,fits⟩ := undisturbed l row listed present
    have named : clockStatus trigger = some row.status := by rw [status]; exact selectedIn
    cases late : isDue row.toEntitlement trigger now with
    | false =>
        rw [(advance_notDue (cfg.tiers l.tenant) now clock).mpr ⟨rfl,named,late⟩] at exact_
        exact .inl exact_
    | true =>
        obtain ⟨m,applied⟩ := (advance_clock (cfg.tiers l.tenant) now clock named).mpr ⟨late,fits trigger clock late⟩
        rw [applied] at exact_
        refine .inr ⟨trigger,clock,row,m,s.commit x.publicId m,present,late,?_,exact_⟩
        exact applyTrigger_exact.mpr ⟨l,row,listed,by rw [present]; rfl,applied,rfl⟩

def turnActions (now : Time) (row : Selected × List Action) : List Action :=
  row.2 ++ (triggerFor row.1.row.toEntitlement now).toList.map (fun trigger =>
    .trigger row.1.publicId trigger now systemActor "" {})

theorem turn_actions (s : Store) (row : Selected × List Action) :
    turn cfg site now s row = Runs.run (step cfg site) s (turnActions now row) := by
  unfold turn turnActions
  rw [Runs.run_append]
  unfold transition
  cases triggerFor row.1.row.toEntitlement now with
  | none => rfl
  | some trigger =>
      simp only [Option.toList_some,List.map_cons,List.map_nil,Runs.run,step]
      cases applyTrigger cfg (Runs.run (step cfg site) s row.2) row.1.publicId trigger now systemActor "" {} with
      | ok out => rfl
      | error f => cases f <;> rfl

theorem jobRun_exact (s : Store) (schedule : List (Selected × List Action)) :
    (∃ done, jobRun cfg site now s schedule = .ok (Runs.run (turn cfg site now) s schedule,done)) ↔
      Runs.Along (turn cfg site now) (fun s row =>
        ∃ out, transition cfg (Runs.run (step cfg site) s row.2) row.1 now = .ok out) s schedule := by
  induction schedule generalizing s with
  | nil => exact iff_of_true ⟨0,rfl⟩ trivial
  | cons row rest ih =>
      obtain ⟨x,others⟩ := row
      simp only [jobRun,Runs.Along,Runs.run]
      rw [← ih]
      cases taken : transition cfg (Runs.run (step cfg site) s others) x now with
      | error f => exact iff_of_false (by rintro ⟨_,absurd⟩; cases absurd) (by rintro ⟨⟨_,absurd⟩,_⟩; cases absurd)
      | ok out =>
          have turned : turn cfg site now s (x,others) = out.1 := by
            unfold turn
            dsimp only
            rw [taken]
          rw [turned]
          simp only [bind,Except.bind]
          cases jobRun cfg site now out.1 rest with
          | error f => exact iff_of_false (by rintro ⟨_,absurd⟩; cases absurd) (by rintro ⟨_,_,absurd⟩; cases absurd)
          | ok last =>
              obtain ⟨left,count⟩ := last
              constructor
              · rintro ⟨_,equal⟩
                have same : left = _ := (Prod.mk.inj (Except.ok.inj equal)).1
                exact ⟨⟨out,rfl⟩,count,by rw [same]⟩
              · rintro ⟨_,_,equal⟩
                have same : left = _ := (Prod.mk.inj (Except.ok.inj equal)).1
                exact ⟨_,by rw [same]; rfl⟩

def Standing (rows : List Selected) (s : Store) : Prop :=
  (∀ publicId row, s.entitlements publicId = some row → ∃ l, s.listings publicId = some l) ∧
    ∀ x ∈ rows, ∃ row, s.entitlements x.publicId = some row

theorem effect_standing (effect : Effect cfg s s') (standing : Standing rows s) : Standing rows s' := by
  obtain ⟨owned,kept⟩ := standing
  cases effect with
  | applied publicId l row _ _ _ _ _ m _ present _ _ listings entitlements _ _ =>
      unfold Standing
      rw [listings,entitlements]
      refine ⟨?_,?_⟩
      · intro other found had
        by_cases equal : other = publicId
        · subst equal
          exact ⟨m.listing,Function.update_self ..⟩
        · rw [Function.update_of_ne equal] at had ⊢
          exact owned other found had
      · intro x selected
        by_cases equal : x.publicId = publicId
        · rw [equal]
          exact ⟨m.row,Function.update_self ..⟩
        · rw [Function.update_of_ne equal]
          exact kept x selected
  | noticed publicId row now _ present listings entitlements _ _ =>
      unfold Standing
      rw [listings,entitlements]
      refine ⟨?_,?_⟩
      · intro other found had
        by_cases equal : other = publicId
        · subst equal
          exact owned other row present
        · rw [Function.update_of_ne equal] at had
          exact owned other found had
      · intro x selected
        by_cases equal : x.publicId = publicId
        · rw [equal]
          exact ⟨_,Function.update_self ..⟩
        · rw [Function.update_of_ne equal]
          exact kept x selected
  | listed publicId l _ _ listings entitlements _ =>
      unfold Standing
      rw [listings,entitlements]
      refine ⟨?_,kept⟩
      intro other found had
      by_cases equal : other = publicId
      · subst equal
        exact ⟨l,Function.update_self ..⟩
      · rw [Function.update_of_ne equal]
        exact owned other found had
  | edited publicId _ l _ _ _ listings entitlements _ =>
      unfold Standing
      rw [listings,entitlements]
      refine ⟨?_,kept⟩
      intro other found had
      by_cases equal : other = publicId
      · subst equal
        exact ⟨l,Function.update_self ..⟩
      · rw [Function.update_of_ne equal]
        exact owned other found had
  | quiet _ listings entitlements _ _ =>
      unfold Standing
      rw [listings,entitlements]
      exact ⟨owned,kept⟩

theorem step_standing (cfg : Config) (site : Site) (s : Store) (action : Action) (standing : Standing rows s) :
    Standing rows (step cfg site s action) :=
  effect_standing (step_effect cfg site s action) standing

theorem turn_standing (s : Store) (row : Selected × List Action) (standing : Standing rows s) :
    Standing rows (turn cfg site now s row) := by
  rw [turn_actions]
  exact Runs.run_invariant (step cfg site) (step_standing cfg site) standing _

theorem selected_exact (present : x ∈ selected s now) :
    s.entitlements x.publicId = some x.row ∧ ∃ trigger, triggerFor x.row.toEntitlement now = some trigger := by
  obtain ⟨queried,due⟩ := List.mem_filter.mp (List.mem_of_mem_take present)
  obtain ⟨publicId,_,found⟩ := List.mem_filterMap.mp queried
  obtain ⟨row,stored,rfl⟩ := Option.map_eq_some_iff.mp found
  rw [dueQ_exact] at due
  exact ⟨stored,Option.isSome_iff_exists.mp due⟩

theorem selected_standing (reached : Reached cfg site s) : Standing (selected s now) s := by
  have owned : Standing [] s := by
    refine Runs.reached_invariant (step cfg site) ?_ (step_standing cfg site) reached
    intro s empty
    subst empty
    refine ⟨?_,List.forall_mem_nil _⟩
    intro publicId row present
    cases present
  exact ⟨owned.1,fun x present => ⟨x.row,(selected_exact present).1⟩⟩

-- With anything committed by others before each turn, the job takes every turn
-- and each one yields to what it finds, exactly when before each turn the row is
-- still on the status it was selected in and what the job writes fits.
theorem clock_job_yields_exact (cfg : Config) (site : Site) (now : Time) (schedule : List (Selected × List Action))
    (reached : Reached cfg site s) (chosen : schedule.map Prod.fst = selected s now) :
    ((∃ done, jobRun cfg site now s schedule = .ok (Runs.run (turn cfg site now) s schedule,done)) ∧
      Runs.Along (turn cfg site now) (fun s row => Yielded cfg now row.1 (Runs.run (step cfg site) s row.2)) s schedule) ↔
    Runs.Along (turn cfg site now) (fun s row => Undisturbed now row.1 (Runs.run (step cfg site) s row.2)) s schedule := by
  have agree : ∀ s₁, ∀ row ∈ schedule, Standing (selected s now) s₁ →
      (Yielded cfg now row.1 (Runs.run (step cfg site) s₁ row.2) ↔
        Undisturbed now row.1 (Runs.run (step cfg site) s₁ row.2)) := by
    intro s₁ row present standing
    have among : row.1 ∈ selected s now := by
      rw [← chosen]
      exact List.mem_map_of_mem present
    obtain ⟨owned,kept⟩ := Runs.run_invariant (step cfg site) (step_standing cfg site) standing row.2
    obtain ⟨_,trigger,due⟩ := selected_exact among
    obtain ⟨found,stored⟩ := kept row.1 among
    obtain ⟨l,listed⟩ := owned row.1.publicId found stored
    exact yielded_exact listed stored due
  rw [← Runs.along_congr (turn cfg site now) turn_standing schedule agree (selected_standing reached),jobRun_exact]
  constructor
  · intro taken
    exact taken.2
  · intro yielded
    refine ⟨Runs.along_imp (turn cfg site now) ?_ yielded,yielded⟩
    intro s₁ row kept
    rcases kept with skipped | ⟨_,_,_,_,_,_,_,_,done⟩
    · exact ⟨_,skipped⟩
    · exact ⟨_,done⟩

section schedules

def failedRun : Store :=
  exampleRun [exampleCheckout "basic",.report 1 exampleAdapter completionReport 5,
    .report 1 exampleAdapter failureReport 6]

def dunningOver : Time := 20*day

def withReport (report : PaymentReport) : List (Selected × List Action) :=
  (selected failedRun dunningOver).map (fun x => (x,[.report 1 exampleAdapter report dunningOver]))

def laterInvoice : PaymentReport := {invoiceReport with externalEventId := "evt_later",periodEnd := some (60*day)}

def laterFailure : PaymentReport := {failureReport with externalEventId := "evt_again"}

theorem withReport_chosen : (withReport report).map Prod.fst = selected failedRun dunningOver := by
  rw [withReport,List.map_map]
  exact List.map_id _

theorem clock_job_yields_failure :
    ∃ done, jobRun exampleConfig exampleSite dunningOver failedRun (withReport laterFailure) =
      .ok (Runs.run (turn exampleConfig exampleSite dunningOver) failedRun (withReport laterFailure),done) := by
  have reached : Reached exampleConfig exampleSite failedRun := run_reached ..
  have exact_ := clock_job_yields_exact exampleConfig exampleSite dunningOver (withReport laterFailure) reached
    withReport_chosen
  refine (exact_.mpr ⟨?_,trivial⟩).1
  intro l row listed present
  cases listed
  cases present
  refine ⟨rfl,?_⟩
  intro trigger clock due
  cases clockTrigger_of_clockStatus (isDue_status clock due)
  exact ⟨nofun,.inr (by decide)⟩

-- A payment that lands between the selection and the row's turn stops the job:
-- the table has no clock trigger for an active row.
theorem clock_job_raises_on_payment :
    Reached exampleConfig exampleSite failedRun ∧ (selected failedRun dunningOver).length = 1 ∧
      jobRun exampleConfig exampleSite dunningOver failedRun (withReport laterInvoice) =
        .error (.invalidTransition .active .dunningElapsed) ∧
      ¬∃ done, jobRun exampleConfig exampleSite dunningOver failedRun (withReport laterInvoice) =
        .ok (Runs.run (turn exampleConfig exampleSite dunningOver) failedRun (withReport laterInvoice),done) := by
  have raised : jobRun exampleConfig exampleSite dunningOver failedRun (withReport laterInvoice) =
      .error (.invalidTransition .active .dunningElapsed) := rfl
  refine ⟨run_reached ..,rfl,raised,?_⟩
  rw [raised]
  rintro ⟨_,absurd⟩
  cases absurd

end schedules

end Osds.Billing

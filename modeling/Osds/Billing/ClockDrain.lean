import Osds.Billing.ClockJob
import Osds.Billing.RowInvariants
import Osds.Lib.Lists

namespace Osds.Billing
open Directory Audit

-- What one pass of the job leaves. Each trigger commits by itself, so one that
-- raises ends the pass with the rows before it done.
def sweep (cfg : Config) (now : Time) : Store → List Selected → Store
  | s,[] => s
  | s,x :: rest =>
      match transition cfg s x now with
      | .ok (s',_) => sweep cfg now s' rest
      | .error _ => s

def pass (cfg : Config) (now : Time) (s : Store) : Store := sweep cfg now s (selected s now)

def Drained (now : Time) (s : Store) : Prop :=
  ∀ publicId row, s.entitlements publicId = some row → triggerFor row.toEntitlement now = none

def AllFit (now : Time) (s : Store) : Prop :=
  ∀ publicId row l trigger, s.entitlements publicId = some row → s.listings publicId = some l →
    triggerFor row.toEntitlement now = some trigger → Fits row.toEntitlement l trigger

structure ClockSelects (cfg : Config) (now : Time) (s : Store) : Prop where
  agree : ∀ e : Entitlement, dueQ e now = true ↔ ∃ trigger, triggerFor e now = some trigger
  atMostOne : ∀ e : Entitlement, ∀ a ∈ clockTriggers, ∀ b ∈ clockTriggers,
    isDue e a now = true → isDue e b now = true → a = b
  legal : ∀ (e : Entitlement) trigger, triggerFor e now = some trigger → (ruleFor e.status trigger).isOk
  settles : ∀ publicId row trigger actor origin p s' m, s.entitlements publicId = some row →
    triggerFor row.toEntitlement now = some trigger →
    applyTrigger cfg s publicId trigger now actor origin p = .ok (s',m) → triggerFor m.row.toEntitlement now = none
  drains : ∃ n, Drained now ((pass cfg now)^[n] s)

theorem transitions_sweep (s : Store) (rows : List Selected) (ran : transitions cfg now s rows = .ok (s',done)) :
    sweep cfg now s rows = s' := by
  induction rows generalizing s done with
  | nil =>
      cases ran
      rfl
  | cons x rest ih =>
      obtain ⟨⟨s₁,count⟩,first,later⟩ := Fallible.bind_exact.mp ran
      obtain ⟨⟨s₂,more⟩,others,equal⟩ := Fallible.bind_exact.mp later
      cases equal
      unfold sweep
      rw [first]
      exact ih s₁ others

theorem pass_exact (ran : entitlementTransitions cfg s now = .ok (s',result)) : pass cfg now s = s' := by
  obtain ⟨⟨s₁,done⟩,swept,equal⟩ := Fallible.bind_exact.mp ran
  cases equal
  exact transitions_sweep s _ swept

section rule

variable {e draft : Entitlement} {now : Time}

theorem triggerFor_none : triggerFor e now = none ↔ dueQ e now = false := by
  rw [dueQ_exact,Option.isSome_eq_false_iff,Option.isNone_iff_eq_none]

theorem isDue_once (first : a ∈ clockTriggers) (second : b ∈ clockTriggers) (here : isDue e a now = true)
    (there : isDue e b now = true) : a = b := by
  have one := triggerFor_exact.mpr ⟨first,here⟩
  have other := triggerFor_exact.mpr ⟨second,there⟩
  rw [one] at other
  exact Option.some.inj other

theorem triggerFor_legal (chosen : triggerFor e now = some trigger) : (ruleFor e.status trigger).isOk := by
  obtain ⟨clock,due⟩ := triggerFor_exact.mp chosen
  exact (ruleFor_clock clock e.status).mpr (isDue_status clock due)

theorem clock_settles (chosen : triggerFor e now = some trigger) (mutated : mutate tiers e trigger r now p = .ok (draft,facts)) :
    triggerFor draft now = none := by
  obtain ⟨clock,due⟩ := triggerFor_exact.mp chosen
  have status := isDue_status clock due
  rw [triggerFor_none]
  cases trigger with
  | trialOverdue =>
      cases mutated
      have trial : e.status = .trialing := (Option.some.inj status).symm
      have plain : ¬(e.status = .pastDue ∨ e.status = .grace) := by rw [trial]; decide
      have later : ¬now+DUNNING ≤ now := Int.not_le.mpr (Int.lt_add_of_pos_right now (by decide))
      unfold failPayment
      rw [if_neg plain]
      simp [dueQ,enterDunning,elapsed,later]
  | dunningElapsed =>
      cases mutated
      have later : ¬now+GRACE ≤ now := Int.not_le.mpr (Int.lt_add_of_pos_right now (by decide))
      simp [dueQ,elapsed,later]
  | graceElapsed | periodElapsed | termEnded | compExpired =>
      cases mutated
      simp [dueQ]
  | _ => exact absurd clock (by decide)

theorem advance_settles {row : EntitlementRow} (chosen : triggerFor row.toEntitlement now = some trigger)
    (advanced : advance tiers entitlementId publicId row l trigger now actor origin p = .ok m) :
    triggerFor m.row.toEntitlement now = none := by
  obtain ⟨r,draft,facts,_,_,mutated,landed,_⟩ := advance_landed advanced
  obtain ⟨flag,equal⟩ := landed.row
  have same : triggerFor m.row.toEntitlement now = triggerFor draft now := by
    rw [equal]
    rfl
  exact same.trans (clock_settles chosen mutated)

end rule

section passes

variable {cfg : Config} {now : Time} {s s' : Store}

structure Swept (now : Time) (s s' : Store) (rows : List Selected) : Prop where
  created : s'.created = s.created
  others : ∀ publicId, publicId ∉ rows.map (·.publicId) →
    s'.entitlements publicId = s.entitlements publicId ∧ s'.listings publicId = s.listings publicId
  done : ∀ x ∈ rows, ∃ row l, s'.entitlements x.publicId = some row ∧ s'.listings x.publicId = some l ∧
    triggerFor row.toEntitlement now = none

theorem Swept.stored (swept : Swept now s s' rows) (stored : Stored s)
    (there : ∀ x ∈ rows, s.entitlements x.publicId = some x.row) : Stored s' := by
  refine ⟨by rw [swept.created]; exact stored.once,?_,?_⟩
  · intro publicId
    rw [swept.created]
    by_cases mine : publicId ∈ rows.map (·.publicId)
    · obtain ⟨x,listed,same⟩ := List.mem_map.mp mine
      obtain ⟨row,_,stays,_⟩ := swept.done x listed
      rw [← same]
      exact iff_of_true (stored.key (there x listed)) ⟨row,stays⟩
    · rw [(swept.others publicId mine).1]
      exact stored.keyed publicId
  · intro publicId row present
    by_cases mine : publicId ∈ rows.map (·.publicId)
    · obtain ⟨x,listed,same⟩ := List.mem_map.mp mine
      obtain ⟨_,l,_,owned,_⟩ := swept.done x listed
      rw [← same]
      exact ⟨l,owned⟩
    · rw [(swept.others publicId mine).1] at present
      rw [(swept.others publicId mine).2]
      exact stored.owned publicId row present

theorem Swept.fit (swept : Swept now s s' rows) (fit : AllFit now s) : AllFit now s' := by
  intro publicId row l trigger present owned chosen
  by_cases mine : publicId ∈ rows.map (·.publicId)
  · obtain ⟨x,listed,same⟩ := List.mem_map.mp mine
    obtain ⟨left,_,stays,_,settled⟩ := swept.done x listed
    rw [same,present] at stays
    cases stays
    rw [settled] at chosen
    cases chosen
  · rw [(swept.others publicId mine).1] at present
    rw [(swept.others publicId mine).2] at owned
    exact fit publicId row l trigger present owned chosen

theorem Swept.cons (first : Swept now s s₁ [x]) (rest : Swept now s₁ s' rows) (apart : x.publicId ∉ rows.map (·.publicId)) :
    Swept now s s' (x :: rows) := by
  refine ⟨rest.created.trans first.created,?_,?_⟩
  · intro publicId other
    have different : publicId ≠ x.publicId := fun same => other (same ▸ List.mem_cons_self ..)
    have absent : publicId ∉ rows.map (·.publicId) := fun listed => other (List.mem_cons_of_mem _ listed)
    have alone : publicId ∉ [x].map (·.publicId) := by simpa using different
    obtain ⟨row,l⟩ := rest.others publicId absent
    obtain ⟨row₁,l₁⟩ := first.others publicId alone
    exact ⟨row.trans row₁,l.trans l₁⟩
  · intro y listed
    rcases List.mem_cons.mp listed with same | later
    · subst same
      obtain ⟨row,l,present,owned,settled⟩ := first.done y (List.mem_cons_self ..)
      obtain ⟨kept,held⟩ := rest.others y.publicId apart
      exact ⟨row,l,kept.trans present,held.trans owned,settled⟩
    · exact rest.done y later

theorem transition_fits (cfg : Config) (stored : Stored s) (fit : AllFit now s)
    (present : s.entitlements x.publicId = some x.row) (chosen : triggerFor x.row.toEntitlement now = some trigger) :
    ∃ s₁, transition cfg s x now = .ok (s₁,true) ∧ Swept now s s₁ [x] := by
  obtain ⟨l,owned⟩ := stored.owned x.publicId x.row present
  obtain ⟨clock,due⟩ := triggerFor_exact.mp chosen
  have fits := fit x.publicId x.row l trigger present owned chosen
  obtain ⟨m,advanced⟩ : ∃ m, advance (cfg.tiers l.tenant) (cfg.entitlementId x.publicId) x.publicId x.row l trigger now
      systemActor "" {} = .ok m :=
    (advance_clock (cfg.tiers l.tenant) now clock (isDue_status clock due)).mpr ⟨due,fits⟩
  refine ⟨s.commit x.publicId m,?_,?_,?_,?_⟩
  · rw [transition_exact cfg owned present chosen,advanced]
  · unfold Store.commit
    rw [present]
    rfl
  · intro publicId other
    have different : publicId ≠ x.publicId := by simpa using other
    exact ⟨Function.update_of_ne different ..,Function.update_of_ne different ..⟩
  · intro y listed
    rw [List.mem_singleton.mp listed]
    exact ⟨m.row,m.listing,Function.update_self ..,Function.update_self ..,advance_settles chosen advanced⟩

theorem sweep_fits (cfg : Config) (s : Store) (rows : List Selected) (stored : Stored s) (fit : AllFit now s)
    (once : (rows.map (·.publicId)).Nodup)
    (there : ∀ x ∈ rows, s.entitlements x.publicId = some x.row ∧ ∃ trigger, triggerFor x.row.toEntitlement now = some trigger) :
    Swept now s (sweep cfg now s rows) rows := by
  induction rows generalizing s with
  | nil => exact ⟨rfl,fun _ _ => ⟨rfl,rfl⟩,fun _ absurd => nomatch absurd⟩
  | cons x rest ih =>
      obtain ⟨apart,others⟩ := List.nodup_cons.mp once
      obtain ⟨present,trigger,chosen⟩ := there x (List.mem_cons_self ..)
      obtain ⟨s₁,turned,first⟩ := transition_fits cfg stored fit present chosen
      have kept : ∀ y ∈ rest, s₁.entitlements y.publicId = some y.row ∧
          ∃ trigger, triggerFor y.row.toEntitlement now = some trigger := by
        intro y later
        obtain ⟨stays,due⟩ := there y (List.mem_cons_of_mem _ later)
        have different : y.publicId ∉ [x].map (·.publicId) := by
          intro same
          rw [List.map_cons,List.map_nil,List.mem_singleton] at same
          exact apart (List.mem_map.mpr ⟨y,later,same⟩)
        exact ⟨(first.others y.publicId different).1.trans stays,due⟩
      have before : ∀ y ∈ [x], s.entitlements y.publicId = some y.row := by
        intro y listed
        rw [List.mem_singleton.mp listed]
        exact present
      unfold sweep
      rw [turned]
      exact first.cons (ih s₁ (first.stored stored before) (first.fit fit) others kept) apart

def dueAt (now : Time) (s : Store) (publicId : ListingId) : Bool :=
  (s.entitlements publicId).any (fun row => dueQ row.toEntitlement now)

def backlog (now : Time) (s : Store) : Nat := s.created.countP (dueAt now s)

theorem keys_sublist (keys : List ListingId) (f : ListingId → Option EntitlementRow) :
    ((keys.filterMap (fun publicId => (f publicId).map (Selected.mk publicId))).map (·.publicId)).Sublist keys := by
  induction keys with
  | nil => exact List.Sublist.slnil
  | cons key rest ih =>
      cases found : f key with
      | none =>
          rw [List.filterMap_cons_none (by rw [found]; rfl)]
          exact ih.cons key
      | some row =>
          rw [List.filterMap_cons_some (by rw [found]; rfl),List.map_cons]
          exact ih.cons_cons key

theorem selected_once (stored : Stored s) : ((selected s now).map (·.publicId)).Nodup := by
  have keys := keys_sublist s.created s.entitlements
  have picked : ((selected s now).map (·.publicId)).Sublist s.created :=
    (((List.take_sublist _ _).trans List.filter_sublist).map _).trans keys
  exact picked.nodup stored.once

theorem selected_some (listed : publicId ∈ s.created) (due : dueAt now s publicId) : selected s now ≠ [] := by
  obtain ⟨row,present,late⟩ := (Option.any_eq_true _ _).mp due
  have queried : Selected.mk publicId row ∈ (s.created.filterMap (fun publicId =>
      (s.entitlements publicId).map (Selected.mk publicId))).filter (fun x => dueQ x.row.toEntitlement now) :=
    List.mem_filter.mpr ⟨List.mem_filterMap.mpr ⟨publicId,listed,by rw [present]; rfl⟩,late⟩
  intro none_
  rcases List.take_eq_nil_iff.mp none_ with absurd | empty
  · cases absurd
  · rw [empty] at queried
    cases queried

theorem pass_swept (cfg : Config) (stored : Stored s) (fit : AllFit now s) :
    Swept now s (pass cfg now s) (selected s now) :=
  sweep_fits cfg s (selected s now) stored fit (selected_once stored) (fun _ listed => selected_exact listed)

theorem dueAt_exact : dueAt now s publicId = true ↔
    ∃ row, s.entitlements publicId = some row ∧ dueQ row.toEntitlement now = true := by
  unfold dueAt
  rw [Option.any_eq_true]

theorem pass_progress (cfg : Config) (stored : Stored s) (fit : AllFit now s) :
    Drained now s ∨ backlog now (pass cfg now s) < backlog now s := by
  have swept := pass_swept cfg stored fit
  cases picked : selected s now with
  | nil =>
      refine .inl (fun publicId row present => ?_)
      rw [triggerFor_none]
      refine Bool.eq_false_iff.mpr (fun late => ?_)
      exact selected_some (stored.key present) (dueAt_exact.mpr ⟨row,present,late⟩) picked
  | cons x rest =>
      have mine : x ∈ selected s now := by rw [picked]; exact List.mem_cons_self ..
      obtain ⟨present,trigger,chosen⟩ := selected_exact mine
      have late : dueQ x.row.toEntitlement now = true := by
        rw [dueQ_exact,chosen]
        rfl
      refine .inr ?_
      unfold backlog
      rw [swept.created]
      refine Lists.countP_less ?_ (stored.key present) (dueAt_exact.mpr ⟨x.row,present,late⟩) ?_
      · intro publicId _ still
        obtain ⟨row,left,due⟩ := dueAt_exact.mp still
        by_cases taken : publicId ∈ (selected s now).map (·.publicId)
        · obtain ⟨y,listed,same⟩ := List.mem_map.mp taken
          obtain ⟨settled,_,stays,_,quiet⟩ := swept.done y listed
          rw [same,left] at stays
          cases stays
          rw [triggerFor_none.mp quiet] at due
          cases due
        · rw [(swept.others publicId taken).1] at left
          exact dueAt_exact.mpr ⟨row,left,due⟩
      · intro still
        obtain ⟨row,left,due⟩ := dueAt_exact.mp still
        obtain ⟨settled,_,stays,_,quiet⟩ := swept.done x mine
        rw [left] at stays
        cases stays
        rw [triggerFor_none.mp quiet] at due
        cases due

theorem passes_drain (cfg : Config) (stored : Stored s) (fit : AllFit now s) : ∃ n, Drained now ((pass cfg now)^[n] s) := by
  have preserved : ∀ s, Stored s ∧ AllFit now s → Stored (pass cfg now s) ∧ AllFit now (pass cfg now s) := by
    intro s valid
    have swept := pass_swept cfg valid.1 valid.2
    exact ⟨swept.stored valid.1 (fun _ listed => (selected_exact listed).1),swept.fit valid.2⟩
  exact Runs.iterate_done (backlog now) preserved (fun s valid => pass_progress cfg valid.1 valid.2) ⟨stored,fit⟩

theorem transition_unfit {row : EntitlementRow} (present : s.entitlements publicId = some row)
    (owned : s.listings publicId = some l) (chosen : triggerFor row.toEntitlement now = some trigger)
    (unfit : ¬Fits row.toEntitlement l trigger) (turned : transition cfg s x now = .ok (s',done)) :
    s'.entitlements publicId = some row ∧ s'.listings publicId = some l := by
  cases picked : triggerFor x.row.toEntitlement now with
  | none =>
      unfold transition at turned
      rw [picked] at turned
      cases turned
      exact ⟨present,owned⟩
  | some other =>
      by_cases same : x.publicId = publicId
      · rw [← same] at present owned
        rw [transition_exact cfg owned present picked] at turned
        obtain ⟨clock,_⟩ := triggerFor_exact.mp picked
        split at turned
        · next m advanced =>
            obtain ⟨r,_,_,_,legal,due,_⟩ := advance_exact.mp advanced
            have named := (ruleFor_clock clock row.status).mp (by rw [legal]; rfl)
            have fits := ((advance_clock (cfg.tiers l.tenant) now clock named).mp ⟨m,advanced⟩).2
            rw [triggerFor_exact.mpr ⟨clock,due clock⟩] at chosen
            cases chosen
            exact (unfit fits).elim
        · cases turned
          rw [← same]
          exact ⟨present,owned⟩
        · cases turned
      · unfold transition at turned
        rw [picked] at turned
        dsimp only at turned
        split at turned
        · next s₁ m moved =>
            cases turned
            obtain ⟨_,_,_,_,_,committed⟩ := applyTrigger_exact.mp moved
            subst committed
            have different : publicId ≠ x.publicId := fun equal => same equal.symm
            exact ⟨(Function.update_of_ne different ..).trans present,(Function.update_of_ne different ..).trans owned⟩
        · cases turned
          exact ⟨present,owned⟩
        · cases turned

theorem sweep_unfit {row : EntitlementRow} (s : Store) (rows : List Selected) (present : s.entitlements publicId = some row)
    (owned : s.listings publicId = some l) (chosen : triggerFor row.toEntitlement now = some trigger)
    (unfit : ¬Fits row.toEntitlement l trigger) :
    (sweep cfg now s rows).entitlements publicId = some row ∧ (sweep cfg now s rows).listings publicId = some l := by
  induction rows generalizing s with
  | nil => exact ⟨present,owned⟩
  | cons x rest ih =>
      unfold sweep
      split
      · next s₁ done turned =>
          obtain ⟨stays,held⟩ := transition_unfit present owned chosen unfit turned
          exact ih s₁ stays held
      · exact ⟨present,owned⟩

theorem drained_fits (drained : ∃ n, Drained now ((pass cfg now)^[n] s)) : AllFit now s := by
  intro publicId row l trigger present owned chosen
  by_contra unfit
  obtain ⟨n,settled⟩ := drained
  have preserved : ∀ s : Store, s.entitlements publicId = some row ∧ s.listings publicId = some l →
      (pass cfg now s).entitlements publicId = some row ∧ (pass cfg now s).listings publicId = some l :=
    fun s here => sweep_unfit s (selected s now) here.1 here.2 chosen unfit
  have stuck : ((pass cfg now)^[n] s).entitlements publicId = some row ∧ ((pass cfg now)^[n] s).listings publicId = some l :=
    Runs.iterate_invariant preserved ⟨present,owned⟩ n
  rw [settled publicId row stuck.1] at chosen
  cases chosen

end passes

-- Of any tables at any time: the query, the rule and the table agree, a trigger
-- leaves its row not due, and repeated passes leave no row due if and only if what
-- they are to write fits.
theorem clock_selects_exact (cfg : Config) (now : Time) (s : Store) (stored : Stored s) :
    ClockSelects cfg now s ↔ AllFit now s := by
  constructor
  · intro selects
    exact drained_fits selects.drains
  · intro fit
    refine ⟨?_,?_,fun e trigger chosen => triggerFor_legal chosen,?_,passes_drain cfg stored fit⟩
    · intro e
      rw [dueQ_exact]
      exact Option.isSome_iff_exists
    · intro e a first b second here there
      exact isDue_once first second here there
    · intro publicId row trigger actor origin p s' m present chosen moved
      obtain ⟨l,found,_,opened,advanced,_⟩ := applyTrigger_exact.mp moved
      rw [present] at opened
      cases opened
      exact advance_settles chosen advanced

theorem failedRun_fits : AllFit dunningOver failedRun := by
  have stored : Stored failedRun := reached_stored (run_reached exampleConfig exampleSite _)
  have keys : failedRun.created = ["lst"] := by decide +kernel
  intro publicId row l trigger present listed chosen
  have only := stored.key present
  rw [keys,List.mem_singleton] at only
  subst only
  cases listed
  cases present
  obtain ⟨clock,due⟩ := triggerFor_exact.mp chosen
  cases clockTrigger_of_clockStatus (isDue_status clock due)
  exact ⟨nofun,.inr (by decide)⟩

theorem clock_selects_failed : ClockSelects exampleConfig dunningOver failedRun :=
  (clock_selects_exact exampleConfig dunningOver failedRun (reached_stored (run_reached exampleConfig exampleSite _))).mpr
    failedRun_fits

def longListing : Listing :=
  {exampleListing with
    projection := {exampleListing.projection with name := String.ofList (List.replicate 181 'a')}}

def longRun : Store :=
  Runs.run (step exampleConfig exampleSite) Store.empty
    [.list "lst" longListing,exampleCheckout "basic",.report 1 exampleAdapter completionReport 5,
      .report 1 exampleAdapter failureReport 6]

theorem longRun_stuck : ((longRun.entitlements "lst").map (fun row => triggerFor row.toEntitlement dunningOver),
    (longRun.listings "lst").map (fun l => (address l,l.name.length)),
    match entitlementTransitions exampleConfig longRun dunningOver with
    | .ok _ => none
    | .error f => some f) =
      (some (some .dunningElapsed),some (some "owner@example.test",181),some .dataError) := by
  decide +kernel

-- A listing's name may be longer than the subject that names it: the pass raises
-- at its row, however often it is repeated.
theorem clock_selects_stuck :
    Reached exampleConfig exampleSite longRun ∧ ¬ClockSelects exampleConfig dunningOver longRun ∧
      entitlementTransitions exampleConfig longRun dunningOver = .error .dataError ∧
      ∀ n, ¬Drained dunningOver ((pass exampleConfig dunningOver)^[n] longRun) := by
  obtain ⟨lapsed,rest⟩ := Prod.mk.inj longRun_stuck
  obtain ⟨named,raised⟩ := Prod.mk.inj rest
  have unfit : ¬AllFit dunningOver longRun := by
    intro fit
    obtain ⟨row,present,chosen⟩ := Option.map_eq_some_iff.mp lapsed
    obtain ⟨l,listed,both⟩ := Option.map_eq_some_iff.mp named
    obtain ⟨reachable,long⟩ := Prod.mk.inj both
    rcases (fit "lst" row l .dunningElapsed present listed chosen).2 with silent | short
    · rw [reachable] at silent
      cases silent
    · have subject := short _ rfl
      rw [String.length_append,long] at subject
      exact absurd subject (by decide)
  refine ⟨run_reached exampleConfig exampleSite _,fun selects => unfit (drained_fits selects.drains),?_,
    fun n settled => unfit (drained_fits ⟨n,settled⟩)⟩
  revert raised
  cases entitlementTransitions exampleConfig longRun dunningOver with
  | ok done => intro absurd; cases absurd
  | error f => intro same; exact congrArg Except.error (Option.some.inj same)

end Osds.Billing

import Osds.Lib.Idempotent
import Osds.Billing.Recovery

namespace Osds.Billing
open Directory Audit Fallible

structure Delivery where
  tenant : TenantId
  adapter : AdapterId
  report : PaymentReport
  now : Time

abbrev Event := TenantId × String × String

def Delivery.event (d : Delivery) : Event := (d.tenant,d.adapter.name,d.report.externalEventId)

def deliver (cfg : Config) (s : Store) (d : Delivery) : Store × Answer :=
  reportPayment cfg s d.tenant d.adapter d.report d.now

-- A delivery that raised is not answered: its transaction is rolled back.
def Answer.final : Answer → Bool
  | .raised _ => false
  | _ => true

def Store.relog (s : Store) (log : List CommandLog) : Store := {s with log := log}

structure SameTables (a b : Store) : Prop where
  listings : a.listings = b.listings
  entitlements : a.entitlements = b.entitlements
  created : a.created = b.created
  attempts : a.attempts = b.attempts
  receipts : a.receipts = b.receipts
  outbox : a.outbox = b.outbox
  mail : a.mail = b.mail
  applied : ∀ tenant key, appliedBefore a tenant key = appliedBefore b tenant key

theorem sameTables_equivalence : Equivalence SameTables where
  refl _ := ⟨rfl,rfl,rfl,rfl,rfl,rfl,rfl,fun _ _ => rfl⟩
  symm same := ⟨same.listings.symm,same.entitlements.symm,same.created.symm,same.attempts.symm,same.receipts.symm,
    same.outbox.symm,same.mail.symm,fun tenant key => (same.applied tenant key).symm⟩
  trans first second := ⟨first.listings.trans second.listings,first.entitlements.trans second.entitlements,
    first.created.trans second.created,first.attempts.trans second.attempts,first.receipts.trans second.receipts,
    first.outbox.trans second.outbox,first.mail.trans second.mail,
    fun tenant key => (first.applied tenant key).trans (second.applied tenant key)⟩

theorem SameTables.relog (same : SameTables a b) : b = a.relog b.log := by
  obtain ⟨listings,entitlements,created,attempts,receipts,outbox,mail,_⟩ := same
  cases a
  cases b
  cases listings
  cases entitlements
  cases created
  cases attempts
  cases receipts
  cases outbox
  cases mail
  rfl

theorem appliedBefore_logged {outcome : Option LogOutcome} : appliedBefore (s.logged tenant key outcome replay) tenant' key' =
    (appliedBefore s tenant' key' || decide (tenant = tenant' ∧ key = key' ∧ outcome = some .applied)) := by
  unfold appliedBefore Store.logged
  rw [List.any_append]
  simp [reportCommand]

theorem SameTables.logged {outcome : Option LogOutcome} (same : SameTables a b) :
    SameTables (a.logged tenant key outcome replay) (b.logged tenant key outcome replay) := by
  refine ⟨same.listings,same.entitlements,same.created,same.attempts,same.receipts,same.outbox,same.mail,?_⟩
  intro tenant' key'
  rw [appliedBefore_logged,appliedBefore_logged,same.applied]

theorem applyTrigger_relog (cfg : Config) (s : Store) (log : List CommandLog) :
    applyTrigger cfg (s.relog log) publicId trigger now actor origin p =
      (applyTrigger cfg s publicId trigger now actor origin p).map (fun out => (out.1.relog log,out.2)) := by
  have listings : (s.relog log).listings = s.listings := rfl
  have entitlements : (s.relog log).entitlements = s.entitlements := rfl
  unfold applyTrigger
  rw [listings,entitlements]
  cases s.listings publicId with
  | none => rfl
  | some l =>
      dsimp only
      cases openRow (s.entitlements publicId) false trigger p with
      | error f => rfl
      | ok row =>
          dsimp only [bind,Except.bind]
          cases advance (cfg.tiers l.tenant) (cfg.entitlementId publicId) publicId row l trigger now actor origin p with
          | error f => rfl
          | ok m => rfl

theorem concludeReport_relog {attempt : Option (AttemptId × CheckoutAttempt)} (s : Store) (log : List CommandLog) :
    concludeReport (s.relog log) tenant adapter report now publicId attempt trigger data =
      (concludeReport s tenant adapter report now publicId attempt trigger data).relog log := by
  unfold concludeReport
  cases attempt with
  | none => rfl
  | some found =>
      dsimp only
      split <;> rfl

theorem SameTables.relogged (s s' : Store) (log : List CommandLog) (kept : s'.log = s.log)
    (same : ∀ tenant key, appliedBefore s tenant key = appliedBefore (s.relog log) tenant key) :
    SameTables s' (s'.relog log) := by
  refine ⟨rfl,rfl,rfl,rfl,rfl,rfl,rfl,?_⟩
  intro tenant key
  have equal := same tenant key
  unfold appliedBefore at equal ⊢
  rw [kept]
  exact equal

theorem applyReport_log (accepted : applyReport cfg s tenant adapter report now = .ok s') : s'.log = s.log := by
  obtain ⟨_,_,_,_,_,_,_,_,_,_,_,_,_,applied,rfl⟩ := applyReport_exact.mp accepted
  rw [concludeReport_books.1]
  exact (applyTrigger_books applied).1

theorem applyReport_relog (cfg : Config) (s : Store) (log : List CommandLog) :
    applyReport cfg (s.relog log) tenant adapter report now =
      (applyReport cfg s tenant adapter report now).map (·.relog log) := by
  have resolved : resolve (s.relog log) tenant report = resolve s tenant report := rfl
  have receipts : (s.relog log).receipts = s.receipts := rfl
  have entitlements : (s.relog log).entitlements = s.entitlements := rfl
  unfold applyReport
  rw [resolved,receipts]
  split
  · rfl
  split
  · rfl
  split
  · rfl
  cases resolve s tenant report with
  | error reason => rfl
  | ok found =>
      obtain ⟨publicId,l,attempt⟩ := found
      dsimp only
      unfold applyResolved
      rw [entitlements]
      dsimp only
      cases reportTrigger (cfg.tiers tenant) publicId ((s.entitlements publicId).map (·.toEntitlement))
          (attempt.map (·.2)) report with
      | error reason => rfl
      | ok out =>
          dsimp only
          rw [applyTrigger_relog]
          cases applyTrigger cfg s publicId out.1 now (reportActor adapter) adapter.name out.2.1 with
          | error f => rfl
          | ok moved => exact congrArg Except.ok (concludeReport_relog moved.1 log)

theorem SameTables.ignore (same : SameTables a b) :
    SameTables (a.ignore tenant adapter report reason) (b.ignore tenant adapter report reason) := by
  unfold Store.ignore
  dsimp only
  rw [same.receipts]
  split
  · exact same
  · exact ⟨same.listings,same.entitlements,same.created,same.attempts,rfl,same.outbox,same.mail,same.applied⟩

theorem SameTables.finish (same : SameTables a b) (attempt : Option AttemptId) (now : Time) :
    SameTables (a.finish attempt now) (b.finish attempt now) := by
  unfold Store.finish
  cases attempt with
  | none => exact same
  | some id =>
      dsimp only
      rw [same.attempts]
      split
      · exact same
      · split
        · exact ⟨same.listings,same.entitlements,same.created,by rw [Store.setAttempt,Store.setAttempt,same.attempts],
            same.receipts,same.outbox,same.mail,same.applied⟩
        · exact same

theorem deliver_congr (cfg : Config) (d : Delivery) (same : SameTables a b) :
    (deliver cfg a d).2 = (deliver cfg b d).2 ∧ SameTables (deliver cfg a d).1 (deliver cfg b d).1 := by
  have receipts : receiptExists b d.tenant d.adapter d.report = receiptExists a d.tenant d.adapter d.report := by
    unfold receiptExists
    rw [same.receipts]
  have again : applyReport cfg b d.tenant d.adapter d.report d.now =
      (applyReport cfg a d.tenant d.adapter d.report d.now).map (·.relog b.log) := by
    rw [← applyReport_relog,← same.relog]
  unfold deliver reportPayment
  dsimp only
  rw [receipts,← same.applied,again]
  split
  · exact ⟨rfl,same.logged⟩
  split
  · exact ⟨rfl,same⟩
  split
  · exact ⟨rfl,same⟩
  cases accepted : applyReport cfg a d.tenant d.adapter d.report d.now with
  | ok s' =>
      have relogged : SameTables s' (s'.relog b.log) := by
        refine SameTables.relogged a s' b.log (applyReport_log accepted) ?_
        intro tenant key
        rw [← same.relog]
        exact same.applied tenant key
      exact ⟨rfl,relogged.logged⟩
  | error e =>
      cases e with
      | refused reason attempt => exact ⟨rfl,same.logged.ignore.finish attempt d.now⟩
      | failed f => cases f <;> exact ⟨rfl,same.logged⟩

def Remembered (s : Store) (event : Event) : Prop :=
  appliedBefore s event.1 (event.2.1 ++ ":" ++ event.2.2) = true ∨
    s.receipts.any (fun row => row.tenant = event.1 ∧ row.adapterId = event.2.1 ∧ row.externalEventId = event.2.2) = true

theorem remembered_stays (d : Delivery) (remembered : Remembered s event) : Remembered (deliver cfg s d).1 event := by
  obtain ⟨rows,receipts,log,received,_⟩ := reportPayment_books cfg s d.tenant d.adapter d.report d.now
  rcases remembered with applied | receipt
  · left
    unfold deliver appliedBefore
    rw [log,List.any_append,Bool.or_eq_true]
    exact .inl applied
  · right
    unfold deliver
    rw [received,List.any_append,Bool.or_eq_true]
    exact .inl receipt

theorem remembered_inert (d : Delivery) (remembered : Remembered s d.event) :
    (deliver cfg s d).2 = .replayed ∧ SameTables s (deliver cfg s d).1 := by
  unfold deliver reportPayment
  dsimp only
  by_cases applied : appliedBefore s d.tenant (reportKey d.adapter d.report) = true
  · rw [if_pos applied]
    refine ⟨rfl,rfl,rfl,rfl,rfl,rfl,rfl,rfl,?_⟩
    intro tenant key
    rw [appliedBefore_logged]
    by_cases own : d.tenant = tenant ∧ reportKey d.adapter d.report = key
    · obtain ⟨rfl,rfl⟩ := own
      rw [applied,Bool.true_or]
    · simp only [← and_assoc,own,false_and,decide_false,Bool.or_false]
  · have received : receiptExists s d.tenant d.adapter d.report = true := remembered.resolve_left applied
    rw [if_neg applied,if_pos received]
    exact ⟨rfl,sameTables_equivalence.refl s⟩

theorem ignore_remembered (s : Store) (short : report.externalEventId.length ≤ 200) :
    receiptExists (s.ignore tenant adapter report reason) tenant adapter report = true := by
  unfold Store.ignore receiptExists
  dsimp only
  split
  · rename_i present
    rw [List.any_eq_true] at present ⊢
    obtain ⟨row,stored,same⟩ := present
    refine ⟨row,stored,?_⟩
    simp only [PaymentReceipt.sameEvent,receiptFor,clip_of_le short,decide_eq_true_eq] at same ⊢
    exact ⟨same.1.symm,same.2.1.symm,same.2.2.symm⟩
  · rw [List.any_append,Bool.or_eq_true]
    right
    simp [receiptFor,clip_of_le short]

theorem reportKey_short (loggable : ¬200 < (reportKey adapter report).length) : report.externalEventId.length ≤ 200 := by
  unfold reportKey at loggable
  rw [String.length_append] at loggable
  omega

theorem answered_remembered (d : Delivery) (answered : (deliver cfg s d).2.final = true) :
    Remembered (deliver cfg s d).1 d.event := by
  have logged : ∀ (s' : Store) replay, Remembered (s'.logged d.tenant (reportKey d.adapter d.report)
      (some .applied) replay) d.event := by
    intro s' replay
    left
    change appliedBefore _ d.tenant (reportKey d.adapter d.report) = true
    rw [appliedBefore_logged]
    simp
  revert answered
  unfold deliver reportPayment
  dsimp only
  split
  · exact fun _ => logged s true
  split
  · rename_i received
    exact fun _ => .inr received
  split
  · nofun
  rename_i loggable
  cases applyReport cfg s d.tenant d.adapter d.report d.now with
  | ok s' => exact fun _ => logged s' false
  | error e =>
      cases e with
      | refused reason attempt =>
          intro _
          right
          unfold concludeCommand
          dsimp only
          rw [(finish_books _).2]
          exact ignore_remembered _ (reportKey_short loggable)
      | failed f =>
          cases f with
          | integrityError => exact fun _ => logged s true
          | _ => nofun

theorem report_consumer (cfg : Config) :
    Idempotent.Consumer (deliver cfg) Delivery.event Answer.final SameTables Remembered where
  equivalence := sameTables_equivalence
  congr := deliver_congr cfg _
  settles := answered_remembered _
  stays := remembered_stays _
  inert := fun remembered => (remembered_inert _ remembered).2

def IgnoredReceipt (s : Store) (event : Event) : Prop :=
  ∃ receipt ∈ s.receipts, receipt.tenant = event.1 ∧ receipt.adapterId = event.2.1 ∧
    receipt.externalEventId = event.2.2 ∧ receipt.outcome = .ignored

theorem ignored_receipt (d : Delivery) (ignored : (deliver cfg s d).2 = .ignored reason) :
    IgnoredReceipt (deliver cfg s d).1 d.event := by
  revert ignored
  unfold deliver reportPayment
  dsimp only
  split
  · nofun
  rename_i unapplied
  split
  · nofun
  rename_i unreceipted
  split
  · nofun
  rename_i loggable
  have unseen : Unseen s d.tenant d.adapter d.report :=
    ⟨Bool.eq_false_iff.mpr unapplied,Bool.eq_false_iff.mpr unreceipted,Nat.not_lt.mp loggable⟩
  cases applyReport cfg s d.tenant d.adapter d.report d.now with
  | ok s' => nofun
  | error e =>
      cases e with
      | refused why attempt =>
          intro _
          refine ⟨receiptFor d.tenant d.adapter d.report .ignored why.value none,?_,rfl,rfl,clip_of_le unseen.short,rfl⟩
          unfold concludeCommand
          dsimp only
          rw [(finish_books _).2]
          have fresh : ¬(s.receipts.any ((receiptFor d.tenant d.adapter d.report .ignored why.value none).sameEvent ·)) =
              true := ne_true_of_eq_false unseen.receipt
          unfold Store.ignore Store.logged
          dsimp only
          rw [if_neg fresh]
          exact List.mem_append_right _ (List.mem_singleton_self _)
      | failed f => cases f <;> nofun

theorem ignoredReceipt_stays (s : Store) (d : Delivery) (kept : IgnoredReceipt s event) :
    IgnoredReceipt (deliver cfg s d).1 event := by
  obtain ⟨rows,receipts,_,received,_⟩ := reportPayment_books cfg s d.tenant d.adapter d.report d.now
  obtain ⟨receipt,present,facts⟩ := kept
  refine ⟨receipt,?_,facts⟩
  unfold deliver
  rw [received]
  exact List.mem_append_left _ present

-- The deliveries less those whose event core has answered; a delivery that
-- raised is rolled back and stays.
def counted (cfg : Config) (s : Store) (deliveries : List Delivery) : List Delivery :=
  Idempotent.unanswered (deliver cfg) Delivery.event Answer.final s [] deliveries

theorem counted_firsts (answered : Runs.Along (fun s d => (deliver cfg s d).1)
    (fun s d => (deliver cfg s d).2.final = true) s deliveries) :
    counted cfg s deliveries = Idempotent.firsts Delivery.event [] deliveries :=
  Idempotent.unanswered_firsts (deliver cfg) Delivery.event Answer.final answered

-- Redeliveries of answered events change no table, and a report that was ignored
-- stays ignored, whatever was delivered since.
theorem deliveries_once (cfg : Config) (s : Store) :
    (∀ deliveries, SameTables (Idempotent.receiveAll (deliver cfg) s deliveries)
      (Idempotent.receiveAll (deliver cfg) s (counted cfg s deliveries))) ∧
    ∀ d reason later again, (deliver cfg s d).2 = .ignored reason → again.event = d.event →
      let s' := Idempotent.receiveAll (deliver cfg) (deliver cfg s d).1 later
      IgnoredReceipt s' d.event ∧ (deliver cfg s' again).2 = .replayed ∧ SameTables s' (deliver cfg s' again).1 := by
  refine ⟨?_,?_⟩
  · intro deliveries
    exact Idempotent.receiveAll_unanswered (deliver cfg) Delivery.event Answer.final (report_consumer cfg)
      (List.forall_mem_nil _) (sameTables_equivalence.refl s) deliveries
  · intro d reason later again ignored same s'
    have answered : (deliver cfg s d).2.final = true := by rw [ignored]; rfl
    have remembered : Remembered s' again.event := by
      rw [same]
      exact Idempotent.settled_receiveAll (deliver cfg) Delivery.event Answer.final (report_consumer cfg)
        (answered_remembered d answered) later
    have kept : IgnoredReceipt s' d.event :=
      Runs.run_invariant (fun s d => (deliver cfg s d).1) ignoredReceipt_stays (ignored_receipt d ignored) later
    exact ⟨kept,remembered_inert again remembered⟩

section redeliveries

def delivery (report : PaymentReport) (now : Time) : Delivery := ⟨1,exampleAdapter,report,now⟩

def earlyRefund : PaymentReport := {kind := .refunded,externalEventId := "evt_refund",listingId := "lst"}

theorem deliveries_once_refund :
    let s := exampleRun [exampleCheckout "basic"]
    let s' := Idempotent.receiveAll (deliver exampleConfig) (deliver exampleConfig s (delivery earlyRefund 4)).1
      [delivery completionReport 5]
    (s'.entitlements "lst").map (·.status) = some .active ∧
      (deliver exampleConfig s' (delivery earlyRefund 6)).2 = .replayed ∧
      SameTables s' (deliver exampleConfig s' (delivery earlyRefund 6)).1 := by
  intro s s'
  have ignored : (deliver exampleConfig s (delivery earlyRefund 4)).2 = .ignored .invalidTransition := rfl
  have once := (deliveries_once exampleConfig s).2 (delivery earlyRefund 4) .invalidTransition
    [delivery completionReport 5] (delivery earlyRefund 6) ignored rfl
  exact ⟨rfl,once.2⟩

def fullCounter : PaymentReport := {failureReport with externalEventId := "evt_full",attempt := some 32767}

def nextInvoice : PaymentReport := {invoiceReport with externalEventId := "evt_next"}

-- A failure that the attempts' column cannot count raises; delivered again after
-- a payment it is applied, where the first deliveries alone end active.
theorem raised_failure_counts_again :
    let s := exampleRun [exampleCheckout "basic",.report 1 exampleAdapter completionReport 5]
    let deliveries := [delivery fullCounter 6,delivery failureReport 7,delivery nextInvoice 8,delivery failureReport 9]
    let once := Idempotent.firsts Delivery.event [] deliveries
    (deliver exampleConfig (Idempotent.receiveAll (deliver exampleConfig) s (deliveries.take 1))
        (delivery failureReport 7)).2 = .raised .dataError ∧
      ((Idempotent.receiveAll (deliver exampleConfig) s deliveries).entitlements "lst").map (·.status) = some .pastDue ∧
      ((Idempotent.receiveAll (deliver exampleConfig) s once).entitlements "lst").map (·.status) = some .active :=
  ⟨rfl,rfl,rfl⟩

end redeliveries

end Osds.Billing

import Osds.Billing.Reports
import Osds.Billing.Transitions

namespace Osds.Billing
open Directory Audit

structure Unmoved (s s' : Store) : Prop where
  listings : s'.listings = s.listings
  entitlements : s'.entitlements = s.entitlements
  created : s'.created = s.created
  outbox : s'.outbox = s.outbox
  mail : s'.mail = s.mail

theorem Unmoved.trans (first : Unmoved a b) (second : Unmoved b c) : Unmoved a c :=
  ⟨second.listings.trans first.listings,second.entitlements.trans first.entitlements,
    second.created.trans first.created,second.outbox.trans first.outbox,second.mail.trans first.mail⟩

theorem logged_unmoved {outcome : Option LogOutcome} (s : Store) : Unmoved s (s.logged tenant key outcome replay) := ⟨rfl,rfl,rfl,rfl,rfl⟩

theorem ignore_unmoved (s : Store) : Unmoved s (s.ignore tenant adapter report reason) := by
  unfold Store.ignore
  dsimp only
  split <;> exact ⟨rfl,rfl,rfl,rfl,rfl⟩

theorem ignore_attempts (s : Store) : (s.ignore tenant adapter report reason).attempts = s.attempts := by
  unfold Store.ignore
  dsimp only
  split <;> rfl

theorem finish_started {s : Store} (stored : s.attempts attempt = some a) (started : a.status = .started) :
    s.finish (some attempt) now = s.setAttempt attempt {a with status := .completed,completedAt := some now} := by
  unfold Store.finish
  dsimp only
  rw [stored]
  exact if_pos started

theorem finish_unmoved (s : Store) : Unmoved s (s.finish attempt now) := by
  unfold Store.finish Store.setAttempt
  split
  · exact ⟨rfl,rfl,rfl,rfl,rfl⟩
  · split
    · exact ⟨rfl,rfl,rfl,rfl,rfl⟩
    · split <;> exact ⟨rfl,rfl,rfl,rfl,rfl⟩

theorem applyReport_exact : applyReport cfg s tenant adapter report now = .ok s' ↔
    report.kind.value ∈ reportKinds ∧ report.externalEventId ≠ "" ∧
      s.receipts.any ((receiptFor tenant adapter report .applied "" none).sameEvent ·) = false ∧
      ∃ publicId l attempt trigger params data s₁ m, resolve s tenant report = .ok (publicId,l,attempt) ∧
        reportTrigger (cfg.tiers tenant) publicId ((s.entitlements publicId).map (·.toEntitlement))
          (attempt.map (·.2)) report = .ok (trigger,params,data) ∧
        applyTrigger cfg s publicId trigger now (reportActor adapter) adapter.name params = .ok (s₁,m) ∧
        s' = concludeReport s₁ tenant adapter report now publicId attempt trigger data := by
  unfold applyReport
  constructor
  · intro accepted
    split at accepted
    · cases accepted
    rename_i known
    split at accepted
    · cases accepted
    rename_i named
    split at accepted
    · cases accepted
    rename_i unseen
    split at accepted
    · cases accepted
    rename_i publicId l attempt resolved
    unfold applyResolved at accepted
    dsimp only at accepted
    split at accepted
    · cases accepted
    rename_i trigger params data mapped
    split at accepted
    · cases accepted
    rename_i s₁ m applied
    exact ⟨Decidable.not_not.mp known,named,Bool.eq_false_iff.mpr unseen,publicId,l,attempt,trigger,params,data,
      s₁,m,resolved,mapped,applied,(Except.ok.inj accepted).symm⟩
  · intro steps
    obtain ⟨known,named,unseen,publicId,l,attempt,trigger,params,data,s₁,m,resolved,mapped,applied,equal⟩ := steps
    rw [if_neg (not_not_intro known),if_neg named,if_neg (by simp [unseen]),resolved]
    unfold applyResolved
    dsimp only
    rw [mapped]
    dsimp only
    rw [applied,equal]

theorem concludeReport_listings : (concludeReport s tenant adapter report now publicId attempt trigger
    data).listings = s.listings := by
  unfold concludeReport Store.setAttempt
  split
  · split <;> rfl
  · rfl

theorem concludeReport_entitlements : (concludeReport s tenant adapter report now publicId attempt trigger
    data).entitlements = s.entitlements := by
  unfold concludeReport Store.setAttempt
  split
  · split <;> rfl
  · rfl

theorem concludeReport_created : (concludeReport s tenant adapter report now publicId attempt trigger
    data).created = s.created := by
  unfold concludeReport Store.setAttempt
  split
  · split <;> rfl
  · rfl

theorem concludeReport_outbox : (concludeReport s tenant adapter report now publicId attempt trigger
    data).outbox = s.outbox ++ [⟨tenant,publicId,reportActor adapter,adapter.name,data⟩] := by
  unfold concludeReport Store.setAttempt
  split
  · split <;> rfl
  · rfl

theorem concludeReport_attempts : (concludeReport s tenant adapter report now publicId attempt trigger data).attempts =
    match attempt with
    | some (id,a) => if trigger ∈ starts then Function.update s.attempts id (some (completed a report now)) else s.attempts
    | none => s.attempts := by
  unfold concludeReport
  split
  · split <;> rfl
  · rfl

-- An event no delivery of which has been recorded, under a key the log can hold.
structure Unseen (s : Store) (tenant : TenantId) (adapter : AdapterId) (report : PaymentReport) : Prop where
  unapplied : appliedBefore s tenant (reportKey adapter report) = false
  unreceipted : receiptExists s tenant adapter report = false
  loggable : (reportKey adapter report).length ≤ 200

theorem clip_of_le (short : text.length ≤ n) : clip n text = text := by
  unfold clip
  rw [List.take_of_length_le (by rwa [String.length_toList]),String.ofList_toList]

theorem Unseen.short (unseen : Unseen s tenant adapter report) : report.externalEventId.length ≤ 200 := by
  have loggable := unseen.loggable
  unfold reportKey at loggable
  rw [String.length_append] at loggable
  omega

theorem Unseen.receipt (unseen : Unseen s tenant adapter report) :
    s.receipts.any ((receiptFor tenant adapter report .applied "" none).sameEvent ·) = false := by
  have absent := unseen.unreceipted
  unfold receiptExists at absent
  rw [List.any_eq_false] at absent ⊢
  intro row present
  have differ := absent row present
  simp only [PaymentReceipt.sameEvent,receiptFor,clip_of_le unseen.short]
  simp only [decide_eq_true_eq] at differ ⊢
  intro same
  exact differ ⟨same.1.symm,same.2.1.symm,same.2.2.symm⟩

theorem reportPayment_unseen (unseen : Unseen s tenant adapter report) :
    reportPayment cfg s tenant adapter report now =
      concludeCommand s tenant adapter report now (applyReport cfg s tenant adapter report now) := by
  unfold reportPayment
  dsimp only
  rw [unseen.unapplied,unseen.unreceipted,if_neg nofun,if_neg nofun,if_neg (Nat.not_lt.mpr unseen.loggable)]

-- Which of the answers a report never seen before gets is decided by what it
-- resolves to, what it maps to, and the machine.
section unseen

variable {cfg : Config} {s : Store} {report : PaymentReport}

theorem reportPayment_resolved (unseen : Unseen s tenant adapter report) (named : report.externalEventId ≠ "")
    (known : report.kind.value ∈ reportKinds) (resolved : resolve s tenant report = .ok (publicId,l,attempt)) :
    reportPayment cfg s tenant adapter report now = concludeCommand s tenant adapter report now
      (applyResolved cfg s tenant adapter report now publicId attempt) := by
  rw [reportPayment_unseen unseen]
  unfold applyReport
  rw [if_neg (not_not_intro known),if_neg named,if_neg (by simp [unseen.receipt]),resolved]

theorem reportPayment_applied (unseen : Unseen s tenant adapter report) (named : report.externalEventId ≠ "")
    (known : report.kind.value ∈ reportKinds) (resolved : resolve s tenant report = .ok (publicId,l,attempt))
    (mapped : reportTrigger (cfg.tiers tenant) publicId ((s.entitlements publicId).map (·.toEntitlement))
      (attempt.map (·.2)) report = .ok (trigger,params,data))
    (applied : applyTrigger cfg s publicId trigger now (reportActor adapter) adapter.name params = .ok (s',m)) :
    reportPayment cfg s tenant adapter report now =
      ((concludeReport s' tenant adapter report now publicId attempt trigger data).logged tenant
        (reportKey adapter report) (some .applied) false,.applied) := by
  rw [reportPayment_resolved unseen named known resolved]
  unfold applyResolved
  dsimp only
  rw [mapped]
  dsimp only
  rw [applied]
  rfl

theorem reportPayment_commits (unseen : Unseen s tenant adapter report) (named : report.externalEventId ≠ "")
    (known : report.kind.value ∈ reportKinds) (resolved : resolve s tenant report = .ok (publicId,l,attempt))
    (mapped : reportTrigger (cfg.tiers tenant) publicId ((s.entitlements publicId).map (·.toEntitlement))
      (attempt.map (·.2)) report = .ok (trigger,params,data))
    (applied : applyTrigger cfg s publicId trigger now (reportActor adapter) adapter.name params =
      .ok (s.commit publicId m,m)) :
    let result := reportPayment cfg s tenant adapter report now
    result.2 = .applied ∧ result.1.entitlements = Function.update s.entitlements publicId (some m.row) ∧
      result.1.listings = Function.update s.listings publicId (some m.listing) ∧
      result.1.attempts = match attempt with
        | some (id,a) =>
            if trigger ∈ starts then Function.update s.attempts id (some (completed a report now)) else s.attempts
        | none => s.attempts := by
  intro result
  have answer : result = _ := reportPayment_applied unseen named known resolved mapped applied
  rw [answer]
  simp only [Store.logged,concludeReport_entitlements,concludeReport_listings,concludeReport_attempts]
  exact ⟨trivial,rfl,rfl,rfl⟩

theorem reportPayment_unmapped (unseen : Unseen s tenant adapter report) (named : report.externalEventId ≠ "")
    (known : report.kind.value ∈ reportKinds) (resolved : resolve s tenant report = .ok (publicId,l,attempt))
    (refused : reportTrigger (cfg.tiers tenant) publicId ((s.entitlements publicId).map (·.toEntitlement))
      (attempt.map (·.2)) report = .error reason) :
    reportPayment cfg s tenant adapter report now =
      ((s.logged tenant (reportKey adapter report) (some .rejected) false).ignore tenant adapter report reason,
        .ignored reason) := by
  rw [reportPayment_resolved unseen named known resolved]
  unfold applyResolved
  dsimp only
  rw [refused]
  rfl

theorem reportPayment_illegal (unseen : Unseen s tenant adapter report) (named : report.externalEventId ≠ "")
    (known : report.kind.value ∈ reportKinds) (resolved : resolve s tenant report = .ok (publicId,l,attempt))
    (mapped : reportTrigger (cfg.tiers tenant) publicId ((s.entitlements publicId).map (·.toEntitlement))
      (attempt.map (·.2)) report = .ok (trigger,params,data))
    (refused : applyTrigger cfg s publicId trigger now (reportActor adapter) adapter.name params =
      .error (.invalidTransition status trigger)) :
    reportPayment cfg s tenant adapter report now =
      (((s.logged tenant (reportKey adapter report) (some .rejected) false).ignore tenant adapter report
        .invalidTransition).finish
          (if report.kind = .checkoutCompleted ∨ report.kind = .paymentSucceeded then attempt.map (·.1) else none)
          now,.ignored .invalidTransition) := by
  rw [reportPayment_resolved unseen named known resolved]
  unfold applyResolved
  dsimp only
  rw [mapped]
  dsimp only
  rw [refused]
  rfl

end unseen

theorem reportPayment_cases (cfg : Config) (s : Store) (tenant : TenantId) (adapter : AdapterId)
    (report : PaymentReport) (now : Time) :
    (∃ s', Unseen s tenant adapter report ∧ applyReport cfg s tenant adapter report now = .ok s' ∧
      reportPayment cfg s tenant adapter report now =
        (s'.logged tenant (reportKey adapter report) (some .applied) false,.applied)) ∨
    Unmoved s (reportPayment cfg s tenant adapter report now).1 ∧
      (reportPayment cfg s tenant adapter report now).2 ≠ .applied := by
  unfold reportPayment
  dsimp only
  split
  · exact .inr ⟨logged_unmoved s,nofun⟩
  rename_i unapplied
  split
  · exact .inr ⟨⟨rfl,rfl,rfl,rfl,rfl⟩,nofun⟩
  rename_i unreceipted
  split
  · exact .inr ⟨⟨rfl,rfl,rfl,rfl,rfl⟩,nofun⟩
  rename_i loggable
  unfold concludeCommand
  split
  · rename_i s' accepted
    exact .inl ⟨s',⟨Bool.eq_false_iff.mpr unapplied,Bool.eq_false_iff.mpr unreceipted,Nat.not_lt.mp loggable⟩,
      accepted,rfl⟩
  · exact .inr ⟨logged_unmoved s,nofun⟩
  · exact .inr ⟨logged_unmoved s,nofun⟩
  · exact .inr ⟨((logged_unmoved s).trans (ignore_unmoved _)).trans (finish_unmoved _),nofun⟩

section bookkeeping

theorem applyTrigger_books (applied : applyTrigger cfg s publicId trigger now actor origin p = .ok (s',m)) :
    s'.log = s.log ∧ s'.receipts = s.receipts ∧ s'.attempts = s.attempts := by
  obtain ⟨_,_,_,_,_,rfl⟩ := applyTrigger_exact.mp applied
  exact ⟨rfl,rfl,rfl⟩

theorem finish_books (s : Store) : (s.finish attempt now).log = s.log ∧ (s.finish attempt now).receipts = s.receipts := by
  unfold Store.finish
  split
  · exact ⟨rfl,rfl⟩
  · split
    · exact ⟨rfl,rfl⟩
    · split <;> exact ⟨rfl,rfl⟩

theorem concludeReport_books : (concludeReport s tenant adapter report now publicId attempt trigger data).log = s.log ∧
    (concludeReport s tenant adapter report now publicId attempt trigger data).receipts =
      s.receipts ++ [receiptFor tenant adapter report .applied "" (some publicId)] := by
  unfold concludeReport
  split
  · split <;> exact ⟨rfl,rfl⟩
  · exact ⟨rfl,rfl⟩

def OwnRow (tenant : TenantId) (adapter : AdapterId) (report : PaymentReport) (row : CommandLog) : Prop :=
  row.tenant = tenant ∧ row.idempotencyKey = some (reportKey adapter report)

def OwnReceipt (tenant : TenantId) (adapter : AdapterId) (report : PaymentReport) (row : PaymentReceipt) : Prop :=
  row.tenant = tenant ∧ row.adapterId = adapter.name ∧ row.externalEventId = clip 200 report.externalEventId

theorem reportPayment_books (cfg : Config) (s : Store) (tenant : TenantId) (adapter : AdapterId)
    (report : PaymentReport) (now : Time) : ∃ rows receipts,
    (reportPayment cfg s tenant adapter report now).1.log = s.log ++ rows ∧
    (reportPayment cfg s tenant adapter report now).1.receipts = s.receipts ++ receipts ∧
    (∀ row ∈ rows, OwnRow tenant adapter report row) ∧
    ∀ row ∈ receipts, OwnReceipt tenant adapter report row ∧ (reportKey adapter report).length ≤ 200 := by
  have own : ∀ outcome replay, ∀ row ∈ [(⟨reportCommand,tenant,some (reportKey adapter report),outcome,replay⟩ :
      CommandLog)], OwnRow tenant adapter report row := by
    intro outcome replay row only
    rw [List.mem_singleton.mp only]
    exact ⟨rfl,rfl⟩
  unfold reportPayment
  dsimp only
  split
  · exact ⟨_,[],rfl,(List.append_nil _).symm,own _ _,nofun⟩
  split
  · exact ⟨[],[],(List.append_nil _).symm,(List.append_nil _).symm,nofun,nofun⟩
  split
  · exact ⟨[],[],(List.append_nil _).symm,(List.append_nil _).symm,nofun,nofun⟩
  rename_i loggable
  have fits := Nat.not_lt.mp loggable
  have ownReceipt : ∀ outcome reason listing, ∀ row ∈ [receiptFor tenant adapter report outcome reason listing],
      OwnReceipt tenant adapter report row ∧ (reportKey adapter report).length ≤ 200 := by
    intro outcome reason listing row only
    rw [List.mem_singleton.mp only]
    exact ⟨⟨rfl,rfl,rfl⟩,fits⟩
  unfold concludeCommand
  split
  · rename_i s' accepted
    obtain ⟨_,_,_,publicId,_,attempt,trigger,params,data,s₁,m,_,_,applied,equal⟩ := applyReport_exact.mp accepted
    obtain ⟨log,receipts,_⟩ := applyTrigger_books applied
    refine ⟨_,_,?_,?_,own (some .applied) false,ownReceipt .applied "" (some publicId)⟩
    · rw [Store.logged,equal,concludeReport_books.1,log]
    · rw [Store.logged,equal,concludeReport_books.2,receipts]
  · exact ⟨_,[],rfl,(List.append_nil _).symm,own _ _,nofun⟩
  · exact ⟨_,[],rfl,(List.append_nil _).symm,own _ _,nofun⟩
  · rename_i reason attempt _
    rw [(finish_books _).1,(finish_books _).2]
    unfold Store.ignore
    dsimp only
    split
    · exact ⟨_,[],rfl,(List.append_nil _).symm,own _ _,nofun⟩
    · exact ⟨_,_,rfl,rfl,own _ _,ownReceipt _ _ _⟩

end bookkeeping

theorem cut_injective {xs xs' : List α} (clear : c ∉ xs) (clear' : c ∉ xs')
    (equal : xs ++ c :: ys = xs' ++ c :: ys') : xs = xs' ∧ ys = ys' := by
  induction xs generalizing xs' with
  | nil =>
      cases xs' with
      | nil => exact ⟨rfl,(List.cons.inj equal).2⟩
      | cons x rest =>
          have head := (List.cons.inj equal).1
          exact (clear' (head ▸ List.mem_cons_self)).elim
  | cons x rest ih =>
      cases xs' with
      | nil =>
          have head := (List.cons.inj equal).1
          exact (clear (head ▸ List.mem_cons_self)).elim
      | cons y rest' =>
          obtain ⟨head,tail⟩ := List.cons.inj equal
          have deeper := ih (fun present => clear (List.mem_cons_of_mem _ present))
            (fun present => clear' (List.mem_cons_of_mem _ present)) tail
          exact ⟨by rw [head,deeper.1],deeper.2⟩

theorem reportKey_injective (equal : reportKey adapter report = reportKey adapter' report') :
    adapter.name = adapter'.name ∧ report.externalEventId = report'.externalEventId := by
  have colon : ∀ a : AdapterId, ':' ∉ a.name.toList := fun a => not_mem_of_isSlug a.slug rfl
  have chars := congrArg String.toList equal
  unfold reportKey at chars
  simp only [String.toList_append,List.append_assoc] at chars
  obtain ⟨names,events⟩ := cut_injective (colon adapter) (colon adapter') chars
  exact ⟨String.toList_inj.mp names,String.toList_inj.mp events⟩

theorem Unseen.other (unseen : Unseen s tenant adapter report)
    (differ : adapter'.name ≠ adapter.name ∨ report'.externalEventId ≠ report.externalEventId) :
    Unseen (reportPayment cfg s tenant' adapter' report' now).1 tenant adapter report := by
  obtain ⟨rows,receipts,log,received,own,ownReceipts⟩ := reportPayment_books cfg s tenant' adapter' report' now
  refine ⟨?_,?_,unseen.loggable⟩
  · rw [appliedBefore,log,List.any_append,Bool.or_eq_false_iff]
    refine ⟨unseen.unapplied,List.any_eq_false.mpr ?_⟩
    intro row present
    simp only [decide_eq_true_eq]
    intro same
    have keys := (own row present).2.symm.trans same.2.2.1
    obtain ⟨names,events⟩ := reportKey_injective (Option.some.inj keys)
    rcases differ with name | event
    · exact name names
    · exact event events
  · rw [receiptExists,received,List.any_append,Bool.or_eq_false_iff]
    refine ⟨unseen.unreceipted,List.any_eq_false.mpr ?_⟩
    intro row present
    simp only [decide_eq_true_eq]
    intro same
    obtain ⟨⟨_,name,event⟩,loggable⟩ := ownReceipts row present
    have short : report'.externalEventId.length ≤ 200 := by
      unfold reportKey at loggable
      rw [String.length_append] at loggable
      omega
    rw [clip_of_le short] at event
    rcases differ with names | events
    · exact names (name.symm.trans same.2.1)
    · exact events (event.symm.trans same.2.2)

end Osds.Billing

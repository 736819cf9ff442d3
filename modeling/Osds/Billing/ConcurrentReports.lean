import Osds.Billing.Transactions

namespace Osds.Billing
open Directory Audit

-- No row was committed since the report saw none.
def Unraced (s : Store) (c : Call) (seen : Option EntitlementRow) : Prop :=
  seen = none → c.trigger ∈ creators → s.entitlements c.publicId = none

def Fitting (cfg : Config) (s : Store) (c : Call) (seen : Option EntitlementRow) : Prop :=
  ∀ l row r draft facts, s.listings c.publicId = some l → openRow seen false c.trigger c.params = .ok row →
    ruleFor row.status c.trigger = .ok r →
    mutate (cfg.tiers l.tenant) row.toEntitlement c.trigger r c.now c.params = .ok (draft,facts) →
    (draft.Representable ∧ draft.NonNegative) ∧ Deliverable draft l r c.now

def Short (d : Delivery) : Prop := (reportKey d.adapter d.report).length ≤ 200

theorem need_error (refused : need name value = .error f) : ∃ message, f = .entitlementError message := by
  cases value with
  | none => exact ⟨_,(Except.error.inj refused).symm⟩
  | some a => cases refused

theorem land_error (refused : land e now p status = .error f) : ∃ message, f = .entitlementError message := by
  cases status with
  | trialing =>
      rcases Fallible.bind_error.mp refused with missing | ⟨_,_,absurd⟩
      · exact need_error missing
      · cases absurd
  | canceled =>
      rcases Fallible.bind_error.mp refused with missing | ⟨_,_,absurd⟩
      · exact need_error missing
      · cases absurd
  | _ => cases refused

theorem mutate_error (refused : mutate tiers e trigger r now p = .error f) :
    ∃ message, f = .entitlementError message := by
  cases trigger with
  | start | startTrial =>
      rcases Fallible.bind_error.mp refused with missing | ⟨_,_,late⟩
      · exact need_error missing
      · rcases Fallible.bind_error.mp late with missing | ⟨_,_,absurd⟩
        · exact need_error missing
        · cases absurd
  | paymentSucceeded =>
      rcases Fallible.bind_error.mp refused with missing | ⟨_,_,absurd⟩
      · exact need_error missing
      · cases absurd
  | grant =>
      unfold mutate at refused
      dsimp only at refused
      split at refused
      · cases refused
      · exact ⟨_,(Except.error.inj refused).symm⟩
  | revoke =>
      unfold mutate at refused
      dsimp only at refused
      split at refused
      · cases refused
      · exact ⟨_,(Except.error.inj refused).symm⟩
  | override =>
      unfold mutate at refused
      dsimp only at refused
      split at refused
      · split at refused
        · rcases Fallible.bind_error.mp refused with moved | ⟨_,_,absurd⟩
          · unfold override at moved
            rcases Fallible.bind_error.mp moved with landed | ⟨_,_,absurd⟩
            · exact land_error landed
            · cases absurd
          · cases absurd
        · exact ⟨_,(Except.error.inj refused).symm⟩
      · exact ⟨_,(Except.error.inj refused).symm⟩
  | _ => cases refused

theorem ruleFor_error (refused : ruleFor status trigger = .error f) : f = .invalidTransition status trigger := by
  unfold ruleFor at refused
  split at refused
  · cases refused
  · exact (Except.error.inj refused).symm

theorem applySeen_refused {s : Store} (listed : s.listings c.publicId = some l) (anytime : c.trigger ∉ clockTriggers)
    (unraced : Unraced s c seen) (fitting : Fitting cfg s c seen) (refused : applySeen cfg s c seen = .error f) :
    (∃ status, f = .invalidTransition status c.trigger) ∨ ∃ message, f = .entitlementError message := by
  unfold applySeen at refused
  rw [listed] at refused
  have opens : openRow seen (s.entitlements c.publicId).isSome c.trigger c.params =
      openRow seen false c.trigger c.params := by
    cases seen with
    | some row => rfl
    | none =>
        unfold openRow
        by_cases creates : c.trigger ∈ creators
        · rw [if_pos creates,if_pos creates,unraced rfl creates]
          rfl
        · rw [if_neg creates,if_neg creates]
  dsimp only at refused
  rw [opens] at refused
  rcases Fallible.bind_error.mp refused with shut | ⟨row,opened,stopped⟩
  · cases seen with
    | some row => cases shut
    | none =>
        unfold openRow at shut
        dsimp only at shut
        split at shut
        · rcases Fallible.bind_error.mp shut with missing | ⟨_,_,absurd⟩
          · exact .inr (need_error missing)
          · cases absurd
        · exact .inl ⟨.none,(Except.error.inj shut).symm⟩
  · unfold advance at stopped
    rcases Fallible.bind_error.mp stopped with illegal | ⟨r,legal,stopped⟩
    · exact .inl ⟨row.status,ruleFor_error illegal⟩
    rcases Fallible.bind_error.mp stopped with early | ⟨_,_,stopped⟩
    · have timely : clockGuard row.toEntitlement c.trigger c.now = .ok () :=
        clockGuard_exact.mpr (fun clock => (anytime clock).elim)
      rw [timely] at early
      cases early
    rcases Fallible.bind_error.mp stopped with malformed | ⟨⟨draft,facts⟩,mutated,stopped⟩
    · exact .inr (mutate_error malformed)
    obtain ⟨⟨within,positive⟩,deliverable⟩ := fitting l row r draft facts listed opened legal mutated
    have stored : save draft = .ok ⟨draft,within,positive⟩ := save_exact.mpr rfl
    obtain ⟨mail,sent⟩ := afterTransition_exact.mpr deliverable
    dsimp only at stopped
    rw [stored] at stopped
    dsimp only [bind,Except.bind] at stopped
    rw [sent] at stopped
    cases stopped

section jobs

variable {ι : Type} (cfg : Config) (site : Site) (jobs : ι → Job)

def Sound (σ : Sys ι) : Move ι → Prop
  | .job i => ∀ d, jobs i = .report d → (σ.pcs i = .looked → Short d) ∧
      ∀ c attempt data seen, σ.pcs i = .seen c attempt data seen →
        Unraced σ.store c seen ∧ Fitting cfg σ.store c seen
  | .other _ => True

def Of (d : Delivery) (r : PaymentReceipt) : Prop :=
  r.tenant = d.tenant ∧ r.adapterId = d.adapter.name ∧ r.externalEventId = d.report.externalEventId

def Receipted (s : Store) (d : Delivery) : Prop := ∃ r ∈ s.receipts, Of d r

def Listed (s : Store) (publicId : ListingId) : Prop := ∃ l, s.listings publicId = some l

def Stands (s : Store) (d : Delivery) : Pc → Prop
  | .committed | .ended .applied => ∃ r ∈ s.receipts, Of d r ∧ r.outcome = .applied
  | .ended (.ignored _) | .ended .replayed => Receipted s d
  | .ended (.raised _) => False
  | .received | .reserved | .refused _ _ => Short d
  | .resolved publicId _ => Short d ∧ Listed s publicId
  | .mapped c _ _ | .seen c _ _ _ => Short d ∧ Listed s c.publicId ∧ c.trigger ∉ clockTriggers
  | _ => True

def Owned (pcs : ι → Pc) (r : PaymentReceipt) : Prop :=
  ∃ i d, jobs i = .report d ∧ Of d r ∧
    (r.outcome = .applied ∧ (pcs i = .committed ∨ pcs i = .ended .applied) ∨
      r.outcome = .ignored ∧ ∃ reason, pcs i = .ended (.ignored reason))

structure Booked (s : Store) (pcs : ι → Pc) : Prop where
  owned : ∀ r ∈ s.receipts, Owned jobs pcs r
  logged : ∀ d : Delivery, appliedBefore s d.tenant (reportKey d.adapter d.report) = true → Receipted s d
  stands : ∀ i d, jobs i = .report d → Stands s d (pcs i)

variable {jobs}

theorem receiptExists_exact : receiptExists s d.tenant d.adapter d.report = true ↔ Receipted s d := by
  unfold receiptExists Receipted Of
  simp only [List.any_eq_true,decide_eq_true_eq]

theorem Stands.mono (stands : Stands s d pc) (receipts : ∀ r ∈ s.receipts, r ∈ s'.receipts)
    (listings : ∀ publicId, Listed s publicId → Listed s' publicId) : Stands s' d pc := by
  have receipted : Receipted s d → Receipted s' d := by
    intro had
    obtain ⟨r,present,own⟩ := had
    exact ⟨r,receipts r present,own⟩
  have applied : (∃ r ∈ s.receipts, Of d r ∧ r.outcome = .applied) → ∃ r ∈ s'.receipts, Of d r ∧ r.outcome = .applied := by
    intro had
    obtain ⟨r,present,own⟩ := had
    exact ⟨r,receipts r present,own⟩
  cases pc with
  | committed => exact applied stands
  | ended answer =>
      cases answer with
      | applied => exact applied stands
      | ignored reason => exact receipted stands
      | replayed => exact receipted stands
      | raised f => exact stands
  | resolved publicId attempt => exact ⟨stands.1,listings publicId stands.2⟩
  | mapped c attempt data => exact ⟨stands.1,listings c.publicId stands.2.1,stands.2.2⟩
  | seen c attempt data seen => exact ⟨stands.1,listings c.publicId stands.2.1,stands.2.2⟩
  | _ => exact stands

-- A place from which no receipt was written yet.
def Pc.open : Pc → Bool
  | .committed | .ended _ => false
  | _ => true

theorem Owned.goto [DecidableEq ι] (owned : Owned jobs pcs r) (i : ι) (open_ : (pcs i).open) (pc : Pc) :
    Owned jobs (Function.update pcs i pc) r := by
  obtain ⟨j,d,job,own,place⟩ := owned
  have other : j ≠ i := by
    intro equal
    subst equal
    rcases place with applied | ignored
    · rcases applied.2 with at_ | at_ <;> rw [at_] at open_ <;> cases open_
    · obtain ⟨_,_,at_⟩ := ignored
      rw [at_] at open_
      cases open_
  refine ⟨j,d,job,own,?_⟩
  rw [Function.update_of_ne other]
  exact place

theorem stands_update [DecidableEq ι] {s : Store} {pcs : ι → Pc} (booked : Booked jobs s pcs) (i : ι) (pc : Pc)
    (receipts : ∀ r ∈ s.receipts, r ∈ s'.receipts) (listings : ∀ publicId, Listed s publicId → Listed s' publicId)
    (here : ∀ d, jobs i = .report d → Stands s' d pc) :
    ∀ j d, jobs j = .report d → Stands s' d (Function.update pcs i pc j) := by
  intro j d job
  by_cases equal : j = i
  · subst equal
    rw [Function.update_self]
    exact here d job
  · rw [Function.update_of_ne equal]
    exact (booked.stands j d job).mono receipts listings

theorem Booked.quiet [DecidableEq ι] (booked : Booked jobs s pcs) (receipts : s'.receipts = s.receipts) (log : s'.log = s.log)
    (listings : ∀ publicId, Listed s publicId → Listed s' publicId) (i : ι) (open_ : (pcs i).open) (pc : Pc)
    (here : ∀ d, jobs i = .report d → Stands s' d pc) : Booked jobs s' (Function.update pcs i pc) where
  owned := by
    rw [receipts]
    exact fun r present => (booked.owned r present).goto i open_ pc
  logged := by
    intro d applied
    unfold appliedBefore at applied
    unfold Receipted
    rw [receipts]
    rw [log] at applied
    exact booked.logged d applied
  stands := stands_update booked i pc (by rw [receipts]; exact fun _ present => present) listings here

theorem Booked.logs (booked : Booked jobs s pcs) (d : Delivery) (outcome : Option LogOutcome) (replay : Bool)
    (receipt : outcome = some .applied → Receipted s d) :
    Booked jobs (s.logged d.tenant (reportKey d.adapter d.report) outcome replay) pcs where
  owned := booked.owned
  logged := by
    intro other applied
    rw [appliedBefore_logged,Bool.or_eq_true,decide_eq_true_eq] at applied
    rcases applied with before | own
    · exact booked.logged other before
    · obtain ⟨tenant,keys,applied⟩ := own
      obtain ⟨r,present,of⟩ := receipt applied
      obtain ⟨names,events⟩ := reportKey_injective keys
      exact ⟨r,present,of.1.trans tenant,of.2.1.trans names,of.2.2.trans events⟩
  stands := booked.stands

theorem Booked.framed (booked : Booked jobs s pcs) (receipts : s'.receipts = s.receipts) (log : s'.log = s.log)
    (listings : ∀ publicId, Listed s publicId → Listed s' publicId) : Booked jobs s' pcs where
  owned := by rw [receipts]; exact booked.owned
  logged := by
    intro d applied
    unfold appliedBefore at applied
    unfold Receipted
    rw [receipts]
    rw [log] at applied
    exact booked.logged d applied
  stands := fun i d job => (booked.stands i d job).mono (by rw [receipts]; exact fun _ present => present) listings

theorem start_booked : Booked jobs (Sys.start Store.empty : Sys ι).store (Sys.start Store.empty : Sys ι).pcs where
  owned := List.forall_mem_nil _
  logged := fun d applied => by cases applied
  stands := fun _ _ _ => trivial

variable [DecidableEq ι]

theorem Booked.receives (booked : Booked jobs s pcs) (r : PaymentReceipt) (receipts : s'.receipts = s.receipts ++ [r])
    (log : s'.log = s.log) (listings : ∀ publicId, Listed s publicId → Listed s' publicId) (i : ι)
    (open_ : (pcs i).open) (pc : Pc) (owner : Owned jobs (Function.update pcs i pc) r)
    (here : ∀ d, jobs i = .report d → Stands s' d pc) : Booked jobs s' (Function.update pcs i pc) where
  owned := by
    rw [receipts]
    intro r' present
    rcases List.mem_append.mp present with prior | new
    · exact (booked.owned r' prior).goto i open_ pc
    · rw [List.mem_singleton.mp new]
      exact owner
  logged := by
    intro d applied
    unfold appliedBefore at applied
    rw [log] at applied
    obtain ⟨r',present,own⟩ := booked.logged d applied
    exact ⟨r',by rw [receipts]; exact List.mem_append_left _ present,own⟩
  stands := stands_update booked i pc (by rw [receipts]; exact fun _ present => List.mem_append_left _ present) listings here

theorem Booked.concludes (booked : Booked jobs s pcs) (i : ι) (committed : pcs i = .committed) :
    Booked jobs s (Function.update pcs i (.ended .applied)) where
  owned := by
    intro r present
    obtain ⟨j,d,job,own,place⟩ := booked.owned r present
    refine ⟨j,d,job,own,?_⟩
    by_cases equal : j = i
    · subst equal
      rw [committed] at place
      rw [Function.update_self]
      rcases place with applied | ignored
      · exact .inl ⟨applied.1,.inr rfl⟩
      · obtain ⟨_,_,absurd⟩ := ignored
        cases absurd
    · rw [Function.update_of_ne equal]
      exact place
  logged := booked.logged
  stands := by
    refine stands_update booked i (.ended .applied) (fun _ present => present) (fun _ listed => listed) ?_
    intro d job
    have stands := booked.stands i d job
    rw [committed] at stands
    exact stands

theorem listed_commit (s : Store) (publicId : ListingId) (m : Moved) : ∀ other, Listed s other →
    Listed (s.commit publicId m) other := by
  intro other listed
  unfold Listed Store.commit
  by_cases equal : other = publicId
  · subst equal
    exact ⟨m.listing,Function.update_self ..⟩
  · dsimp only
    rw [Function.update_of_ne equal]
    exact listed

theorem receiptFor_of (d : Delivery) (short : Short d) (outcome : ReceiptOutcome) (reason : String)
    (listing : Option ListingId) : Of d (receiptFor d.tenant d.adapter d.report outcome reason listing) :=
  ⟨rfl,rfl,clip_of_le (reportKey_short (Nat.not_lt.mpr short))⟩

theorem finish_listings (s : Store) (attempt : Option AttemptId) (now : Time) :
    (s.finish attempt now).listings = s.listings := (finish_unmoved s).listings

theorem ignore_cases (s : Store) (tenant : TenantId) (adapter : AdapterId) (report : PaymentReport) (reason : Refusal) :
    (s.ignore tenant adapter report reason).log = s.log ∧
      ((s.ignore tenant adapter report reason).receipts = s.receipts ∨
        (s.ignore tenant adapter report reason).receipts =
          s.receipts ++ [receiptFor tenant adapter report .ignored reason.value none]) := by
  unfold Store.ignore
  dsimp only
  split
  · exact ⟨rfl,.inl rfl⟩
  · exact ⟨rfl,.inr rfl⟩

theorem Booked.ignores {attempt : Option AttemptId} (booked : Booked jobs s pcs) (job : jobs i = .report d) (at_ : pcs i = .refused reason attempt) :
    Booked jobs (((s.logged d.tenant (reportKey d.adapter d.report) (some .rejected) false).ignore d.tenant d.adapter
      d.report reason).finish attempt d.now) (Function.update pcs i (.ended (.ignored reason))) := by
  have short : Short d := by
    have stands := booked.stands i d job
    rw [at_] at stands
    exact stands
  have open_ : (pcs i).open := by rw [at_]; rfl
  have logged := booked.logs d (some .rejected) false nofun
  generalize s.logged d.tenant (reportKey d.adapter d.report) (some .rejected) false = noted at logged ⊢
  have log : ((noted.ignore d.tenant d.adapter d.report reason).finish attempt d.now).log = noted.log :=
    (finish_books _).1.trans (ignore_cases noted _ _ _ reason).1
  have listings : ∀ publicId, Listed noted publicId →
      Listed ((noted.ignore d.tenant d.adapter d.report reason).finish attempt d.now) publicId := by
    intro publicId listed
    unfold Listed
    rw [finish_listings,(ignore_unmoved noted).listings]
    exact listed
  have here : ∀ d', jobs i = .report d' →
      Stands ((noted.ignore d.tenant d.adapter d.report reason).finish attempt d.now) d' (.ended (.ignored reason)) := by
    intro d' job'
    cases job.symm.trans job'
    obtain ⟨r,present,own⟩ := receiptExists_exact.mp (ignore_remembered noted (reportKey_short (Nat.not_lt.mpr short)))
    exact ⟨r,by rw [(finish_books _).2]; exact present,own⟩
  rcases (ignore_cases noted d.tenant d.adapter d.report reason).2 with kept | added
  · exact logged.quiet ((finish_books _).2.trans kept) log listings i open_ _ here
  · refine logged.receives _ ((finish_books _).2.trans added) log listings i open_ _ ?_ here
    refine ⟨i,d,job,receiptFor_of d short _ _ _,.inr ⟨rfl,reason,?_⟩⟩
    rw [Function.update_self]

theorem Booked.commits (booked : Booked jobs s pcs) (job : jobs i = .report d) (short : Short d)
    (open_ : (pcs i).open) (m : Moved) (publicId : ListingId) (attempt : Option (AttemptId × CheckoutAttempt))
    (trigger : Trigger) (data : Payload) :
    Booked jobs (concludeReport (s.commit publicId m) d.tenant d.adapter d.report d.now publicId attempt trigger data)
      (Function.update pcs i .committed) := by
  have own := receiptFor_of d short .applied "" (some publicId)
  have receipts : (concludeReport (s.commit publicId m) d.tenant d.adapter d.report d.now publicId attempt trigger
      data).log = s.log ∧ (concludeReport (s.commit publicId m) d.tenant d.adapter d.report d.now publicId attempt
      trigger data).receipts = s.receipts ++ [_] := concludeReport_books
  refine booked.receives _ receipts.2 receipts.1 ?_ i open_ _ ?_ ?_
  · intro other listed
    unfold Listed
    rw [concludeReport_listings]
    exact listed_commit s publicId m other listed
  · refine ⟨i,d,job,own,.inl ⟨rfl,.inl ?_⟩⟩
    rw [Function.update_self]
  · intro d' job'
    cases job.symm.trans job'
    refine ⟨_,?_,own,rfl⟩
    rw [receipts.2]
    exact List.mem_append_right _ (List.mem_singleton_self _)

theorem reportTrigger_anytime {attempt : Option CheckoutAttempt} (mapped : reportTrigger tiers publicId ent attempt report = .ok (trigger,params,data)) :
    trigger ∉ clockTriggers := by
  cases kind : report.kind with
  | checkoutCompleted =>
      simp only [reportTrigger,kind] at mapped
      split at mapped
      · cases mapped
      · split at mapped
        · cases mapped
        · split at mapped <;> cases mapped <;> decide
  | paymentSucceeded =>
      rcases reportTrigger_payment kind mapped with started | paid
      · rw [started.1]
        decide
      · obtain ⟨_,_,pays,_⟩ := paid
        rw [pays]
        decide
  | subscriptionChanged =>
      obtain ⟨_,_,_,_,_,pays,_⟩ := (reportTrigger_change kind).mp mapped
      rw [pays]
      decide
  | paymentFailed | refunded | subscriptionCanceled =>
      have unpaid : report.kind ∈ unpaidKinds := by rw [kind]; decide
      have lapse := (reportTrigger_lapse unpaid (fun other => by rw [kind] at other; cases other) mapped).1
      revert lapse
      cases trigger <;> decide
  | unknown name unlisted =>
      simp only [reportTrigger,kind] at mapped
      cases mapped

variable {σ : Sys ι}

theorem concludeReported_booked {attempt : Option (AttemptId × CheckoutAttempt)} (cfg : Config) (job : jobs i = .report d) (booked : Booked jobs σ.store σ.pcs)
    (at_ : σ.pcs i = .seen c attempt data row) (unraced : Unraced σ.store c row) (fitting : Fitting cfg σ.store c row) :
    Booked jobs (concludeReported cfg σ i d c attempt data row).store (concludeReported cfg σ i d c attempt data row).pcs := by
  have stands := booked.stands i d job
  rw [at_] at stands
  obtain ⟨short,⟨l,listed⟩,anytime⟩ := stands
  have open_ : (σ.pcs i).open := by rw [at_]; rfl
  have released : (σ.release c.publicId row).store = σ.store ∧ (σ.release c.publicId row).pcs = σ.pcs := by
    unfold Sys.release
    split <;> exact ⟨rfl,rfl⟩
  unfold concludeReported
  dsimp only
  cases applied : applySeen cfg σ.store c row with
  | ok m =>
      dsimp only [Sys.goto,Sys.write,Sys.unreserve]
      rw [released.2]
      exact booked.commits job short open_ m c.publicId attempt c.trigger data
  | error f =>
      have refuse : ∃ reason finished, finishedOnRefusal (attempt.map (·.1)) d.report.kind f =
          some (.refused reason finished) := by
        rcases applySeen_refused listed anytime unraced fitting applied with illegal | malformed
        · obtain ⟨status,rfl⟩ := illegal
          exact ⟨_,_,rfl⟩
        · obtain ⟨message,rfl⟩ := malformed
          exact ⟨_,_,rfl⟩
      obtain ⟨reason,finished,refuse⟩ := refuse
      dsimp only
      rw [refuse]
      dsimp only [Sys.goto,Sys.unreserve]
      rw [released.1,released.2]
      exact booked.quiet rfl rfl (fun _ listed => listed) i open_ _
        (fun d' job' => by cases job.symm.trans job'; exact short)

theorem reportMove_booked (cfg : Config) (job : jobs i = .report d) (booked : Booked jobs σ.store σ.pcs)
    (sound : (σ.pcs i = .looked → Short d) ∧ ∀ c attempt data seen, σ.pcs i = .seen c attempt data seen →
      Unraced σ.store c seen ∧ Fitting cfg σ.store c seen) :
    Booked jobs (reportMove cfg σ i d).store (reportMove cfg σ i d).pcs := by
  have stands := booked.stands i d job
  have quiet : ∀ pc, (σ.pcs i).open → Stands σ.store d pc → Booked jobs σ.store (Function.update σ.pcs i pc) := by
    intro pc open_ here
    refine booked.quiet rfl rfl (fun _ listed => listed) i open_ pc ?_
    intro d' job'
    cases job.symm.trans job'
    exact here
  have open_ : ∀ pc, σ.pcs i = pc → pc.open → (σ.pcs i).open := by
    intro pc at_ shut
    rw [at_]
    exact shut
  unfold reportMove
  dsimp only
  cases at_ : σ.pcs i with
  | waiting =>
      dsimp only
      split
      · rename_i applied
        have receipted := booked.logged d applied
        exact (quiet (.ended .replayed) (open_ _ at_ rfl) receipted).logs d (some .applied) true (fun _ => receipted)
      · exact quiet .looked (open_ _ at_ rfl) trivial
  | looked =>
      dsimp only
      have short := sound.1 at_
      split
      · rename_i received
        exact quiet (.ended .replayed) (open_ _ at_ rfl) (receiptExists_exact.mp received)
      · split
        · rename_i long
          exact absurd short (Nat.not_le.mpr long)
        · exact quiet .received (open_ _ at_ rfl) short
  | received =>
      rw [at_] at stands
      dsimp only
      split
      · exact quiet (.refused .unknownKind none) (open_ _ at_ rfl) stands
      split
      · exact quiet (.refused .badReport none) (open_ _ at_ rfl) stands
      split
      · exact booked
      split
      · rename_i taken
        have receipted : Receipted σ.store d := by
          obtain ⟨r,present,same⟩ := List.any_eq_true.mp taken
          simp only [PaymentReceipt.sameEvent,receiptFor,clip_of_le (reportKey_short (Nat.not_lt.mpr stands)),
            decide_eq_true_eq] at same
          exact ⟨r,present,same.1.symm,same.2.1.symm,same.2.2.symm⟩
        exact (quiet (.ended .replayed) (open_ _ at_ rfl) receipted).logs d (some .applied) true (fun _ => receipted)
      · exact quiet .reserved (open_ _ at_ rfl) stands
  | reserved =>
      rw [at_] at stands
      dsimp only
      split
      · exact quiet _ (open_ _ at_ rfl) stands
      · rename_i publicId l attempt resolved
        exact quiet (.resolved publicId attempt) (open_ _ at_ rfl) ⟨stands,l,resolve_listed resolved⟩
  | resolved publicId attempt =>
      rw [at_] at stands
      dsimp only
      split
      · exact quiet _ (open_ _ at_ rfl) stands.1
      · rename_i trigger params data mapped
        exact quiet (.mapped _ attempt data) (open_ _ at_ rfl) ⟨stands.1,stands.2,reportTrigger_anytime mapped⟩
  | mapped c attempt data =>
      rw [at_] at stands
      dsimp only
      unfold Sys.lock
      split
      · exact booked
      · rename_i locked row free
        split at free
        · cases free
        · split at free
          · cases free
            exact quiet (.seen c attempt data none) (open_ _ at_ rfl) stands
          · cases free
            exact quiet (.seen c attempt data _) (open_ _ at_ rfl) stands
  | seen c attempt data row =>
      obtain ⟨unraced,fitting⟩ := sound.2 c attempt data row at_
      exact concludeReported_booked cfg job booked at_ unraced fitting
  | committed =>
      rw [at_] at stands
      have receipted : Receipted σ.store d := by
        obtain ⟨r,present,own,_⟩ := stands
        exact ⟨r,present,own⟩
      exact (booked.concludes i at_).logs d (some .applied) false (fun _ => receipted)
  | refused reason attempt =>
      dsimp only
      split
      · exact booked
      · exact booked.ignores job at_
  | ended answer => exact booked
  | calling row => exact booked
  | called result => exact booked

theorem callMove_booked (cfg : Config) (job : jobs i = .call c) (booked : Booked jobs σ.store σ.pcs) :
    Booked jobs (callMove cfg σ i c).store (callMove cfg σ i c).pcs := by
  have here : ∀ (s : Store) (pc : Pc) d, jobs i = .report d → Stands s d pc := by
    intro s pc d report
    rw [job] at report
    cases report
  have same : ∀ publicId, Listed σ.store publicId → Listed σ.store publicId := fun _ listed => listed
  unfold callMove
  cases at_ : σ.pcs i with
  | waiting =>
      have open_ : (σ.pcs i).open := by rw [at_]; rfl
      dsimp only
      unfold Sys.lock
      split
      · exact booked
      · rename_i locked row free
        split at free
        · cases free
        · split at free
          · cases free
            exact booked.quiet rfl rfl same i open_ (.calling none) (here _ _)
          · cases free
            exact booked.quiet rfl rfl same i open_ (.calling _) (here _ _)
  | calling row =>
      have open_ : (σ.pcs i).open := by rw [at_]; rfl
      have released : (σ.release c.publicId row).store = σ.store ∧ (σ.release c.publicId row).pcs = σ.pcs := by
        unfold Sys.release
        split <;> exact ⟨rfl,rfl⟩
      dsimp only
      split
      · rename_i m applied
        have committed : Booked jobs (σ.store.commit c.publicId m) (Function.update σ.pcs i (.called (.ok ()))) := by
          refine booked.quiet ?_ ?_ (listed_commit σ.store c.publicId m) i open_ _ (here _ _) <;> rfl
        dsimp only [Sys.goto,Sys.write]
        rw [released.2]
        exact committed
      · dsimp only [Sys.goto]
        rw [released.1,released.2]
        exact booked.quiet rfl rfl same i open_ _ (here _ _)
  | _ => exact booked

theorem elsewhere_books (cfg : Config) (site : Site) (s : Store) (other : action.elsewhere) :
    (step cfg site s action).receipts = s.receipts ∧ (step cfg site s action).log = s.log := by
  cases action with
  | list publicId l => unfold step; dsimp only; split <;> exact ⟨rfl,rfl⟩
  | edit publicId l => unfold step; dsimp only; split <;> exact ⟨rfl,rfl⟩
  | prepare tenant publicId user tierKey attempt now =>
      unfold step
      dsimp only
      split
      · exact ⟨rfl,rfl⟩
      · split
        · rename_i s' rest prepared
          obtain ⟨_,_,_,_,_,_,rfl,_⟩ := prepare_exact.mp prepared
          exact ⟨rfl,rfl⟩
        · exact ⟨rfl,rfl⟩
  | recordStarted attempt externalRef actor => unfold step recordStarted; dsimp only; split <;> exact ⟨rfl,rfl⟩
  | failAttempt attempt => unfold step failAttempt; dsimp only; split <;> exact ⟨rfl,rfl⟩
  | _ => cases other

theorem effect_listed (effect : Effect cfg s s') (listed : Listed s publicId) : Listed s' publicId := by
  have updated : ∀ other l, s'.listings = Function.update s.listings other (some l) → Listed s' publicId := by
    intro other l listings
    unfold Listed
    rw [listings]
    by_cases equal : publicId = other
    · exact ⟨l,by rw [equal,Function.update_self]⟩
    · rw [Function.update_of_ne equal]
      exact listed
  cases effect with
  | applied _ _ _ _ _ _ _ _ m _ _ _ _ listings _ _ _ => exact updated _ _ listings
  | noticed _ _ _ _ _ listings _ _ _ => unfold Listed; rw [listings]; exact listed
  | listed _ _ _ _ listings _ _ => exact updated _ _ listings
  | edited _ _ _ _ _ _ listings _ _ => exact updated _ _ listings
  | quiet _ listings _ _ _ => unfold Listed; rw [listings]; exact listed

theorem move_booked (cfg : Config) (site : Site) (next : Move ι) (booked : Booked jobs σ.store σ.pcs)
    (sound : Sound cfg jobs σ next) :
    Booked jobs (move cfg site jobs σ next).store (move cfg site jobs σ next).pcs := by
  cases next with
  | job i =>
      unfold move
      dsimp only
      cases job : jobs i with
      | report d => exact reportMove_booked cfg job booked (sound d job)
      | call c => exact callMove_booked cfg job booked
  | other action =>
      unfold move
      dsimp only
      split
      · rename_i other
        obtain ⟨receipts,log⟩ := elsewhere_books cfg site σ.store other
        exact booked.framed receipts log (fun _ => effect_listed cfg (step_effect cfg site σ.store action))
      · exact booked

def Distinct (jobs : ι → Job) : Prop :=
  ∀ i j d d', jobs i = .report d → jobs j = .report d' → d.event = d'.event → i = j

theorem of_event (own : Of d r) (other : Of d' r) : d.event = d'.event := by
  unfold Delivery.event
  rw [← own.1,← own.2.1,← own.2.2,other.1,other.2.1,other.2.2]

-- A report answered replayed finds a receipt another report of its event
-- committed; reports of distinct events each end with a receipt of their own.
theorem reports_receipted (cfg : Config) (site : Site) (jobs : ι → Job) (moves : List (Move ι))
    (sound : Runs.Along (move cfg site jobs) (Sound cfg jobs) (Sys.start Store.empty) moves) :
    let σ := Runs.run (move cfg site jobs) (Sys.start Store.empty) moves
    (∀ i d, jobs i = .report d → σ.pcs i = .ended .replayed →
      ∃ j ≠ i, ∃ d', jobs j = .report d' ∧ d'.event = d.event ∧ Receipted σ.store d) ∧
    (Distinct jobs → ∀ i d answer, jobs i = .report d → σ.pcs i = .ended answer →
      (answer = .applied ∧ ∃ r ∈ σ.store.receipts, Of d r ∧ r.outcome = .applied) ∨
        ∃ reason, answer = .ignored reason ∧ ∃ r ∈ σ.store.receipts, Of d r ∧ r.outcome = .ignored) := by
  intro σ
  have preserved : ∀ (σ : Sys ι) next, Booked jobs σ.store σ.pcs → Sound cfg jobs σ next →
      Booked jobs (move cfg site jobs σ next).store (move cfg site jobs σ next).pcs :=
    fun _ next booked sound => move_booked cfg site next booked sound
  have booked : Booked jobs σ.store σ.pcs := Runs.along_invariant (move cfg site jobs) preserved start_booked sound
  have replayed : ∀ i d, jobs i = .report d → σ.pcs i = .ended .replayed →
      ∃ j ≠ i, ∃ d', jobs j = .report d' ∧ d'.event = d.event ∧ Receipted σ.store d := by
    intro i d job at_
    have receipted := booked.stands i d job
    rw [at_] at receipted
    obtain ⟨r,present,own⟩ := receipted
    obtain ⟨j,d',job',own',place⟩ := booked.owned r present
    refine ⟨j,?_,d',job',of_event own' own,r,present,own⟩
    intro equal
    subst equal
    rw [at_] at place
    simp at place
  refine ⟨replayed,?_⟩
  intro distinct i d answer job at_
  have stands := booked.stands i d job
  rw [at_] at stands
  cases answer with
  | applied => exact .inl ⟨rfl,stands⟩
  | ignored reason =>
      obtain ⟨r,present,own⟩ := stands
      obtain ⟨j,d',job',own',place⟩ := booked.owned r present
      have same := distinct j i d' d job' job (of_event own' own)
      subst same
      rw [at_] at place
      rcases place with applied | ignored
      · rcases applied.2 with absurd | absurd <;> cases absurd
      · exact .inr ⟨reason,rfl,r,present,own,ignored.1⟩
  | replayed =>
      obtain ⟨j,other,d',job',same,_⟩ := replayed i d job at_
      exact (other (distinct j i d' d job' job same)).elim
  | raised f => exact stands.elim

end jobs

section schedules

def firstPurchase (invoice : Bool) : Job := .report (delivery (if invoice then invoiceReport else completionReport) 5)

def opening : List (Move Bool) := [.other (.list "lst" exampleListing),.other (exampleCheckout "basic")]

def purchaseRun (moves : List (Move Bool)) : Sys Bool :=
  Runs.run (move exampleConfig exampleSite firstPurchase) (Sys.start Store.empty) (opening ++ moves)

theorem firstPurchase_distinct : Distinct firstPurchase := by
  intro i j d d' first second same
  cases first
  cases second
  revert same
  cases i <;> cases j <;> decide

def Pc.easy : Pc → Bool
  | .looked | .seen .. => false
  | _ => true

theorem sound_easy {σ : Sys ι} (easy : (σ.pcs i).easy = true) : Sound cfg jobs σ (.job i) := by
  intro d job
  refine ⟨?_,?_⟩
  · intro at_
    rw [at_] at easy
    cases easy
  · intro c attempt data seen at_
    rw [at_] at easy
    cases easy

theorem reports_receipted_alone :
    let σ := purchaseRun (List.replicate 8 (.job false))
    ∃ r ∈ σ.store.receipts, Of (delivery completionReport 5) r ∧ r.outcome = .applied := by
  intro σ
  have sound : Runs.Along (move exampleConfig exampleSite firstPurchase) (Sound exampleConfig firstPurchase)
      (Sys.start Store.empty) (opening ++ List.replicate 8 (.job false)) := by
    refine ⟨trivial,trivial,sound_easy rfl,?_,sound_easy rfl,sound_easy rfl,sound_easy rfl,sound_easy rfl,?_,
      sound_easy rfl,trivial⟩
    · intro d job
      cases job
      have short : Short (delivery completionReport 5) := by unfold Short; decide
      refine ⟨fun _ => short,?_⟩
      intro c attempt data seen at_
      cases at_
    · intro d job
      cases job
      refine ⟨?_,?_⟩
      · intro at_
        cases at_
      intro c attempt data seen at_
      cases at_
      refine ⟨fun _ _ => rfl,?_⟩
      intro l row r draft facts listed opened legal mutated
      cases listed
      cases opened
      cases legal
      cases mutated
      exact ⟨⟨by decide,by decide⟩,.inr (List.forall_mem_nil _)⟩
  have ended := (reports_receipted exampleConfig exampleSite firstPurchase _ sound).2 firstPurchase_distinct false
    (delivery completionReport 5) .applied rfl rfl
  rcases ended with applied | ignored
  · exact applied.2
  · obtain ⟨_,absurd,_⟩ := ignored
    cases absurd

-- Both reports of a first purchase see no row; the second to write is taken for
-- a redelivery.
theorem create_race_drops_report :
    let σ := purchaseRun (List.replicate 6 (.job false) ++ List.replicate 6 (.job true) ++
      [.job false,.job false,.job true])
    Distinct firstPurchase ∧ σ.pcs false = .ended .applied ∧ σ.pcs true = .ended .replayed ∧
      ¬Receipted σ.store (delivery invoiceReport 5) ∧
      .billingPaymentSucceeded ∉ σ.store.outbox.map (·.type) := by
  intro σ
  refine ⟨firstPurchase_distinct,rfl,rfl,?_,by decide⟩
  intro receipted
  have absent : receiptExists σ.store (delivery invoiceReport 5).tenant (delivery invoiceReport 5).adapter
      (delivery invoiceReport 5).report = false := rfl
  rw [receiptExists_exact.mpr receipted] at absent
  cases absent

end schedules

end Osds.Billing

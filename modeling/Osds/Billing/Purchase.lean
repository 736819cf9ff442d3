import Osds.Billing.System

namespace Osds.Billing
open Directory Audit

-- A checkout attempt of a listing, both rows of one tenant.
structure Offer (s : Store) (tenant : TenantId) (publicId : ListingId) (l : Listing) (attempt : AttemptId)
    (a : CheckoutAttempt) : Prop where
  listed : s.listings publicId = some l
  tenancy : l.tenant = tenant
  named : attempt ≠ ""
  stored : s.attempts attempt = some a
  attemptTenancy : a.tenant = tenant
  about : a.listing = publicId

structure Names (publicId : ListingId) (attempt : AttemptId) (report : PaymentReport) : Prop where
  attempt : report.checkoutAttemptId = attempt
  listing : report.listingId = "" ∨ report.listingId = publicId
  event : report.externalEventId ≠ ""

theorem resolve_offer {attempt : AttemptId} (offer : Offer s tenant publicId l attempt a) (names : Names publicId attempt report) :
    resolve s tenant report = .ok (publicId,l,some (attempt,a)) := by
  have attempted : reportAttempt s tenant report.checkoutAttemptId = .ok (some (attempt,a)) := by
    rw [names.attempt,reportAttempt,if_neg offer.named,offer.stored]
    exact if_pos offer.attemptTenancy
  unfold resolve
  rw [attempted]
  rcases names.listing with blank | same
  · have unnamed : reportListing s tenant report.listingId = .ok none := if_pos blank
    rw [unnamed]
    simp only [bind,Except.bind,listingOf,offer.about,offer.listed]
  · by_cases blank : report.listingId = ""
    · have unnamed : reportListing s tenant report.listingId = .ok none := if_pos blank
      rw [unnamed]
      simp only [bind,Except.bind,listingOf,offer.about,offer.listed]
    · have found : reportListing s tenant report.listingId = .ok (some publicId) := by
        rw [reportListing,if_neg blank,same,offer.listed]
        exact if_pos offer.tenancy
      rw [found]
      simp only [bind,Except.bind,listingOf,offer.about,if_true,offer.listed]

theorem statusOf_map (seen : Option EntitlementRow) :
    ((seen.map (·.toEntitlement)).map (·.status)).getD .none = statusOf seen := by
  cases seen <;> rfl

section mapping

variable (tiers : Tiers) (publicId : ListingId) (ent : Option Entitlement) (attempt : Option CheckoutAttempt)
  {report : PaymentReport}

theorem reportTrigger_checkout (kind : report.kind = .checkoutCompleted) (started : a.status = .started)
    (trial : report.trialEndsAt = none) (ends : report.periodEnd = some periodEnd) :
    ∃ data, reportTrigger tiers publicId ent (some a) report =
      .ok (.start,{tier := some a.tier,periodEnd := some periodEnd,paymentRef := report.paymentRef},data) := by
  simp only [reportTrigger,kind,started,trial,ends]
  exact ⟨_,rfl⟩

theorem reportTrigger_trial (kind : report.kind = .checkoutCompleted) (started : a.status = .started)
    (trial : report.trialEndsAt = some trialEndsAt) :
    ∃ data, reportTrigger tiers publicId ent (some a) report =
      .ok (.startTrial,{tier := some a.tier,trialEndsAt := some trialEndsAt,paymentRef := report.paymentRef},data) := by
  simp only [reportTrigger,kind,started,trial]
  exact ⟨_,rfl⟩

theorem reportTrigger_finished (kind : report.kind = .checkoutCompleted) (finished : a.status ≠ .started) :
    reportTrigger tiers publicId ent (some a) report = .error .checkoutAlreadyCompleted := by
  simp only [reportTrigger,kind,if_pos finished]
  rfl

theorem reportTrigger_invoice (kind : report.kind = .paymentSucceeded) (started : a.status = .started)
    (ends : report.periodEnd = some periodEnd)
    (first : (ent.map (·.status)).getD .none = .none ∨ (ent.map (·.status)).getD .none = .expired) :
    ∃ data, reportTrigger tiers publicId ent (some a) report =
      .ok (.start,{tier := some a.tier,periodEnd := some periodEnd,paymentRef := report.paymentRef},data) := by
  simp only [reportTrigger,kind,ends,if_pos first,started]
  exact ⟨_,rfl⟩

theorem reportTrigger_renewal (kind : report.kind = .paymentSucceeded) (ends : report.periodEnd = some periodEnd)
    (plain : report.tierKey = "")
    (later : ¬((ent.map (·.status)).getD .none = .none ∨ (ent.map (·.status)).getD .none = .expired)) :
    ∃ data, reportTrigger tiers publicId ent attempt report =
      .ok (.paymentSucceeded,{tier := none,periodEnd := some periodEnd,paymentRef := report.paymentRef},data) := by
  simp only [reportTrigger,kind,ends,if_neg later,reportTier,if_pos plain]
  exact ⟨_,rfl⟩

end mapping

def Holds (s : Store) (publicId : ListingId) (attempt : AttemptId) (status : Status) (tier : TierId) : Prop :=
  (∃ row, s.entitlements publicId = some row ∧ row.status = status ∧ row.tier = tier) ∧
  (∃ l, s.listings publicId = some l ∧ l.currentTier = some tier) ∧
  ∃ a, s.attempts attempt = some a ∧ a.status = .completed

def Bought (s : Store) (publicId : ListingId) (attempt : AttemptId) (tier : TierId) : Prop :=
  Holds s publicId attempt .active tier

section reports

variable (cfg : Config) (now : Time) {s : Store} {tenant : TenantId} {publicId : ListingId} {l : Listing}
  {attempt : AttemptId} {a : CheckoutAttempt} {adapter : AdapterId} {report : PaymentReport}

theorem starts_hold (offer : Offer s tenant publicId l attempt a) (names : Names publicId attempt report)
    (unseen : Unseen s tenant adapter report) (known : report.kind.value ∈ reportKinds)
    (mapped : reportTrigger (cfg.tiers tenant) publicId ((s.entitlements publicId).map (·.toEntitlement))
      (some a) report = .ok (trigger,params,data))
    (start : trigger ∈ starts)
    (applied : applyTrigger cfg s publicId trigger now (reportActor adapter) adapter.name params =
      .ok (s.commit publicId m,m))
    (landed : Landed (cfg.tiers l.tenant) l draft m) (perks : draft.status.perks) (tier : draft.tier = a.tier) :
    let s' := (reportPayment cfg s tenant adapter report now).1
    (reportPayment cfg s tenant adapter report now).2 = .applied ∧
      Holds s' publicId attempt draft.status a.tier ∧
      ∃ l', Offer s' tenant publicId l' attempt (completed a report now) := by
  intro s'
  obtain ⟨answer,entitlements,listings,attempts⟩ :=
    reportPayment_commits unseen names.event known (resolve_offer offer names) mapped applied
  have row : s'.entitlements publicId = some m.row := by rw [entitlements,Function.update_self]
  have listing : s'.listings publicId = some m.listing := by rw [listings,Function.update_self]
  have finished : s'.attempts attempt = some (completed a report now) := by
    rw [attempts]
    exact (congrFun (if_pos start) attempt).trans (Function.update_self ..)
  have shown : m.listing.currentTier = some a.tier := by rw [landed.perks perks,tier]
  refine ⟨answer,⟨⟨m.row,row,landed.status,landed.rowTier.trans tier⟩,⟨m.listing,listing,shown⟩,_,finished,rfl⟩,?_⟩
  exact ⟨m.listing,listing,landed.tenant.trans offer.tenancy,offer.named,finished,offer.attemptTenancy,offer.about⟩

theorem start_bought (offer : Offer s tenant publicId l attempt a) (names : Names publicId attempt report)
    (unseen : Unseen s tenant adapter report) (known : report.kind.value ∈ reportKinds)
    (open_ : statusOf (s.entitlements publicId) ∈ startable)
    (mapped : ∃ data, reportTrigger (cfg.tiers tenant) publicId ((s.entitlements publicId).map (·.toEntitlement))
      (some a) report = .ok (.start,{tier := some a.tier,periodEnd := some periodEnd,paymentRef := ref},data)) :
    let s' := (reportPayment cfg s tenant adapter report now).1
    (reportPayment cfg s tenant adapter report now).2 = .applied ∧ Bought s' publicId attempt a.tier ∧
      ∃ l', Offer s' tenant publicId l' attempt (completed a report now) := by
  obtain ⟨data,mapped⟩ := mapped
  obtain ⟨e,m,applied,landed⟩ := applyTrigger_start cfg
    {tier := some a.tier,periodEnd := some periodEnd,paymentRef := ref} offer.listed open_ rfl rfl rfl
  exact starts_hold cfg now offer names unseen known mapped (by decide) applied landed rfl rfl

theorem payment_keeps (offer : Offer s tenant publicId l attempt a) (names : Names publicId attempt report)
    (unseen : Unseen s tenant adapter report) (kind : report.kind = .paymentSucceeded) (plain : report.tierKey = "")
    (ends : report.periodEnd = some periodEnd) (present : s.entitlements publicId = some row)
    (reached : row.status ∈ payable) :
    let s' := (reportPayment cfg s tenant adapter report now).1
    (∃ row', s'.entitlements publicId = some row' ∧ row'.status = .active ∧ row'.tier = row.tier) ∧
      (∃ l', Offer s' tenant publicId l' attempt a ∧ l'.currentTier = some row.tier) := by
  intro s'
  have later : ¬((((s.entitlements publicId).map (·.toEntitlement)).map (·.status)).getD .none = .none ∨
      (((s.entitlements publicId).map (·.toEntitlement)).map (·.status)).getD .none = .expired) := by
    rw [present]
    intro closed
    change row.status = .none ∨ row.status = .expired at closed
    rcases closed with closed | closed <;> rw [closed] at reached <;> exact absurd reached (by decide)
  obtain ⟨data,mapped⟩ := reportTrigger_renewal (cfg.tiers tenant) publicId _ (some a) kind ends plain later
  have known : report.kind.value ∈ reportKinds := by rw [kind]; decide
  obtain ⟨m,applied,landed⟩ := applyTrigger_pay cfg
    {tier := none,periodEnd := some periodEnd,paymentRef := report.paymentRef} offer.listed present reached rfl
  obtain ⟨_,entitlements,listings,attempts⟩ :=
    reportPayment_commits unseen names.event known (resolve_offer offer names) mapped applied
  have stored : s'.entitlements publicId = some m.row := by rw [entitlements,Function.update_self]
  have listing : s'.listings publicId = some m.listing := by rw [listings,Function.update_self]
  have kept : s'.attempts attempt = some a := by
    rw [attempts]
    exact offer.stored
  have tier : m.row.tier = row.tier := by rw [landed.rowTier,pay_tier]; rfl
  have shown : m.listing.currentTier = some row.tier := by
    rw [landed.perks (by rw [pay_status]; rfl),pay_tier]
    rfl
  exact ⟨⟨m.row,stored,by rw [landed.status,pay_status],tier⟩,m.listing,
    ⟨listing,landed.tenant.trans offer.tenancy,offer.named,kept,offer.attemptTenancy,offer.about⟩,shown⟩

theorem checkout_finished (offer : Offer s tenant publicId l attempt a) (names : Names publicId attempt report)
    (unseen : Unseen s tenant adapter report) (kind : report.kind = .checkoutCompleted)
    (finished : a.status ≠ .started) :
    reportPayment cfg s tenant adapter report now =
      ((s.logged tenant (reportKey adapter report) (some .rejected) false).ignore tenant adapter report
        .checkoutAlreadyCompleted,.ignored .checkoutAlreadyCompleted) := by
  have known : report.kind.value ∈ reportKinds := by rw [kind]; decide
  exact reportPayment_unmapped unseen names.event known (resolve_offer offer names)
    (reportTrigger_finished _ _ _ kind finished)

theorem checkout_refused (offer : Offer s tenant publicId l attempt a) (names : Names publicId attempt report)
    (unseen : Unseen s tenant adapter report) (known : report.kind.value ∈ reportKinds)
    (purchase : report.kind = .checkoutCompleted ∨ report.kind = .paymentSucceeded) (started : a.status = .started)
    (present : s.entitlements publicId = some row)
    (mapped : reportTrigger (cfg.tiers tenant) publicId ((s.entitlements publicId).map (·.toEntitlement))
      (some a) report = .ok (trigger,params,data))
    (refused : ruleFor row.status trigger = .error (.invalidTransition row.status trigger)) :
    let result := reportPayment cfg s tenant adapter report now
    result.2 = .ignored .invalidTransition ∧ result.1.entitlements = s.entitlements ∧
      result.1.listings = s.listings ∧
      result.1.attempts = Function.update s.attempts attempt (some {a with status := .completed,completedAt := some now}) := by
  intro result
  have illegal : applyTrigger cfg s publicId trigger now (reportActor adapter) adapter.name params = _ :=
    applyTrigger_illegal offer.listed present refused
  have answer : result = _ := reportPayment_illegal unseen names.event known (resolve_offer offer names) mapped illegal
  rw [if_pos purchase] at answer
  have stored : ((s.logged tenant (reportKey adapter report) (some .rejected) false).ignore tenant adapter report
      .invalidTransition).attempts attempt = some a := by
    rw [ignore_attempts]
    exact offer.stored
  rw [Option.map_some,finish_started stored started] at answer
  rw [answer]
  refine ⟨rfl,(ignore_unmoved _).entitlements,(ignore_unmoved _).listings,?_⟩
  rw [Store.setAttempt,ignore_attempts]
  rfl

end reports

-- The two reports that complete one purchase without a trial.
structure Completion (publicId : ListingId) (attempt : AttemptId) (report : PaymentReport) : Prop extends
    Names publicId attempt report where
  kind : report.kind = .checkoutCompleted
  trial : report.trialEndsAt = none
  ends : report.periodEnd.isSome

structure Invoice (publicId : ListingId) (attempt : AttemptId) (report : PaymentReport) : Prop extends
    Names publicId attempt report where
  kind : report.kind = .paymentSucceeded
  plain : report.tierKey = ""
  ends : report.periodEnd.isSome

theorem guard_startable (open_ : checkoutGuard status = .ok ()) : status ∈ startable := by
  cases status <;> first | decide | cases open_

section orders

variable (cfg : Config) (now : Time) {s : Store} {tenant : TenantId} {publicId : ListingId} {l : Listing}
  {attempt : AttemptId} {a : CheckoutAttempt} {adapter : AdapterId} {report : PaymentReport}

theorem completion_bought (offer : Offer s tenant publicId l attempt a) (started : a.status = .started)
    (open_ : statusOf (s.entitlements publicId) ∈ startable) (completion : Completion publicId attempt report)
    (unseen : Unseen s tenant adapter report) :
    let s' := (reportPayment cfg s tenant adapter report now).1
    Bought s' publicId attempt a.tier ∧ ∃ l', Offer s' tenant publicId l' attempt (completed a report now) := by
  obtain ⟨periodEnd,ends⟩ := Option.isSome_iff_exists.mp completion.ends
  have known : report.kind.value ∈ reportKinds := by rw [completion.kind]; decide
  exact (start_bought cfg now offer completion.toNames unseen known open_
    (reportTrigger_checkout _ _ _ completion.kind started completion.trial ends)).2

theorem invoice_bought (offer : Offer s tenant publicId l attempt a) (started : a.status = .started)
    (open_ : statusOf (s.entitlements publicId) ∈ trialable) (invoice : Invoice publicId attempt report)
    (unseen : Unseen s tenant adapter report) :
    let s' := (reportPayment cfg s tenant adapter report now).1
    Bought s' publicId attempt a.tier ∧ ∃ l', Offer s' tenant publicId l' attempt (completed a report now) := by
  obtain ⟨periodEnd,ends⟩ := Option.isSome_iff_exists.mp invoice.ends
  have known : report.kind.value ∈ reportKinds := by rw [invoice.kind]; decide
  have first : (((s.entitlements publicId).map (·.toEntitlement)).map (·.status)).getD .none = .none ∨
      (((s.entitlements publicId).map (·.toEntitlement)).map (·.status)).getD .none = .expired := by
    rw [statusOf_map]
    simpa [trialable] using open_
  have wider : statusOf (s.entitlements publicId) ∈ startable := by
    simp only [trialable,startable,List.mem_cons,List.not_mem_nil,or_false] at open_ ⊢
    rcases open_ with none | expired
    · exact .inl none
    · exact .inr (.inl expired)
  exact (start_bought cfg now offer invoice.toNames unseen known wider
    (reportTrigger_invoice _ _ _ invoice.kind started ends first)).2

theorem invoice_keeps_bought (offer : Offer s tenant publicId l attempt a) (bought : Bought s publicId attempt tier)
    (invoice : Invoice publicId attempt report) (unseen : Unseen s tenant adapter report) :
    Bought (reportPayment cfg s tenant adapter report now).1 publicId attempt tier := by
  obtain ⟨periodEnd,ends⟩ := Option.isSome_iff_exists.mp invoice.ends
  obtain ⟨⟨row,present,active,rfl⟩,_,a',stored,finished⟩ := bought
  have reached : row.status ∈ payable := by rw [active]; decide
  obtain ⟨⟨row',present',active',tier'⟩,l',offer',shown⟩ :=
    payment_keeps cfg now offer invoice.toNames unseen invoice.kind invoice.plain ends present reached
  have same : a' = a := Option.some.inj (stored.symm.trans offer.stored)
  exact ⟨⟨row',present',active',tier'⟩,⟨l',offer'.listed,shown⟩,a,offer'.stored,same ▸ finished⟩

theorem completion_keeps_bought (offer : Offer s tenant publicId l attempt a) (bought : Bought s publicId attempt tier)
    (finished : a.status ≠ .started) (completion : Completion publicId attempt report)
    (unseen : Unseen s tenant adapter report) :
    Bought (reportPayment cfg s tenant adapter report now).1 publicId attempt tier := by
  rw [checkout_finished cfg now offer completion.toNames unseen completion.kind finished]
  unfold Bought Holds
  rw [(ignore_unmoved _).entitlements,(ignore_unmoved _).listings,ignore_attempts]
  exact bought

-- The completion of a purchase whose payment came first finds the plan active
-- and is refused: the row keeps the tier it had.
theorem completion_after_payment (offer : Offer s tenant publicId l attempt a) (started : a.status = .started)
    (present : s.entitlements publicId = some row) (active : row.status = .active)
    (shown : l.currentTier = some row.tier) (completion : Completion publicId attempt report)
    (unseen : Unseen s tenant adapter report) :
    Bought (reportPayment cfg s tenant adapter report now).1 publicId attempt tier ↔ row.tier = tier := by
  obtain ⟨periodEnd,ends⟩ := Option.isSome_iff_exists.mp completion.ends
  have known : report.kind.value ∈ reportKinds := by rw [completion.kind]; decide
  obtain ⟨data,mapped⟩ := reportTrigger_checkout (cfg.tiers tenant) publicId
    ((s.entitlements publicId).map (·.toEntitlement)) completion.kind started completion.trial ends
  have refused : ruleFor row.status .start = .error (.invalidTransition row.status .start) :=
    start_illegal (by rw [active]; decide)
  obtain ⟨_,entitlements,listings,attempts⟩ :=
    checkout_refused cfg now offer completion.toNames unseen known (.inl completion.kind) started present mapped refused
  unfold Bought Holds
  rw [entitlements,listings,attempts,present,offer.listed,Function.update_self]
  constructor
  · intro bought
    obtain ⟨⟨row',equal,_,tier'⟩,_⟩ := bought
    cases equal
    exact tier'
  · intro equal
    exact ⟨⟨row,rfl,active,equal⟩,⟨l,rfl,by rw [shown,equal]⟩,_,rfl,rfl⟩

end orders

-- Both orders end active on the tier offered, with the listing showing it and
-- the attempt finished, exactly when the listing had no plan in force or one on
-- that tier: a payment that comes first keeps the tier of a canceled or comped row.
theorem purchase_confluent_exact {attempt : AttemptId} (offer : Offer s tenant publicId l attempt a) (started : a.status = .started)
    (buyable : checkoutGuard (statusOf (s.entitlements publicId)) = .ok ())
    (completion : Completion publicId attempt checkout) (invoice : Invoice publicId attempt payment)
    (unseenCheckout : Unseen s tenant adapter checkout) (unseenPayment : Unseen s tenant adapter' payment)
    (distinct : checkout.externalEventId ≠ payment.externalEventId) (cfg : Config) (first second : Time) :
    let checkedOut := (reportPayment cfg s tenant adapter checkout first).1
    let paidFirst := (reportPayment cfg s tenant adapter' payment first).1
    (Bought (reportPayment cfg checkedOut tenant adapter' payment second).1 publicId attempt a.tier ∧
      Bought (reportPayment cfg paidFirst tenant adapter checkout second).1 publicId attempt a.tier) ↔
    ∀ row, s.entitlements publicId = some row → row.status ∈ trialable ∨ row.tier = a.tier := by
  intro checkedOut paidFirst
  have open_ := guard_startable buyable
  obtain ⟨bought,l₁,offer₁⟩ := completion_bought cfg first offer started open_ completion unseenCheckout
  have completedFirst := invoice_keeps_bought cfg second offer₁ bought invoice
    (unseenPayment.other (.inr distinct))
  rw [and_iff_right completedFirst]
  have unseen : Unseen paidFirst tenant adapter checkout := unseenCheckout.other (.inr distinct.symm)
  by_cases lapsed : statusOf (s.entitlements publicId) ∈ trialable
  · obtain ⟨bought,l₂,offer₂⟩ := invoice_bought cfg first offer started lapsed invoice unseenPayment
    refine iff_of_true (completion_keeps_bought cfg second offer₂ bought nofun completion unseen) ?_
    intro row present
    rw [present] at lapsed
    exact .inl lapsed
  · obtain ⟨periodEnd,ends⟩ := Option.isSome_iff_exists.mp invoice.ends
    cases present : s.entitlements publicId with
    | none => rw [present] at lapsed; exact (lapsed (by decide)).elim
    | some row =>
        rw [present] at lapsed open_
        have reached : row.status ∈ payable := by
          change row.status ∉ trialable at lapsed
          change row.status ∈ startable at open_
          revert lapsed open_
          cases row.status <;> decide
        obtain ⟨⟨row',present',active,tier⟩,l',offer',shown⟩ := payment_keeps cfg first offer
          invoice.toNames unseenPayment invoice.kind invoice.plain ends present reached
        rw [completion_after_payment cfg second offer' started present' active (by rw [shown,tier]) completion unseen,tier]
        constructor
        · intro equal other same
          cases same
          exact .inr equal
        · intro every
          exact (every row rfl).resolve_left lapsed

theorem purchase_confluent_fresh :
    let s := exampleRun [exampleCheckout "basic"]
    let checkedOut := (reportPayment exampleConfig s 1 exampleAdapter completionReport 5).1
    let paidFirst := (reportPayment exampleConfig s 1 exampleAdapter invoiceReport 5).1
    Bought (reportPayment exampleConfig checkedOut 1 exampleAdapter invoiceReport 6).1 "lst" "chk" 1 ∧
      Bought (reportPayment exampleConfig paidFirst 1 exampleAdapter completionReport 6).1 "lst" "chk" 1 := by
  intro s checkedOut paidFirst
  have offer : Offer s 1 "lst" exampleListing "chk" (newAttempt 1 "lst" 1 exampleAdapter exampleOwner 0) :=
    ⟨rfl,rfl,by decide,rfl,rfl,rfl⟩
  have completion : Completion "lst" "chk" completionReport := ⟨⟨rfl,.inl rfl,by decide⟩,rfl,rfl,rfl⟩
  have invoice : Invoice "lst" "chk" invoiceReport := ⟨⟨rfl,.inl rfl,by decide⟩,rfl,rfl,rfl⟩
  have unseenCheckout : Unseen s 1 exampleAdapter completionReport := ⟨rfl,rfl,by decide⟩
  have unseenPayment : Unseen s 1 exampleAdapter invoiceReport := ⟨rfl,rfl,by decide⟩
  apply (purchase_confluent_exact offer rfl rfl completion invoice unseenCheckout unseenPayment (by decide)
    exampleConfig 5 6).mpr
  intro row present
  have absent : s.entitlements "lst" = none := rfl
  rw [absent] at present
  cases present

-- A comped listing buys "basic" and the invoice comes first: the payment turns
-- the comp into a plan on its old tier and the completion is ignored.
theorem comp_paid_first_keeps_tier :
    let s := exampleRun [exampleGrant,exampleCheckout "basic"]
    let paidFirst := (reportPayment exampleConfig s 1 exampleAdapter invoiceReport 5).1
    checkoutGuard (statusOf (s.entitlements "lst")) = .ok () ∧
      (s.attempts "chk").map (fun a => (a.tier,a.status)) = some (1,.started) ∧
      (reportPayment exampleConfig paidFirst 1 exampleAdapter completionReport 6).2 = .ignored .invalidTransition ∧
      ¬Bought (reportPayment exampleConfig paidFirst 1 exampleAdapter completionReport 6).1 "lst" "chk" 1 := by
  intro s paidFirst
  refine ⟨rfl,rfl,rfl,?_⟩
  intro bought
  obtain ⟨⟨row,present,_,tier⟩,_⟩ := bought
  have kept : ((reportPayment exampleConfig paidFirst 1 exampleAdapter completionReport 6).1.entitlements "lst").map
      (·.tier) = some 2 := rfl
  rw [present,Option.map_some,tier] at kept
  cases kept

end Osds.Billing

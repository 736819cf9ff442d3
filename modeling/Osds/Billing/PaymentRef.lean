import Osds.Billing.ReportSteps

namespace Osds.Billing
open Directory Audit Fallible

-- The provider's reference is stored for the adapter; core does not branch on it.
def Entitlement.billed (e : Entitlement) (ref : PaymentRef) : Entitlement := {e with paymentRef := ref}

def EntitlementRow.billed (row : EntitlementRow) (ref : PaymentRef) : EntitlementRow :=
  ⟨row.toEntitlement.billed ref,row.representable,row.nonNegative⟩

def PaymentReport.billed (report : PaymentReport) (ref : PaymentRef) : PaymentReport := {report with paymentRef := ref}

def storing : List Trigger := [.start,.startTrial,.paymentSucceeded]

def Params.billed (p : Params) (trigger : Trigger) (ref : PaymentRef) : Params :=
  if trigger ∈ storing then {p with paymentRef := ref} else p

structure Alike (a b : Store) : Prop where
  listings : a.listings = b.listings
  entitlements : ∀ publicId, (a.entitlements publicId).map (·.billed []) = (b.entitlements publicId).map (·.billed [])
  created : a.created = b.created
  attempts : ∀ attempt, (a.attempts attempt).map (fun row => {row with externalRef := ""}) =
    (b.attempts attempt).map (fun row => {row with externalRef := ""})
  receipts : a.receipts = b.receipts
  log : a.log = b.log
  outbox : a.outbox = b.outbox
  mail : a.mail = b.mail

theorem Alike.refl (s : Store) : Alike s s := ⟨rfl,fun _ => rfl,rfl,fun _ => rfl,rfl,rfl,rfl,rfl⟩

theorem save_billed (e : Entitlement) (ref : PaymentRef) :
    Related (fun row row' => row' = row.billed ref) (save e) (save (e.billed ref)) := by
  unfold save
  by_cases fits : e.Representable
  · have fits' : (e.billed ref).Representable := fits
    rw [dif_pos fits,dif_pos fits']
    by_cases positive : e.NonNegative
    · have positive' : (e.billed ref).NonNegative := positive
      rw [dif_pos positive,dif_pos positive']
      rfl
    · have positive' : ¬(e.billed ref).NonNegative := positive
      rw [dif_neg positive,dif_neg positive']
      rfl
  · have fits' : ¬(e.billed ref).Representable := fits
    rw [dif_neg fits,dif_neg fits']
    rfl

theorem mutate_billed (tiers : Tiers) (e : Entitlement) (trigger : Trigger) (r : Rule) (now : Time) (p : Params)
    (ref : PaymentRef) : Related (fun out out' => out'.2 = out.2 ∧ ∃ stored, out'.1 = out.1.billed stored)
      (mutate tiers e trigger r now p) (mutate tiers e trigger r now (p.billed trigger ref)) := by
  by_cases stores : trigger ∈ storing
  · have billed : p.billed trigger ref = {p with paymentRef := ref} := if_pos stores
    rw [billed]
    cases trigger with
    | start =>
        unfold mutate
        cases p.tier with
        | none => rfl
        | some tier =>
            cases p.periodEnd with
            | none => rfl
            | some ends => exact ⟨rfl,ref,rfl⟩
    | startTrial =>
        unfold mutate
        cases p.tier with
        | none => rfl
        | some tier =>
            cases p.trialEndsAt with
            | none => rfl
            | some ends => exact ⟨rfl,ref,rfl⟩
    | paymentSucceeded =>
        unfold mutate
        cases p.periodEnd with
        | none => rfl
        | some ends =>
            refine ⟨rfl,if ref = [] then e.paymentRef else ref,?_⟩
            change pay e _ ends = (pay e p ends).billed _
            unfold pay
            split <;> rfl
    | _ => exact absurd stores (by decide)
  · have same : p.billed trigger ref = p := if_neg stores
    rw [same]
    exact related_refl (fun out => ⟨rfl,out.1.paymentRef,rfl⟩) _

theorem visibilityAfter_billed (tiers : Tiers) (publicId : ListingId) (row : EntitlementRow) (l : Listing)
    (actor : Actor) (ref : PaymentRef) : visibilityAfter tiers publicId (row.billed ref) l actor =
      ((visibilityAfter tiers publicId row l actor).1.billed ref,(visibilityAfter tiers publicId row l actor).2) := by
  unfold visibilityAfter EntitlementRow.billed Entitlement.billed
  dsimp only
  split
  · split <;> rfl
  · split
    · split <;> rfl
    · rfl

structure AlikeMoved (m m' : Moved) : Prop where
  row : ∃ ref, m'.row = m.row.billed ref
  listing : m'.listing = m.listing
  events : m'.events = m.events
  mail : m'.mail = m.mail

theorem settle_billed (tiers : Tiers) (saved : EntitlementRow) (l : Listing) (trigger : Trigger) (p : Params)
    (ref stored : PaymentRef) :
    AlikeMoved (settle tiers entitlementId publicId prior saved l r facts now actor origin p mail)
      (settle tiers entitlementId publicId prior (saved.billed stored) l r facts now actor origin
        (p.billed trigger ref) mail) := by
  have target : effectiveTier tiers (saved.billed stored).toEntitlement = effectiveTier tiers saved.toEntitlement := rfl
  have named : ∀ name, eventData tiers entitlementId publicId (saved.billed stored).toEntitlement name r facts
      (effectiveTier tiers saved.toEntitlement) (p.billed trigger ref) prior = eventData tiers entitlementId publicId
        saved.toEntitlement name r facts (effectiveTier tiers saved.toEntitlement) p prior := by
    intro name
    unfold Params.billed
    split <;> cases name <;> rfl
  unfold settle
  simp only [target,named,visibilityAfter_billed]
  exact ⟨⟨stored,rfl⟩,rfl,rfl,rfl⟩

theorem advance_billed (tiers : Tiers) (row : EntitlementRow) (l : Listing) (trigger : Trigger) (p : Params)
    (ref : PaymentRef) :
    Related AlikeMoved (advance tiers entitlementId publicId row l trigger now actor origin p)
      (advance tiers entitlementId publicId row l trigger now actor origin (p.billed trigger ref)) := by
  unfold advance
  refine related_bind (related_refl (fun _ => rfl) _) ?_
  intro r _ same
  subst same
  refine related_bind (related_refl (fun _ => rfl) _) ?_
  intro _ _ _
  refine related_bind (mutate_billed tiers row.toEntitlement trigger r now p ref) ?_
  intro out out' drafted
  obtain ⟨draft,facts⟩ := out
  obtain ⟨draft',facts'⟩ := out'
  obtain ⟨same,stored,kept⟩ := drafted
  change facts' = facts at same
  change draft' = draft.billed stored at kept
  subst same kept
  refine related_bind (save_billed draft stored) ?_
  intro saved _ kept
  subst kept
  have sent : afterTransition (saved.billed stored).toEntitlement l r now = afterTransition saved.toEntitlement l r now := rfl
  rw [sent]
  refine related_bind (related_refl (fun _ => rfl) _) ?_
  intro mail _ same
  subst same
  exact settle_billed tiers saved l trigger p ref stored

theorem openRow_billed (seen : Option EntitlementRow) (trigger : Trigger) (p : Params) (ref : PaymentRef) :
    openRow seen false trigger (p.billed trigger ref) = openRow seen false trigger p := by
  have tier : (p.billed trigger ref).tier = p.tier := by
    unfold Params.billed
    split <;> rfl
  unfold openRow
  rw [tier]

theorem alike_commit (s : Store) (alike : AlikeMoved m m') : Alike (s.commit publicId m) (s.commit publicId m') := by
  obtain ⟨⟨ref,row⟩,listing,events,mail⟩ := alike
  unfold Store.commit
  rw [row,listing,events,mail]
  refine ⟨rfl,?_,rfl,fun _ => rfl,rfl,rfl,rfl,rfl⟩
  intro other
  by_cases equal : other = publicId
  · subst equal
    simp only [Function.update_self]
    rfl
  · simp only [Function.update_of_ne equal]

theorem applyTrigger_billed (cfg : Config) (s : Store) (publicId : ListingId) (trigger : Trigger) (now : Time)
    (actor : Actor) (origin : String) (p : Params) (ref : PaymentRef) :
    Related (fun out out' => Alike out.1 out'.1) (applyTrigger cfg s publicId trigger now actor origin p)
      (applyTrigger cfg s publicId trigger now actor origin (p.billed trigger ref)) := by
  unfold applyTrigger
  cases s.listings publicId with
  | none => rfl
  | some l =>
      dsimp only
      rw [openRow_billed]
      refine related_bind (related_refl (fun _ => rfl) _) ?_
      intro row _ same
      subst same
      refine related_bind (advance_billed _ row l trigger p ref) ?_
      intro m m' alike
      exact alike_commit s alike

theorem reportTrigger_billed (tiers : Tiers) (publicId : ListingId) (ent : Option Entitlement)
    (attempt : Option CheckoutAttempt) (ref : PaymentRef) (kind : report.kind ≠ .checkoutCompleted) :
    Related (fun out out' => out' = (out.1,out.2.1.billed out.1 ref,out.2.2))
      (reportTrigger tiers publicId ent attempt report)
      (reportTrigger tiers publicId ent attempt (report.billed ref)) := by
  unfold reportTrigger PaymentReport.billed
  cases shape : report.kind with
  | checkoutCompleted => exact (kind shape).elim
  | paymentSucceeded =>
      dsimp only
      split
      · rfl
      · split
        · split
          · rfl
          · split <;> rfl
        · cases reportTier tiers report.tierKey <;> rfl
  | paymentFailed => rfl
  | refunded => rfl
  | subscriptionChanged =>
      dsimp only
      split
      · rfl
      · split
        · rfl
        · cases reportTier tiers report.tierKey with
          | error f => rfl
          | ok tier => cases tier <;> rfl
  | subscriptionCanceled =>
      dsimp only
      split <;> rfl
  | unknown name unlisted => rfl

theorem Alike.logged {outcome : Option LogOutcome} (alike : Alike a b) : Alike (a.logged tenant key outcome replay) (b.logged tenant key outcome replay) :=
  ⟨alike.listings,alike.entitlements,alike.created,alike.attempts,alike.receipts,by rw [Store.logged,Store.logged,alike.log],
    alike.outbox,alike.mail⟩

theorem concludeReport_quiet : (concludeReport s tenant adapter report now publicId attempt trigger data).created =
      s.created ∧
    (concludeReport s tenant adapter report now publicId attempt trigger data).mail = s.mail := by
  unfold concludeReport Store.setAttempt
  split
  · split <;> exact ⟨rfl,rfl⟩
  · exact ⟨rfl,rfl⟩

theorem alike_conclude (alike : Alike a b) (attempt : Option (AttemptId × CheckoutAttempt)) (trigger : Trigger)
    (data : Payload) (ref : PaymentRef) :
    Alike (concludeReport a tenant adapter report now publicId attempt trigger data)
      (concludeReport b tenant adapter (report.billed ref) now publicId attempt trigger data) := by
  refine ⟨?_,?_,?_,?_,?_,?_,?_,?_⟩
  · rw [concludeReport_listings,concludeReport_listings,alike.listings]
  · rw [concludeReport_entitlements,concludeReport_entitlements]
    exact alike.entitlements
  · rw [concludeReport_quiet.1,concludeReport_quiet.1,alike.created]
  · intro other
    rw [concludeReport_attempts,concludeReport_attempts]
    cases attempt with
    | none => exact alike.attempts other
    | some found =>
        dsimp only
        split
        · by_cases equal : other = found.1
          · subst equal
            simp only [Function.update_self]
            rfl
          · simp only [Function.update_of_ne equal]
            exact alike.attempts other
        · exact alike.attempts other
  · rw [concludeReport_books.2,concludeReport_books.2,alike.receipts]
    rfl
  · rw [concludeReport_books.1,concludeReport_books.1,alike.log]
  · rw [concludeReport_outbox,concludeReport_outbox,alike.outbox]
  · rw [concludeReport_quiet.2,concludeReport_quiet.2,alike.mail]

theorem applyResolved_billed (cfg : Config) (s : Store) (tenant : TenantId) (adapter : AdapterId) (now : Time)
    (publicId : ListingId) (attempt : Option (AttemptId × CheckoutAttempt)) (ref : PaymentRef)
    (kind : report.kind ≠ .checkoutCompleted) :
    Related Alike (applyResolved cfg s tenant adapter report now publicId attempt)
      (applyResolved cfg s tenant adapter (report.billed ref) now publicId attempt) := by
  have mapped := reportTrigger_billed (cfg.tiers tenant) publicId ((s.entitlements publicId).map (·.toEntitlement))
    (attempt.map (·.2)) ref kind
  unfold applyResolved
  dsimp only
  revert mapped
  cases reportTrigger (cfg.tiers tenant) publicId ((s.entitlements publicId).map (·.toEntitlement))
      (attempt.map (·.2)) report with
  | error reason =>
      cases reportTrigger (cfg.tiers tenant) publicId ((s.entitlements publicId).map (·.toEntitlement))
          (attempt.map (·.2)) (report.billed ref) with
      | error reason' => intro same; rw [show reason = reason' from same]; rfl
      | ok out => intro absurd; exact absurd.elim
  | ok out =>
      obtain ⟨trigger,params,data⟩ := out
      cases reportTrigger (cfg.tiers tenant) publicId ((s.entitlements publicId).map (·.toEntitlement))
          (attempt.map (·.2)) (report.billed ref) with
      | error reason => intro absurd; exact absurd.elim
      | ok out' =>
          intro same
          have equal : out' = (trigger,params.billed trigger ref,data) := same
          subst equal
          have applied := applyTrigger_billed cfg s publicId trigger now (reportActor adapter) adapter.name params ref
          dsimp only
          revert applied
          cases applyTrigger cfg s publicId trigger now (reportActor adapter) adapter.name params with
          | error f =>
              cases applyTrigger cfg s publicId trigger now (reportActor adapter) adapter.name
                  (params.billed trigger ref) with
              | error f' => intro same; rw [show f = f' from same]; rfl
              | ok moved => intro absurd; exact absurd.elim
          | ok moved =>
              cases applyTrigger cfg s publicId trigger now (reportActor adapter) adapter.name
                  (params.billed trigger ref) with
              | error f => intro absurd; exact absurd.elim
              | ok moved' => intro alike; exact alike_conclude alike attempt trigger data ref

theorem applyReport_billed (cfg : Config) (s : Store) (tenant : TenantId) (adapter : AdapterId) (now : Time)
    (ref : PaymentRef) (kind : report.kind ≠ .checkoutCompleted) :
    Related Alike (applyReport cfg s tenant adapter report now) (applyReport cfg s tenant adapter (report.billed ref) now) := by
  have resolved : resolve s tenant (report.billed ref) = resolve s tenant report := rfl
  have receipt : receiptFor tenant adapter (report.billed ref) .applied "" none =
      receiptFor tenant adapter report .applied "" none := rfl
  unfold applyReport
  rw [resolved,receipt]
  change Related Alike _ (if report.kind.value ∉ reportKinds then _ else if report.externalEventId = "" then _ else _)
  split
  · rfl
  split
  · rfl
  split
  · rfl
  cases resolve s tenant report with
  | error reason => rfl
  | ok found => exact applyResolved_billed cfg s tenant adapter now found.1 found.2.2 ref kind

-- A report about a plan does the same whatever subscription it names: the same
-- answer, and the same rows up to the references stored in them.
theorem reportPayment_billed (cfg : Config) (s : Store) (tenant : TenantId) (adapter : AdapterId) (now : Time)
    (ref : PaymentRef) (kind : report.kind ≠ .checkoutCompleted) :
    (reportPayment cfg s tenant adapter (report.billed ref) now).2 = (reportPayment cfg s tenant adapter report now).2 ∧
      Alike (reportPayment cfg s tenant adapter report now).1
        (reportPayment cfg s tenant adapter (report.billed ref) now).1 := by
  have applied := applyReport_billed cfg s tenant adapter now ref kind
  have key : reportKey adapter (report.billed ref) = reportKey adapter report := rfl
  have receipt : receiptExists s tenant adapter (report.billed ref) = receiptExists s tenant adapter report := rfl
  unfold reportPayment
  dsimp only
  rw [key,receipt]
  split
  · exact ⟨rfl,.refl _⟩
  split
  · exact ⟨rfl,.refl _⟩
  split
  · exact ⟨rfl,.refl _⟩
  revert applied
  cases applyReport cfg s tenant adapter report now with
  | error e =>
      cases applyReport cfg s tenant adapter (report.billed ref) now with
      | ok s' => intro absurd; exact absurd.elim
      | error e' =>
          intro same
          rw [show e = e' from same]
          cases e' with
          | refused reason attempt => exact ⟨rfl,.refl _⟩
          | failed f => cases f <;> exact ⟨rfl,.refl _⟩
  | ok s' =>
      cases applyReport cfg s tenant adapter (report.billed ref) now with
      | error e => intro absurd; exact absurd.elim
      | ok s'' => intro alike; exact ⟨rfl,alike.logged⟩

end Osds.Billing

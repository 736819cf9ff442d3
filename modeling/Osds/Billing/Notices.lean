import Osds.Billing.Machine

namespace Osds.Billing
open Directory Audit

def expiredTtl : Time := 7*day

def quietCauses : List ExpiredCause := [.revoked,.compExpired]

structure Notice where
  kind : String
  subject : String
  expiresAt : Time

-- What a transition has to tell the owner, in the order it is queued.
def notices (e : Entitlement) (name : String) (r : Rule) (now : Time) : List Notice :=
  (match e.dunningEndsAt with
    | some ends =>
        if .dunningStarted ∈ r.events then
          [⟨"billing.payment_failed","Payment failed for " ++ name,ends⟩]
        else []
    | none => []) ++
  (match e.graceEndsAt with
    | some ends =>
        if .downgraded ∈ r.events then
          [⟨"billing.downgraded",name ++ " has been downgraded",ends⟩]
        else []
    | none => []) ++
  (if .canceled ∈ r.events then
      let ends := if e.cancelAtPeriodEnd then e.currentPeriodEnd else none
      [⟨"billing.canceled","Subscription cancelled for " ++ name,
        match ends with
        | some t => if now < t then t else now+expiredTtl
        | none => now+expiredTtl⟩]
    else if .expired ∈ r.events ∧ r.expiredCause ∉ quietCauses then
      [⟨"billing.expired",name ++ " is back on the free listing",now+expiredTtl⟩]
    else [])

def address (l : Listing) : Option String :=
  l.owner.bind (fun owner => if owner.email = "" then none else some owner.email)

def enqueue (tenant : TenantId) (to_ : String) (n : Notice) : Except Failure OutboundMessage :=
  if n.subject.length ≤ 200 then .ok ⟨tenant,n.kind,to_,n.subject,n.expiresAt⟩ else .error .dataError

def afterTransition (e : Entitlement) (l : Listing) (r : Rule) (now : Time) :
    Except Failure (List OutboundMessage) :=
  match address l with
  | none => .ok []
  | some to_ => (notices e l.name r now).mapM (enqueue l.tenant to_)

-- A subject carries the listing's name, which may be longer than a subject.
def Deliverable (e : Entitlement) (l : Listing) (r : Rule) (now : Time) : Prop :=
  address l = none ∨ ∀ n ∈ notices e l.name r now, n.subject.length ≤ 200

instance (e : Entitlement) (l : Listing) (r : Rule) (now : Time) : Decidable (Deliverable e l r now) :=
  inferInstanceAs (Decidable (_ ∨ _))

theorem mapM_enqueue (items : List Notice) : items.mapM (enqueue tenant to_) =
    if ∀ n ∈ items, n.subject.length ≤ 200 then
      .ok (items.map (fun n => ⟨tenant,n.kind,to_,n.subject,n.expiresAt⟩))
    else .error .dataError := by
  induction items with
  | nil => rfl
  | cons n rest ih =>
      rw [List.mapM_cons,ih]
      by_cases short : n.subject.length ≤ 200
      · by_cases all : ∀ m ∈ rest, m.subject.length ≤ 200
        · have every : ∀ m ∈ n :: rest, m.subject.length ≤ 200 := List.forall_mem_cons.mpr ⟨short,all⟩
          rw [if_pos all,if_pos every,enqueue,if_pos short]
          rfl
        · have some : ¬∀ m ∈ n :: rest, m.subject.length ≤ 200 := fun h => all (List.forall_mem_cons.mp h).2
          rw [if_neg all,if_neg some,enqueue,if_pos short]
          rfl
      · have some : ¬∀ m ∈ n :: rest, m.subject.length ≤ 200 := fun h => short (List.forall_mem_cons.mp h).1
        rw [if_neg some,enqueue,if_neg short]
        rfl

theorem afterTransition_exact : (∃ mail, afterTransition e l r now = .ok mail) ↔ Deliverable e l r now := by
  unfold afterTransition Deliverable
  cases address l with
  | none => simp
  | some to_ =>
      simp only [mapM_enqueue,reduceCtorEq,false_or]
      by_cases all : ∀ n ∈ notices e l.name r now, n.subject.length ≤ 200
      · rw [if_pos all]
        exact iff_of_true ⟨_,rfl⟩ all
      · rw [if_neg all]
        exact iff_of_false (by rintro ⟨_,absurd⟩; cases absurd) all

theorem afterTransition_error (refused : afterTransition e l r now = .error f) : f = .dataError := by
  unfold afterTransition at refused
  cases present : address l with
  | none => simp [present] at refused
  | some to_ =>
      rw [present] at refused
      simp only [mapM_enqueue] at refused
      split at refused
      · cases refused
      · exact (Except.error.inj refused).symm

end Osds.Billing

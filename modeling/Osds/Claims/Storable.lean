import Osds.Claims.Commits

namespace Osds.Claims
open Directory Audit

section storable

variable {o : Office} {t t' : Tables} {now : Time}

theorem enqueue_exact {kind address subject : String} {expiresAt : Time} :
    (∃ t', t.enqueue kind address subject now expiresAt = .ok t') ↔ subject.length ≤ 200 ∧ address.length ≤ 254 := by
  unfold Tables.enqueue
  split
  · next fits => exact iff_of_true ⟨_,rfl⟩ fits
  · next long => exact iff_of_false (fun ⟨_,done⟩ => nomatch done) long

theorem enqueueAll_exact {kind subject : String} {expiresAt : Time} (addresses : List String) :
    (∃ t', t.enqueueAll kind subject now expiresAt addresses = .ok t') ↔
      ∀ address ∈ addresses, subject.length ≤ 200 ∧ address.length ≤ 254 := by
  induction addresses generalizing t with
  | nil => exact iff_of_true ⟨t,rfl⟩ (List.forall_mem_nil _)
  | cons address rest ih =>
      rw [List.forall_mem_cons]
      constructor
      · intro done
        obtain ⟨t',done⟩ := done
        obtain ⟨queued,first,others⟩ := Fallible.bind_exact.mp done
        exact ⟨enqueue_exact.mp ⟨queued,first⟩,ih.mp ⟨t',others⟩⟩
      · intro fits
        obtain ⟨queued,first⟩ := enqueue_exact.mpr fits.1
        have later : ∃ t', queued.enqueueAll kind subject now expiresAt rest = .ok t' := ih.mpr fits.2
        obtain ⟨t',others⟩ := later
        exact ⟨t',Fallible.bind_exact.mpr ⟨queued,first,others⟩⟩

theorem any_modify {α : Type} {q : α → Bool} {f : α → α} (same : ∀ a, q (f a) = q a) (xs : List α) (n : Nat) :
    (xs.modify n f).any q = xs.any q := by
  induction xs generalizing n with
  | nil => rw [List.modify_nil]
  | cons x rest ih =>
      cases n with
      | zero => rw [List.modify_zero_cons,List.any_cons,List.any_cons,same]
      | succ n => rw [List.modify_succ_cons,List.any_cons,List.any_cons,ih]

theorem noticeDue_mail (o : Office) (now : Time) (same : t'.mail = t.mail) : noticeDue o t' now = noticeDue o t now := by
  unfold noticeDue
  rw [same]

theorem noticeDue_expired (o : Office) (t : Tables) (message : Option Nat) (at_ now : Time) :
    noticeDue o (t.expirePendingCode message at_) now = noticeDue o t now := by
  unfold Tables.expirePendingCode
  cases message with
  | none => rfl
  | some n =>
      unfold noticeDue
      dsimp only
      refine List.filter_congr ?_
      intro address _
      rw [any_modify]
      intro m
      split <;> rfl

def NoticeFits (o : Office) (t : Tables) (now : Time) : Prop :=
  ∀ address ∈ noticeDue o t now, ("Claims waiting for review on " ++ o.name).length ≤ 200 ∧ address.length ≤ 254

theorem notifyOperators_exact : (∃ t', notifyOperators o t now = .ok t') ↔ NoticeFits o t now :=
  enqueueAll_exact _

theorem tellUnlessDisputed_exact {c : Claim} :
    (∃ t', tellUnlessDisputed o t c now = .ok t') ↔ c.status = .disputed ∨ NoticeFits o t now := by
  unfold tellUnlessDisputed
  split
  · next disputes => exact iff_of_true ⟨t,rfl⟩ (.inl disputes)
  · next notDisputed =>
      rw [notifyOperators_exact]
      exact ⟨.inr,fun either => either.resolve_left notDisputed⟩

theorem openItem_frame {itemType : ItemType} {c : Claim} {rules : List String} {actor : Actor} {newId : String}
    (done : openItem o t itemType c rules actor newId now = .ok t') :
    t'.mail = t.mail ∧ t'.claims = t.claims ∧ t'.listings = t.listings := by
  unfold openItem at done
  split at done
  · cases done
    exact ⟨rfl,rfl,rfl⟩
  · split at done
    · cases done
    · cases done
      exact ⟨rfl,rfl,rfl⟩

theorem openItem_exact {r : Rows} {itemType : ItemType} {c : Claim} {rules : List String} {actor : Actor} {newId : String}
    (rows : t.toRows = r) (unmet : openFor r (causeOf itemType c) = 0) :
    (∃ t', openItem o t itemType c rules actor newId now = .ok t') ↔ ∀ i ∈ r.items, i.publicId ≠ newId := by
  subst rows
  have none_ : ¬t.items.any (matchesItem itemType c) = true := by
    intro some_
    obtain ⟨i,present,holds⟩ := List.any_eq_true.mp some_
    rw [matchesItem_cause] at holds
    exact List.countP_eq_zero.mp unmet i present holds
  unfold openItem
  rw [if_neg none_]
  split
  · next taken =>
      obtain ⟨i,present,same⟩ := List.any_eq_true.mp taken
      exact iff_of_false (fun ⟨_,done⟩ => nomatch done) fun fresh => fresh i present (of_decide_eq_true same)
  · next fresh =>
      refine iff_of_true ⟨_,rfl⟩ ?_
      intro i present same
      exact fresh (List.any_eq_true.mpr ⟨i,present,decide_eq_true same⟩)

-- A wrong code is counted, unless it is to lock the pair and what that inserts
-- cannot be stored.
theorem wrongCode_exact {p : Platform} {c : Claim} {itemId : String} (consistent : Consistent p t.toRows)
    (unlocked : (t.guards c.listing c.claimant.id).verificationLockedAt = none) :
    (∃ t', wrongCode o t c (t.guards c.listing c.claimant.id) itemId now = .ok t') ↔
      (wrongReason (t.guards c.listing c.claimant.id) = "locked" →
        (∀ i ∈ t.items, i.publicId ≠ itemId) ∧ (c.status = .disputed ∨ NoticeFits o t now)) := by
  let g := t.guards c.listing c.claimant.id
  let failed := (verificationFailed o ((t.updateClaim c.publicId (wrongClaim g)).updateGuard c.listing c.claimant.id
    fun _ => wrongGuard g now) (wrongClaim g c) (wrongReason g) (some (g.wrongEntries + 1)) (some (wrongGuard g now).cooldowns))
  let expired := failed.expirePendingCode c.codeMessage now
  have quiet : openFor t.toRows (.lock c.listing c.claimant.id) = 0 := by
    refine unmet_of_quiet consistent.linked ?_
    unfold stands
    dsimp only
    rw [unlocked]
    rfl
  have unmet : openFor failed.toRows (causeOf .verificationLock c) = 0 := quiet
  have rows : expired.toRows = failed.toRows := expirePendingCode_rows _ _ _
  have due : ∀ queued : Tables, queued.mail = expired.mail → (NoticeFits o queued now ↔ NoticeFits o t now) := by
    intro queued same
    unfold NoticeFits
    rw [noticeDue_mail o now same,noticeDue_expired]
    rfl
  unfold wrongCode
  dsimp only
  by_cases locks : wrongReason g = "locked"
  · rw [if_pos locks]
    constructor
    · intro done _
      obtain ⟨t',done⟩ := done
      obtain ⟨queued,opened,told⟩ := Fallible.bind_exact.mp done
      refine ⟨(openItem_exact rows unmet).mp ⟨queued,opened⟩,?_⟩
      rw [← due queued (openItem_frame opened).1]
      exact tellUnlessDisputed_exact.mp ⟨t',told⟩
    · intro fits
      obtain ⟨fresh,told⟩ := fits locks
      obtain ⟨queued,opened⟩ := (openItem_exact rows unmet).mpr fresh
      rw [← due queued (openItem_frame opened).1] at told
      obtain ⟨t',told⟩ := tellUnlessDisputed_exact.mpr told
      exact ⟨t',Fallible.bind_exact.mpr ⟨queued,opened,told⟩⟩
  · rw [if_neg locks]
    exact iff_of_true ⟨_,rfl⟩ fun absurd => False.elim (locks absurd)

end storable

end Osds.Claims

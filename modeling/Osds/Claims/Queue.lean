import Osds.Claims.Locking

namespace Osds.Claims
open Directory Audit

def openFor (r : Rows) (k : Cause) : Nat := r.items.countP fun i => i.isOpen && i.cause = k

def stands (r : Rows) : Cause → Bool
  | .dispute id => (r.claim id).any (·.status = .disputed)
  | .lock l u => (r.guards l u).verificationLockedAt.isSome
  | .block l u => (r.guards l u).claimBlockedAt.isSome

def Linked (r : Rows) : Prop := ∀ k, openFor r k = if stands r k then 1 else 0

section counting

variable {r : Rows} {i : ModerationItem} {decided : ModerationItem → ModerationItem} {cause : Cause}

theorem openFor_appended (opens : Opens r i cause) (k : Cause) :
    openFor {r with items := r.items ++ [i]} k = openFor r k + if k = cause then 1 else 0 := by
  unfold openFor
  dsimp only
  rw [List.countP_append,List.countP_singleton,opens.isOpen,opens.cause,Bool.true_and]
  by_cases same : k = cause
  · rw [if_pos same,if_pos (decide_eq_true same.symm)]
  · rw [if_neg same,if_neg (by simpa using fun equal => same equal.symm)]

theorem openFor_decided (keyed : Keyed r) (decides : Decides r i decided) (k : Cause) :
    openFor r k = openFor (r.updateItem i.publicId decided) k + if k = i.cause then 1 else 0 := by
  obtain ⟨before,after,split⟩ := List.append_of_mem decides.present
  have keys := keyed.itemIds
  rw [split,List.map_append,List.map_cons,List.nodup_append,List.nodup_cons] at keys
  obtain ⟨_,⟨notAfter,_⟩,apart⟩ := keys
  have still : ∀ js : List ModerationItem, (∀ j ∈ js, j.publicId ≠ i.publicId) →
      (js.map fun j => if j.publicId = i.publicId then decided j else j) = js := by
    intro js others
    refine (List.map_congr_left fun j listed => if_neg (others j listed)).trans (List.map_id' js)
  have first := still before fun j listed same =>
    apart _ (List.mem_map.mpr ⟨j,listed,rfl⟩) _ (List.mem_cons_self ..) same
  have last := still after fun j listed same => notAfter (List.mem_map.mpr ⟨j,listed,same⟩)
  unfold openFor Rows.updateItem
  dsimp only
  rw [split,List.map_append,List.map_cons,first,last,if_pos rfl,List.countP_append,List.countP_append,List.countP_cons,
    List.countP_cons,decides.isOpen,decides.closed,Bool.true_and,Bool.false_and]
  by_cases same : k = i.cause
  · rw [if_pos same,if_pos (decide_eq_true same.symm),if_neg (by decide)]
    omega
  · rw [if_neg same,if_neg (by simpa using fun equal => same equal.symm),if_neg (by decide)]
    omega

theorem linked_moved {r r' : Rows} (linked : Linked r) {k : Cause} (flag : stands r k = false ∧ stands r' k = true)
    (others : ∀ k', k' ≠ k → stands r' k' = stands r k') (items : ∀ k', openFor r' k' = openFor r k' + if k' = k then 1 else 0) :
    Linked r' := by
  intro k'
  rw [items]
  by_cases same : k' = k
  · subst same
    rw [linked,flag.1,flag.2,if_pos rfl]
    rfl
  · rw [linked,others k' same,if_neg same,Nat.add_zero]

theorem linked_back {r r' : Rows} (linked : Linked r) {k : Cause} (flag : stands r' k = false)
    (others : ∀ k', k' ≠ k → stands r' k' = stands r k') (items : ∀ k', openFor r k' = openFor r' k' + if k' = k then 1 else 0) :
    Linked r' := by
  intro k'
  have count := items k'
  rw [linked] at count
  by_cases same : k' = k
  · subst same
    rw [if_pos rfl] at count
    rw [flag,if_neg Bool.false_ne_true]
    split at count <;> omega
  · rw [if_neg same,Nat.add_zero] at count
    rw [others k' same,← count]

theorem linked_still {r r' : Rows} (linked : Linked r) (flags : ∀ k, stands r' k = stands r k)
    (items : r'.items = r.items) : Linked r' := by
  intro k
  rw [flags]
  unfold openFor
  rw [items]
  exact linked k

theorem openDispute_counted (r : Rows) (id : ClaimId) : (openDispute r id).isSome ↔ openFor r (.dispute id) ≠ 0 := by
  unfold openDispute openFor
  rw [List.find?_isSome,ne_eq,List.countP_eq_zero]
  push Not
  refine exists_congr fun i => and_congr_right fun _ => ?_
  simp only [Bool.and_eq_true,decide_eq_true_eq,cause_dispute]
  exact and_comm

end counting

section flags

variable {r : Rows}

theorem stands_dispute {id : ClaimId} {c : Claim} (found : r.claim id = some c) :
    stands r (.dispute id) = decide (c.status = .disputed) := by
  unfold stands
  dsimp only
  rw [found,Option.any_some]

theorem stands_updated {id : ClaimId} {c : Claim} {f : Claim → Claim} (keyed : Keyed r) (found : r.claim id = some c)
    (same : SameClaim c (f c)) (k : Cause) :
    stands (r.updateClaim id f) k = if k = .dispute id then decide ((f c).status = .disputed) else stands r k := by
  cases k with
  | lock l u => rfl
  | block l u => rfl
  | dispute id' =>
      unfold stands
      dsimp only
      rw [claim_updated keyed found same]
      by_cases here : id' = id
      · rw [if_pos here,if_pos (congrArg Cause.dispute here),Option.any_some]
      · rw [if_neg here,if_neg (fun equal => here (Cause.dispute.inj equal))]

theorem guard_updated (r : Rows) (l : ListingId) (u : String) (f : Guard → Guard) :
    (r.updateGuard l u f).guards l u = f (r.guards l u) := if_pos ⟨rfl,rfl⟩

theorem stands_guard (r : Rows) (l : ListingId) (u : String) (f : Guard → Guard) (k : Cause)
    (otherLock : k ≠ .lock l u) (otherBlock : k ≠ .block l u) : stands (r.updateGuard l u f) k = stands r k := by
  cases k with
  | dispute id => rfl
  | lock l' u' =>
      have apart : ¬(l' = l ∧ u' = u) := fun same => otherLock (by rw [same.1,same.2])
      have still : (r.updateGuard l u f).guards l' u' = r.guards l' u' := if_neg apart
      unfold stands
      dsimp only
      rw [still]
  | block l' u' =>
      have apart : ¬(l' = l ∧ u' = u) := fun same => otherBlock (by rw [same.1,same.2])
      have still : (r.updateGuard l u f).guards l' u' = r.guards l' u' := if_neg apart
      unfold stands
      dsimp only
      rw [still]

theorem stands_lock (r : Rows) (l : ListingId) (u : String) (f : Guard → Guard) :
    stands (r.updateGuard l u f) (.lock l u) = (f (r.guards l u)).verificationLockedAt.isSome := by
  unfold stands
  dsimp only
  rw [guard_updated]

theorem stands_block (r : Rows) (l : ListingId) (u : String) (f : Guard → Guard) :
    stands (r.updateGuard l u f) (.block l u) = (f (r.guards l u)).claimBlockedAt.isSome := by
  unfold stands
  dsimp only
  rw [guard_updated]

theorem stands_kept (r : Rows) (l : ListingId) (u : String) (f : Guard → Guard)
    (locked : (f (r.guards l u)).verificationLockedAt = (r.guards l u).verificationLockedAt)
    (blocked : (f (r.guards l u)).claimBlockedAt = (r.guards l u).claimBlockedAt) (k : Cause) :
    stands (r.updateGuard l u f) k = stands r k := by
  by_cases lock : k = .lock l u
  · rw [lock,stands_lock,locked]
    rfl
  · by_cases block : k = .block l u
    · rw [block,stands_block,blocked]
      rfl
    · exact stands_guard r l u f k lock block

-- A change that touches one flag of a pair leaves every other one.
theorem stands_but_lock (r : Rows) (l : ListingId) (u : String) (f : Guard → Guard)
    (blocked : (f (r.guards l u)).claimBlockedAt = (r.guards l u).claimBlockedAt) (k : Cause) (differ : k ≠ .lock l u) :
    stands (r.updateGuard l u f) k = stands r k := by
  by_cases block : k = .block l u
  · rw [block]
    exact (stands_block r l u f).trans (congrArg Option.isSome blocked)
  · exact stands_guard r l u f k differ block

theorem stands_but_block (r : Rows) (l : ListingId) (u : String) (f : Guard → Guard)
    (locked : (f (r.guards l u)).verificationLockedAt = (r.guards l u).verificationLockedAt) (k : Cause) (differ : k ≠ .block l u) :
    stands (r.updateGuard l u f) k = stands r k := by
  by_cases lock : k = .lock l u
  · rw [lock]
    exact (stands_lock r l u f).trans (congrArg Option.isSome locked)
  · exact stands_guard r l u f k lock differ

theorem stands_rewritten {id : ClaimId} {c : Claim} {f : Claim → Claim} (keyed : Keyed r) (found : r.claim id = some c)
    (same : SameClaim c (f c)) (disputed : (f c).status = .disputed ↔ c.status = .disputed) (k : Cause) :
    stands (r.updateClaim id f) k = stands r k := by
  refine (stands_updated keyed found same k).trans ?_
  by_cases here : k = .dispute id
  · rw [if_pos here,here,stands_dispute found,decide_eq_decide]
    exact disputed
  · rw [if_neg here]

theorem stands_submitted {c : Claim} (pends : c.status = .pendingVerification) (k : Cause) :
    stands {r with claims := r.claims ++ [c]} k = stands r k := by
  cases k with
  | lock l u => rfl
  | block l u => rfl
  | dispute id =>
      unfold stands Rows.claim
      dsimp only
      rw [List.find?_append]
      cases found : r.claims.find? fun c => c.publicId = id with
      | some c' => rw [Option.some_or]
      | none =>
          rw [Option.none_or,List.find?_singleton]
          split
          · simp [pends]
          · rfl

end flags

-- The lock is set with the third cooldown, and nowhere else.
theorem wrong_locks (g : Guard) (now : Time) :
    (wrongGuard g now).verificationLockedAt = if wrongReason g = "locked" then some now else g.verificationLockedAt := by
  unfold wrongGuard wrongReason
  by_cases below : g.wrongEntries + 1 < MAX_WRONG_ENTRIES
  · rw [if_pos below,if_pos below,if_neg (by decide)]
  · rw [if_neg below,if_neg below]
    dsimp only
    by_cases room : g.cooldowns + 1 < MAX_COOLDOWNS
    · rw [if_pos room,if_neg (Nat.not_le_of_lt room),if_neg (by decide)]
    · rw [if_neg room,if_pos (Nat.le_of_not_lt room),if_pos rfl]

theorem approving_disputed {r : Rows} {c c' : Claim} {f : Claim → Claim} {olds : List ClaimId} (keyed : Keyed r)
    (found : r.claim c.publicId = some c) (pends : c.status = .pendingVerification) (approves : (f c).status = .approved)
    (listed : olds = (approvedClaims r c.listing).map (·.publicId)) (present : c' ∈ r.claims) :
    decide ((approving c.publicId f olds c').status = .disputed) = decide (c'.status = .disputed) := by
  unfold approving
  by_cases named : c'.publicId = c.publicId
  · rw [if_pos named,claim_unique keyed found present named,approves,pends]
    rfl
  · rw [if_neg named]
    by_cases old : c'.publicId ∈ olds
    · rw [if_pos old,(approved_listing keyed listed present old).2]
      rfl
    · rw [if_neg old]

theorem stands_approved {r : Rows} {c : Claim} {f : Claim → Claim} {olds : List ClaimId} (keyed : Keyed r)
    (found : r.claim c.publicId = some c) (pends : c.status = .pendingVerification) (same : SameClaim c (f c))
    (approves : (f c).status = .approved) (listed : olds = (approvedClaims r c.listing).map (·.publicId)) (k : Cause) :
    stands (apply r (.approve c f olds)) k = stands r k := by
  cases k with
  | lock l u => rfl
  | block l u => rfl
  | dispute id =>
      have rewritten := claim_mapped (approving_same keyed found same olds) id
      unfold stands
      dsimp only
      refine (congrArg (Option.any fun c => decide (c.status = .disputed)) rewritten).trans ?_
      cases there : r.claim id with
      | none => rfl
      | some c' =>
          rw [Option.map_some,Option.any_some,Option.any_some]
          exact approving_disputed keyed found pends approves listed (claim_found there).1

-- The third cooldown sets the lock and opens its item; no other wrong code moves a flag.
theorem linked_guess {r : Rows} {l : ListingId} {u : String} {now : Time} {opened : List ModerationItem} (linked : Linked r)
    (unlocked : (r.guards l u).verificationLockedAt = none)
    (items : if wrongReason (r.guards l u) = "locked" then ∃ i, opened = [i] ∧ Opens r i (.lock l u) else opened = []) :
    Linked (apply r (.guess l u now opened)) := by
  have blocked : (wrongGuard (r.guards l u) now).claimBlockedAt = (r.guards l u).claimBlockedAt := by
    unfold wrongGuard
    split <;> rfl
  have locked := wrong_locks (r.guards l u) now
  by_cases locks : wrongReason (r.guards l u) = "locked"
  · rw [if_pos locks] at items locked
    obtain ⟨i,only,opens⟩ := items
    subst only
    have counted := openFor_appended opens
    refine linked_moved linked ⟨?_,?_⟩ ?_ counted
    · unfold stands
      dsimp only
      rw [unlocked]
      rfl
    · refine (stands_lock r l u (wrongGuard · now)).trans ?_
      rw [locked]
      rfl
    · exact stands_but_lock r l u (wrongGuard · now) blocked
  · rw [if_neg locks] at items locked
    subst items
    exact linked_still linked (stands_kept r l u (wrongGuard · now) locked blocked) (List.append_nil _)

-- A flag that an operator lifts goes with the item that is decided.
theorem linked_rule {r : Rows} {i : ModerationItem} {f : Guard → Guard} {decided : ModerationItem → ModerationItem}
    (keyed : Keyed r) (linked : Linked r) (decides : Decides r i decided)
    (either : i.itemType = .verificationLock ∧ f = unlockedGuard ∨ i.itemType = .claimBlock ∧ f = unblockedGuard) :
    Linked (apply r (.rule i f decided)) := by
  have items := openFor_decided keyed decides
  rcases either with ⟨locks,clears⟩ | ⟨blocks,clears⟩
  · have cause : i.cause = .lock i.listing i.claimant.id := by
      unfold ModerationItem.cause
      rw [locks]
    rw [cause] at items
    rw [clears]
    refine linked_back linked ?_ ?_ items
    · exact stands_lock r _ _ unlockedGuard
    · exact stands_but_lock r _ _ unlockedGuard rfl
  · have cause : i.cause = .block i.listing i.claimant.id := by
      unfold ModerationItem.cause
      rw [blocks]
    rw [cause] at items
    rw [clears]
    refine linked_back linked ?_ ?_ items
    · exact stands_block r _ _ unblockedGuard
    · exact stands_but_block r _ _ unblockedGuard rfl

theorem linked_preserved {p : Platform} (r : Rows) (x : Change) (allowed : Allowed p r x) (keyed : Keyed r)
    (linked : Linked r) : Linked (apply r x) := by
  cases x with
  | mint u => exact linked_still linked (fun k => by cases k <;> rfl) rfl
  | write id w => exact linked_still linked (fun k => by cases k <;> rfl) rfl
  | submit c => exact linked_still linked (stands_submitted allowed.2.1) rfl
  | amend id f =>
      obtain ⟨c,found,amends⟩ := allowed
      exact linked_still linked (stands_rewritten keyed found amends.toSameClaim amends.disputed) rfl
  | issue id f code expiresAt =>
      obtain ⟨c,found,same,status,_⟩ := allowed
      exact linked_still linked (stands_rewritten keyed found same (by rw [status])) rfl
  | count l u f => exact linked_still linked (stands_kept r l u f allowed.locked allowed.blocked) rfl
  | guess l u now opened => exact linked_guess linked allowed.1 allowed.2
  | dispute id f opened =>
      obtain ⟨c,found,pends,same,disputes,_,opens⟩ := allowed
      have items := openFor_appended opens
      refine linked_moved linked ⟨?_,?_⟩ ?_ items
      · rw [stands_dispute found,pends]
        rfl
      · refine (stands_updated keyed found same (.dispute id)).trans ?_
        rw [if_pos rfl]
        exact decide_eq_true disputes
      · intro k differ
        exact (stands_updated keyed found same k).trans (if_neg differ)
  | settle i decided =>
      obtain ⟨disputes,decides,c,found,_⟩ := allowed
      have same : SameClaim c (pending c) := ⟨rfl,rfl,rfl⟩
      have cause : i.cause = .dispute i.claim := (cause_dispute i i.claim).mpr ⟨rfl,disputes⟩
      have items := openFor_decided keyed decides
      refine linked_back linked ?_ ?_ items
      · rw [cause]
        refine (stands_updated keyed found same (.dispute i.claim)).trans ?_
        rw [if_pos rfl]
        rfl
      · intro k differ
        rw [cause] at differ
        exact (stands_updated keyed found same k).trans (if_neg differ)
  | approve c f olds =>
      obtain ⟨_,found,pends,same,approves,_,listed⟩ := allowed
      exact linked_still linked (stands_approved keyed found pends same approves listed) rfl
  | block l u f opened =>
      obtain ⟨unblocked,blocked,calm,opens⟩ := allowed
      have items := openFor_appended opens
      refine linked_moved linked ⟨?_,?_⟩ ?_ items
      · unfold stands
        dsimp only
        rw [unblocked]
        rfl
      · exact (stands_block r l u f).trans blocked
      · exact stands_but_block r l u f calm.locked
  | rule i f decided => exact linked_rule keyed linked allowed.1 allowed.2

end Osds.Claims

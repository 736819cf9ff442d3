import Osds.Claims.Changes
import Mathlib.Data.List.Find
import Mathlib.Data.List.Nodup

namespace Osds.Claims
open Directory Audit

theorem same_claim_trans (first : SameClaim a b) (second : SameClaim b c) : SameClaim a c :=
  ⟨second.publicId.trans first.publicId,second.listing.trans first.listing,second.claimant.trans first.claimant⟩

theorem same_item_trans (first : SameItem a b) (second : SameItem b c) : SameItem a c :=
  ⟨second.publicId.trans first.publicId,second.itemType.trans first.itemType,second.listing.trans first.listing,
    second.claimant.trans first.claimant,second.claim.trans first.claim⟩

-- Rows are found by their ids, which no two of them share.
structure Keyed (r : Rows) : Prop where
  claimIds : (r.claims.map (·.publicId)).Nodup
  itemIds : (r.items.map (·.publicId)).Nodup

section lookups

variable {r : Rows} {id : ClaimId} {c c' : Claim} {f : Claim → Claim} {i j i' : ModerationItem} {β : Type}

theorem claim_found (found : r.claim id = some c) : c ∈ r.claims ∧ c.publicId = id := by
  have named := List.find?_some found
  exact ⟨List.mem_of_find?_eq_some found,of_decide_eq_true named⟩

theorem claim_unique (keyed : Keyed r) (found : r.claim id = some c) (present : c' ∈ r.claims) (same : c'.publicId = id) :
    c' = c := by
  obtain ⟨there,named⟩ := claim_found found
  exact List.inj_on_of_nodup_map keyed.claimIds present there (same.trans named.symm)

theorem item_unique (keyed : Keyed r) (one : i ∈ r.items) (two : j ∈ r.items) (same : i.publicId = j.publicId) : i = j :=
  List.inj_on_of_nodup_map keyed.itemIds one two same

theorem item_of_mem (keyed : Keyed r) (present : i ∈ r.items) : r.item i.publicId = some i := by
  cases found : r.item i.publicId with
  | none =>
      have absent := List.find?_eq_none.mp found i present
      exact absurd (decide_eq_true rfl) absent
  | some j =>
      have named := List.find?_some found
      rw [decide_eq_true_eq] at named
      rw [item_unique keyed (List.mem_of_find?_eq_some found) present named]

theorem claim_of_mem (keyed : Keyed r) (present : c ∈ r.claims) : r.claim c.publicId = some c := by
  cases found : r.claim c.publicId with
  | none =>
      have absent := List.find?_eq_none.mp found c present
      exact absurd (decide_eq_true rfl) absent
  | some c' => rw [claim_unique keyed found present rfl]

-- The claims of `r` after each is rewritten, none into another.
section rewriting

variable (same : ∀ c ∈ r.claims, SameClaim c (f c))
include same

theorem claim_mapped (id : ClaimId) : (mapClaims r f).claim id = (r.claim id).map f := by
  unfold Rows.claim mapClaims
  rw [List.find?_map]
  congr 1
  refine List.find?_congr ?_
  intro c present
  simp only [Function.comp_apply,(same c present).publicId]

theorem mapped_ids : (r.claims.map f).map (·.publicId) = r.claims.map (·.publicId) := by
  rw [List.map_map]
  exact List.map_congr_left fun c present => (same c present).publicId

theorem approved_mapped {l : ListingId}
    (kept : ∀ c ∈ r.claims, c.listing = l → ((f c).status = .approved ↔ c.status = .approved)) (g : Claim → β)
    (read : ∀ c ∈ r.claims, g (f c) = g c) : (approvedClaims (mapClaims r f) l).map g = (approvedClaims r l).map g := by
  unfold approvedClaims mapClaims
  dsimp only
  have rows : r.claims.filter ((fun c => c.listing = l && c.status = .approved) ∘ f) =
      r.claims.filter fun c => c.listing = l && c.status = .approved := by
    refine List.filter_congr ?_
    intro c present
    simp only [Function.comp_apply,(same c present).listing]
    by_cases here : c.listing = l
    · simp only [kept c present here]
    · simp only [here,decide_false,Bool.false_and]
  rw [List.filter_map,List.map_map,rows]
  exact List.map_congr_left fun c present => read c (List.mem_of_mem_filter present)

end rewriting

theorem update_same (keyed : Keyed r) (found : r.claim id = some c) (same : SameClaim c (f c)) :
    ∀ c' ∈ r.claims, SameClaim c' (if c'.publicId = id then f c' else c') := by
  intro c' present
  by_cases named : c'.publicId = id
  · rw [if_pos named,claim_unique keyed found present named]
    exact same
  · rw [if_neg named]
    exact ⟨rfl,rfl,rfl⟩

theorem claim_updated (keyed : Keyed r) (found : r.claim id = some c) (same : SameClaim c (f c)) (id' : ClaimId) :
    (r.updateClaim id f).claim id' = if id' = id then some (f c) else r.claim id' := by
  refine (claim_mapped (update_same keyed found same) id').trans ?_
  by_cases here : id' = id
  · subst here
    rw [if_pos rfl,found,Option.map_some,if_pos (claim_found found).2]
  · rw [if_neg here]
    cases other : r.claim id' with
    | none => rfl
    | some c' => rw [Option.map_some,if_neg (fun named => here ((claim_found other).2.symm.trans named))]

theorem approved_updated (keyed : Keyed r) (found : r.claim id = some c) (same : SameClaim c (f c))
    (kept : (f c).status = .approved ↔ c.status = .approved) (l : ListingId) (g : Claim → β) (read : g (f c) = g c) :
    (approvedClaims (r.updateClaim id f) l).map g = (approvedClaims r l).map g := by
  refine approved_mapped (update_same keyed found same) ?_ g ?_
  · intro c' present _
    by_cases named : c'.publicId = id
    · rw [if_pos named,claim_unique keyed found present named]
      exact kept
    · rw [if_neg named]
  · intro c' present
    by_cases named : c'.publicId = id
    · rw [if_pos named,claim_unique keyed found present named]
      exact read
    · rw [if_neg named]

theorem approving_same (keyed : Keyed r) (found : r.claim c.publicId = some c) (same : SameClaim c (f c)) (olds : List ClaimId) :
    ∀ c' ∈ r.claims, SameClaim c' (approving c.publicId f olds c') := by
  intro c' present
  unfold approving
  split
  · next named =>
      rw [claim_unique keyed found present named]
      exact same
  · split <;> exact ⟨rfl,rfl,rfl⟩

theorem cause_dispute (i : ModerationItem) (id : ClaimId) :
    i.cause = .dispute id ↔ i.claim = id ∧ i.itemType = .claimDispute := by
  unfold ModerationItem.cause
  cases i.itemType <;> simp

theorem openDispute_spec (found : openDispute r id = some i) :
    i ∈ r.items ∧ i.cause = .dispute id ∧ i.isOpen = true := by
  have holds := List.find?_some found
  simp only [Bool.and_eq_true,decide_eq_true_eq] at holds
  exact ⟨List.mem_of_find?_eq_some found,(cause_dispute i id).mpr holds.1,holds.2⟩

theorem openDispute_appended (r : Rows) (opened : List ModerationItem) (other : ∀ i ∈ opened, i.cause ≠ .dispute id) :
    openDispute {r with items := r.items ++ opened} id = openDispute r id := by
  unfold openDispute
  dsimp only
  rw [List.find?_append]
  have none_ : opened.find? (fun i => i.claim = id && i.itemType = .claimDispute && i.isOpen) = none := by
    refine List.find?_eq_none.mpr ?_
    intro i listed holds
    simp only [Bool.and_eq_true,decide_eq_true_eq] at holds
    exact other i listed ((cause_dispute i id).mpr holds.1)
  rw [none_,Option.or_none]

theorem same_cause (same : SameItem i i') : i'.cause = i.cause := by
  unfold ModerationItem.cause
  rw [same.itemType,same.claim,same.listing,same.claimant]

-- What an UPDATE of one item makes of the rows of the table.
section deciding

variable {decided : ModerationItem → ModerationItem}

theorem decided_same (keyed : Keyed r) (decides : Decides r i decided) :
    ∀ j ∈ r.items, SameItem j (if j.publicId = i.publicId then decided j else j) := by
  intro j present
  by_cases named : j.publicId = i.publicId
  · rw [if_pos named,item_unique keyed present decides.present named]
    exact decides.same
  · rw [if_neg named]
    exact ⟨rfl,rfl,rfl,rfl,rfl⟩

theorem openDispute_decided (keyed : Keyed r) (decides : Decides r i decided) (other : i.cause ≠ .dispute id) :
    openDispute (r.updateItem i.publicId decided) id = openDispute r id := by
  unfold openDispute Rows.updateItem
  dsimp only
  rw [List.find?_map]
  have rows : ∀ j ∈ r.items, j.publicId = i.publicId → j = i :=
    fun j present named => item_unique keyed present decides.present named
  have untouched : r.items.find? ((fun j => j.claim = id && j.itemType = .claimDispute && j.isOpen) ∘
      fun j => if j.publicId = i.publicId then decided j else j) =
      r.items.find? fun j => j.claim = id && j.itemType = .claimDispute && j.isOpen := by
    refine List.find?_congr ?_
    intro j present
    dsimp only [Function.comp_apply]
    by_cases named : j.publicId = i.publicId
    · rw [rows j present named,if_pos rfl,decides.closed,Bool.and_false]
      symm
      rw [Bool.and_eq_false_iff]
      refine .inl ?_
      rw [← Bool.not_eq_true,Bool.and_eq_true,decide_eq_true_eq,decide_eq_true_eq]
      exact fun both => other ((cause_dispute i id).mpr both)
    · rw [if_neg named]
  rw [untouched]
  cases found : r.items.find? fun j => j.claim = id && j.itemType = .claimDispute && j.isOpen with
  | none => rfl
  | some j =>
      obtain ⟨present,cause,_⟩ := openDispute_spec found
      rw [Option.map_some,if_neg]
      intro named
      rw [rows j present named] at cause
      exact other cause

theorem item_decided (keyed : Keyed r) (decides : Decides r i decided) (id : String) :
    (r.updateItem i.publicId decided).item id = if id = i.publicId then some (decided i) else r.item id := by
  unfold Rows.item Rows.updateItem
  dsimp only
  rw [List.find?_map]
  have untouched : r.items.find? ((fun j => j.publicId = id) ∘ fun j => if j.publicId = i.publicId then decided j else j) =
      r.items.find? fun j => j.publicId = id := by
    refine List.find?_congr ?_
    intro j present
    simp only [Function.comp_apply,(decided_same keyed decides j present).publicId]
  rw [untouched]
  by_cases here : id = i.publicId
  · rw [if_pos here]
    cases found : r.items.find? fun j => j.publicId = id with
    | none => exact absurd (decide_eq_true here.symm) (List.find?_eq_none.mp found i decides.present)
    | some j =>
        have named := List.find?_some found
        rw [decide_eq_true_eq] at named
        have same := item_unique keyed (List.mem_of_find?_eq_some found) decides.present (named.trans here)
        rw [same,Option.map_some,if_pos rfl]
  · rw [if_neg here]
    cases found : r.items.find? fun j => j.publicId = id with
    | none => rfl
    | some j =>
        have named := List.find?_some found
        rw [decide_eq_true_eq] at named
        rw [Option.map_some,if_neg (fun same => here (named.symm.trans same))]

end deciding

theorem item_appended (r : Rows) (opened : List ModerationItem) (other : ∀ i ∈ opened, i.publicId ≠ id) :
    Rows.item {r with items := r.items ++ opened} id = r.item id := by
  unfold Rows.item
  dsimp only
  rw [List.find?_append]
  have none_ : opened.find? (fun i => i.publicId = id) = none :=
    List.find?_eq_none.mpr fun i listed same => other i listed (of_decide_eq_true same)
  rw [none_,Option.or_none]

end lookups

-- What one change is to each kind of row.
section changes

variable {p : Platform} {r : Rows} {x : Change} {id : ClaimId} {c : Claim}

theorem guess_causes {l : ListingId} {u : String} {now : Time} {opened : List ModerationItem}
    (allowed : Allowed p r (.guess l u now opened)) : ∀ i ∈ opened, i.cause = .lock l u := by
  intro i listed
  obtain ⟨_,items⟩ := allowed
  split at items
  · obtain ⟨j,only,opens⟩ := items
    rw [only,List.mem_singleton] at listed
    rw [listed]
    exact opens.cause
  · rw [items] at listed
    cases listed

theorem rule_cause {i : ModerationItem} {f : Guard → Guard} {decided : ModerationItem → ModerationItem}
    (allowed : Allowed p r (.rule i f decided)) : i.cause ≠ .dispute id := by
  intro same
  have disputes := ((cause_dispute i id).mp same).2
  rcases allowed.2 with ⟨locks,_⟩ | ⟨blocks,_⟩
  · rw [locks] at disputes
    cases disputes
  · rw [blocks] at disputes
    cases disputes

theorem keyed_preserved (r : Rows) (x : Change) (allowed : Allowed p r x) (keyed : Keyed r) : Keyed (apply r x) := by
  have opened : ∀ i cause, Opens r i cause → ((r.items ++ [i]).map (·.publicId)).Nodup := by
    intro i cause opens
    rw [List.map_append,List.map_singleton,List.nodup_append]
    refine ⟨keyed.itemIds,List.nodup_singleton _,?_⟩
    intro one there two here same
    obtain ⟨j,present,named⟩ := List.mem_map.mp there
    rw [List.mem_singleton] at here
    exact opens.fresh j present (named.trans (same.trans here))
  have updated : ∀ id f c, r.claim id = some c → SameClaim c (f c) →
      ((r.updateClaim id f).claims.map (·.publicId)).Nodup := by
    intro id f c found same
    exact (mapped_ids (update_same keyed found same)).symm ▸ keyed.claimIds
  have decided : ∀ i f, Decides r i f → ((r.updateItem i.publicId f).items.map (·.publicId)).Nodup := by
    intro i f decides
    have same : (r.updateItem i.publicId f).items.map (·.publicId) = r.items.map (·.publicId) := by
      unfold Rows.updateItem
      dsimp only
      rw [List.map_map]
      exact List.map_congr_left fun j present => (decided_same keyed decides j present).publicId
    rw [same]
    exact keyed.itemIds
  cases x with
  | mint u => exact ⟨keyed.claimIds,keyed.itemIds⟩
  | count l u f => exact ⟨keyed.claimIds,keyed.itemIds⟩
  | write id w => exact ⟨keyed.claimIds,keyed.itemIds⟩
  | submit c =>
      refine ⟨?_,keyed.itemIds⟩
      have fresh := List.find?_eq_none.mp allowed.1
      unfold apply
      dsimp only
      rw [List.map_append,List.map_singleton,List.nodup_append]
      refine ⟨keyed.claimIds,List.nodup_singleton _,?_⟩
      intro one there two here same
      obtain ⟨c',present,named⟩ := List.mem_map.mp there
      rw [List.mem_singleton] at here
      exact fresh c' present (decide_eq_true (named.trans (same.trans here)))
  | amend id f =>
      obtain ⟨c,found,amends⟩ := allowed
      exact ⟨updated id f c found amends.toSameClaim,keyed.itemIds⟩
  | issue id f code expiresAt =>
      obtain ⟨c,found,same,_⟩ := allowed
      exact ⟨updated id f c found same,keyed.itemIds⟩
  | guess l u now items =>
      refine ⟨keyed.claimIds,?_⟩
      obtain ⟨_,either⟩ := allowed
      unfold apply
      dsimp only
      split at either
      · obtain ⟨i,only,opens⟩ := either
        rw [only]
        exact opened i _ opens
      · rw [either,List.append_nil]
        exact keyed.itemIds
  | dispute id f i =>
      obtain ⟨c,found,_,same,_,_,opens⟩ := allowed
      exact ⟨updated id f c found same,opened i _ opens⟩
  | settle i f =>
      obtain ⟨_,decides,c,found,_⟩ := allowed
      exact ⟨updated i.claim pending c found ⟨rfl,rfl,rfl⟩,decided i f decides⟩
  | approve c f olds =>
      obtain ⟨_,found,_,same,_⟩ := allowed
      exact ⟨(mapped_ids (approving_same keyed found same olds)).symm ▸ keyed.claimIds,keyed.itemIds⟩
  | block l u f i => exact ⟨keyed.claimIds,opened i _ allowed.2.2.2⟩
  | rule i f g => exact ⟨keyed.claimIds,decided i g allowed.1⟩

theorem claim_kept (keyed : Keyed r) (allowed : Allowed p r x) (other : LockKey.claim id ∉ x.keys) :
    (apply r x).claim id = r.claim id := by
  have updated : ∀ id' f c, r.claim id' = some c → SameClaim c (f c) → id ≠ id' → (r.updateClaim id' f).claim id = r.claim id :=
    fun id' f c found same differ => (claim_updated keyed found same id).trans (if_neg differ)
  cases x with
  | mint u => rfl
  | count l u f => rfl
  | guess l u now items => rfl
  | block l u f i => rfl
  | rule i f g => rfl
  | write l w => rfl
  | submit c =>
      have differ : c.publicId ≠ id := fun same => other (by simp [Change.keys,same])
      unfold apply Rows.claim
      dsimp only
      rw [List.find?_append]
      have none_ : [c].find? (fun c => c.publicId = id) = none := by simp [differ]
      rw [none_,Option.or_none]
  | amend id' f =>
      obtain ⟨c,found,amends⟩ := allowed
      exact updated id' f c found amends.toSameClaim fun same => other (by simp [Change.keys,same])
  | issue id' f code expiresAt =>
      obtain ⟨c,found,same,_⟩ := allowed
      exact updated id' f c found same fun same => other (by simp [Change.keys,same])
  | dispute id' f i =>
      obtain ⟨c,found,_,same,_⟩ := allowed
      exact updated id' f c found same fun same => other (by simp [Change.keys,same])
  | settle i f =>
      obtain ⟨_,_,c,found,_⟩ := allowed
      exact updated i.claim pending c found ⟨rfl,rfl,rfl⟩ fun same => other (by simp [Change.keys,same])
  | approve c f olds =>
      obtain ⟨_,found,_,same,_⟩ := allowed
      refine (claim_mapped (approving_same keyed found same olds) id).trans ?_
      cases here : r.claim id with
      | none => rfl
      | some c' =>
          have named := (claim_found here).2
          simp only [Change.keys,List.mem_cons,LockKey.claim.injEq,reduceCtorEq,List.mem_map,exists_eq_right,false_or,
            not_or] at other
          unfold approving
          rw [Option.map_some,named,if_neg other.1,if_neg other.2]

theorem dispute_kept (keyed : Keyed r) (allowed : Allowed p r x) (other : LockKey.claim id ∉ x.keys) :
    openDispute (apply r x) id = openDispute r id := by
  cases x with
  | mint u => rfl
  | submit c => rfl
  | amend id' f => rfl
  | issue id' f code expiresAt => rfl
  | count l u f => rfl
  | approve c f olds => rfl
  | write l w => rfl
  | guess l u now items =>
      refine openDispute_appended r items ?_
      intro i listed same
      rw [guess_causes allowed i listed] at same
      cases same
  | dispute id' f i =>
      obtain ⟨_,_,_,_,_,_,opens⟩ := allowed
      refine openDispute_appended r [i] ?_
      intro j listed same
      rw [List.mem_singleton.mp listed,opens.cause] at same
      cases same
      exact other (List.mem_cons_self ..)
  | settle i f =>
      have differ : i.cause ≠ .dispute id := by
        intro same
        exact other (by simp [Change.keys,((cause_dispute i id).mp same).1])
      have kept : openDispute (r.updateItem i.publicId f) id = openDispute r id :=
        openDispute_decided keyed allowed.2.1 differ
      exact kept
  | block l u f i =>
      refine openDispute_appended r [i] ?_
      intro j listed same
      rw [List.mem_singleton.mp listed,allowed.2.2.2.cause] at same
      cases same
  | rule i f g =>
      have kept : openDispute (r.updateItem i.publicId g) id = openDispute r id :=
        openDispute_decided keyed allowed.1 (rule_cause allowed)
      exact kept

theorem approved_listing {l : ListingId} {ids : List ClaimId} (keyed : Keyed r)
    (listed : ids = (approvedClaims r l).map (·.publicId)) (present : c ∈ r.claims) (named : c.publicId ∈ ids) :
    c.listing = l ∧ c.status = .approved := by
  rw [listed] at named
  obtain ⟨c',there,same⟩ := List.mem_map.mp named
  have holds := List.of_mem_filter there
  rw [Bool.and_eq_true,decide_eq_true_eq,decide_eq_true_eq] at holds
  have equal := claim_unique keyed (claim_of_mem keyed present) (List.mem_of_mem_filter there) same
  rw [equal] at holds
  exact holds

theorem listing_kept {l : ListingId} (r : Rows) (other : LockKey.listing l ∉ x.keys) :
    (apply r x).listings l = r.listings l := by
  cases x with
  | approve c f olds => exact if_neg fun same => other (by simp [Change.keys,same])
  | write id w => exact if_neg fun same => other (by simp [Change.keys,same])
  | _ => rfl

theorem approved_kept {l : ListingId} (keyed : Keyed r) (allowed : Allowed p r x) (other : LockKey.listing l ∉ x.keys)
    {β : Type} (g : Claim → β) (reads : ∀ a b, SameClaim a b → g b = g a) :
    (approvedClaims (apply r x) l).map g = (approvedClaims r l).map g := by
  cases x with
  | mint u => rfl
  | count l u f => rfl
  | guess l u now items => rfl
  | block l u f i => rfl
  | rule i f g => rfl
  | write l w => rfl
  | submit c =>
      obtain ⟨_,pends,_⟩ := allowed
      unfold apply approvedClaims
      dsimp only
      rw [List.filter_append]
      have none_ : [c].filter (fun c => c.listing = l && c.status = .approved) = [] := by simp [pends]
      rw [none_,List.append_nil]
  | amend id f =>
      obtain ⟨c,found,amends⟩ := allowed
      exact approved_updated keyed found amends.toSameClaim amends.approved l g (reads _ _ amends.toSameClaim)
  | issue id f code expiresAt =>
      obtain ⟨c,found,same,status,_⟩ := allowed
      exact approved_updated keyed found same (by rw [status]) l g (reads _ _ same)
  | dispute id f i =>
      obtain ⟨c,found,pends,same,disputes,_⟩ := allowed
      exact approved_updated keyed found same (by rw [pends,disputes]; decide) l g (reads _ _ same)
  | settle i f =>
      obtain ⟨_,_,c,found,disputes⟩ := allowed
      have same : SameClaim c (pending c) := ⟨rfl,rfl,rfl⟩
      have kept : (pending c).status = .approved ↔ c.status = .approved := by
        rw [disputes]
        exact iff_of_false nofun nofun
      exact approved_updated keyed found same kept l g (reads _ _ same)
  | approve c f olds =>
      obtain ⟨_,found,pends,same,_,_,listed⟩ := allowed
      have rewritten := approving_same keyed found same olds
      refine approved_mapped rewritten ?_ g (fun c' present => reads _ _ (rewritten c' present))
      intro c' present here
      have differ : c.listing ≠ l := fun equal => other (by simp [Change.keys,equal])
      unfold approving
      split
      · next named => exact absurd (claim_unique keyed found present named ▸ here) differ
      · split
        · next old => exact absurd ((approved_listing keyed listed present old).1.symm.trans here) differ
        · exact Iff.rfl

theorem item_kept {id : String} (keyed : Keyed r) (allowed : Allowed p r x) (other : LockKey.item id ∉ x.keys) :
    (apply r x).item id = r.item id := by
  cases x with
  | mint u => rfl
  | submit c => rfl
  | amend id' f => rfl
  | issue id' f code expiresAt => rfl
  | count l u f => rfl
  | approve c f olds => rfl
  | write l w => rfl
  | guess l u now items =>
      refine item_appended r items ?_
      intro i listed same
      exact other (List.mem_cons_of_mem _ (List.mem_map.mpr ⟨i,listed,congrArg LockKey.item same⟩))
  | dispute id' f i =>
      refine item_appended r [i] ?_
      intro j listed same
      rw [List.mem_singleton.mp listed] at same
      exact other (by simp [Change.keys,same])
  | block l u f i =>
      refine item_appended r [i] ?_
      intro j listed same
      rw [List.mem_singleton.mp listed] at same
      exact other (by simp [Change.keys,same])
  | settle i f =>
      exact (item_decided keyed allowed.2.1 id).trans (if_neg fun same => other (by simp [Change.keys,same]))
  | rule i f g =>
      exact (item_decided keyed allowed.1 id).trans (if_neg fun same => other (by simp [Change.keys,same]))

theorem claim_forward (keyed : Keyed r) (allowed : Allowed p r x) (found : r.claim id = some c) :
    ∃ c', (apply r x).claim id = some c' ∧ SameClaim c c' := by
  have still : SameClaim c c := ⟨rfl,rfl,rfl⟩
  have updated : ∀ id' f a, r.claim id' = some a → SameClaim a (f a) →
      ∃ c', (r.updateClaim id' f).claim id = some c' ∧ SameClaim c c' := by
    intro id' f a there same
    rw [claim_updated keyed there same]
    by_cases here : id = id'
    · rw [if_pos here]
      rw [here,there] at found
      cases found
      exact ⟨_,rfl,same⟩
    · rw [if_neg here]
      exact ⟨c,found,still⟩
  cases x with
  | mint u => exact ⟨c,found,still⟩
  | count l u f => exact ⟨c,found,still⟩
  | guess l u now items => exact ⟨c,found,still⟩
  | block l u f i => exact ⟨c,found,still⟩
  | rule i f g => exact ⟨c,found,still⟩
  | write l w => exact ⟨c,found,still⟩
  | submit a =>
      refine ⟨c,?_,still⟩
      unfold Rows.claim at found
      unfold apply Rows.claim
      dsimp only
      rw [List.find?_append,found,Option.some_or]
  | amend id' f =>
      obtain ⟨a,there,amends⟩ := allowed
      exact updated id' f a there amends.toSameClaim
  | issue id' f code expiresAt =>
      obtain ⟨a,there,same,_⟩ := allowed
      exact updated id' f a there same
  | dispute id' f i =>
      obtain ⟨a,there,_,same,_⟩ := allowed
      exact updated id' f a there same
  | settle i f =>
      obtain ⟨_,_,a,there,_⟩ := allowed
      exact updated i.claim pending a there ⟨rfl,rfl,rfl⟩
  | approve a f olds =>
      obtain ⟨_,there,_,same,_⟩ := allowed
      have rewritten := approving_same keyed there same olds
      refine ⟨_,(claim_mapped rewritten id).trans (congrArg (Option.map _) found),?_⟩
      exact rewritten c (claim_found found).1

theorem item_forward {id : String} {j : ModerationItem} (keyed : Keyed r) (allowed : Allowed p r x)
    (found : r.item id = some j) : ∃ j', (apply r x).item id = some j' ∧ SameItem j j' := by
  have still : SameItem j j := ⟨rfl,rfl,rfl,rfl,rfl⟩
  have appended : ∀ opened, Rows.item {r with items := r.items ++ opened} id = some j := by
    intro opened
    unfold Rows.item at found
    unfold Rows.item
    dsimp only
    rw [List.find?_append,found,Option.some_or]
  have decided : ∀ i f, Decides r i f → ∃ j', (r.updateItem i.publicId f).item id = some j' ∧ SameItem j j' := by
    intro i f decides
    rw [item_decided keyed decides]
    by_cases here : id = i.publicId
    · rw [if_pos here]
      have named := List.find?_some found
      rw [decide_eq_true_eq] at named
      have same := item_unique keyed (List.mem_of_find?_eq_some found) decides.present (named.trans here)
      rw [same]
      exact ⟨_,rfl,decides.same⟩
    · rw [if_neg here]
      exact ⟨j,found,still⟩
  cases x with
  | mint u => exact ⟨j,found,still⟩
  | submit c => exact ⟨j,found,still⟩
  | amend id' f => exact ⟨j,found,still⟩
  | issue id' f code expiresAt => exact ⟨j,found,still⟩
  | count l u f => exact ⟨j,found,still⟩
  | approve c f olds => exact ⟨j,found,still⟩
  | write l w => exact ⟨j,found,still⟩
  | guess l u now items => exact ⟨j,appended items,still⟩
  | dispute id' f i => exact ⟨j,appended [i],still⟩
  | block l u f i => exact ⟨j,appended [i],still⟩
  | settle i f => exact decided i f allowed.2.1
  | rule i f g => exact decided i g allowed.1

theorem user_forward {email : String} {u : DirectoryUser} (x : Change) (found : r.user email = some u) :
    (apply r x).user email = some u := by
  cases x with
  | mint v =>
      unfold Rows.user at found
      unfold apply Rows.user
      dsimp only
      rw [List.find?_append,found,Option.some_or]
  | _ => exact found

end changes

-- How a row that a command only reads may be older than the one it finds.
def Before : (k : LockKey) → Row k → Row k → Prop
  | .listing _,_,_ => True
  | .guard ..,_,_ => True
  | .claim _,old,new => ∀ c, old.claim = some c → ∃ c', new.claim = some c' ∧ SameClaim c c'
  | .user _,old,new => ∀ u, old = some u → new = some u
  | .item _,old,new => ∀ i, old = some i → ∃ i', new = some i' ∧ SameItem i i'

theorem before_refl (k : LockKey) (row : Row k) : Before k row row := by
  cases k with
  | listing id => trivial
  | guard l u => trivial
  | claim id => exact fun c found => ⟨c,found,rfl,rfl,rfl⟩
  | user email => exact fun u found => found
  | item id => exact fun i found => ⟨i,found,rfl,rfl,rfl,rfl,rfl⟩

theorem before_trans (k : LockKey) (a b c : Row k) (first : Before k a b) (second : Before k b c) : Before k a c := by
  cases k with
  | listing id => trivial
  | guard l u => trivial
  | claim id =>
      intro one found
      obtain ⟨two,found,same⟩ := first one found
      obtain ⟨three,found,again⟩ := second two found
      exact ⟨three,found,same_claim_trans same again⟩
  | user email => exact fun u found => second u (first u found)
  | item id =>
      intro one found
      obtain ⟨two,found,same⟩ := first one found
      obtain ⟨three,found,again⟩ := second two found
      exact ⟨three,found,same_item_trans same again⟩

def database : RowLocks.Database LockKey Row Tables where
  row := fun t => rowOf t.toRows
  keys := fun t => t.claims.map (.claim ·.publicId)
  Before := Before
  refl := before_refl
  trans := before_trans

section rows

variable {p : Platform} {r r' : Rows} {x : Change} {xs : List Change}

theorem row_kept (keyed : Keyed r) (allowed : Allowed p r x) (k : LockKey) (other : k ∉ x.keys) :
    rowOf (apply r x) k = rowOf r k := by
  cases k with
  | claim id =>
      have claims := claim_kept keyed allowed other
      have disputes := dispute_kept keyed allowed other
      show ClaimRow.mk _ _ = ClaimRow.mk _ _
      rw [claims,disputes]
  | item id => exact item_kept keyed allowed other
  | listing l =>
      have ids := approved_kept keyed allowed other (·.publicId) fun _ _ same => same.publicId
      have row := listing_kept r other
      show ListingRow.mk _ _ = ListingRow.mk _ _
      rw [row,ids]
  | guard l u =>
      have apart : ∀ l' u', LockKey.guard l' u' ∈ x.keys → ¬(l = l' ∧ u = u') := by
        intro l' u' held same
        rw [← same.1,← same.2] at held
        exact other held
      cases x with
      | count l' u' f => exact if_neg (apart l' u' (List.mem_cons_self ..))
      | guess l' u' now items => exact if_neg (apart l' u' (List.mem_cons_self ..))
      | block l' u' f i => exact if_neg (apart l' u' (List.mem_cons_self ..))
      | rule i f g => exact if_neg (apart _ _ (List.mem_cons_self ..))
      | _ => rfl
  | user email =>
      cases x with
      | mint u =>
          have differ : u.email ≠ email := fun same => other (by simp [Change.keys,same])
          unfold apply rowOf Rows.user
          dsimp only
          rw [List.find?_append]
          have none_ : [u].find? (fun u => u.email = email) = none := by simp [differ]
          rw [none_,Option.or_none]
      | _ => rfl

theorem row_forward (keyed : Keyed r) (allowed : Allowed p r x) (k : LockKey) : Before k (rowOf r k) (rowOf (apply r x) k) := by
  cases k with
  | listing id => trivial
  | guard l u => trivial
  | claim id => exact fun c found => claim_forward keyed allowed found
  | user email => exact fun u found => user_forward x found
  | item id => exact fun i found => item_forward keyed allowed found

theorem changes_kept (changes : Changes p r xs r') (keyed : Keyed r) (k : LockKey) (other : ∀ x ∈ xs, k ∉ x.keys) :
    rowOf r' k = rowOf r k := by
  induction changes with
  | nil => rfl
  | cons allowed rest ih =>
      have later := ih (keyed_preserved _ _ allowed keyed) fun y listed => other y (List.mem_cons_of_mem _ listed)
      exact later.trans (row_kept keyed allowed k (other _ (List.mem_cons_self ..)))

theorem changes_forward (changes : Changes p r xs r') (keyed : Keyed r) (k : LockKey) :
    Before k (rowOf r k) (rowOf r' k) := by
  induction changes with
  | nil => exact before_refl k _
  | cons allowed rest ih =>
      exact before_trans k _ _ _ (row_forward keyed allowed k) (ih (keyed_preserved _ _ allowed keyed))

end rows

end Osds.Claims

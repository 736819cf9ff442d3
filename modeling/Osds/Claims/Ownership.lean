import Osds.Claims.Locking

namespace Osds.Claims
open Directory Audit

def ownerOf (r : Rows) (l : ListingId) : Option DirectoryUser := (r.listings l).bind (·.owner)

-- The claimants of a listing's approved claims are its owner, and the status says
-- whether there is one.
structure Owned (r : Rows) (l : ListingId) : Prop where
  holders : (approvedClaims r l).map (·.claimant) = (ownerOf r l).toList
  mirrored : ∀ row, r.listings l = some row → (row.status = .claimed ↔ row.owner.isSome)

section ownership

variable {p : Platform} {r r' : Rows} {x : Change} {xs : List Change} {l : ListingId}

theorem approved_winner {c : Claim} {f : Claim → Claim} {olds : List ClaimId} (keyed : Keyed r)
    (allowed : Allowed p r (.approve c f olds)) :
    approvedClaims (apply r (.approve c f olds)) c.listing = [f c] := by
  obtain ⟨_,found,_,same,approves,_,listed⟩ := allowed
  have rewritten := approving_same keyed found same olds
  have only : r.claims.filter ((fun c' => c'.listing = c.listing && c'.status = .approved) ∘ approving c.publicId f olds) =
      r.claims.filter (· = c) := by
    refine List.filter_congr ?_
    intro c' present
    rw [Function.comp_apply,(rewritten c' present).listing]
    by_cases named : c'.publicId = c.publicId
    · have equal := claim_unique keyed found present named
      rw [equal]
      unfold approving
      rw [if_pos rfl,approves]
      simp
    · have differ : c' ≠ c := fun equal => named (congrArg (·.publicId) equal)
      unfold approving
      rw [if_neg named]
      by_cases old : c'.publicId ∈ olds
      · rw [if_pos old]
        simp [superseded,differ]
      · rw [if_neg old]
        have loses : ¬(c'.listing = c.listing ∧ c'.status = .approved) := by
          intro holds
          refine old (listed ▸ List.mem_map.mpr ⟨c',List.mem_filter.mpr ⟨present,?_⟩,rfl⟩)
          rw [Bool.and_eq_true,decide_eq_true_eq,decide_eq_true_eq]
          exact holds
        rw [decide_eq_false differ,← Bool.not_eq_true,Bool.and_eq_true,decide_eq_true_eq,decide_eq_true_eq]
        exact loses
  have nodup : r.claims.Nodup := List.Nodup.of_map _ keyed.claimIds
  unfold approvedClaims apply mapClaims
  dsimp only
  rw [List.filter_map,only,List.filter_eq,List.count_eq_one_of_mem nodup (claim_found found).1]
  show [approving c.publicId f olds c] = [f c]
  unfold approving
  rw [if_pos rfl]

theorem write_owned {id : ListingId} {w : ListingWrite} (owned : Owned r id) : Owned (apply r (.write id w)) id := by
  have written : (apply r (.write id w)).listings id = some (w.apply (r.listings id)) := if_pos rfl
  obtain ⟨holders,mirrored⟩ := owned
  cases before : r.listings id with
  | none =>
      rw [before] at written
      refine ⟨?_,?_⟩
      · unfold ownerOf at holders ⊢
        rw [before] at holders
        rw [written]
        exact holders
      · intro row there
        rw [written] at there
        cases there
        exact iff_of_false nofun nofun
  | some row =>
      rw [before] at written
      refine ⟨?_,?_⟩
      · unfold ownerOf at holders ⊢
        rw [before] at holders
        rw [written]
        exact holders
      · intro row' there
        rw [written] at there
        cases there
        exact mirrored row before

theorem owned_preserved (r : Rows) (x : Change) (allowed : Allowed p r x) (keyed : Keyed r) (owned : ∀ l, Owned r l) :
    ∀ l, Owned (apply r x) l := by
  intro l
  by_cases held : LockKey.listing l ∈ x.keys
  · cases x with
    | approve c f olds =>
        have here : l = c.listing := by simpa [Change.keys] using held
        subst here
        have winner := approved_winner keyed allowed
        obtain ⟨there,_,_,same,_⟩ := allowed
        obtain ⟨row,there⟩ := Option.isSome_iff_exists.mp there
        have assigned : (apply r (.approve c f olds)).listings c.listing =
            some {row with owner := some c.claimant,status := .claimed} := by
          unfold apply owning
          dsimp only
          rw [if_pos rfl,there,Option.map_some]
        refine ⟨?_,?_⟩
        · rw [winner]
          unfold ownerOf
          rw [assigned]
          show [(f c).claimant] = [c.claimant]
          rw [same.claimant]
        · intro row' found
          rw [assigned] at found
          cases found
          exact iff_of_true rfl rfl
    | write id w =>
        have here : l = id := by simpa [Change.keys] using held
        subst here
        exact write_owned (owned l)
    | _ => simp [Change.keys] at held
  · obtain ⟨holders,mirrored⟩ := owned l
    have row := listing_kept r held
    refine ⟨?_,?_⟩
    · rw [approved_kept keyed allowed held (·.claimant) fun _ _ same => same.claimant,holders]
      unfold ownerOf
      rw [row]
    · rw [row]
      exact mirrored

end ownership

end Osds.Claims

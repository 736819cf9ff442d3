import Osds.Claims.Locking

namespace Osds.Claims
open Directory Audit

-- The counters of a pair: never at a threshold but that of the lock.
structure Counted (g : Guard) : Prop where
  wrongEntries : g.wrongEntries < MAX_WRONG_ENTRIES
  cooldowns : g.cooldowns ≤ MAX_COOLDOWNS
  locked : g.verificationLockedAt.isSome ↔ g.cooldowns = MAX_COOLDOWNS
  full : g.cooldowns = MAX_COOLDOWNS → g.wrongEntries = 0

def newestCode (r : Rows) (id : ClaimId) : Option IssuedCode := r.codes.find? (·.claim = id)

def Live (p : Platform) (r : Rows) (c : Claim) : Prop :=
  ∀ h, c.codeHash = some h → ∃ k, newestCode r c.publicId = some k ∧ h = p.hashCode c.publicId k.code ∧
    c.expiresAt = some k.expiresAt

-- The wrong codes that a pair's counters stand for.
def spent (g : Guard) : Nat := MAX_WRONG_ENTRIES * g.cooldowns + g.wrongEntries

theorem spent_bound (counted : Counted g) : spent g ≤ 15 := by
  obtain ⟨wrong,cooldowns,_,full⟩ := counted
  unfold spent
  unfold MAX_WRONG_ENTRIES at wrong ⊢
  unfold MAX_COOLDOWNS at cooldowns full
  omega

section counters

variable {p : Platform} {r : Rows} {x : Change} {g : Guard}

theorem calm_counted {g' : Guard} (calm : Calm g g') (counted : Counted g) : Counted g' := by
  obtain ⟨wrong,cooldowns,locked,full⟩ := counted
  refine ⟨?_,?_,?_,?_⟩
  · rw [calm.wrongEntries]
    exact wrong
  · rw [calm.cooldowns]
    exact cooldowns
  · rw [calm.locked,calm.cooldowns]
    exact locked
  · rw [calm.cooldowns,calm.wrongEntries]
    exact full

theorem unlocked_room (counted : Counted g) (unlocked : g.verificationLockedAt = none) : g.cooldowns < MAX_COOLDOWNS := by
  have differ : g.cooldowns ≠ MAX_COOLDOWNS := by
    intro full
    have locks := counted.locked.mpr full
    rw [unlocked] at locks
    cases locks
  exact lt_of_le_of_ne counted.cooldowns differ

theorem wrong_counted (counted : Counted g) (unlocked : g.verificationLockedAt = none) (now : Time) :
    Counted (wrongGuard g now) := by
  have room := unlocked_room counted unlocked
  unfold wrongGuard
  split
  · next below =>
      refine ⟨below,Nat.le_of_lt room,?_,fun full => absurd full (Nat.ne_of_lt room)⟩
      rw [unlocked]
      exact iff_of_false nofun (Nat.ne_of_lt room)
  · refine ⟨Nat.zero_lt_succ 4,room,?_,fun _ => rfl⟩
    dsimp only
    split
    · next full => exact iff_of_true rfl (Nat.le_antisymm room full)
    · next notFull =>
        rw [unlocked]
        exact iff_of_false nofun fun full => notFull (Nat.le_of_eq full.symm)

theorem wrong_spent (counted : Counted g) (now : Time) : spent (wrongGuard g now) = spent g + 1 := by
  have wrong := counted.wrongEntries
  unfold wrongGuard spent
  split
  · rfl
  · next full =>
      unfold MAX_WRONG_ENTRIES at *
      dsimp only
      omega

theorem unlocked_counted (g : Guard) : Counted (unlockedGuard g) :=
  ⟨Nat.zero_lt_succ 4,Nat.zero_le _,iff_of_false nofun nofun,fun _ => rfl⟩

theorem unblocked_counted (counted : Counted g) : Counted (unblockedGuard g) :=
  ⟨counted.wrongEntries,counted.cooldowns,counted.locked,counted.full⟩

theorem guards_updated (r : Rows) (l : ListingId) (u : String) (f : Guard → Guard) {P : Guard → Prop}
    (changed : P (f (r.guards l u))) (others : ∀ l' u', P (r.guards l' u')) (l' : ListingId) (u' : String) :
    P ((r.updateGuard l u f).guards l' u') := by
  unfold Rows.updateGuard
  dsimp only
  split
  · next same =>
      rw [same.1,same.2]
      exact changed
  · exact others l' u'

theorem counted_preserved (r : Rows) (x : Change) (allowed : Allowed p r x) (counted : ∀ l u, Counted (r.guards l u)) :
    ∀ l u, Counted ((apply r x).guards l u) := by
  cases x with
  | count l u f => exact guards_updated r l u f (calm_counted allowed (counted l u)) counted
  | guess l u now opened => exact guards_updated r l u (wrongGuard · now) (wrong_counted (counted l u) allowed.1 now) counted
  | block l u f opened =>
      have held := calm_counted allowed.2.2.1 (counted l u)
      exact guards_updated r l u f ⟨held.wrongEntries,held.cooldowns,held.locked,held.full⟩ counted
  | rule i f decided =>
      rcases allowed.2 with ⟨_,clears⟩ | ⟨_,clears⟩
      · rw [clears]
        exact guards_updated r _ _ _ (unlocked_counted _) counted
      · rw [clears]
        exact guards_updated r _ _ _ (unblocked_counted (counted _ _)) counted
  | _ => exact counted

theorem live_kept {c c' : Claim} (same : c'.publicId = c.publicId) (kept : CodeKept c c') (live : Live p r c) : Live p r c' := by
  intro h coded
  rcases kept with gone | ⟨code,deadline⟩
  · rw [gone] at coded
    cases coded
  · rw [code] at coded
    rw [deadline,same]
    exact live h coded

theorem live_updated {id : ClaimId} {c : Claim} {f : Claim → Claim} (keyed : Keyed r) (found : r.claim id = some c)
    (same : SameClaim c (f c)) (kept : CodeKept c (f c)) (live : ∀ c ∈ r.claims, Live p r c) :
    ∀ c ∈ (r.updateClaim id f).claims, Live p (r.updateClaim id f) c := by
  intro c' present
  obtain ⟨old,there,rfl⟩ := List.mem_map.mp present
  by_cases named : old.publicId = id
  · rw [if_pos named,claim_unique keyed found there named]
    exact live_kept same.publicId kept (live c (claim_found found).1)
  · rw [if_neg named]
    exact live old there

theorem live_preserved (r : Rows) (x : Change) (allowed : Allowed p r x) (keyed : Keyed r) (live : ∀ c ∈ r.claims, Live p r c) :
    ∀ c ∈ (apply r x).claims, Live p (apply r x) c := by
  cases x with
  | submit c =>
      obtain ⟨_,_,codeless,_⟩ := allowed
      intro c' present
      rcases List.mem_append.mp present with old | new
      · exact live c' old
      · rw [List.mem_singleton.mp new]
        intro h coded
        rw [codeless] at coded
        cases coded
  | amend id f =>
      obtain ⟨c,found,amends⟩ := allowed
      exact live_updated keyed found amends.toSameClaim amends.code live
  | dispute id f opened =>
      obtain ⟨c,found,_,same,_,kept,_⟩ := allowed
      exact live_updated keyed found same kept live
  | settle i decided =>
      obtain ⟨_,_,c,found,_⟩ := allowed
      have same : SameClaim c (pending c) := ⟨rfl,rfl,rfl⟩
      exact live_updated keyed found same (.inr ⟨rfl,rfl⟩) live
  | issue id f code expiresAt =>
      obtain ⟨c,found,same,_,hash,deadline⟩ := allowed
      intro c' present
      obtain ⟨old,there,rfl⟩ := List.mem_map.mp present
      by_cases named : old.publicId = id
      · rw [if_pos named,claim_unique keyed found there named]
        intro h coded
        have mine : (f c).publicId = id := same.publicId.trans (claim_found found).2
        refine ⟨⟨id,code,expiresAt⟩,?_,?_,deadline⟩
        · unfold newestCode apply
          rw [mine]
          exact List.find?_cons_of_pos (by simp)
        · rw [hash] at coded
          rw [mine]
          exact (Option.some.inj coded).symm
      · rw [if_neg named]
        intro h coded
        obtain ⟨k,newest,rest⟩ := live old there h coded
        refine ⟨k,?_,rest⟩
        unfold newestCode apply
        dsimp only
        rw [List.find?_cons_of_neg (by simpa using fun same => named same.symm)]
        exact newest
  | approve c f olds =>
      obtain ⟨_,found,_,same,_,kept,_⟩ := allowed
      intro c' present
      obtain ⟨old,there,rfl⟩ := List.mem_map.mp present
      unfold approving
      by_cases named : old.publicId = c.publicId
      · rw [if_pos named,claim_unique keyed found there named]
        exact live_kept same.publicId kept (live c (claim_found found).1)
      · rw [if_neg named]
        split
        · exact live_kept rfl (.inr ⟨rfl,rfl⟩) (live old there)
        · exact live old there
  | _ => exact live

end counters

end Osds.Claims

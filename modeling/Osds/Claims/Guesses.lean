import Osds.Claims.Reachable
import Osds.Claims.Storable

namespace Osds.Claims
open Directory Audit RowLocks

structure WrongGuess where
  office : Office
  claim : Claim
  itemId : String
  now : Time

section guesses

variable (p : Platform) (l : ListingId) (u : String)

def wrongGuess (s : State) (action : Action Command) : Option WrongGuess :=
  match ending s action with
  | some (.verify o id code itemId now) =>
      match s.store.claim id with
      | some c =>
          if (c.listing = l ∧ c.claimant.id = u) ∧ verifyRefusal c (s.store.guards l u) now = none ∧
              c.codeHash ≠ some (p.hashCode id code) then some ⟨o,c,itemId,now⟩
          else none
      | none => none
  | _ => none

def guesses (s : State) (action : Action Command) : Bool := (wrongGuess p l u s action).isSome

def unlocks (s : State) (action : Action Command) : Bool :=
  match ending s action with
  | some (.unlock _ id _) => (s.store.item id).any fun i => i.listing = l && i.claimant.id = u
  | _ => false

-- What the third cooldown inserts can be stored: its item under a new id, and a
-- notice to each operator due one.
def LockFits (t : Tables) (g : WrongGuess) : Prop :=
  (∀ i ∈ t.items, i.publicId ≠ g.itemId) ∧ (g.claim.status = .disputed ∨ NoticeFits g.office t g.now)

def Fits (s : State) (action : Action Command) : Prop :=
  ∀ g, wrongGuess p l u s action = some g → wrongReason (s.store.guards l u) = "locked" → LockFits s.store g

instance (o : Office) (t : Tables) (now : Time) : Decidable (NoticeFits o t now) := inferInstanceAs (Decidable (∀ _ ∈ _, _))

instance (t : Tables) (g : WrongGuess) : Decidable (LockFits t g) := inferInstanceAs (Decidable (_ ∧ _))

instance (s : State) (action : Action Command) : Decidable (Fits p l u s action) :=
  match guessed : wrongGuess p l u s action with
  | none => .isTrue fun _ same => nomatch guessed.symm.trans same
  | some g => decidable_of_iff (wrongReason (s.store.guards l u) = "locked" → LockFits s.store g)
      ⟨fun fits _ same => (Option.some.inj (guessed.symm.trans same)) ▸ fits,fun fits => fits g guessed⟩

def accepted (s : State) (action : Action Command) : Option (ClaimId × String × Time) :=
  match ending s action with
  | some (.verify _ id code _ now) =>
      if (s.store.claim id).any (·.verifiedAt.isNone) ∧ ((step p s action).store.claim id).any (·.verifiedAt.isSome) then
        some (id,code,now)
      else none
  | _ => none

end guesses

section bound

variable {p : Platform} {l : ListingId} {u : String} {s : State} {action : Action Command} {r r' : Rows} {t t' : Tables}

theorem wrongGuess_spec {g : WrongGuess} (guessed : wrongGuess p l u s action = some g) :
    ∃ id code, ending s action = some (.verify g.office id code g.itemId g.now) ∧ s.store.claim id = some g.claim ∧
      (g.claim.listing = l ∧ g.claim.claimant.id = u) ∧ verifyRefusal g.claim (s.store.guards l u) g.now = none ∧
      g.claim.codeHash ≠ some (p.hashCode id code) := by
  unfold wrongGuess at guessed
  split at guessed
  · next o id code itemId now ends =>
      split at guessed
      · next c found =>
          split at guessed
          · next holds =>
              cases guessed
              exact ⟨id,code,ends,found,holds⟩
          · cases guessed
      · cases guessed
  · cases guessed

theorem guess_ends (sound : Sound p s) {g : WrongGuess} (guessed : wrongGuess p l u s action = some g) :
    (step p s action).store =
      after s.store (.committed (wrongCode g.office s.store g.claim (s.store.guards l u) g.itemId g.now)) := by
  obtain ⟨id,code,ends,found,pair,_,wrong⟩ := wrongGuess_spec guessed
  obtain ⟨held,result,done,moved⟩ := ending_exec sound ends
  obtain ⟨c,there,_,_,_,⟨_,is,_⟩ | ⟨right,_⟩⟩ := verify_exec done
  · cases found.symm.trans there
    rw [is] at moved
    rw [← pair.1,← pair.2]
    exact moved
  · cases found.symm.trans there
    exact absurd right wrong

theorem guess_counted (sound : Sound p s) {g : WrongGuess} (guessed : wrongGuess p l u s action = some g)
    (fits : wrongReason (s.store.guards l u) = "locked" → LockFits s.store g) :
    (step p s action).store.guards l u = wrongGuard (s.store.guards l u) g.now := by
  have moved := guess_ends sound guessed
  obtain ⟨id,code,_,found,⟨rfl,rfl⟩,accepted,_⟩ := wrongGuess_spec guessed
  obtain ⟨named⟩ : g.claim.publicId = id := (claim_found found).2
  have unlocked := (verifyRefusal_none accepted).2.2.1
  obtain ⟨t',done⟩ := (wrongCode_exact sound.store unlocked).mpr fits
  obtain ⟨_,guards,_⟩ := wrongCode_commits sound.store found unlocked done
  rw [moved,done]
  unfold after
  dsimp only
  rw [guards]
  exact guard_updated s.store.toRows _ _ (wrongGuard · g.now)

theorem guess_lost (sound : Sound p s) {g : WrongGuess} (guessed : wrongGuess p l u s action = some g)
    (locks : wrongReason (s.store.guards l u) = "locked") (full : ¬LockFits s.store g) :
    (step p s action).store = s.store := by
  have moved := guess_ends sound guessed
  obtain ⟨id,code,_,found,⟨rfl,rfl⟩,accepted,_⟩ := wrongGuess_spec guessed
  have unlocked := (verifyRefusal_none accepted).2.2.1
  rw [moved]
  cases ends : wrongCode g.office s.store g.claim (s.store.guards g.claim.listing g.claim.claimant.id) g.itemId g.now with
  | error _ => rfl
  | ok t' => exact absurd ((wrongCode_exact sound.store unlocked).mp ⟨t',ends⟩ locks) full

theorem calm_spent {g g' : Guard} (calm : Calm g g') : spent g' = spent g := by
  unfold spent
  rw [calm.wrongEntries,calm.cooldowns]

theorem spent_kept {x : Change} {gives : ListingId → Prop} (allowed : Allowed p r x)
    (only : x.only False (· = .claimBlock) gives) : spent ((apply r x).guards l u) = spent (r.guards l u) := by
  have updated : ∀ l' u' (f : Guard → Guard), spent (f (r.guards l' u')) = spent (r.guards l' u') →
      spent ((r.updateGuard l' u' f).guards l u) = spent (r.guards l u) := by
    intro l' u' f same
    unfold Rows.updateGuard
    dsimp only
    split
    · next here =>
        rw [here.1,here.2]
        exact same
    · rfl
  cases x with
  | guess l' u' now opened => exact False.elim only
  | count l' u' f => exact updated l' u' f (calm_spent allowed)
  | block l' u' f opened =>
      have calm := calm_spent allowed.2.2.1
      exact updated l' u' f calm
  | rule i f decided =>
      rcases allowed.2 with ⟨locks,_⟩ | ⟨_,clears⟩
      · cases locks.symm.trans only
      · exact updated _ _ f (by rw [clears]; rfl)
  | _ => rfl

theorem commits_spent {held : List LockKey} {guesses : Prop} {rules : ItemType → Prop} {gives : ListingId → Prop}
    (commits : Commits p (Change.only guesses rules gives) held r r') (none_ : ¬guesses)
    (blocks_ : ∀ itemType, rules itemType → itemType = .claimBlock) : spent (r'.guards l u) = spent (r.guards l u) := by
  obtain ⟨xs,changes,all⟩ := commits
  induction changes with
  | nil => rfl
  | cons allowed _ ih =>
      have later := ih fun x listed => all x (List.mem_cons_of_mem _ listed)
      have only := (all _ (List.mem_cons_self ..)).1
      exact later.trans (spent_kept allowed (only_mono none_ blocks_ (fun _ gives => gives) _ only))

theorem other_pair {o : Office} {id : ClaimId} {code itemId : String} {now : Time} {c : Claim}
    (none_ : wrongGuess p l u s action = none) (ends : ending s action = some (.verify o id code itemId now))
    (found : s.store.claim id = some c) (accepted : verifyRefusal c (s.store.guards c.listing c.claimant.id) now = none)
    (wrong : c.codeHash ≠ some (p.hashCode id code)) : ¬(l = c.listing ∧ u = c.claimant.id) := by
  intro same
  obtain ⟨rfl,rfl⟩ := same
  unfold wrongGuess at none_
  rw [ends] at none_
  dsimp only at none_
  rw [found] at none_
  dsimp only at none_
  rw [if_pos ⟨⟨rfl,rfl⟩,accepted,wrong⟩] at none_
  cases none_

theorem quiet_spent (sound : Sound p s) (none_ : wrongGuess p l u s action = none) (kept : unlocks l u s action = false) :
    spent ((step p s action).store.guards l u) = spent (s.store.guards l u) := by
  cases ends : ending s action with
  | none => exact congrArg (fun t : Tables => spent (t.guards l u)) (quiet_store ends)
  | some cmd =>
      obtain ⟨held,result,done,moved⟩ := ending_exec sound ends
      unfold step
      rw [moved]
      cases result with
      | error refused => rfl
      | ok t' =>
          show spent (t'.guards l u) = _
          have commits := command_commits cmd sound.store done
          cases cmd with
          | verify o id code itemId now =>
              obtain ⟨c,found,accepted,claimHeld,_,⟨wrong,is,_⟩ | ⟨_,right⟩⟩ := verify_exec done
              · have apart := other_pair none_ ends found accepted wrong
                have unlocked := (verifyRefusal_none accepted).2.2.1
                obtain ⟨named⟩ : c.publicId = id := (claim_found found).2
                obtain ⟨_,guards,_⟩ := wrongCode_commits sound.store found unlocked is.symm
                rw [guards]
                exact congrArg spent (if_neg apart)
              · obtain ⟨named⟩ : c.publicId = id := (claim_found found).2
                have verifiable := (verifyRefusal_none accepted).1
                exact commits_spent (right_commits code sound.store found verifiable claimHeld right) not_false nofun
          | unlock o id ruling =>
              obtain ⟨i,named,found,_,_,_,is⟩ := queue_exec done
              have apart : ¬(l = i.listing ∧ u = i.claimant.id) := by
                intro same
                unfold unlocks at kept
                rw [ends] at kept
                dsimp only at kept
                rw [← named,found,Option.any_some,same.1,same.2] at kept
                simp at kept
              rw [is]
              unfold decideQueued decideItem
              split
              · exact congrArg spent (if_neg apart)
              · rfl
          | unblock o id ruling => exact commits_spent commits not_false fun _ rules => rules
          | _ => exact commits_spent commits not_false nofun

theorem spent_step (s : State) (action : Action Command) (sound : Sound p s)
    (admitted : unlocks l u s action = false ∧ Fits p l u s action) :
    spent ((step p s action).store.guards l u) = spent (s.store.guards l u) + (guesses p l u s action).toNat := by
  unfold guesses
  cases guessed : wrongGuess p l u s action with
  | none => exact quiet_spent sound guessed admitted.1
  | some g =>
      rw [guess_counted sound guessed (admitted.2 g guessed),wrong_spent (sound.store.counted l u)]
      rfl

theorem accepted_live (sound : Sound p s) {id : ClaimId} {code : String} {now : Time}
    (accepts : accepted p s action = some (id,code,now)) :
    ∃ c, s.store.claim id = some c ∧ (s.store.guards c.listing c.claimant.id).verificationLockedAt = none ∧
      (s.store.guards c.listing c.claimant.id).cooldownUntil.any (now < ·) = false ∧
      ∃ k, newestCode s.store.toRows id = some k ∧ p.hashCode id code = p.hashCode id k.code ∧ now < k.expiresAt := by
  unfold accepted at accepts
  split at accepts
  · next o id' code' itemId now' ends =>
      split at accepts
      · next both =>
          cases accepts
          obtain ⟨before,verifies⟩ := both
          obtain ⟨held,result,done,moved⟩ := ending_exec sound ends
          obtain ⟨c,found,open_,_,_,either⟩ := verify_exec done
          obtain ⟨_,unverified,unlocked,warm,fresh⟩ := verifyRefusal_none open_
          obtain ⟨named⟩ : c.publicId = id := (claim_found found).2
          refine ⟨c,found,unlocked,warm,?_⟩
          rcases either with ⟨wrong,is,_⟩ | ⟨right,_⟩
          · unfold step at verifies
            rw [moved] at verifies
            cases result with
            | error refused =>
                have still : (s.store.claim c.publicId).any (·.verifiedAt.isSome) = true := verifies
                rw [found,Option.any_some,unverified] at still
                cases still
            | ok t' =>
                obtain ⟨_,_,claims⟩ := wrongCode_commits sound.store found unlocked is.symm
                have same := (wrongClaim_amends (s.store.guards c.listing c.claimant.id) c).toSameClaim
                have counted : t'.claim c.publicId = some (wrongClaim (s.store.guards c.listing c.claimant.id) c) := by
                  unfold Rows.claim
                  rw [claims]
                  exact (claim_updated sound.store.keyed found same c.publicId).trans (if_pos rfl)
                have verifies : (t'.claim c.publicId).any (·.verifiedAt.isSome) = true := verifies
                rw [counted,Option.any_some] at verifies
                have unmoved : (wrongClaim (s.store.guards c.listing c.claimant.id) c).verifiedAt = c.verifiedAt := by
                  unfold wrongClaim
                  split
                  · rfl
                  · split <;> rfl
                rw [unmoved,unverified] at verifies
                cases verifies
          · obtain ⟨k,newest,hash,deadline⟩ := sound.store.live c (claim_found found).1 _ right
            refine ⟨k,newest,hash,?_⟩
            rw [deadline,Option.any_some,decide_eq_false_iff_not] at fresh
            exact Int.not_le.mp fresh
      · cases accepts
  · cases accepts

end bound

-- From any state reached, along any run with no unlock of the pair whose locking
-- guesses fit, fifteen wrong codes at most are compared; the counters keep their
-- bounds in every state; and a code is accepted only live. A locking guess that does
-- not fit is compared and leaves no trace.
theorem brute_force_bound {p : Platform} {s : State} (path : Runs.Reached (step p) Initial s) (l : ListingId) (u : String) :
    (∀ actions, Runs.count (step p) (unlocks l u) s actions = 0 → Runs.Along (step p) (Fits p l u) s actions →
      Runs.count (step p) (guesses p l u) s actions ≤ 15) ∧
    ((s.store.guards l u).wrongEntries < 5 ∧ (s.store.guards l u).cooldowns ≤ 3 ∧
      ((s.store.guards l u).verificationLockedAt.isSome ↔ (s.store.guards l u).cooldowns = 3)) ∧
    (∀ action id code now, accepted p s action = some (id,code,now) →
      ∃ c, s.store.claim id = some c ∧ (s.store.guards c.listing c.claimant.id).verificationLockedAt = none ∧
        (s.store.guards c.listing c.claimant.id).cooldownUntil.any (now < ·) = false ∧
        ∃ k, newestCode s.store.toRows id = some k ∧ p.hashCode id code = p.hashCode id k.code ∧ now < k.expiresAt) ∧
    ∀ action, ¬Fits p l u s action → guesses p l u s action = true ∧ (step p s action).store = s.store := by
  have sound := reached_sound path
  have counted := sound.store.counted l u
  refine ⟨?_,⟨counted.wrongEntries,counted.cooldowns,counted.locked⟩,fun _ _ _ _ accepts => accepted_live sound accepts,?_⟩
  · intro actions locked fits
    have admitted := Runs.along_and (step p) (Runs.along_of_count (step p) locked) fits
    have spends := Runs.along_count (step p) (fun s => spent (s.store.guards l u)) step_sound spent_step sound admitted
    have ends := Runs.run_invariant (step p) step_sound sound actions
    have bound := spent_bound (ends.store.counted l u)
    omega
  · intro action unfit
    unfold Fits at unfit
    push Not at unfit
    obtain ⟨g,guessed,locks,full⟩ := unfit
    refine ⟨?_,guess_lost sound guessed locks full⟩
    unfold guesses
    rw [guessed]
    rfl

def guessing (n : Nat) : List (Action Command) :=
  let o := officeOf (String.ofList (List.replicate n 'a'))
  let guess : Time → Command := fun now => .verify o "A" "wrong" "I" (now * minute)
  inTurn <| .submit o (submission "ann" "A" "1" 0) :: List.replicate 5 (guess 1) ++
    .resend o "A" "2" (20 * minute) :: List.replicate 5 (guess 21) ++ .resend o "A" "3" (40 * minute) :: List.replicate 7 (guess 41)

theorem guesses_bounded : Runs.count (step byCode) (guesses byCode "L" "UA") (RowLocks.start (shopTables "Shop")) (guessing 171) ≤ 15 :=
  (brute_force_bound (shop_reached byCode "Shop" []) "L" "UA").1 (guessing 171) (by decide +kernel) (by decide +kernel)

-- The notice's subject does not fit: no guess from the fifteenth on is counted.
theorem guesses_unbounded : ¬∀ s, Runs.Reached (step byCode) Initial s → ∀ l u actions,
    Runs.count (step byCode) (unlocks l u) s actions = 0 → Runs.count (step byCode) (guesses byCode l u) s actions ≤ 15 := by
  intro bounded
  have count : Runs.count (step byCode) (guesses byCode "L" "UA") (RowLocks.start (shopTables "Shop")) (guessing 172) = 17 := by
    decide +kernel
  have bound := bounded _ (shop_reached byCode "Shop" []) "L" "UA" (guessing 172) (by decide +kernel)
  rw [show Runs.run (step byCode) (RowLocks.start (shopTables "Shop")) [] = RowLocks.start (shopTables "Shop") from rfl,count] at bound
  exact absurd bound (by decide)

end Osds.Claims

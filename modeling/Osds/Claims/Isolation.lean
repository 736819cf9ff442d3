import Osds.Claims.Commits

namespace Osds.Claims
open Directory Audit

section submission

variable {p : Platform} {o : Office} {t t' : Tables} {s : Submission} {u : DirectoryUser} {c : Claim} {held : List LockKey}

theorem mintUser_commits (p : Platform) {minted : Bool} (userHeld : minted = true → .user u.email ∈ held)
    (done : mintUser o t s u minted = .ok t') :
    Commits p Change.plain held t.toRows t'.toRows ∧ t'.claims = t.claims ∧ (minted = true → u.email.length ≤ 254) := by
  unfold mintUser at done
  cases minted with
  | false =>
      cases done
      exact ⟨commits_nothing,rfl,fun minted => absurd minted Bool.false_ne_true⟩
  | true =>
      rw [if_neg (by decide)] at done
      split at done
      · cases done
      · split at done
        · cases done
        · next fits =>
            have short : u.email.length ≤ 254 := Nat.le_of_not_lt fun long => fits (.inl long)
            cases done
            have allowed : Allowed p t.toRows (.mint u) := short
            refine ⟨commits_one allowed trivial ?_,rfl,fun _ => short⟩
            intro k named
            rw [List.mem_singleton.mp named]
            exact userHeld rfl

theorem createClaim_rows (done : createClaim o t s c = .ok t') : t'.toRows = apply t.toRows (.submit c) := by
  unfold createClaim at done
  split at done
  · cases done
  · cases done
    rfl

theorem submit_commits {minted : Bool} {seen : Listing} {starting : Option (Listing × Guard)}
    (done : submit p o t s u minted c seen starting = .ok t') (consistent : Consistent p t.toRows)
    (fresh : t.claim c.publicId = none) (pends : c.status = .pendingVerification) (codeless : c.codeHash = none) (claimant : c.claimant = u) (known : minted = false → u ∈ t.users)
    (userHeld : minted = true → .user u.email ∈ held) (claimHeld : .claim c.publicId ∈ held)
    (guardHeld : starting.isSome → .guard c.listing c.claimant.id ∈ held)
    (itemHeld : seen.status = .claimed → .item s.itemId ∈ held) : Commits p Change.plain held t.toRows t'.toRows := by
  obtain ⟨met,mints,done⟩ := Fallible.bind_exact.mp done
  obtain ⟨created,creates,done⟩ := Fallible.bind_exact.mp done
  obtain ⟨first,claims,short⟩ := mintUser_commits p userHeld mints
  have fits : c.claimant.email.length ≤ 254 := by
    rw [claimant]
    cases minted with
    | true => exact short rfl
    | false => exact consistent.addressed.users u (known rfl)
  have absent : met.claim c.publicId = none := by
    unfold Rows.claim
    rw [claims]
    exact fresh
  have submits : Allowed p met.toRows (.submit c) := ⟨absent,pends,codeless,fits⟩
  have second : Commits p Change.plain held met.toRows created.toRows := by
    rw [createClaim_rows creates]
    exact commits_one submits trivial (fun k named => (List.mem_singleton.mp named) ▸ claimHeld)
  have consistent' := commits_consistent second (commits_consistent first consistent)
  have there : created.claim c.publicId = some c := by
    rw [createClaim_rows creates]
    unfold apply Rows.claim
    dsimp only
    rw [List.find?_append,show met.claims.find? (fun a => a.publicId = c.publicId) = none from absent,Option.none_or]
    exact List.find?_cons_of_pos (decide_eq_true rfl)
  have ends : ∀ started : Tables, Commits p Change.plain held created.toRows started.toRows →
      (∃ c', started.claim c.publicId = some c' ∧ c'.status = c.status) → ∀ waits : Prop, [Decidable waits] →
      (if seen.status = .claimed then dispute o started c (visitor u) s.itemId s.now
        else if waits then notifyOperators o started s.now else .ok started) = .ok t' →
      Commits p Change.plain held t.toRows t'.toRows := by
    intro started third found waits _ done
    have all := commits_trans (commits_trans first second) third
    split at done
    · next claimed =>
        obtain ⟨c',found,same⟩ := found
        have disputes := dispute_commits (commits_consistent third consistent') found (same.trans pends) done
        refine commits_trans all (commits_mono (fun _ plain => plain) ?_ disputes)
        intro k named
        rcases List.mem_cons.mp named with is | named
        · exact is ▸ claimHeld
        · exact List.mem_singleton.mp named ▸ itemHeld claimed
    · split at done
      · rw [notifyOperators_rows done]
        exact all
      · cases done
        exact all
  cases starting with
  | none => exact ends created commits_nothing ⟨c,there,rfl⟩ _ done
  | some starts =>
      obtain ⟨l,g⟩ := starts
      obtain ⟨started,starts,done⟩ := Fallible.bind_exact.mp done
      obtain ⟨third,found⟩ := start_commits consistent'.keyed there starts
      refine ends started (commits_mono (fun _ plain => plain) ?_ third) found _ done
      intro k named
      rcases List.mem_cons.mp named with is | named
      · exact is ▸ claimHeld
      · exact List.mem_singleton.mp named ▸ guardHeld rfl

end submission

-- What a command's script comes to, run at once on the tables.
section executions

open RowLocks

variable {p : Platform} {o : Office} {t t' : Tables} {held : List LockKey} {result : Except ClaimError Tables}

theorem exec_lockEach {ks : List LockKey} {next : Script} {ending : Ending Tables ClaimError}
    (done : Exec database t (lockEach ks next) held ending) : ∃ more, held = ks ++ more ∧ Exec database t next more ending := by
  induction ks generalizing held with
  | nil => exact ⟨held,rfl,done⟩
  | cons k rest ih =>
      obtain ⟨locked,rfl,first⟩ := exec_lock done
      obtain ⟨more,rfl,others⟩ := ih first
      exact ⟨more,rfl,others⟩

theorem approval_exec {c : Claim} {row : ListingRow} {l : Listing} {actor : Actor} {manual : Option Manual}
    {items : List LockKey} {before : Tables → Tables} {now : Time}
    (done : Exec database t (approvalScript p o c row l actor manual items before now) held (.committed result)) :
    ∃ ks, (∀ k ∈ ks, isLoser c.listing c.publicId k (rowOf t.toRows k) = true) ∧
      (∀ k ∈ (row.approved.filter (· ≠ c.publicId)).map .claim ++ ks ++ items, k ∈ held) ∧
      result = approveClaim p o (before t) c l actor manual (row.approved.filter (· ≠ c.publicId)) (claimIds ks) now := by
  obtain ⟨locked,rfl,retired⟩ := exec_lockEach done
  obtain ⟨ks,skipped,rfl,losers,decided⟩ := exec_skipLocked retired
  obtain ⟨more,rfl,last⟩ := exec_lockEach decided
  cases exec_commit last
  refine ⟨ks,losers,?_,rfl⟩
  intro k named
  simp only [List.mem_append] at named ⊢
  tauto

theorem losing_of_losers {c : Claim} {ks : List LockKey}
    (losers : ∀ k ∈ ks, isLoser c.listing c.publicId k (rowOf t.toRows k) = true) :
    Losing t.toRows c (claimIds ks) ∧ ∀ k ∈ (claimIds ks).map LockKey.claim, k ∈ ks := by
  have named : ∀ id ∈ claimIds ks, LockKey.claim id ∈ ks := by
    intro id listed
    obtain ⟨k,there,is⟩ := List.mem_filterMap.mp listed
    cases k with
    | claim id' =>
        cases is
        exact there
    | _ => cases is
  refine ⟨?_,?_⟩
  · intro id listed
    have loses := losers _ (named id listed)
    unfold isLoser at loses
    rw [Bool.and_eq_true,decide_eq_true_eq] at loses
    obtain ⟨differ,row⟩ := loses
    refine ⟨differ,?_⟩
    have row : (t.claim id).any (fun c' => c'.listing = c.listing && c'.status = .pendingVerification) = true := row
    cases found : t.claim id with
    | none =>
        rw [found] at row
        cases row
    | some c' =>
        rw [found,Option.any_some,Bool.and_eq_true,decide_eq_true_eq,decide_eq_true_eq] at row
        exact ⟨c',rfl,row.2⟩
  · intro k there
    obtain ⟨id,listed,rfl⟩ := List.mem_map.mp there
    exact named id listed

theorem olds_exact {c : Claim} (l : ListingId) (keyed : Keyed t.toRows) (found : t.claim c.publicId = some c)
    (waits : c.status ≠ .approved) :
    ((rowOf t.toRows (.listing l) : ListingRow).approved.filter (· ≠ c.publicId)) =
      (approvedClaims t.toRows l).map (·.publicId) := by
  refine List.filter_eq_self.mpr ?_
  intro id named
  refine decide_eq_true ?_
  intro same
  have holds := approved_listing keyed rfl (claim_found found).1 (same ▸ named)
  exact waits holds.2

theorem resolve_exec {c : Claim} {itemId : String} {now : Time}
    (done : Exec database t (resolveScript p o c itemId now) held (.committed result)) :
    ∃ l, t.listings c.listing = some l ∧ .listing c.listing ∈ held ∧
      ((l.status = .suspended ∧ result = .ok (t.updateClaim c.publicId (verified now))) ∨
      (l.status = .claimed ∧ .item itemId ∈ held ∧
        result = dispute o (t.updateClaim c.publicId (verified now)) c (visitor c.claimant) itemId now) ∨
      (l.status = .unclaimed ∧ ∃ more, (∀ k ∈ more, k ∈ held) ∧ Exec database t (approvalScript p o (verified now c)
        (rowOf t.toRows (.listing c.listing)) l (visitor c.claimant) none [] (·.updateClaim c.publicId (verified now)) now)
        more (.committed result))) := by
  obtain ⟨locked,rfl,rest⟩ := exec_lock done
  have row : database.row t (.listing c.listing) = rowOf t.toRows (.listing c.listing) := rfl
  rw [row] at rest
  cases there : t.listings c.listing with
  | none =>
      simp only [rowOf,there] at rest
      cases exec_refuse rest
  | some l =>
      refine ⟨l,rfl,List.mem_cons_self ..,?_⟩
      simp only [rowOf,there] at rest ⊢
      split at rest
      · next suspended =>
          cases exec_commit rest
          exact .inl ⟨suspended,rfl⟩
      · next notSuspended =>
          split at rest
          · next claimed =>
              obtain ⟨more,rfl,last⟩ := exec_lock rest
              cases exec_commit last
              exact .inr (.inl ⟨claimed,by simp,rfl⟩)
          · next notClaimed =>
              have unclaimed : l.status = .unclaimed := by
                cases status : l.status with
                | unclaimed => rfl
                | claimed => exact absurd status notClaimed
                | suspended => exact absurd status notSuspended
              exact .inr (.inr ⟨unclaimed,locked,fun k named => List.mem_cons_of_mem _ named,rest⟩)

theorem claim_reread {id : ClaimId} {old : ClaimRow} {seen c : Claim}
    (before : database.Before (.claim id) old (database.row t (.claim id))) (read : old.claim = some seen)
    (found : t.claim id = some c) : seen.listing = c.listing ∧ seen.claimant = c.claimant := by
  obtain ⟨c',there,same⟩ := before seen read
  have equal : c' = c := Option.some.inj (there.symm.trans found)
  rw [← equal]
  exact ⟨same.listing.symm,same.claimant.symm⟩

theorem pair_exec {id : ClaimId} {next : Guard → ClaimRow → Claim → Script}
    (done : Exec database t (lockPair id next) held (.committed result)) :
    ∃ c more, t.claim id = some c ∧ held = .guard c.listing c.claimant.id :: .claim id :: more ∧
      Exec database t (next (t.guards c.listing c.claimant.id) (rowOf t.toRows (.claim id)) c) more (.committed result) := by
  obtain ⟨old,before,first⟩ := exec_read done
  cases read : old.claim with
  | none =>
      rw [read] at first
      cases exec_refuse first
  | some seen =>
      rw [read] at first
      obtain ⟨locked,rfl,second⟩ := exec_lock first
      obtain ⟨rest,rfl,third⟩ := exec_lock second
      have row : (database.row t (.claim id)).claim = t.claim id := rfl
      rw [row] at third
      cases found : t.claim id with
      | none =>
          rw [found] at third
          cases exec_refuse third
      | some c =>
          obtain ⟨listing,claimant⟩ := claim_reread before read found
          rw [found,listing,claimant] at third
          rw [listing,claimant]
          exact ⟨c,rest,rfl,rfl,third⟩

theorem verify_exec {id : ClaimId} {code itemId : String} {now : Time}
    (done : Exec database t (verifyScript p o id code itemId now) held (.committed result)) :
    ∃ c, t.claim id = some c ∧ verifyRefusal c (t.guards c.listing c.claimant.id) now = none ∧ .claim id ∈ held ∧
      .guard c.listing c.claimant.id ∈ held ∧
      (c.codeHash ≠ some (p.hashCode id code) ∧
        result = wrongCode o t c (t.guards c.listing c.claimant.id) itemId now ∧
        (wrongReason (t.guards c.listing c.claimant.id) = "locked" → .item itemId ∈ held) ∨
      c.codeHash = some (p.hashCode id code) ∧
        (c.status = .disputed ∧ result = .ok (t.updateClaim id (verified now)) ∨
        c.status ≠ .disputed ∧ ∃ more, (∀ k ∈ more, k ∈ held) ∧
          Exec database t (resolveScript p o c itemId now) more (.committed result))) := by
  obtain ⟨c,rest,found,rfl,first⟩ := pair_exec done
  refine ⟨c,found,?_⟩
  split at first
  · cases exec_refuse first
  · next accepted =>
      refine ⟨accepted,by simp,by simp,?_⟩
      split at first
      · next wrong =>
          obtain ⟨more,rfl,last⟩ := exec_lockEach first
          cases exec_commit last
          refine .inl ⟨wrong,rfl,?_⟩
          intro locks
          simp [locks]
      · next right =>
          have same : c.codeHash = some (p.hashCode id code) := not_not.mp right
          split at first
          · next disputes =>
              cases exec_commit first
              exact .inr ⟨same,.inl ⟨disputes,rfl⟩⟩
          · next notDisputed =>
              exact .inr ⟨same,.inr ⟨notDisputed,rest,by simp +contextual,first⟩⟩

end executions

-- What a command may do besides the plain changes, and to which listing, as it finds
-- the rows.
def Gives (r : Rows) (cmd : Command) (l : ListingId) : Prop :=
  match cmd with
  | .verify .. => ∃ row, r.listings l = some row ∧ row.status = .unclaimed
  | .approve _ _ review => ∃ row, r.listings l = some row ∧ row.status ≠ .suspended ∧
      (row.status = .claimed → review.transfer = true)
  | _ => False

def Rules (cmd : Command) (itemType : ItemType) : Prop :=
  match cmd with
  | .unlock .. => itemType = .verificationLock
  | .unblock .. => itemType = .claimBlock
  | _ => False

def Guesses (cmd : Command) : Prop :=
  match cmd with
  | .verify .. => True
  | _ => False

def Command.may (r : Rows) (cmd : Command) : Change → Prop := Change.only (Guesses cmd) (Rules cmd) (Gives r cmd)

section commands

open RowLocks

variable {p : Platform} {t t' : Tables} {held : List LockKey}

theorem verifyRefusal_none {c : Claim} {g : Guard} {now : Time} (accepted : verifyRefusal c g now = none) :
    isVerifiable c = true ∧ c.verifiedAt = none ∧ g.verificationLockedAt = none ∧
      g.cooldownUntil.any (now < ·) = false ∧ c.expiresAt.any (· ≤ now) = false := by
  unfold verifyRefusal at accepted
  split at accepted
  · cases accepted
  · next verifiable =>
      split at accepted
      · cases accepted
      · split at accepted
        · cases accepted
        · next unverified =>
            split at accepted
            · cases accepted
            · next unlocked =>
                split at accepted
                · cases accepted
                · next warm =>
                    split at accepted
                    · cases accepted
                    · split at accepted
                      · cases accepted
                      · next fresh =>
                          refine ⟨not_not.mp verifiable,?_,?_,Bool.not_eq_true _ ▸ warm,Bool.not_eq_true _ ▸ fresh⟩
                          · exact Option.not_isSome_iff_eq_none.mp unverified
                          · exact Option.not_isSome_iff_eq_none.mp unlocked

theorem only_mono {guesses guesses' : Prop} {rules rules' : ItemType → Prop} {gives gives' : ListingId → Prop}
    (guess : guesses → guesses') (rule : ∀ i, rules i → rules' i) (give : ∀ l, gives l → gives' l) (x : Change)
    (is : x.only guesses rules gives) : x.only guesses' rules' gives' := by
  cases x with
  | guess l u now opened => exact guess is
  | rule i f decided => exact rule _ is
  | approve c f olds => exact give _ is
  | _ => trivial

theorem verified_allowed {c : Claim} {id : ClaimId} (found : t.claim id = some c) (now : Time) :
    Allowed p t.toRows (.amend id (verified now)) :=
  ⟨c,found,⟨rfl,rfl,rfl⟩,.inl rfl,Iff.rfl,Iff.rfl⟩

theorem right_commits {o : Office} {c : Claim} (code : String) {itemId : String} {now : Time} (consistent : Consistent p t.toRows)
    (found : t.claim c.publicId = some c) (verifiable : isVerifiable c = true) (claimHeld : .claim c.publicId ∈ held)
    (either : c.status = .disputed ∧ .ok t' = Except.ok (ε := ClaimError) (t.updateClaim c.publicId (verified now)) ∨
      c.status ≠ .disputed ∧ ∃ more, (∀ k ∈ more, k ∈ held) ∧
        Exec database t (resolveScript p o c itemId now) more (.committed (.ok t'))) :
    Commits p (Change.only False (fun _ => False) (Gives t.toRows (.verify o c.publicId code itemId now))) held t.toRows
      t'.toRows := by
  rcases either with ⟨_,right⟩ | ⟨notDisputed,more,within,resolves⟩
  · have rows := congrArg Tables.toRows (Except.ok.inj right)
    rw [rows]
    exact commits_one (verified_allowed found now) trivial (fun k named => List.mem_singleton.mp named ▸ claimHeld)
  · have pends : c.status = .pendingVerification := by
      unfold isVerifiable at verifiable
      simpa [notDisputed] using verifiable
    have first : Commits p (Change.only False (fun _ => False) (Gives t.toRows (.verify o c.publicId code itemId now))) held t.toRows
        (t.toRows.updateClaim c.publicId (verified now)) :=
      commits_one (verified_allowed found now) trivial (fun k named => List.mem_singleton.mp named ▸ claimHeld)
    have consistent' := commits_consistent first consistent
    have same : SameClaim c (verified now c) := ⟨rfl,rfl,rfl⟩
    have claims := claim_updated consistent.keyed found same
    have mine : (t.toRows.updateClaim c.publicId (verified now)).claim c.publicId = some (verified now c) :=
      (claims c.publicId).trans (if_pos rfl)
    obtain ⟨l,there,listingHeld,⟨_,ends⟩ | ⟨_,itemHeld,ends⟩ | ⟨unclaimed,locks,locked,approves⟩⟩ := resolve_exec resolves
    · rw [congrArg Tables.toRows (Except.ok.inj ends)]
      exact first
    · have pended : (verified now c).status = .pendingVerification := pends
      have disputes := dispute_commits consistent' mine pended ends.symm
      refine commits_trans first (commits_mono only_of_plain ?_ disputes)
      intro k named
      rcases List.mem_cons.mp named with is | named
      · exact is ▸ claimHeld
      · exact List.mem_singleton.mp named ▸ within _ itemHeld
    · obtain ⟨ks,losers,keys,ends⟩ := approval_exec approves
      obtain ⟨lose,claimed⟩ := losing_of_losers losers
      obtain ⟨t'',rows,equal⟩ := approveClaim_rows ends.symm
      have notApproved : (verified now c).status ≠ .approved := by
        show c.status ≠ .approved
        rw [pends]
        exact nofun
      have olds := olds_exact c.listing consistent.keyed found notApproved
      have kept := approved_updated consistent.keyed found same Iff.rfl c.listing (·.publicId) rfl
      rw [show (verified now c).publicId = c.publicId from rfl,olds,← kept] at rows keys
      rw [Option.elim_none] at equal
      subst equal
      have there' : ((t.toRows.updateClaim c.publicId (verified now)).listings (verified now c).listing).isSome := by
        show (t.listings c.listing).isSome
        rw [there]
        rfl
      have allowed : Allowed p (t.toRows.updateClaim c.publicId (verified now)) (.approve (verified now c)
          (approved · none now) ((approvedClaims (t.toRows.updateClaim c.publicId (verified now)) c.listing).map (·.publicId))) :=
        approved_allowed there' mine pends rfl
      have lose' : Losing (t.toRows.updateClaim c.publicId (verified now)) (verified now c) (claimIds ks) := by
        intro id' listed
        obtain ⟨differ,c',found',pends'⟩ := lose id' listed
        exact ⟨differ,c',(claims id').trans ((if_neg differ).trans found'),pends'⟩
      have awards := award_commits now consistent' allowed lose'
      rw [rows]
      refine commits_trans first (commits_mono (only_mono False.elim (fun _ => False.elim) ?_) ?_ awards)
      · intro l' is
        rw [is]
        exact ⟨l,there,unclaimed⟩
      · intro k named
        rcases List.mem_cons.mp named with is | named
        · exact is ▸ claimHeld
        · rcases List.mem_cons.mp named with is | named
          · exact is ▸ within _ listingHeld
          · refine within _ (locked _ (keys k ?_))
            rw [List.append_nil]
            rcases List.mem_append.mp named with old | loser
            · exact List.mem_append_left _ old
            · exact List.mem_append_right _ (claimed k loser)

theorem verify_commits {o : Office} {id : ClaimId} {code itemId : String} {now : Time} (consistent : Consistent p t.toRows)
    (done : Exec database t (verifyScript p o id code itemId now) held (.committed (.ok t'))) :
    Commits p (Command.may t.toRows (.verify o id code itemId now)) held t.toRows t'.toRows := by
  obtain ⟨c,found,accepted,claimHeld,guardHeld,either⟩ := verify_exec done
  obtain ⟨named⟩ : c.publicId = id := (claim_found found).2
  obtain ⟨verifiable,_,unlocked,_⟩ := verifyRefusal_none accepted
  rcases either with ⟨_,wrong,itemHeld⟩ | ⟨_,right⟩
  · obtain ⟨commits,_⟩ := wrongCode_commits consistent found unlocked wrong.symm
    refine commits_mono (only_mono (fun _ => trivial) (fun _ => False.elim) fun _ => False.elim) ?_ commits
    intro k named
    rcases List.mem_cons.mp named with is | named
    · exact is ▸ claimHeld
    · rcases List.mem_cons.mp named with is | named
      · exact is ▸ guardHeld
      · split at named
        · next locks => exact List.mem_singleton.mp named ▸ itemHeld locks
        · cases named
  · exact commits_mono (only_mono False.elim (fun _ => False.elim) fun _ gives => gives) (fun _ named => named)
      (right_commits code consistent found verifiable claimHeld right)

theorem resend_commits {o : Office} {id : ClaimId} {code : String} {now : Time} (consistent : Consistent p t.toRows)
    (done : Exec database t (resendScript p o id code now) held (.committed (.ok t'))) :
    Commits p Change.plain held t.toRows t'.toRows := by
  obtain ⟨c,more,found,rfl,rest⟩ := pair_exec done
  split at rest
  · cases exec_refuse rest
  · split at rest
    · cases exec_refuse rest
    · split at rest
      · cases exec_refuse rest
      · obtain ⟨row,_,last⟩ := exec_read rest
        cases read : row.listing with
        | none =>
            rw [read] at last
            cases exec_refuse last
        | some l =>
            rw [read] at last
            have named : c.publicId = id := (claim_found found).2
            subst named
            have done : start p o t c l (t.guards c.listing c.claimant.id) code now = .ok t' := by
              dsimp only at last
              split at last
              · cases exec_refuse last
              · cases exec_refuse last
              · cases exec_refuse last
              · exact (Ending.committed.inj (exec_commit last)).symm
            obtain ⟨commits,_⟩ := start_commits consistent.keyed found done
            refine commits_mono (fun _ plain => plain) ?_ commits
            intro k listed
            rcases List.mem_cons.mp listed with is | listed
            · exact is ▸ List.mem_cons_of_mem _ (List.mem_cons_self ..)
            · exact List.mem_singleton.mp listed ▸ List.mem_cons_self ..

theorem reject_exec {o : Office} {id : ClaimId} {r : Rejection}
    (done : Exec database t (rejectScript o id r) held (.committed (.ok t'))) :
    ∃ c, t.claim id = some c ∧ isOpenClaim c = true ∧ reject o t c (t.guards c.listing c.claimant.id) r = .ok t' ∧
      ∀ k ∈ LockKey.claim id :: .guard c.listing c.claimant.id :: (disputeKey (rowOf t.toRows (.claim id)) ++
        if blocks (t.guards c.listing c.claimant.id) then [.item r.itemId] else []), k ∈ held := by
  unfold rejectScript at done
  split at done
  · cases exec_refuse done
  · split at done
    · cases exec_refuse done
    · obtain ⟨c,more,found,rfl,rest⟩ := pair_exec done
      split at rest
      · cases exec_refuse rest
      · next waits =>
          obtain ⟨locked,rfl,last⟩ := exec_lockEach rest
          have rejects := Ending.committed.inj (exec_commit last)
          refine ⟨c,found,not_not.mp waits,rejects.symm,?_⟩
          intro k listed
          rcases List.mem_cons.mp listed with is | listed
          · rw [is]
            exact List.mem_cons_of_mem _ (List.mem_cons_self ..)
          · rcases List.mem_cons.mp listed with is | listed
            · rw [is]
              exact List.mem_cons_self ..
            · exact List.mem_cons_of_mem _ (List.mem_cons_of_mem _ (List.mem_append_left _ listed))

theorem reject_exec_commits {o : Office} {id : ClaimId} {r : Rejection} (consistent : Consistent p t.toRows)
    (done : Exec database t (rejectScript o id r) held (.committed (.ok t'))) :
    Commits p Change.plain held t.toRows t'.toRows := by
  obtain ⟨c,found,waits,rejects,within⟩ := reject_exec done
  obtain ⟨named⟩ : c.publicId = id := (claim_found found).2
  exact commits_mono (fun _ plain => plain) within (reject_commits consistent found waits rejects)

theorem approving_commits {o : Office} {r : Review} {c : Claim} {l : Listing} {more : List LockKey}
    (consistent : Consistent p t.toRows) (waits : isOpenClaim c = true) (found : t.claim c.publicId = some c)
    (there : t.listings c.listing = some l)
    (done : Exec database t
      (if l.status = .suspended then refusedReview "listing_suspended"
        else if c.status = .pendingVerification ∧ l.status = .claimed then
          .lock (.item r.itemId) fun _ => .commit fun t => dispute o t c r.operator.actor r.itemId r.now
        else if l.status = .claimed ∧ ¬r.transfer then refusedReview "transfer_unconfirmed"
        else if 500 < (Text.strip r.evidenceRef).length then .refuse .dataError
        else
          let manual : Manual := ⟨r.operator.id,r.methodUsed,Text.strip r.notes,Text.strip r.evidenceRef⟩
          approvalScript p o c (rowOf t.toRows (.listing c.listing)) l r.operator.actor (some manual)
            (disputeKey (rowOf t.toRows (.claim c.publicId))) (fun t => t) r.now) more (.committed (.ok t'))) :
    Commits p (Command.may t.toRows (.approve o c.publicId r)) (.claim c.publicId :: .listing c.listing :: more) t.toRows
      t'.toRows := by
  split at done
  · cases exec_refuse done
  · next notSuspended =>
      split at done
      · next pends =>
          obtain ⟨rest,rfl,last⟩ := exec_lock done
          have disputes := Ending.committed.inj (exec_commit last)
          have commits := dispute_commits consistent found pends.1 disputes.symm
          refine commits_mono only_of_plain ?_ commits
          intro k named
          rcases List.mem_cons.mp named with is | named
          · exact is ▸ List.mem_cons_self ..
          · rw [List.mem_singleton.mp named]
            simp
      · split at done
        · cases exec_refuse done
        · next confirmed =>
            split at done
            · cases exec_refuse done
            · obtain ⟨ks,losers,keys,ends⟩ := approval_exec done
              obtain ⟨lose,claimed⟩ := losing_of_losers losers
              have notApproved : c.status ≠ .approved := by
                intro approves
                unfold isOpenClaim at waits
                rw [approves] at waits
                cases waits
              have olds := olds_exact c.listing consistent.keyed found notApproved
              rw [olds] at ends keys
              have there' : (t.listings c.listing).isSome := by
                rw [there]
                rfl
              have commits := approveClaim_commits consistent there' found waits rfl lose ends.symm
              refine commits_mono (only_mono False.elim (fun _ => False.elim) ?_) ?_ commits
              · intro l' is
                rw [is]
                exact ⟨l,there,notSuspended,fun claimed => by simpa [claimed] using confirmed⟩
              · intro k named
                rcases List.mem_cons.mp named with is | named
                · exact is ▸ List.mem_cons_self ..
                · rcases List.mem_cons.mp named with is | named
                  · exact is ▸ List.mem_cons_of_mem _ (List.mem_cons_self ..)
                  · refine List.mem_cons_of_mem _ (List.mem_cons_of_mem _ (keys k ?_))
                    rcases List.mem_append.mp named with named | item
                    · rcases List.mem_append.mp named with old | loser
                      · exact List.mem_append_left _ (List.mem_append_left _ old)
                      · exact List.mem_append_left _ (List.mem_append_right _ (claimed k loser))
                    · exact List.mem_append_right _ item

theorem approve_exec_commits {o : Office} {id : ClaimId} {r : Review} (consistent : Consistent p t.toRows)
    (done : Exec database t (approveScript p o id r) held (.committed (.ok t'))) :
    Commits p (Command.may t.toRows (.approve o id r)) held t.toRows t'.toRows := by
  unfold approveScript at done
  split at done
  · cases exec_refuse done
  · split at done
    · cases exec_refuse done
    · split at done
      · cases exec_refuse done
      · obtain ⟨locked,rfl,first⟩ := exec_lock done
        have row : (database.row t (.claim id)).claim = t.claim id := rfl
        rw [row] at first
        cases found : t.claim id with
        | none =>
            rw [found] at first
            cases exec_refuse first
        | some c =>
            rw [found] at first
            have named : c.publicId = id := (claim_found found).2
            subst named
            dsimp only at first
            split at first
            · cases exec_refuse first
            · next waits =>
                obtain ⟨more,rfl,second⟩ := exec_lock first
                have row : (database.row t (.listing c.listing)).listing = t.listings c.listing := rfl
                rw [row] at second
                cases there : t.listings c.listing with
                | none =>
                    rw [there] at second
                    cases exec_refuse second
                | some l =>
                    rw [there] at second
                    exact approving_commits consistent (not_not.mp waits) found there second

theorem queue_exec {itemType : ItemType} {id : String} {r : Ruling} {change : Tables → ModerationItem → Guard → Tables}
    (done : Exec database t (queueScript itemType id r change) held (.committed (.ok t'))) :
    ∃ i, i.publicId = id ∧ t.item i.publicId = some i ∧ i.isOpen = true ∧ i.itemType = itemType ∧
      (∀ k ∈ [LockKey.guard i.listing i.claimant.id,.item i.publicId], k ∈ held) ∧
      t' = change t i (t.guards i.listing i.claimant.id) := by
  unfold queueScript at done
  split at done
  · cases exec_refuse done
  · split at done
    · cases exec_refuse done
    · obtain ⟨old,before,first⟩ := exec_read done
      cases old with
      | none => cases exec_refuse first
      | some seen =>
          dsimp only at first
          split at first
          · cases exec_refuse first
          · next is =>
              obtain ⟨locked,rfl,second⟩ := exec_lock first
              obtain ⟨rest,rfl,third⟩ := exec_lock second
              obtain ⟨i,found,same⟩ := before seen rfl
              have row : database.row t (.item id) = some i := found
              rw [row] at third
              have named := List.find?_some found
              rw [decide_eq_true_eq] at named
              subst named
              dsimp only at third
              rw [← same.listing,← same.claimant] at third ⊢
              split at third
              · cases exec_refuse third
              · next isOpen =>
                  have ends := Ending.committed.inj (exec_commit third)
                  refine ⟨i,rfl,found,not_not.mp isOpen,same.itemType.trans (not_not.mp is),?_,Except.ok.inj ends⟩
                  simp

-- The two flags of a guard that the queue lifts, and how.
def Lifts (itemType : ItemType) (clear : Guard → Guard) (flag : Guard → Bool) : Prop :=
  itemType = .verificationLock ∧ clear = unlockedGuard ∧ flag = (·.verificationLockedAt.isSome) ∨
    itemType = .claimBlock ∧ clear = unblockedGuard ∧ flag = (·.claimBlockedAt.isSome)

theorem lifted_commits {o : Office} {itemType : ItemType} {clear : Guard → Guard} {flag : Guard → Bool} {decision id : String} {r : Ruling}
    (lifts : Lifts itemType clear flag) (consistent : Consistent p t.toRows)
    (done : Exec database t (queueScript itemType id r fun t i g => decideQueued o t i decision clear (flag g) r) held
      (.committed (.ok t'))) :
    ∃ i : ModerationItem, (∀ k ∈ [LockKey.guard i.listing i.claimant.id,.item i.publicId], k ∈ held) ∧
      Commits p (Change.only False (· = itemType) fun _ => False) [.guard i.listing i.claimant.id,.item i.publicId] t.toRows t'.toRows := by
  obtain ⟨i,_,found,isOpen,is,keys,ends⟩ := queue_exec done
  refine ⟨i,keys,?_⟩
  rw [ends,← is]
  refine decideQueued_commits o decision r consistent found isOpen ?_
  rcases lifts with ⟨locks,clears,flags⟩ | ⟨blocks_,clears,flags⟩
  · exact .inl ⟨is.trans locks,clears,congrFun flags _⟩
  · exact .inr ⟨is.trans blocks_,clears,congrFun flags _⟩

theorem inserting_exec {s : Submission} {seen : Listing} {next : Script} {result : Except ClaimError Tables}
    (done : Exec database t (inserting s seen next) held (.committed result)) :
    t.claim s.claimId = none ∧ .claim s.claimId ∈ held ∧ (seen.status = .claimed → .item s.itemId ∈ held) ∧
      ∃ more, (∀ k ∈ more, k ∈ held) ∧ Exec database t next more (.committed result) := by
  obtain ⟨locked,rfl,first⟩ := exec_lock done
  have row : (database.row t (.claim s.claimId)).claim = t.claim s.claimId := rfl
  rw [row] at first
  split at first
  · cases exec_refuse first
  · next absent =>
      obtain ⟨more,rfl,rest⟩ := exec_lockEach first
      refine ⟨Option.not_isSome_iff_eq_none.mp absent,List.mem_cons_self ..,?_,more,by simp +contextual,rest⟩
      intro claimed
      simp [claimed]

theorem submitAs_commits {o : Office} {s : Submission} {seen : Listing} {u : DirectoryUser} {minted : Bool} {more : List LockKey}
    (done : Exec database t (submitAs p o s seen u minted) more (.committed (.ok t'))) (consistent : Consistent p t.toRows)
    (known : minted = false → u ∈ t.users) (userHeld : minted = true → .user u.email ∈ held)
    (within : ∀ k ∈ more, k ∈ held) :
    Commits p Change.plain held t.toRows t'.toRows := by
  obtain ⟨g,_,first⟩ := exec_read done
  split at first
  · cases exec_refuse first
  · split at first
    · obtain ⟨g,_,second⟩ := exec_read first
      split at second
      · cases exec_refuse second
      · obtain ⟨fresh,claimHeld,itemHeld,rest,_,last⟩ := inserting_exec second
        have ends := Ending.committed.inj (exec_commit last)
        exact submit_commits ends.symm consistent fresh rfl rfl rfl known userHeld (within _ claimHeld) nofun
          (fun claimed => within _ (itemHeld claimed))
      · obtain ⟨fresh,claimHeld,itemHeld,rest,inside,third⟩ := inserting_exec second
        obtain ⟨others,rfl,fourth⟩ := exec_lock third
        obtain ⟨row,_,last⟩ := exec_read fourth
        cases read : row.listing with
        | none =>
            rw [read] at last
            cases exec_refuse last
        | some l =>
            rw [read] at last
            have ends := Ending.committed.inj (exec_commit last)
            exact submit_commits ends.symm consistent fresh rfl rfl rfl known userHeld (within _ claimHeld)
              (fun _ => within _ (inside _ (List.mem_cons_self ..))) (fun claimed => within _ (itemHeld claimed))
    · obtain ⟨fresh,claimHeld,itemHeld,rest,_,last⟩ := inserting_exec first
      have ends := Ending.committed.inj (exec_commit last)
      exact submit_commits ends.symm consistent fresh rfl rfl rfl known userHeld (within _ claimHeld) nofun
        (fun claimed => within _ (itemHeld claimed))

theorem submit_exec_commits {o : Office} {s : Submission} (consistent : Consistent p t.toRows)
    (done : Exec database t (submitScript p o s) held (.committed (.ok t'))) :
    Commits p Change.plain held t.toRows t'.toRows := by
  unfold submitScript at done
  split at done
  · cases exec_refuse done
  · split at done
    · cases exec_refuse done
    · obtain ⟨row,_,first⟩ := exec_read done
      cases read : row.listing with
      | none =>
          rw [read] at first
          cases exec_refuse first
      | some seen =>
          rw [read] at first
          obtain ⟨old,before,second⟩ := exec_read first
          have present : ∀ u, t.user s.email = some u → u ∈ t.users := fun u found => List.mem_of_find?_eq_some found
          cases old with
          | some u =>
              exact submitAs_commits second consistent (fun _ => present u (before u rfl))
                (fun minted => absurd minted Bool.false_ne_true) fun k named => named
          | none =>
              obtain ⟨locked,rfl,third⟩ := exec_lock second
              have inside : ∀ k ∈ locked, k ∈ LockKey.user s.email :: locked := fun k named => List.mem_cons_of_mem _ named
              cases found : t.user s.email with
              | some u =>
                  have row : database.row t (.user s.email) = some u := found
                  rw [row] at third
                  exact submitAs_commits third consistent (fun _ => present u found)
                    (fun minted => absurd minted Bool.false_ne_true) inside
              | none =>
                  have row : database.row t (.user s.email) = none := found
                  rw [row] at third
                  exact submitAs_commits third consistent (fun known => absurd known Bool.true_eq_false.mp)
                    (fun _ => List.mem_cons_self ..) inside

theorem write_commits {id : ListingId} {w : ListingWrite}
    (done : Exec database t (writeScript id w) held (.committed (.ok t'))) :
    Commits p Change.plain held t.toRows t'.toRows := by
  obtain ⟨locked,rfl,first⟩ := exec_lock done
  have ends := Ending.committed.inj (exec_commit first)
  rw [Except.ok.inj ends]
  have allowed : Allowed p t.toRows (.write id w) := trivial
  exact commits_one allowed trivial fun k named => List.mem_singleton.mp named ▸ List.mem_cons_self ..

theorem command_commits (cmd : Command) (consistent : Consistent p t.toRows)
    (done : Exec database t (script p cmd) held (.committed (.ok t'))) :
    Commits p (cmd.may t.toRows) held t.toRows t'.toRows := by
  cases cmd with
  | submit o s => exact commits_mono only_of_plain (fun _ named => named) (submit_exec_commits consistent done)
  | resend o id code now => exact commits_mono only_of_plain (fun _ named => named) (resend_commits consistent done)
  | verify o id code itemId now => exact verify_commits consistent done
  | approve o id r => exact approve_exec_commits consistent done
  | reject o id r => exact commits_mono only_of_plain (fun _ named => named) (reject_exec_commits consistent done)
  | unlock o id r =>
      obtain ⟨_,keys,commits⟩ := lifted_commits (.inl ⟨rfl,rfl,rfl⟩) consistent done
      exact commits_mono (only_mono False.elim (fun _ same => same) fun _ => False.elim) keys commits
  | unblock o id r =>
      obtain ⟨_,keys,commits⟩ := lifted_commits (.inr ⟨rfl,rfl,rfl⟩) consistent done
      exact commits_mono (only_mono False.elim (fun _ same => same) fun _ => False.elim) keys commits
  | writeListing id w => exact commits_mono only_of_plain (fun _ named => named) (write_commits done)

theorem isolated (p : Platform) : Isolated database (script p) (fun t => Consistent p t.toRows) := by
  refine ⟨?_,?_,?_⟩
  · intro cmd t held t' consistent done
    exact commits_consistent (command_commits cmd consistent done) consistent
  · intro cmd t held t' consistent done k other
    obtain ⟨xs,changes,all⟩ := command_commits cmd consistent done
    exact changes_kept changes consistent.keyed k fun x listed named => other ((all x listed).2 k named)
  · intro cmd t held t' consistent done k
    obtain ⟨xs,changes,_⟩ := command_commits cmd consistent done
    exact changes_forward changes consistent.keyed k

end commands

end Osds.Claims

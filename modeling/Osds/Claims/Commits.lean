import Osds.Claims.Codes
import Osds.Claims.Ownership
import Osds.Claims.Queue
import Osds.Lib.Fallible

namespace Osds.Claims
open Directory Audit

structure Addressed (r : Rows) : Prop where
  claims : ∀ c ∈ r.claims, c.claimant.email.length ≤ 254
  users : ∀ u ∈ r.users, u.email.length ≤ 254

theorem addressed_preserved {p : Platform} (r : Rows) (x : Change) (allowed : Allowed p r x) (keyed : Keyed r)
    (addressed : Addressed r) : Addressed (apply r x) := by
  obtain ⟨claims,users⟩ := addressed
  have rewritten : ∀ f : Claim → Claim, (∀ c ∈ r.claims, SameClaim c (f c)) →
      ∀ c ∈ r.claims.map f, c.claimant.email.length ≤ 254 := by
    intro f same c present
    obtain ⟨old,there,rfl⟩ := List.mem_map.mp present
    rw [(same old there).claimant]
    exact claims old there
  cases x with
  | mint u =>
      refine ⟨claims,?_⟩
      intro v present
      rcases List.mem_append.mp present with old | new
      · exact users v old
      · rw [List.mem_singleton.mp new]
        exact allowed
  | submit c =>
      refine ⟨?_,users⟩
      intro c' present
      rcases List.mem_append.mp present with old | new
      · exact claims c' old
      · rw [List.mem_singleton.mp new]
        exact allowed.2.2.2
  | amend id f =>
      obtain ⟨c,found,amends⟩ := allowed
      exact ⟨rewritten _ (update_same keyed found amends.toSameClaim),users⟩
  | issue id f code expiresAt =>
      obtain ⟨c,found,same,_⟩ := allowed
      exact ⟨rewritten _ (update_same keyed found same),users⟩
  | dispute id f i =>
      obtain ⟨c,found,_,same,_⟩ := allowed
      exact ⟨rewritten _ (update_same keyed found same),users⟩
  | settle i f =>
      obtain ⟨_,_,c,found,_⟩ := allowed
      have same : SameClaim c (pending c) := ⟨rfl,rfl,rfl⟩
      exact ⟨rewritten _ (update_same keyed found same),users⟩
  | approve c f olds =>
      obtain ⟨_,found,_,same,_⟩ := allowed
      exact ⟨rewritten _ (approving_same keyed found same olds),users⟩
  | _ => exact ⟨claims,users⟩

structure Consistent (p : Platform) (r : Rows) : Prop where
  keyed : Keyed r
  owned : ∀ l, Owned r l
  counted : ∀ l u, Counted (r.guards l u)
  live : ∀ c ∈ r.claims, Live p r c
  linked : Linked r
  addressed : Addressed r

theorem consistent_preserved {p : Platform} (r : Rows) (x : Change) (allowed : Allowed p r x) (consistent : Consistent p r) :
    Consistent p (apply r x) := by
  obtain ⟨keyed,owned,counted,live,linked,addressed⟩ := consistent
  exact ⟨keyed_preserved r x allowed keyed,owned_preserved r x allowed keyed owned,counted_preserved r x allowed counted,
    live_preserved r x allowed keyed live,linked_preserved r x allowed keyed linked,
    addressed_preserved r x allowed keyed addressed⟩

-- A commit: changes of the rows that the command holds, each of a kind.
def Commits (p : Platform) (kind : Change → Prop) (held : List LockKey) (r r' : Rows) : Prop :=
  ∃ xs, Changes p r xs r' ∧ ∀ x ∈ xs, kind x ∧ ∀ k ∈ x.keys, k ∈ held

section commits

variable {p : Platform} {kind : Change → Prop} {held : List LockKey} {r r' r'' : Rows} {x : Change}

theorem commits_nothing : Commits p kind held r r := ⟨[],.nil,List.forall_mem_nil _⟩

theorem commits_one (allowed : Allowed p r x) (is : kind x) (within : ∀ k ∈ x.keys, k ∈ held) :
    Commits p kind held r (apply r x) :=
  ⟨[x],changes_one allowed,List.forall_mem_singleton.mpr ⟨is,within⟩⟩

theorem commits_trans (first : Commits p kind held r r') (second : Commits p kind held r' r'') :
    Commits p kind held r r'' := by
  obtain ⟨xs,one,ones⟩ := first
  obtain ⟨ys,two,twos⟩ := second
  refine ⟨xs ++ ys,changes_append one two,?_⟩
  intro z listed
  rcases List.mem_append.mp listed with here | there
  · exact ones z here
  · exact twos z there

theorem commits_mono {kind' : Change → Prop} {held' : List LockKey} (kinds : ∀ x, kind x → kind' x)
    (keys : ∀ k ∈ held, k ∈ held') (commits : Commits p kind held r r') : Commits p kind' held' r r' := by
  obtain ⟨xs,changes,all⟩ := commits
  exact ⟨xs,changes,fun x listed => ⟨kinds x (all x listed).1,fun k named => keys k ((all x listed).2 k named)⟩⟩

theorem commits_consistent (commits : Commits p kind held r r') (consistent : Consistent p r) : Consistent p r' := by
  obtain ⟨_,changes,_⟩ := commits
  exact changes_invariant consistent_preserved changes consistent

end commits

def Change.only (guesses : Prop) (rules : ItemType → Prop) (gives : ListingId → Prop) : Change → Prop
  | .guess .. => guesses
  | .rule i .. => rules i.itemType
  | .approve c .. => gives c.listing
  | _ => True

def Change.plain (x : Change) : Prop := x.only False (fun _ => False) (fun _ => False)

theorem only_of_plain {guesses : Prop} {rules : ItemType → Prop} {gives : ListingId → Prop} (x : Change) (plain : x.plain) :
    x.only guesses rules gives := by
  cases x with
  | guess l u now opened => exact False.elim plain
  | rule i f decided => exact False.elim plain
  | approve c f olds => exact False.elim plain
  | _ => trivial

-- What the mail and the outbox are to the rows: nothing.
section quiet

variable {o : Office} {t t' : Tables}

theorem enqueue_rows {kind address subject : String} {now expiresAt : Time}
    (done : t.enqueue kind address subject now expiresAt = .ok t') : t'.toRows = t.toRows := by
  unfold Tables.enqueue at done
  split at done
  · cases done
    rfl
  · cases done

theorem enqueueAll_rows {kind subject : String} {now expiresAt : Time} (addresses : List String) :
    ∀ {t : Tables}, t.enqueueAll kind subject now expiresAt addresses = .ok t' → t'.toRows = t.toRows := by
  induction addresses with
  | nil =>
      intro t done
      cases done
      rfl
  | cons address rest ih =>
      intro t done
      obtain ⟨queued,first,others⟩ := Fallible.bind_exact.mp done
      exact (ih others).trans (enqueue_rows first)

theorem notifyOperators_rows {now : Time} (done : notifyOperators o t now = .ok t') : t'.toRows = t.toRows :=
  enqueueAll_rows _ done

theorem tellUnlessDisputed_rows {c : Claim} {now : Time} (done : tellUnlessDisputed o t c now = .ok t') :
    t'.toRows = t.toRows := by
  unfold tellUnlessDisputed at done
  split at done
  · cases done
    rfl
  · exact notifyOperators_rows done

theorem expirePendingCode_rows (t : Tables) (message : Option Nat) (now : Time) :
    (t.expirePendingCode message now).toRows = t.toRows := by
  unfold Tables.expirePendingCode
  split <;> rfl

end quiet

def causeOf (itemType : ItemType) (c : Claim) : Cause :=
  match itemType with
  | .claimDispute => .dispute c.publicId
  | .verificationLock => .lock c.listing c.claimant.id
  | .claimBlock => .block c.listing c.claimant.id

theorem matchesItem_cause (itemType : ItemType) (c : Claim) (i : ModerationItem) :
    matchesItem itemType c i = (i.isOpen && i.cause = causeOf itemType c) := by
  unfold matchesItem causeOf ModerationItem.cause
  cases itemType <;> cases i.itemType <;> simp

theorem openItem_rows {o : Office} {t t' : Tables} {r : Rows} {itemType : ItemType} {c : Claim} {rules : List String}
    {actor : Actor} {newId : String} {now : Time} (rows : t.toRows = r)
    (done : openItem o t itemType c rules actor newId now = .ok t') (unmet : openFor r (causeOf itemType c) = 0) :
    ∃ i, i.publicId = newId ∧ Opens r i (causeOf itemType c) ∧ t'.toRows = {r with items := r.items ++ [i]} := by
  subst rows
  have none_ : ¬t.items.any (matchesItem itemType c) = true := by
    intro some_
    obtain ⟨i,present,holds⟩ := List.any_eq_true.mp some_
    rw [matchesItem_cause] at holds
    exact List.countP_eq_zero.mp unmet i present holds
  unfold openItem at done
  rw [if_neg none_] at done
  split at done
  · cases done
  · next fresh =>
      cases done
      refine ⟨_,rfl,⟨?_,rfl,?_⟩,rfl⟩
      · intro j present same
        exact fresh (List.any_eq_true.mpr ⟨j,present,decide_eq_true same⟩)
      · unfold ModerationItem.cause causeOf
        cases itemType <;> rfl

theorem unmet_of_quiet {r : Rows} {k : Cause} (linked : Linked r) (falls : stands r k = false) : openFor r k = 0 := by
  rw [linked,falls]
  rfl

section functions

variable {p : Platform} {o : Office} {t t' : Tables} {c : Claim}

theorem dispute_commits {c' : Claim} {actor : Actor} {newItem : String} {now : Time} (consistent : Consistent p t.toRows)
    (found : t.claim c.publicId = some c') (pends : c'.status = .pendingVerification)
    (done : dispute o t c actor newItem now = .ok t') :
    Commits p Change.plain [.claim c.publicId,.item newItem] t.toRows t'.toRows := by
  obtain ⟨queued,opened,told⟩ := Fallible.bind_exact.mp done
  have falls : stands t.toRows (.dispute c.publicId) = false := by
    rw [stands_dispute found,pends]
    rfl
  have unmet := unmet_of_quiet consistent.linked falls
  obtain ⟨i,named,opens,rows⟩ := openItem_rows rfl opened unmet
  rw [notifyOperators_rows told,rows,← named]
  have allowed : Allowed p t.toRows (.dispute c.publicId (fun c => {c with status := .disputed,reviewReason := "disputed"}) i) :=
    ⟨c',found,pends,⟨rfl,rfl,rfl⟩,rfl,.inr ⟨rfl,rfl⟩,opens.fresh,opens.isOpen,opens.cause⟩
  exact commits_one allowed trivial fun k listed => listed

theorem sendCode_commits {l : Listing} {windowStart : Time} {sentInWindow : Nat} {code : String} {now : Time}
    (keyed : Keyed t.toRows) (found : t.claim c.publicId = some c)
    (done : sendCode p o t c l windowStart sentInWindow code now = .ok t') :
    Commits p Change.plain [.claim c.publicId,.guard c.listing c.claimant.id] t.toRows t'.toRows ∧
      ∃ c', t'.claim c.publicId = some c' ∧ c'.status = c.status := by
  obtain ⟨queued,enqueued,rest⟩ := Fallible.bind_exact.mp done
  have rows := (enqueue_rows enqueued).trans (expirePendingCode_rows t c.codeMessage now)
  cases rest
  rw [← rows] at found keyed ⊢
  let expiresAt := now + resolveDomainEmailTtl o
  let issuing : Claim → Claim := fun a =>
    {a with
      codeHash := some (p.hashCode c.publicId code)
      verificationStartedAt := some now
      expiresAt := some expiresAt
      codeMessage := some (t.expirePendingCode c.codeMessage now).mail.length}
  let counting : Guard → Guard := fun g =>
    {g with
      lastCodeSentAt := some now
      codesSentWindowStart := some windowStart
      codesSentInWindow := sentInWindow + 1}
  let issue : Change := .issue c.publicId issuing code expiresAt
  let count : Change := .count c.listing c.claimant.id counting
  have issued : Allowed p queued.toRows issue := ⟨c,found,⟨rfl,rfl,rfl⟩,rfl,rfl,rfl⟩
  have counted : Allowed p (apply queued.toRows issue) count := ⟨rfl,rfl,rfl,rfl⟩
  have same : SameClaim c (issuing c) := ⟨rfl,rfl,rfl⟩
  refine ⟨⟨[issue,count],.cons issued (changes_one counted),?_⟩,issuing c,?_,rfl⟩
  · rw [List.forall_mem_cons,List.forall_mem_singleton]
    exact ⟨⟨trivial,by simp [issue,Change.keys]⟩,trivial,by simp [count,Change.keys]⟩
  · exact (claim_updated keyed found same c.publicId).trans (if_pos rfl)

theorem start_commits {l : Listing} {g : Guard} {code : String} {now : Time} (keyed : Keyed t.toRows)
    (found : t.claim c.publicId = some c) (done : start p o t c l g code now = .ok t') :
    Commits p Change.plain [.claim c.publicId,.guard c.listing c.claimant.id] t.toRows t'.toRows ∧
      ∃ c', t'.claim c.publicId = some c' ∧ c'.status = c.status := by
  unfold start at done
  split at done
  · cases done
  · next reason ineligible =>
      obtain ⟨told,notified,rest⟩ := Fallible.bind_exact.mp done
      cases rest
      have rows := (tellUnlessDisputed_rows notified).trans (expirePendingCode_rows _ _ _)
      have allowed : Allowed p t.toRows (.amend c.publicId (flipToManual reason)) :=
        ⟨c,found,⟨rfl,rfl,rfl⟩,.inl rfl,Iff.rfl,Iff.rfl⟩
      have same : SameClaim c (flipToManual reason c) := ⟨rfl,rfl,rfl⟩
      show Commits _ _ _ _ told.toRows ∧ ∃ c', told.toRows.claim c.publicId = some c' ∧ _
      rw [rows]
      refine ⟨commits_one allowed trivial (by simp [Change.keys]),flipToManual reason c,?_,rfl⟩
      exact (claim_updated keyed found same c.publicId).trans (if_pos rfl)
  · cases done
    exact ⟨commits_nothing,c,found,rfl⟩
  · cases done
    exact ⟨commits_nothing,c,found,rfl⟩
  · exact sendCode_commits keyed found done

theorem updateGuard_row (r : Rows) (l : ListingId) (u : String) (f : Guard → Guard) :
    (r.updateGuard l u fun _ => f (r.guards l u)) = r.updateGuard l u f := by
  unfold Rows.updateGuard
  congr 1
  funext l' u'
  split
  · next same => rw [same.1,same.2]
  · rfl

theorem wrongClaim_amends (g : Guard) (c : Claim) : Amends c (wrongClaim g c) := by
  unfold wrongClaim
  split
  · exact ⟨⟨rfl,rfl,rfl⟩,.inr ⟨rfl,rfl⟩,Iff.rfl,Iff.rfl⟩
  · split <;> exact ⟨⟨rfl,rfl,rfl⟩,.inl rfl,Iff.rfl,Iff.rfl⟩

theorem wrongCode_commits {itemId : String} {now : Time} (consistent : Consistent p t.toRows)
    (found : t.claim c.publicId = some c) (unlocked : (t.guards c.listing c.claimant.id).verificationLockedAt = none)
    (done : wrongCode o t c (t.guards c.listing c.claimant.id) itemId now = .ok t') :
    Commits p (Change.only True (fun _ => False) fun _ => False)
      (.claim c.publicId :: .guard c.listing c.claimant.id ::
        if wrongReason (t.guards c.listing c.claimant.id) = "locked" then [.item itemId] else []) t.toRows t'.toRows ∧
    t'.guards = (t.toRows.updateGuard c.listing c.claimant.id (wrongGuard · now)).guards ∧
    t'.claims = (t.toRows.updateClaim c.publicId (wrongClaim (t.guards c.listing c.claimant.id))).claims := by
  let g := t.guards c.listing c.claimant.id
  let amend : Change := .amend c.publicId (wrongClaim g)
  have amended : Allowed p t.toRows amend := ⟨c,found,wrongClaim_amends g c⟩
  let counted := (apply t.toRows amend).updateGuard c.listing c.claimant.id (wrongGuard · now)
  have guards : (apply t.toRows amend).updateGuard c.listing c.claimant.id (fun _ => wrongGuard g now) = counted :=
    updateGuard_row (apply t.toRows amend) c.listing c.claimant.id (wrongGuard · now)
  have quiet : openFor t.toRows (.lock c.listing c.claimant.id) = 0 := by
    refine unmet_of_quiet consistent.linked ?_
    unfold stands
    dsimp only
    rw [unlocked]
    rfl
  have unmet : openFor counted (.lock c.listing c.claimant.id) = 0 := quiet
  unfold wrongCode at done
  dsimp only at done
  split at done
  · next locks =>
      obtain ⟨queued,opened,told⟩ := Fallible.bind_exact.mp done
      obtain ⟨i,named,opens,rows⟩ := openItem_rows ((expirePendingCode_rows _ _ _).trans guards) opened unmet
      let guess : Change := .guess c.listing c.claimant.id now [i]
      have guessed : Allowed p (apply t.toRows amend) guess := by
        refine ⟨unlocked,?_⟩
        show if wrongReason g = "locked" then _ else _
        rw [if_pos locks]
        exact ⟨i,rfl,opens.fresh,opens.isOpen,opens.cause⟩
      rw [tellUnlessDisputed_rows told,rows,if_pos locks]
      refine ⟨⟨[amend,guess],.cons amended (changes_one guessed),?_⟩,rfl,rfl⟩
      rw [List.forall_mem_cons,List.forall_mem_singleton]
      exact ⟨⟨trivial,by simp [amend,Change.keys]⟩,trivial,by simp [guess,Change.keys,named]⟩
  · next notLocks =>
      cases done
      let guess : Change := .guess c.listing c.claimant.id now []
      have guessed : Allowed p (apply t.toRows amend) guess := by
        refine ⟨unlocked,?_⟩
        show if wrongReason g = "locked" then _ else _
        rw [if_neg notLocks]
      have rows : apply (apply t.toRows amend) guess = counted := by
        show {counted with items := t.items ++ []} = counted
        rw [List.append_nil]
        rfl
      rw [if_neg notLocks]
      show Commits _ _ _ _ ((apply t.toRows amend).updateGuard c.listing c.claimant.id fun _ => wrongGuard g now) ∧ _
      rw [guards,← rows]
      refine ⟨⟨[amend,guess],.cons amended (changes_one guessed),?_⟩,?_,rfl⟩
      · rw [List.forall_mem_cons,List.forall_mem_singleton]
        exact ⟨⟨trivial,by simp [amend,Change.keys]⟩,trivial,by simp [guess,Change.keys]⟩
      · have same := congrArg Rows.guards guards
        exact same

end functions

def among (ids : List ClaimId) (f : Claim → Claim) (c : Claim) : Claim := if c.publicId ∈ ids then f c else c

def lost (now : Time) (c : Claim) : Claim :=
  {c with status := .rejected,decidedAt := some now,rejectionReason := LOSER_REASON,codeHash := none}

section approvals

variable {p : Platform} {o : Office} {r : Rows} {t t' : Tables} {c : Claim} {now : Time}

theorem among_cons (r : Rows) (id : ClaimId) (ids : List ClaimId) {f : Claim → Claim}
    (named : ∀ c, (f c).publicId = c.publicId) (twice : ∀ c, f (f c) = f c) :
    mapClaims (r.updateClaim id f) (among ids f) = mapClaims r (among (id :: ids) f) := by
  unfold mapClaims Rows.updateClaim
  dsimp only
  rw [List.map_map]
  congr 1
  refine List.map_congr_left ?_
  intro c _
  unfold among
  rw [Function.comp_apply]
  by_cases first : c.publicId = id
  · rw [if_pos first,named,if_pos (List.mem_cons.mpr (.inl first))]
    split
    · exact twice c
    · rfl
  · rw [if_neg first]
    by_cases later : c.publicId ∈ ids
    · rw [if_pos later,if_pos (List.mem_cons_of_mem _ later)]
    · rw [if_neg later,if_neg (List.not_mem_cons_of_ne_of_not_mem first later)]

theorem among_nil (r : Rows) (f : Claim → Claim) : mapClaims r (among [] f) = r := by
  unfold mapClaims
  have same : r.claims.map (among [] f) = r.claims :=
    (List.map_congr_left fun c _ => if_neg (List.not_mem_nil)).trans (List.map_id' _)
  rw [same]

theorem retire_rows (olds : List ClaimId) (t : Tables) :
    (olds.foldl (fun t old => t.updateClaim old superseded) t).toRows = mapClaims t.toRows (among olds superseded) := by
  induction olds generalizing t with
  | nil => exact (among_nil t.toRows superseded).symm
  | cons old rest ih => exact (ih _).trans (among_cons t.toRows old rest (fun _ => rfl) (fun _ => rfl))

theorem rejectLosers_rows (ids : List ClaimId) :
    ∀ {t : Tables}, rejectLosers o t now ids = .ok t' → t'.toRows = mapClaims t.toRows (among ids (lost now)) := by
  induction ids with
  | nil =>
      intro t done
      cases done
      exact (among_nil _ _).symm
  | cons id rest ih =>
      intro t done
      unfold rejectLosers at done
      cases found : t.claim id with
      | none =>
          rw [found] at done
          refine (ih done).trans ?_
          unfold mapClaims
          congr 1
          refine List.map_congr_left ?_
          intro c present
          have differ : c.publicId ≠ id := fun same => List.find?_eq_none.mp found c present (decide_eq_true same)
          unfold among
          by_cases later : c.publicId ∈ rest
          · rw [if_pos later,if_pos (List.mem_cons_of_mem _ later)]
          · rw [if_neg later,if_neg (List.not_mem_cons_of_ne_of_not_mem differ later)]
      | some c =>
          rw [found] at done
          obtain ⟨next,one,others⟩ := Fallible.bind_exact.mp done
          have named := (claim_found found).2
          have first : next.toRows = t.toRows.updateClaim id (lost now) := by
            refine (enqueue_rows one).trans ((expirePendingCode_rows _ _ _).trans ?_)
            rw [named]
            rfl
          refine (ih others).trans ?_
          rw [first]
          exact among_cons t.toRows id rest (fun _ => rfl) (fun _ => rfl)

def awarded (r : Rows) (c : Claim) (f : Claim → Claim) (olds losers : List ClaimId) (now : Time) : Rows :=
  mapClaims (apply r (.approve c f olds)) (among losers (lost now))

theorem losing_commits (keyed : Keyed r) (ids : List ClaimId)
    (lose : ∀ id ∈ ids, ∃ c, r.claim id = some c ∧ c.status ≠ .approved ∧ c.status ≠ .disputed) :
    Commits p Change.plain (ids.map .claim) r (mapClaims r (among ids (lost now))) := by
  induction ids generalizing r with
  | nil =>
      rw [among_nil]
      exact commits_nothing
  | cons id rest ih =>
      obtain ⟨c,found,notApproved,notDisputed⟩ := lose id (List.mem_cons_self ..)
      have same : SameClaim c (lost now c) := ⟨rfl,rfl,rfl⟩
      have allowed : Allowed p r (.amend id (lost now)) :=
        ⟨c,found,same,.inl rfl,iff_of_false nofun notApproved,iff_of_false nofun notDisputed⟩
      have first : Commits p Change.plain ((id :: rest).map .claim) r (r.updateClaim id (lost now)) :=
        commits_one allowed trivial (by simp [Change.keys])
      have later := ih (keyed_preserved r _ allowed keyed) (by
        intro id' listed
        rw [show (apply r (.amend id (lost now))).claim id' = _ from claim_updated keyed found same id']
        by_cases again : id' = id
        · rw [if_pos again]
          exact ⟨_,rfl,nofun,nofun⟩
        · rw [if_neg again]
          exact lose id' (List.mem_cons_of_mem _ listed))
      have rows : mapClaims (r.updateClaim id (lost now)) (among rest (lost now)) = mapClaims r (among (id :: rest) (lost now)) :=
        among_cons r id rest (fun _ => rfl) (fun _ => rfl)
      rw [← rows]
      exact commits_trans first (commits_mono (fun _ plain => plain) (fun k named => List.mem_cons_of_mem _ named) later)

def Losing (r : Rows) (c : Claim) (losers : List ClaimId) : Prop :=
  ∀ id ∈ losers, id ≠ c.publicId ∧ ∃ c', r.claim id = some c' ∧ c'.status = .pendingVerification

theorem award_commits (now : Time) {f : Claim → Claim} {olds losers : List ClaimId} (consistent : Consistent p r)
    (allowed : Allowed p r (.approve c f olds)) (lose : Losing r c losers) :
    Commits p (Change.only False (fun _ => False) (· = c.listing))
      (.claim c.publicId :: .listing c.listing :: (olds.map .claim ++ losers.map .claim)) r (awarded r c f olds losers now) := by
  have keyed := consistent.keyed
  have first : Commits p (Change.only False (fun _ => False) (· = c.listing))
      (.claim c.publicId :: .listing c.listing :: (olds.map .claim ++ losers.map .claim)) r (apply r (.approve c f olds)) := by
    refine commits_one allowed rfl ?_
    intro k named
    rcases List.mem_cons.mp named with is | named
    · exact List.mem_cons.mpr (.inl is)
    · rcases List.mem_cons.mp named with is | named
      · exact List.mem_cons_of_mem _ (List.mem_cons.mpr (.inl is))
      · exact List.mem_cons_of_mem _ (List.mem_cons_of_mem _ (List.mem_append_left _ named))
  refine commits_trans first (commits_mono only_of_plain ?_ (losing_commits (keyed_preserved r _ allowed keyed) losers ?_))
  · intro k named
    exact List.mem_cons_of_mem _ (List.mem_cons_of_mem _ (List.mem_append_right _ named))
  · intro id listed
    obtain ⟨differ,c',found,pends⟩ := lose id listed
    obtain ⟨_,there,_,same,_,_,olds_⟩ := allowed
    have notOld : id ∉ olds := by
      intro old
      have named := (claim_found found).2
      rw [← named] at old
      have approves := (approved_listing keyed olds_ (claim_found found).1 old).2
      rw [pends] at approves
      cases approves
    refine ⟨c',?_,?_,?_⟩
    · refine (claim_mapped (approving_same keyed there same olds) id).trans ?_
      unfold approving
      rw [found,Option.map_some,(claim_found found).2,if_neg differ,if_neg notOld]
    · rw [pends]
      exact nofun
    · rw [pends]
      exact nofun

theorem approvalEvents_rows (p : Platform) (o : Office) (t : Tables) (c : Claim) (l : Listing) (actor : Actor)
    (manual : Option Manual) (now : Time) : (approvalEvents p o t c l actor manual now).toRows = t.toRows := by
  unfold approvalEvents
  dsimp only
  split <;> rfl

-- An approval is: the claim awarded, the contacts told, the losers rejected, and the
-- open dispute that an operator decides with it.
theorem approveClaim_parts {l : Listing} {actor : Actor} {manual : Option Manual} {olds losers : List ClaimId}
    (done : approveClaim p o t c l actor manual olds losers now = .ok t') :
    ∃ owned notified after, owned.toRows = apply t.toRows (.approve c (approved · manual now) olds) ∧
      notifyExistingContacts p owned c l now = .ok notified ∧
      rejectLosers o (approvalEvents p o notified c l actor manual now) now losers = .ok after ∧
      t' = manual.elim after fun m => decideClaimItem o after c.publicId "approved" m.operator m.notes actor now := by
  obtain ⟨notified,told,done⟩ := Fallible.bind_exact.mp done
  obtain ⟨after,lost_,done⟩ := Fallible.bind_exact.mp done
  have claims : (mapClaims t.toRows (among olds superseded)).updateClaim c.publicId (approved · manual now) =
      mapClaims t.toRows (approving c.publicId (approved · manual now) olds) := by
    unfold mapClaims Rows.updateClaim
    dsimp only
    rw [List.map_map]
    congr 1
    refine List.map_congr_left ?_
    intro a _
    unfold among approving
    rw [Function.comp_apply]
    by_cases old : a.publicId ∈ olds
    · rw [if_pos old]
      by_cases named : a.publicId = c.publicId
      · rw [if_pos named,if_pos (show (superseded a).publicId = c.publicId from named)]
        cases manual <;> rfl
      · rw [if_neg named,if_neg (show ¬(superseded a).publicId = c.publicId from named)]
    · rw [if_neg old]
  have retired := (expirePendingCode_rows _ c.codeMessage now).trans (retire_rows olds t)
  have owned := congrArg (fun r : Rows => {r.updateClaim c.publicId (approved · manual now) with
    listings := owning r.listings c.listing c.claimant}) retired
  refine ⟨_,notified,after,owned.trans ?_,told,lost_,?_⟩
  · dsimp only
    rw [claims]
    rfl
  · cases manual with
    | none =>
        cases done
        rfl
    | some m =>
        cases done
        rfl

theorem approveClaim_rows {l : Listing} {actor : Actor} {manual : Option Manual} {olds losers : List ClaimId}
    (done : approveClaim p o t c l actor manual olds losers now = .ok t') :
    ∃ t'' : Tables, t''.toRows = awarded t.toRows c (approved · manual now) olds losers now ∧
      t' = manual.elim t'' fun m => decideClaimItem o t'' c.publicId "approved" m.operator m.notes actor now := by
  obtain ⟨owned,notified,after,given,told,lost_,ends⟩ := approveClaim_parts done
  refine ⟨after,(rejectLosers_rows losers lost_).trans ?_,ends⟩
  rw [approvalEvents_rows,enqueueAll_rows _ told,given]
  rfl

theorem openDispute_exact (consistent : Consistent p r) (found : r.claim c.publicId = some c) :
    (openDispute r c.publicId).isSome ↔ c.status = .disputed := by
  rw [openDispute_counted,consistent.linked,stands_dispute found]
  by_cases disputes : c.status = .disputed
  · rw [decide_eq_true disputes,if_pos rfl]
    exact iff_of_true Nat.one_ne_zero disputes
  · rw [decide_eq_false disputes,if_neg Bool.false_ne_true]
    exact iff_of_false (not_not.mpr rfl) disputes

def deciding (decision operator rationale : String) (now : Time) (i : ModerationItem) : ModerationItem :=
  {i with isOpen := false,decision := decision,decidedBy := some operator,decidedAt := some now,rationale := rationale}

theorem decideClaimItem_rows (o : Office) (t : Tables) (id : ClaimId) (decision operator rationale : String) (actor : Actor)
    (now : Time) : (decideClaimItem o t id decision operator rationale actor now).toRows =
      match openDispute t.toRows id with
      | none => t.toRows
      | some i => t.toRows.updateItem i.publicId (deciding decision operator rationale now) := by
  unfold decideClaimItem
  cases openDispute t.toRows id <;> rfl

theorem openDispute_decides {id : ClaimId} {i : ModerationItem} (found : openDispute r id = some i) (decision operator rationale : String)
    (now : Time) : Decides r i (deciding decision operator rationale now) :=
  ⟨(openDispute_spec found).1,(openDispute_spec found).2.2,⟨rfl,rfl,rfl,rfl,rfl⟩,rfl⟩

theorem settle_allowed {i : ModerationItem} (found : r.claim c.publicId = some c) (disputes : c.status = .disputed)
    (item : openDispute r c.publicId = some i) (decision operator rationale : String) (now : Time) :
    Allowed p r (.settle i (deciding decision operator rationale now)) := by
  obtain ⟨_,cause,_⟩ := openDispute_spec item
  have names := (cause_dispute i c.publicId).mp cause
  refine ⟨names.2,openDispute_decides item decision operator rationale now,c,?_,disputes⟩
  rw [names.1]
  exact found

theorem settled_claim {i : ModerationItem} (keyed : Keyed r) (found : r.claim c.publicId = some c)
    (names : i.claim = c.publicId) (g : ModerationItem → ModerationItem) (id : ClaimId) :
    (apply r (.settle i g)).claim id = if id = c.publicId then some (pending c) else r.claim id := by
  have same : SameClaim c (pending c) := ⟨rfl,rfl,rfl⟩
  have updated := claim_updated keyed found same id
  rw [← names] at updated ⊢
  exact updated

theorem awarded_settled {i : ModerationItem} {f : Claim → Claim} (names : i.claim = c.publicId)
    (forgets : ∀ a, f (pending a) = f a) (olds losers : List ClaimId) (g : ModerationItem → ModerationItem) :
    (awarded r c f olds losers now).updateItem i.publicId g =
      awarded (apply r (.settle i g)) (pending c) f olds losers now := by
  have claims : r.claims.map (approving c.publicId f olds) =
      (r.claims.map fun a => if a.publicId = i.claim then pending a else a).map (approving c.publicId f olds) := by
    rw [List.map_map]
    refine List.map_congr_left ?_
    intro a _
    rw [Function.comp_apply,names]
    by_cases named : a.publicId = c.publicId
    · rw [if_pos named]
      unfold approving
      rw [if_pos named,if_pos (show (pending a).publicId = c.publicId from named),forgets]
    · rw [if_neg named]
  unfold awarded apply mapClaims Rows.updateClaim Rows.updateItem
  dsimp only
  rw [claims]
  rfl

theorem approved_allowed {manual : Option Manual} {olds : List ClaimId} (there : (r.listings c.listing).isSome)
    (found : r.claim c.publicId = some c) (pends : c.status = .pendingVerification)
    (listed : olds = (approvedClaims r c.listing).map (·.publicId)) : Allowed p r (.approve c (approved · manual now) olds) := by
  refine ⟨there,found,pends,?_,?_,?_,listed⟩
  · cases manual <;> exact ⟨rfl,rfl,rfl⟩
  · cases manual <;> rfl
  · cases manual <;> exact .inl rfl

theorem approveClaim_commits {l : Listing} {actor : Actor} {m : Manual} {olds losers : List ClaimId}
    (consistent : Consistent p t.toRows) (there : (t.listings c.listing).isSome) (found : t.claim c.publicId = some c)
    (waits : isOpenClaim c = true) (listed : olds = (approvedClaims t.toRows c.listing).map (·.publicId))
    (lose : Losing t.toRows c losers) (done : approveClaim p o t c l actor (some m) olds losers now = .ok t') :
    Commits p (Change.only False (fun _ => False) (· = c.listing))
      (.claim c.publicId :: .listing c.listing :: (olds.map .claim ++ losers.map .claim ++
        disputeKey (rowOf t.toRows (.claim c.publicId)))) t.toRows t'.toRows := by
  obtain ⟨t'',rows,equal⟩ := approveClaim_rows done
  have items : openDispute t''.toRows c.publicId = openDispute t.toRows c.publicId := by
    rw [rows]
    rfl
  rw [Option.elim_some] at equal
  subst equal
  rw [decideClaimItem_rows,items]
  have keyed := consistent.keyed
  have held := ((List.sublist_append_left (olds.map LockKey.claim ++ losers.map .claim)
    (disputeKey (rowOf t.toRows (.claim c.publicId)))).cons_cons (.listing c.listing)).cons_cons (.claim c.publicId)
  cases item : openDispute t.toRows c.publicId with
  | none =>
      have notDisputed : c.status ≠ .disputed := by
        intro disputes
        have some_ := (openDispute_exact consistent found).mpr disputes
        rw [item] at some_
        cases some_
      have pends : c.status = .pendingVerification := by
        unfold isOpenClaim at waits
        simpa [notDisputed] using waits
      dsimp only
      rw [rows]
      have approves : Allowed p t.toRows (.approve c (approved · (some m) now) olds) := approved_allowed there found pends listed
      have awards := award_commits now consistent approves lose
      exact commits_mono (fun _ is => is) (fun k named => held.subset named) awards
  | some i =>
      have disputes := (openDispute_exact consistent found).mp (by rw [item]; rfl)
      have names := ((cause_dispute i c.publicId).mp (openDispute_spec item).2.1).1
      let g := deciding "approved" m.operator m.notes now
      have settles : Allowed p t.toRows (.settle i g) := settle_allowed found disputes item _ _ _ _
      have claims := settled_claim keyed found names g
      dsimp only
      rw [rows,awarded_settled names (fun a => rfl)]
      have first : Commits p (Change.only False (fun _ => False) (· = c.listing))
          (.claim c.publicId :: .listing c.listing :: (olds.map .claim ++ losers.map .claim ++
            disputeKey (rowOf t.toRows (.claim c.publicId)))) t.toRows (apply t.toRows (.settle i g)) := by
        refine commits_one settles trivial ?_
        simp only [Change.keys,names,List.mem_cons,List.not_mem_nil,or_false]
        rintro k (is | is)
        · exact .inl is
        · refine .inr (.inr (List.mem_append_right _ ?_))
          rw [is]
          show _ ∈ (openDispute t.toRows c.publicId).toList.map _
          rw [item]
          exact List.mem_singleton.mpr rfl
      refine commits_trans first ?_
      have pended : (apply t.toRows (.settle i g)).claim (pending c).publicId = some (pending c) :=
        (claims c.publicId).trans (if_pos rfl)
      have still : ((apply t.toRows (.settle i g)).listings (pending c).listing).isSome := there
      have olds_ : olds = (approvedClaims (apply t.toRows (.settle i g)) c.listing).map (·.publicId) := by
        rw [listed]
        exact (approved_kept keyed settles (by simp [Change.keys]) _ fun _ _ same => same.publicId).symm
      have lose_ : Losing (apply t.toRows (.settle i g)) (pending c) losers := by
        intro id loses
        obtain ⟨differ,c',there,pends⟩ := lose id loses
        exact ⟨differ,c',(claims id).trans ((if_neg differ).trans there),pends⟩
      have approves : Allowed p (apply t.toRows (.settle i g)) (.approve (pending c) (approved · (some m) now) olds) :=
        approved_allowed still pended rfl olds_
      have awards := award_commits now (consistent_preserved _ _ settles consistent) approves lose_
      exact commits_mono (fun _ is => is) (fun k named => held.subset named) awards

theorem rejectedGuard_calm (g : Guard) (now : Time) (blocks_ : blocks g = false) : Calm g (rejectedGuard g now) := by
  unfold rejectedGuard
  refine ⟨rfl,rfl,rfl,?_⟩
  rw [if_neg (Bool.not_eq_true _ ▸ blocks_)]

theorem blocks_room {g : Guard} (blocks_ : blocks g = true) : g.claimBlockedAt = none := by
  unfold blocks at blocks_
  rw [Bool.and_eq_true,Option.isNone_iff_eq_none] at blocks_
  exact blocks_.2

def rejectedRows (r : Rows) (id : ClaimId) (f : Claim → Claim) (g : ModerationItem → ModerationItem) : Rows :=
  match openDispute r id with
  | none => r.updateClaim id f
  | some i => (r.updateClaim id f).updateItem i.publicId g

theorem rejectedRows_commits (consistent : Consistent p r) (found : r.claim c.publicId = some c) (waits : isOpenClaim c = true)
    (operator reason : String) :
    Commits p Change.plain (.claim c.publicId :: disputeKey (rowOf r (.claim c.publicId))) r
      (rejectedRows r c.publicId (rejected operator reason now) (deciding "rejected" operator reason now)) := by
  have keyed := consistent.keyed
  have rejects : ClaimStatus.rejected ≠ .approved ∧ ClaimStatus.rejected ≠ .disputed := by decide
  unfold rejectedRows
  cases item : openDispute r c.publicId with
  | none =>
      have notDisputed : c.status ≠ .disputed := by
        intro disputes
        have some_ := (openDispute_exact consistent found).mpr disputes
        rw [item] at some_
        cases some_
      have notApproved : c.status ≠ .approved := by
        intro approves
        unfold isOpenClaim at waits
        rw [approves] at waits
        cases waits
      have allowed : Allowed p r (.amend c.publicId (rejected operator reason now)) :=
        ⟨c,found,⟨rfl,rfl,rfl⟩,.inl rfl,iff_of_false rejects.1 notApproved,iff_of_false rejects.2 notDisputed⟩
      exact commits_one allowed trivial (by simp [Change.keys])
  | some i =>
      have disputes := (openDispute_exact consistent found).mp (by rw [item]; rfl)
      have names := ((cause_dispute i c.publicId).mp (openDispute_spec item).2.1).1
      let g := deciding "rejected" operator reason now
      let settle : Change := .settle i g
      let amend : Change := .amend c.publicId (rejected operator reason now)
      have settles : Allowed p r settle := settle_allowed found disputes item _ _ _ _
      have pended : (apply r settle).claim c.publicId = some (pending c) :=
        (settled_claim keyed found names g c.publicId).trans (if_pos rfl)
      have pends : ClaimStatus.pendingVerification ≠ .approved ∧ ClaimStatus.pendingVerification ≠ .disputed := by decide
      have amends : Allowed p (apply r settle) amend :=
        ⟨pending c,pended,⟨rfl,rfl,rfl⟩,.inl rfl,iff_of_false rejects.1 pends.1,iff_of_false rejects.2 pends.2⟩
      have rows : apply (apply r settle) amend =
          (r.updateClaim c.publicId (rejected operator reason now)).updateItem i.publicId g := by
        have claims : (r.claims.map fun a => if a.publicId = i.claim then pending a else a).map
            (fun a => if a.publicId = c.publicId then rejected operator reason now a else a) =
            r.claims.map fun a => if a.publicId = c.publicId then rejected operator reason now a else a := by
          rw [List.map_map]
          refine List.map_congr_left ?_
          intro a _
          rw [Function.comp_apply,names]
          by_cases named : a.publicId = c.publicId
          · rw [if_pos named,if_pos named,if_pos (show (pending a).publicId = c.publicId from named)]
            rfl
          · rw [if_neg named]
        exact congrArg (fun claims => {r.updateItem i.publicId g with claims := claims}) claims
      dsimp only
      rw [← rows]
      refine ⟨[settle,amend],.cons settles (changes_one amends),?_⟩
      have held : disputeKey (rowOf r (.claim c.publicId)) = [.item i.publicId] := by
        show (openDispute r c.publicId).toList.map _ = _
        rw [item]
        rfl
      rw [held,List.forall_mem_cons,List.forall_mem_singleton]
      exact ⟨⟨trivial,by simp [settle,Change.keys,names]⟩,trivial,by simp [amend,Change.keys]⟩

theorem closed_rows {id : ClaimId} {l : ListingId} {u : String} {f : Claim → Claim} {h : Guard → Guard} (o : Office)
    (decision operator rationale : String) (actor : Actor) (now : Time)
    (rows : t.toRows = (r.updateClaim id f).updateGuard l u h) :
    (decideClaimItem o t id decision operator rationale actor now).toRows =
      (rejectedRows r id f (deciding decision operator rationale now)).updateGuard l u h := by
  have same : openDispute t.toRows id = openDispute r id := by
    rw [rows]
    rfl
  rw [decideClaimItem_rows,same,rows]
  unfold rejectedRows
  cases openDispute r id <;> rfl

theorem reject_commits {rejection : Rejection} (consistent : Consistent p t.toRows) (found : t.claim c.publicId = some c)
    (waits : isOpenClaim c = true) (done : reject o t c (t.guards c.listing c.claimant.id) rejection = .ok t') :
    Commits p Change.plain (.claim c.publicId :: .guard c.listing c.claimant.id ::
      (disputeKey (rowOf t.toRows (.claim c.publicId)) ++
        if blocks (t.guards c.listing c.claimant.id) then [.item rejection.itemId] else [])) t.toRows t'.toRows := by
  let operator := rejection.operator.id
  let reason := Text.strip rejection.reason
  let g := t.guards c.listing c.claimant.id
  let base := rejectedRows t.toRows c.publicId (rejected operator reason rejection.now)
    (deciding "rejected" operator reason rejection.now)
  have first : Commits p Change.plain (.claim c.publicId :: disputeKey (rowOf t.toRows (.claim c.publicId))) t.toRows base :=
    rejectedRows_commits consistent found waits operator reason
  have guards : base.guards = t.guards := by
    unfold base rejectedRows
    split <;> rfl
  have consistent' := commits_consistent first consistent
  let h : Guard → Guard := fun _ => rejectedGuard g rejection.now
  have told : ∀ t'' : Tables,
      t''.toRows = (t.toRows.updateClaim c.publicId (rejected operator reason rejection.now)).updateGuard c.listing c.claimant.id h →
      (decideClaimItem o t'' c.publicId "rejected" operator reason rejection.operator.actor rejection.now).toRows =
        base.updateGuard c.listing c.claimant.id h := fun t'' rows => closed_rows o "rejected" operator reason _ _ rows
  have expired := congrArg (fun r : Rows => (r.updateClaim c.publicId (rejected operator reason rejection.now)).updateGuard
    c.listing c.claimant.id h) (expirePendingCode_rows t c.codeMessage rejection.now)
  have widened : ∀ tail, ∀ k ∈ LockKey.claim c.publicId :: disputeKey (rowOf t.toRows (.claim c.publicId)),
      k ∈ .claim c.publicId :: .guard c.listing c.claimant.id :: (disputeKey (rowOf t.toRows (.claim c.publicId)) ++ tail) :=
    fun tail k named => (((List.sublist_append_left _ tail).cons _).cons_cons _).subset named
  unfold reject at done
  dsimp only at done
  split at done
  · next blocks_ =>
      obtain ⟨queued,opened,mailed⟩ := Fallible.bind_exact.mp done
      have room := blocks_room blocks_
      have quiet : openFor base (.block c.listing c.claimant.id) = 0 := by
        refine unmet_of_quiet consistent'.linked ?_
        unfold stands
        dsimp only
        rw [guards,room]
        rfl
      have unmet : openFor (base.updateGuard c.listing c.claimant.id h) (.block c.listing c.claimant.id) = 0 := quiet
      obtain ⟨i,named,opens,rows⟩ := openItem_rows (told _ expired) opened unmet
      rw [enqueue_rows mailed,rows,if_pos blocks_]
      have blocked : Allowed p base (.block c.listing c.claimant.id h i) := by
        refine ⟨?_,?_,?_,opens.fresh,opens.isOpen,opens.cause⟩
        · rw [guards]
          exact room
        · show (rejectedGuard g rejection.now).claimBlockedAt.isSome
          unfold rejectedGuard
          rw [if_pos blocks_]
          rfl
        · rw [guards]
          exact ⟨rfl,rfl,rfl,room.symm⟩
      refine commits_trans (commits_mono (fun _ plain => plain) (widened _) first) (commits_one blocked trivial ?_)
      simp [Change.keys,named]
  · next blocks_ =>
      obtain ⟨queued,same,mailed⟩ := Fallible.bind_exact.mp done
      cases same
      rw [enqueue_rows mailed,told _ expired]
      have counted : Allowed p base (.count c.listing c.claimant.id h) := by
        show Calm (base.guards _ _) (rejectedGuard g rejection.now)
        rw [guards]
        exact rejectedGuard_calm g rejection.now (Bool.not_eq_true _ ▸ blocks_)
      refine commits_trans (commits_mono (fun _ plain => plain) (widened _) first) (commits_one counted trivial ?_)
      simp [Change.keys]

end approvals

section rulings

variable {p : Platform} {t : Tables} {i : ModerationItem}

theorem open_stands {r : Rows} (linked : Linked r) (present : i ∈ r.items) (isOpen : i.isOpen = true) :
    stands r i.cause = true := by
  have counted : 0 < openFor r i.cause := List.countP_pos_iff.mpr ⟨i,present,by simp [isOpen]⟩
  rw [linked] at counted
  by_contra falls
  rw [if_neg falls] at counted
  exact Nat.lt_irrefl 0 counted

theorem decideQueued_commits (o : Office) (decision : String) (ruling : Ruling) {clear : Guard → Guard} {stands_ : Bool}
    (consistent : Consistent p t.toRows) (found : t.item i.publicId = some i) (isOpen : i.isOpen = true)
    (either : i.itemType = .verificationLock ∧ clear = unlockedGuard ∧
        stands_ = (t.guards i.listing i.claimant.id).verificationLockedAt.isSome ∨
      i.itemType = .claimBlock ∧ clear = unblockedGuard ∧
        stands_ = (t.guards i.listing i.claimant.id).claimBlockedAt.isSome) :
    Commits p (Change.only False (· = i.itemType) fun _ => False) [.guard i.listing i.claimant.id,.item i.publicId] t.toRows
      (decideQueued o t i decision clear stands_ ruling).toRows := by
  have present := List.mem_of_find?_eq_some found
  have holds := open_stands consistent.linked present isOpen
  have still : stands_ = true := by
    unfold ModerationItem.cause at holds
    rcases either with ⟨locks,_,equal⟩ | ⟨blocks_,_,equal⟩
    · rw [locks] at holds
      rw [equal]
      exact holds
    · rw [blocks_] at holds
      rw [equal]
      exact holds
  have allowed : Allowed p t.toRows
      (.rule i clear (deciding decision ruling.operator.id (Text.strip ruling.rationale) ruling.now)) := by
    refine ⟨⟨present,isOpen,⟨rfl,rfl,rfl,rfl,rfl⟩,rfl⟩,?_⟩
    rcases either with ⟨locks,clears,_⟩ | ⟨blocks_,clears,_⟩
    · exact .inl ⟨locks,clears⟩
    · exact .inr ⟨blocks_,clears⟩
  have rows : (decideQueued o t i decision clear stands_ ruling).toRows = apply t.toRows
      (.rule i clear (deciding decision ruling.operator.id (Text.strip ruling.rationale) ruling.now)) := by
    unfold decideQueued
    rw [still]
    rfl
  rw [rows]
  exact commits_one allowed rfl fun k listed => listed

end rulings

end Osds.Claims
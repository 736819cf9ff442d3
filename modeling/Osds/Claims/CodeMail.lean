import Osds.Claims.Notices
import Osds.Lib.RowReads

namespace Osds.Claims.CodeMail
open Directory Audit RowLocks

def CODE_KIND : String := "claim.verification_code"

def codeAddress (m : Mail) : Option String := if m.kind = CODE_KIND then some m.toAddress else none

def sent (t : Tables) : List IssuedCode × List String := (t.codes,t.mail.filterMap codeAddress)

section sent

variable {p : Platform} {o : Office} {t t' : Tables} {now : Time}

theorem enqueue_sent {kind address subject : String} {expiresAt : Time} (other : kind ≠ CODE_KIND)
    (done : t.enqueue kind address subject now expiresAt = .ok t') : sent t' = sent t := by
  unfold Tables.enqueue at done
  split at done
  · cases done
    unfold sent
    rw [List.filterMap_append]
    have none_ : codeAddress {kind := kind,toAddress := address,subject := subject,createdAt := now,expiresAt := expiresAt} = none :=
      if_neg other
    rw [List.filterMap_cons_none none_,List.filterMap_nil,List.append_nil]
  · cases done

theorem enqueue_code {address subject : String} {expiresAt : Time}
    (done : t.enqueue CODE_KIND address subject now expiresAt = .ok t') : sent t' = (t.codes,(sent t).2 ++ [address]) := by
  unfold Tables.enqueue at done
  split at done
  · cases done
    unfold sent
    rw [List.filterMap_append]
    rfl
  · cases done

theorem enqueueAll_sent {kind subject : String} {expiresAt : Time} (other : kind ≠ CODE_KIND) (addresses : List String)
    (done : t.enqueueAll kind subject now expiresAt addresses = .ok t') : sent t' = sent t := by
  induction addresses generalizing t with
  | nil =>
      cases done
      rfl
  | cons address rest ih =>
      obtain ⟨queued,first,others⟩ := Fallible.bind_exact.mp done
      exact (ih others).trans (enqueue_sent other first)

theorem notifyOperators_sent (done : notifyOperators o t now = .ok t') : sent t' = sent t :=
  enqueueAll_sent (by decide) _ done

theorem tellUnlessDisputed_sent {c : Claim} (done : tellUnlessDisputed o t c now = .ok t') : sent t' = sent t := by
  unfold tellUnlessDisputed at done
  split at done
  · cases done
    rfl
  · exact notifyOperators_sent done

theorem mailRejection_sent {c : Claim} (done : mailRejection t c now = .ok t') : sent t' = sent t :=
  enqueue_sent (by decide) done

theorem expirePendingCode_sent (t : Tables) (message : Option Nat) (now : Time) :
    sent (t.expirePendingCode message now) = sent t := by
  unfold Tables.expirePendingCode
  cases message with
  | none => rfl
  | some n =>
      let expired := fun m : Mail => if m.status = .pending then {m with expiresAt := now} else m
      have same : ∀ m, codeAddress (expired m) = codeAddress m := by
        intro m
        unfold expired
        split <;> rfl
      have kept : ∀ mail : List Mail, (mail.modify n expired).filterMap codeAddress = mail.filterMap codeAddress := by
        intro mail
        induction mail generalizing n with
        | nil => rw [List.modify_nil]
        | cons m rest ih =>
            cases n with
            | zero => rw [List.modify_zero_cons,List.filterMap_cons,List.filterMap_cons,same]
            | succ n => rw [List.modify_succ_cons,List.filterMap_cons,List.filterMap_cons,ih]
      unfold sent
      rw [kept]

theorem openItem_sent {itemType : ItemType} {c : Claim} {rules : List String} {actor : Actor} {newId : String}
    (done : openItem o t itemType c rules actor newId now = .ok t') : sent t' = sent t := by
  unfold openItem at done
  split at done
  · cases done
    rfl
  · split at done
    · cases done
    · cases done
      rfl

theorem decideClaimItem_sent (o : Office) (t : Tables) (id : ClaimId) (decision operator rationale : String) (actor : Actor) (now : Time) :
    sent (decideClaimItem o t id decision operator rationale actor now) = sent t := by
  unfold decideClaimItem
  split <;> rfl

theorem dispute_sent {c : Claim} {actor : Actor} {newItem : String} (done : dispute o t c actor newItem now = .ok t') :
    sent t' = sent t := by
  obtain ⟨queued,opened,told⟩ := Fallible.bind_exact.mp done
  have disputed := openItem_sent opened
  exact (notifyOperators_sent told).trans disputed

theorem wrongCode_sent {c : Claim} {g : Guard} {itemId : String} (done : wrongCode o t c g itemId now = .ok t') : sent t' = sent t := by
  unfold wrongCode at done
  dsimp only at done
  split at done
  · obtain ⟨queued,opened,told⟩ := Fallible.bind_exact.mp done
    exact (tellUnlessDisputed_sent told).trans ((openItem_sent opened).trans (expirePendingCode_sent ..))
  · cases done
    rfl

theorem rejectLosers_sent (losers : List ClaimId) (done : rejectLosers o t now losers = .ok t') : sent t' = sent t := by
  induction losers generalizing t with
  | nil =>
      cases done
      rfl
  | cons id rest ih =>
      unfold rejectLosers at done
      split at done
      · exact ih done
      · obtain ⟨next,lost,others⟩ := Fallible.bind_exact.mp done
        exact (ih others).trans ((mailRejection_sent lost).trans (expirePendingCode_sent ..))

theorem retire_sent (olds : List ClaimId) (t : Tables) :
    sent (olds.foldl (fun t old => t.updateClaim old fun c => {c with status := .superseded}) t) = sent t := by
  induction olds generalizing t with
  | nil => rfl
  | cons id rest ih => exact ih _

theorem approvalEvents_sent (p : Platform) (o : Office) (t : Tables) (c : Claim) (l : Listing) (actor : Actor)
    (manual : Option Manual) (now : Time) : sent (approvalEvents p o t c l actor manual now) = sent t := by
  unfold approvalEvents
  dsimp only
  split <;> rfl

theorem approveClaim_sent {c : Claim} {l : Listing} {actor : Actor} {manual : Option Manual} {olds losers : List ClaimId}
    (done : approveClaim p o t c l actor manual olds losers now = .ok t') : sent t' = sent t := by
  obtain ⟨notified,notifies,rest⟩ := Fallible.bind_exact.mp done
  obtain ⟨lost,loses,rest⟩ := Fallible.bind_exact.mp rest
  have told : sent notified = sent t :=
    (enqueueAll_sent (by decide) _ notifies).trans ((expirePendingCode_sent ..).trans (retire_sent olds t))
  have losing := (rejectLosers_sent losers loses).trans ((approvalEvents_sent ..).trans told)
  cases manual with
  | none =>
      cases rest
      exact losing
  | some m =>
      cases rest
      exact (decideClaimItem_sent ..).trans losing

theorem reject_sent {c : Claim} {g : Guard} {r : Rejection} (done : reject o t c g r = .ok t') : sent t' = sent t := by
  obtain ⟨queued,opened,mailed⟩ := reject_exact.mp done
  refine (mailRejection_sent mailed).trans ?_
  have closed : sent (recorded o t c g r) = sent t :=
    (decideClaimItem_sent ..).trans (expirePendingCode_sent t c.codeMessage r.now)
  split at opened
  · exact (openItem_sent opened).trans closed
  · cases opened
    exact closed

theorem decideQueued_sent (o : Office) (t : Tables) (i : ModerationItem) (decision : String) (clear : Guard → Guard)
    (stands_ : Bool) (r : Ruling) : sent (decideQueued o t i decision clear stands_ r) = sent t := by
  unfold decideQueued
  dsimp only
  split <;> rfl

theorem eligible_exact {l : Listing} {locked : Bool} {email : String} : domainEmailIneligibility p o l locked email = .ok none ↔
    ∃ host, p.domainEmailHost l = .ok (some host) ∧ locked = false ∧ o.emailAvailable = true ∧ p.addressHost email = some host := by
  unfold domainEmailIneligibility
  split
  · next answer =>
      refine ⟨fun eligible => (by cases eligible),fun found => ?_⟩
      obtain ⟨_,there,_⟩ := found
      cases answer.symm.trans there
  · next answer =>
      refine ⟨fun eligible => (by cases eligible),fun found => ?_⟩
      obtain ⟨_,there,_⟩ := found
      cases answer.symm.trans there
  · next host answer =>
      constructor
      · intro eligible
        split at eligible
        · cases eligible
        · next unlocked =>
            split at eligible
            · cases eligible
            · next available =>
                split at eligible
                · next same => exact ⟨host,answer,Bool.eq_false_iff.mpr unlocked,Decidable.not_not.mp available,same⟩
                · cases eligible
      · intro found
        obtain ⟨_,there,unlocked,available,same⟩ := found
        cases answer.symm.trans there
        rw [unlocked,if_neg Bool.false_ne_true,if_neg (not_not_intro available),if_pos same]

theorem eligible_unlocked {l : Listing} {locked : Bool} {email : String} (eligible : domainEmailIneligibility p o l locked email = .ok none) :
    domainEmailIneligibility p o l false email = .ok none := by
  obtain ⟨host,there,_,rest⟩ := eligible_exact.mp eligible
  exact eligible_exact.mpr ⟨host,there,rfl,rest⟩

theorem sendCode_sent {c : Claim} {l : Listing} {windowStart : Time} {sentInWindow : Nat} {code : String}
    (done : sendCode p o t c l windowStart sentInWindow code now = .ok t') :
    ∃ expiresAt, sent t' = (⟨c.publicId,code,expiresAt⟩ :: (sent t).1,(sent t).2 ++ [c.claimant.email]) := by
  obtain ⟨queued,enqueued,rest⟩ := Fallible.bind_exact.mp done
  cases rest
  have queue := enqueue_code enqueued
  have codes : queued.codes = (sent t).1 := congrArg Prod.fst (queue.trans (congrArg (·,_) (congrArg Prod.fst (expirePendingCode_sent ..))))
  have mail : (sent queued).2 = (sent t).2 ++ [c.claimant.email] := by
    rw [queue,expirePendingCode_sent]
  refine ⟨now + resolveDomainEmailTtl o,?_⟩
  show (⟨c.publicId,code,now + resolveDomainEmailTtl o⟩ :: queued.codes,(sent queued).2) = _
  rw [codes,mail]

theorem start_sent {c : Claim} {l : Listing} {g : Guard} {code : String} (done : start p o t c l g code now = .ok t') :
    sent t' = sent t ∨ domainEmailIneligibility p o l false c.claimant.email = .ok none ∧
      ∃ expiresAt, sent t' = (⟨c.publicId,code,expiresAt⟩ :: (sent t).1,(sent t).2 ++ [c.claimant.email]) := by
  unfold start at done
  split at done
  · cases done
  · obtain ⟨told,tells,rest⟩ := Fallible.bind_exact.mp done
    cases rest
    exact .inl ((tellUnlessDisputed_sent tells).trans (expirePendingCode_sent ..))
  · cases done
    exact .inl rfl
  · cases done
    exact .inl rfl
  · next result =>
      refine .inr ⟨?_,sendCode_sent done⟩
      unfold startResult at result
      split at result
      · cases result
      · cases result
      · next answer => exact eligible_unlocked answer

def Kept (t t' : Tables) : Prop := ∀ c ∈ t.claims, ∃ c' ∈ t'.claims, SameClaim c c'

theorem kept_same (claims : t'.claims = t.claims) : Kept t t' :=
  fun c there => ⟨c,claims ▸ there,rfl,rfl,rfl⟩

theorem kept_trans {t'' : Tables} (first : Kept t t') (second : Kept t' t'') : Kept t t'' := by
  intro c there
  obtain ⟨c',there,same⟩ := first c there
  obtain ⟨c'',there,again⟩ := second c' there
  exact ⟨c'',there,same_claim_trans same again⟩

theorem updateClaim_kept (t : Tables) (id : ClaimId) {f : Claim → Claim} (same : ∀ c, SameClaim c (f c)) : Kept t (t.updateClaim id f) := by
  intro c there
  refine ⟨_,List.mem_map_of_mem there,?_⟩
  split
  · exact same c
  · exact ⟨rfl,rfl,rfl⟩

theorem start_kept {c : Claim} {l : Listing} {g : Guard} {code : String} (done : start p o t c l g code now = .ok t') : Kept t t' := by
  unfold start at done
  split at done
  · cases done
  · next reason _ =>
      obtain ⟨told,tells,rest⟩ := Fallible.bind_exact.mp done
      cases rest
      have rows := (tellUnlessDisputed_rows tells).trans (expirePendingCode_rows ..)
      have flipped : Kept t (t.updateClaim c.publicId (flipToManual reason)) := updateClaim_kept t c.publicId fun _ => ⟨rfl,rfl,rfl⟩
      exact kept_trans flipped (kept_same (congrArg Rows.claims rows))
  · cases done
    exact kept_same rfl
  · cases done
    exact kept_same rfl
  · obtain ⟨queued,enqueued,rest⟩ := Fallible.bind_exact.mp done
    cases rest
    have rows := (enqueue_rows enqueued).trans (expirePendingCode_rows ..)
    refine kept_trans (kept_same (congrArg Rows.claims rows)) (kept_trans (updateClaim_kept queued c.publicId ?_) (kept_same rfl))
    exact fun _ => ⟨rfl,rfl,rfl⟩

theorem dispute_kept {c : Claim} {actor : Actor} {newItem : String} (done : dispute o t c actor newItem now = .ok t') : Kept t t' := by
  obtain ⟨queued,opened,told⟩ := Fallible.bind_exact.mp done
  have moved : Kept t (t.updateClaim c.publicId fun c => {c with status := .disputed,reviewReason := "disputed"}) :=
    updateClaim_kept t c.publicId fun _ => ⟨rfl,rfl,rfl⟩
  refine kept_trans moved (kept_trans ?_ (kept_same (congrArg Rows.claims (notifyOperators_rows told))))
  unfold openItem at opened
  split at opened
  · cases opened
    exact kept_same rfl
  · split at opened
    · cases opened
    · cases opened
      exact kept_same rfl

end sent

section scripts

variable {p : Platform} {o : Office} {past : (k : LockKey) → Row k → Prop}

def Silent (change : Tables → Except ClaimError Tables) : Prop := ∀ t t', change t = .ok t' → sent t' = sent t

-- One code more, in a message to a claimant whose address a row of the listing has made eligible.
def Sends (p : Platform) (past : (k : LockKey) → Row k → Prop) (t t' : Tables) : Prop :=
  ∃ c code expiresAt o l approved, ((∃ id dispute, past (.claim id) ⟨some c,dispute⟩) ∨ ∃ c' ∈ t'.claims, SameClaim c c') ∧
    past (.listing c.listing) ⟨some l,approved⟩ ∧ domainEmailIneligibility p o l false c.claimant.email = .ok none ∧
    sent t' = (⟨c.publicId,code,expiresAt⟩ :: (sent t).1,(sent t).2 ++ [c.claimant.email])

def Posts (p : Platform) (past : (k : LockKey) → Row k → Prop) (change : Tables → Except ClaimError Tables) : Prop :=
  ∀ t t', change t = .ok t' → sent t' = sent t ∨ Sends p past t t'

theorem approval_silent (c : Claim) (row : ListingRow) (l : Listing) (actor : Actor) (manual : Option Manual) (items : List LockKey)
    {before : Tables → Tables} (now : Time) (first : ∀ t, sent (before t) = sent t) :
    (approvalScript p o c row l actor manual items before now).All Silent := by
  refine lockEach_all _ fun ks => lockEach_all items ?_
  exact fun t t' done => (approveClaim_sent done).trans (first t)

theorem resolve_silent (c : Claim) (itemId : String) (now : Time) : (resolveScript p o c itemId now).All Silent := by
  intro row
  dsimp only
  split
  · exact True.intro
  · split
    · intro t t' done
      cases done
      rfl
    · split
      · intro _ t t' done
        have disputed := dispute_sent done
        exact disputed
      · exact approval_silent _ row _ _ none [] now fun t => rfl

theorem verify_silent (id : ClaimId) (code itemId : String) (now : Time) : (verifyScript p o id code itemId now).All Silent := by
  refine lockPair_all id ?_
  intro g row c
  split
  · exact True.intro
  · split
    · exact lockEach_all _ fun t t' done => wrongCode_sent done
    · split
      · intro t t' done
        cases done
        rfl
      · exact resolve_silent c itemId now

theorem approve_silent (id : ClaimId) (r : Review) : (approveScript p o id r).All Silent := by
  unfold approveScript
  generalize (Text.strip r.evidenceRef).length = n
  refine all_ite True.intro (all_ite True.intro (all_ite True.intro ?_))
  intro claimRow
  dsimp only
  split
  · exact True.intro
  · refine all_ite True.intro ?_
    intro row
    dsimp only
    split
    · exact True.intro
    · refine all_ite True.intro (all_ite ?_ (all_ite True.intro (all_ite True.intro ?_)))
      · exact fun _ t t' done => dispute_sent done
      · exact approval_silent _ row _ _ _ _ r.now fun t => rfl

theorem reject_silent (id : ClaimId) (r : Rejection) : (rejectScript o id r).All Silent := by
  unfold rejectScript
  split
  · exact True.intro
  · split
    · exact True.intro
    · refine lockPair_all id ?_
      intro g row c
      split
      · exact True.intro
      · exact lockEach_all _ fun t t' done => reject_sent done

theorem queue_silent (itemType : ItemType) (id : String) (r : Ruling) {change : Tables → ModerationItem → Guard → Tables}
    (silent : ∀ t i g, sent (change t i g) = sent t) : (queueScript itemType id r change).All Silent := by
  unfold queueScript
  split
  · exact True.intro
  · split
    · exact True.intro
    · intro seen
      dsimp only
      split
      · exact True.intro
      · split
        · exact True.intro
        · intro g row
          dsimp only
          split
          · exact True.intro
          · split
            · exact True.intro
            · intro t t' done
              cases done
              exact silent t _ g

theorem resend_posts (id : ClaimId) (code : String) (now : Time) : (resendScript p o id code now).Upon past (Posts p past) := by
  intro seen _
  dsimp only
  split
  · exact True.intro
  · intro g _ row locked
    dsimp only
    split
    · exact True.intro
    · next c found =>
        obtain ⟨claim,dispute⟩ := row
        cases found
        split
        · exact True.intro
        · split
          · exact True.intro
          · split
            · exact True.intro
            · intro read there
              obtain ⟨listing,approved⟩ := read
              dsimp only
              split
              · exact True.intro
              · next l =>
                  split
                  · exact True.intro
                  · exact True.intro
                  · exact True.intro
                  · intro t t' done
                    refine (start_sent done).imp_right fun posts => ?_
                    obtain ⟨eligible,expiresAt,shown⟩ := posts
                    exact ⟨c,code,expiresAt,o,l,approved,.inl ⟨id,dispute,locked⟩,there,eligible,shown⟩

theorem submit_posts {t t' : Tables} {s : Submission} {u : DirectoryUser} {minted : Bool} {c : Claim} {seen : Listing}
    {starting : Option (Listing × Guard)}
    (reads : ∀ l g, starting = some (l,g) → ∃ approved, past (.listing c.listing) ⟨some l,approved⟩)
    (done : submit p o t s u minted c seen starting = .ok t') : sent t' = sent t ∨ Sends p past t t' := by
  unfold submit at done
  obtain ⟨met,meets,rest⟩ := Fallible.bind_exact.mp done
  obtain ⟨created,creates,rest⟩ := Fallible.bind_exact.mp rest
  have meeting : sent met = sent t := by
    unfold mintUser at meets
    split at meets
    · cases meets
      rfl
    · split at meets
      · cases meets
      · split at meets
        · cases meets
        · cases meets
          rfl
  have creating : sent created = sent t ∧ c ∈ created.claims := by
    unfold createClaim at creates
    split at creates
    · cases creates
    · cases creates
      exact ⟨meeting,List.mem_append_right _ (List.mem_singleton.mpr rfl)⟩
  have closing : ∀ (started : Tables) (flipped : Bool), (if seen.status = .claimed then dispute o started c (visitor u) s.itemId s.now
      else if c.method = .manual ∨ flipped then notifyOperators o started s.now else .ok started) = .ok t' →
      sent t' = sent started ∧ Kept started t' := by
    intro started flipped rest
    split at rest
    · exact ⟨dispute_sent rest,dispute_kept rest⟩
    · split at rest
      · exact ⟨notifyOperators_sent rest,kept_same (congrArg Rows.claims (notifyOperators_rows rest))⟩
      · cases rest
        exact ⟨rfl,kept_same rfl⟩
  cases starting with
  | none => exact .inl ((closing created _ rest).1.trans creating.1)
  | some found =>
      obtain ⟨started,starts,rest⟩ := Fallible.bind_exact.mp rest
      obtain ⟨closes,keeps⟩ := closing started _ rest
      obtain ⟨approved,there⟩ := reads _ _ rfl
      rcases start_sent starts with quiet | ⟨eligible,expiresAt,shown⟩
      · exact .inl (closes.trans (quiet.trans creating.1))
      · refine .inr ⟨c,s.code,expiresAt,o,found.1,approved,.inr ?_,there,eligible,?_⟩
        · exact kept_trans (start_kept starts) keeps c creating.2
        · rw [closes,shown,creating.1]

theorem inserting_upon {q : (Tables → Except ClaimError Tables) → Prop} {next : Script} (s : Submission) (seen : Listing)
    (upon : next.Upon past q) : (inserting s seen next).Upon past q := by
  intro row _
  dsimp only
  split
  · exact True.intro
  · generalize (if seen.status = .claimed then [LockKey.item s.itemId] else []) = ks
    induction ks with
    | nil => exact upon
    | cons k rest ih => exact fun _ _ => ih

theorem submitAs_posts (s : Submission) (seen : Listing) (u : DirectoryUser) (minted : Bool) :
    (submitAs p o s seen u minted).Upon past (Posts p past) := by
  intro g _
  dsimp only
  split
  · exact True.intro
  · split
    · intro g _
      dsimp only
      split
      · exact True.intro
      · exact inserting_upon s seen fun t t' done => submit_posts (fun l g none_ => by cases none_) done
      · refine inserting_upon s seen ?_
        intro g _ row there
        obtain ⟨listing,approved⟩ := row
        dsimp only
        split
        · exact True.intro
        · refine fun t t' done => submit_posts (fun l' g' same => ?_) done
          cases same
          exact ⟨approved,there⟩
    · exact inserting_upon s seen fun t t' done => submit_posts (fun l g none_ => by cases none_) done

theorem submitScript_posts (s : Submission) : (submitScript p o s).Upon past (Posts p past) := by
  unfold submitScript
  split
  · exact True.intro
  · split
    · exact True.intro
    · intro seen _
      dsimp only
      split
      · exact True.intro
      · intro found _
        dsimp only
        split
        · exact submitAs_posts s _ _ false
        · intro found _
          dsimp only
          split
          · exact submitAs_posts s _ _ false
          · exact submitAs_posts s _ _ true

theorem command_posts (p : Platform) (past : (k : LockKey) → Row k → Prop) (cmd : Command) : (script p cmd).Upon past (Posts p past) := by
  have quiet : ∀ change, Silent change → Posts p past change := fun change silent t t' done => .inl (silent t t' done)
  cases cmd with
  | submit o s => exact submitScript_posts s
  | resend o id code now => exact resend_posts id code now
  | verify o id code itemId now => exact upon_of_all quiet (verify_silent id code itemId now)
  | approve o id r => exact upon_of_all quiet (approve_silent id r)
  | reject o id r => exact upon_of_all quiet (reject_silent id r)
  | unlock o id r => exact upon_of_all quiet (queue_silent _ id r fun t i g => decideQueued_sent o t i _ _ _ r)
  | unblock o id r => exact upon_of_all quiet (queue_silent _ id r fun t i g => decideQueued_sent o t i _ _ _ r)
  | writeListing id w =>
      intro row _ t t' done
      cases done
      exact .inl rfl

end scripts

section runs

variable {p : Platform} {s : State} {t : Tables}

theorem step_forward (sound : Sound p s) (action : Action Command) (k : LockKey) :
    Before k (rowOf s.store.toRows k) (rowOf (step p s action).store.toRows k) := by
  rcases step_commits sound action with still | ⟨cmd,held,_,commits⟩
  · rw [still]
    exact before_refl k _
  · obtain ⟨xs,changes,_⟩ := commits
    exact changes_forward changes sound.store.keyed k

theorem run_forward (sound : Sound p s) (actions : List (Action Command)) (k : LockKey) :
    Before k (rowOf s.store.toRows k) (rowOf (Runs.run (step p) s actions).store.toRows k) := by
  induction actions generalizing s with
  | nil => exact before_refl k _
  | cons action rest ih => exact before_trans k _ _ _ (step_forward sound action k) (ih (step_sound s action sound))

-- In every schedule a code goes to the claimant alone, and to an address that a row
-- the listing has had by then made eligible.
theorem run_posts (p : Platform) (fresh : Fresh t) (actions : List (Action Command)) (action : Action Command) :
    sent (step p (Runs.run (step p) (RowLocks.start t) actions) action).store = sent (Runs.run (step p) (RowLocks.start t) actions).store ∨
      ∃ c ∈ (step p (Runs.run (step p) (RowLocks.start t) actions) action).store.claims, ∃ code expiresAt o l before,
        before <+: actions ∧ (Runs.run (step p) (RowLocks.start t) before).store.listings c.listing = some l ∧
        domainEmailIneligibility p o l false c.claimant.email = .ok none ∧
        sent (step p (Runs.run (step p) (RowLocks.start t) actions) action).store =
          (⟨c.publicId,code,expiresAt⟩ :: (sent (Runs.run (step p) (RowLocks.start t) actions).store).1,
            (sent (Runs.run (step p) (RowLocks.start t) actions).store).2 ++ [c.claimant.email]) := by
  let past : (k : LockKey) → Row k → Prop := Past database (script p) (RowLocks.start t) actions
  have begun : Sound p (RowLocks.start t : State) := start_valid t (fresh_consistent p fresh)
  have drawn : Drawn past (fun _ => Posts p past) (Runs.run (step p) (RowLocks.start t) actions) :=
    run_drawn (fun c => command_posts p past c) (start_drawn t) actions fun _ _ there => there
  rcases step_change drawn action with still | ⟨cmd,change,posts,done⟩
  · exact .inl (congrArg sent still)
  rcases posts _ _ done with quiet | ⟨c,code,expiresAt,o,l,approved,known,read,eligible,shown⟩
  · exact .inl quiet
  refine .inr ?_
  obtain ⟨before,start,row⟩ := read
  have listing := congrArg ListingRow.listing row
  have there : ∃ c' ∈ (step p (Runs.run (step p) (RowLocks.start t) actions) action).store.claims, SameClaim c c' := by
    rcases known with ⟨id,dispute,earlier,first,found⟩ | now
    · obtain ⟨rest,whole⟩ := first
      have later := run_forward (Runs.run_invariant (step p) step_sound begun earlier) (rest ++ [action]) (.claim id)
      rw [← Runs.run_append,← List.append_assoc,whole,Runs.run_append] at later
      obtain ⟨c',found',same⟩ := later c (congrArg ClaimRow.claim found)
      exact ⟨c',List.mem_of_find?_eq_some found',same⟩
    · exact now
  obtain ⟨c',present,same⟩ := there
  refine ⟨c',present,code,expiresAt,o,l,before,start,?_,?_,?_⟩
  · rw [same.listing]
    exact listing
  · rw [same.claimant]
    exact eligible
  · rw [same.publicId,same.claimant]
    exact shown

end runs

end Osds.Claims.CodeMail

import Osds.Claims.Closing

namespace Osds.Claims
open Directory Audit RowLocks

def inReview (c : Claim) : Bool := c.status = .pendingVerification && (c.method = .manual || c.verifiedAt.isSome)

def isDispute (i : ModerationItem) : Bool := i.isOpen && i.itemType = .claimDispute

def isNotice (address : String) (m : Mail) : Bool := m.kind = OPERATOR_NOTICE_KIND && m.toAddress = address

def lastNotice (t : Tables) (address : String) : Option Time := ((t.mail.filter (isNotice address)).map (·.createdAt)).max?

def enteredReviewSince (t : Tables) (since : Time) : Bool :=
  t.claims.any (fun c => inReview c && decide (since < c.updatedAt)) ||
    t.items.any (fun i => isDispute i && decide (since < i.createdAt))

def noticeFloor (t : Tables) (now : Time) (address : String) : Time :=
  match lastNotice t address with
  | some last => max last (now - OPERATOR_NOTICE_TTL)
  | none => now - OPERATOR_NOTICE_TTL

def outOfWindow (t : Tables) (now : Time) (address : String) : Bool :=
  (lastNotice t address).all fun last => last ≤ now - OPERATOR_NOTICE_THROTTLE

def flushDue (o : Office) (t : Tables) (now : Time) : List String :=
  o.recipients.filter fun address => outOfWindow t now address && enteredReviewSince t (noticeFloor t now address)

def flushOperatorNotices (o : Office) (t : Tables) (now at_ : Time) : Except ClaimError Tables :=
  t.enqueueAll OPERATOR_NOTICE_KIND ("Claims waiting for review on " ++ o.name) at_ (now + OPERATOR_NOTICE_TTL) (flushDue o t now)

def claimNoticeFlush (o : Office) (t : Tables) (now at_ : Time) : Except ClaimError Tables :=
  let cutoff := now - OPERATOR_NOTICE_TTL
  if t.claims.any (fun c => c.status = .pendingVerification && decide (cutoff < c.updatedAt)) ||
      t.items.any (fun i => isDispute i && decide (cutoff < i.createdAt)) then
    flushOperatorNotices o t now at_
  else .ok t

-- The tables, the clock, and when each claim entered review: for the statements only.
structure Desk where
  tables : Tables
  clock : Time
  entered : List (ClaimId × Time)

inductive Call where
  | command (wait : Nat) (cmd : Command)
  | flush (wait : Nat) (o : Office) (now : Time)

def Command.at_ (now : Time) : Command → Command
  | .submit o s => .submit o {s with now := now}
  | .resend o id code _ => .resend o id code now
  | .verify o id code itemId _ => .verify o id code itemId now
  | .approve o id r => .approve o id {r with now := now}
  | .reject o id r => .reject o id {r with now := now}
  | .unlock o id r => .unlock o id {r with now := now}
  | .unblock o id r => .unblock o id {r with now := now}
  | .writeListing id w => .writeListing id w

-- The claims that are in review, or disputed by an open item, and were not before.
def enters (t t' : Tables) : List ClaimId :=
  ((t'.claims.filter fun c => inReview c && !t.claims.any fun old => old.publicId = c.publicId && inReview old).map (·.publicId)) ++
    ((t'.items.filter fun i => isDispute i && !t.items.any fun old => old.publicId = i.publicId && isDispute old).map (·.claim))

namespace Desk

def tick (s : Desk) (wait : Nat) : Time := s.clock + 1 + wait

def call (p : Platform) (s : Desk) : Call → Desk
  | .command wait cmd =>
      let now := s.tick wait
      let t' := after s.tables (perform database s.tables (script p (cmd.at_ now)))
      ⟨t',now,(enters s.tables t').map (·,now) ++ s.entered⟩
  | .flush wait o now =>
      match flushOperatorNotices o s.tables now (s.tick wait) with
      | .ok t' => ⟨t',s.tick wait,s.entered⟩
      | .error _ => ⟨s.tables,s.tick wait,s.entered⟩

end Desk

def waiting (t : Tables) (id : ClaimId) : Bool :=
  t.claims.any (fun c => c.publicId = id && inReview c) || t.items.any (fun i => i.claim = id && isDispute i)

def OutOfWindow (t : Tables) (now : Time) (address : String) : Prop :=
  ∀ m ∈ t.mail, isNotice address m → m.createdAt ≤ now - OPERATOR_NOTICE_THROTTLE

def SinceNotice (t : Tables) (now : Time) (address : String) (v : Time) : Prop :=
  now - OPERATOR_NOTICE_TTL < v ∧ ∀ m ∈ t.mail, isNotice address m → m.createdAt < v

def Shows (t : Tables) (now : Time) (address : String) : Prop :=
  (∃ c ∈ t.claims, inReview c ∧ SinceNotice t now address c.updatedAt) ∨
    ∃ i ∈ t.items, isDispute i ∧ SinceNotice t now address i.createdAt

-- After the flush each claim that entered review within the notice lifetime and still
-- waits has a notice, since it did, to each recipient out of the throttle window.
def Announces (s : Desk) (o : Office) (now : Time) (s' : Desk) : Prop :=
  ∀ address ∈ o.recipients, OutOfWindow s.tables now address → ∀ id entry, (id,entry) ∈ s.entered →
    now - OPERATOR_NOTICE_TTL < entry → waiting s.tables id → ∃ m ∈ s'.tables.mail, isNotice address m ∧ entry ≤ m.createdAt

-- Wherever a waiting claim entered review since the recipient's last notice, one was
-- submitted, or disputed, since then too; and the notices can be stored.
def Visible (s : Desk) (o : Office) (now : Time) : Prop :=
  ∀ address ∈ o.recipients, OutOfWindow s.tables now address →
    (∃ id entry, (id,entry) ∈ s.entered ∧ SinceNotice s.tables now address entry ∧ waiting s.tables id) →
      Shows s.tables now address ∧ ("Claims waiting for review on " ++ o.name).length ≤ 200 ∧
        ∀ other ∈ o.recipients, OutOfWindow s.tables now other → Shows s.tables now other → other.length ≤ 254

def Quiets (s s' : Desk) : Prop :=
  ∀ address, (∀ id entry, (id,entry) ∈ s.entered → ∃ m ∈ s.tables.mail, isNotice address m ∧ entry ≤ m.createdAt) →
    s'.tables.mail.filter (isNotice address) = s.tables.mail.filter (isNotice address)

section moves

def Renewed {α : Type} (same : α → α → Prop) (fresh : α → Prop) (xs ys : List α) : Prop :=
  ∃ f new, ys = xs.map f ++ new ∧ (∀ x, same x (f x)) ∧ ∀ x ∈ new, fresh x

def SameStamp (c c' : Claim) : Prop := c'.publicId = c.publicId ∧ c'.updatedAt = c.updatedAt

def SameOpening (i i' : ModerationItem) : Prop :=
  i'.publicId = i.publicId ∧ i'.createdAt = i.createdAt ∧ i'.claim = i.claim ∧ i'.itemType = i.itemType

structure Moves (now : Time) (t t' : Tables) : Prop where
  claims : Renewed SameStamp (fun c => c.updatedAt = now) t.claims t'.claims
  items : Renewed SameOpening (fun i => i.createdAt = now) t.items t'.items

variable {p : Platform} {o : Office} {t t' t'' : Tables} {now : Time}

theorem renewed_refl {α : Type} {same : α → α → Prop} {fresh : α → Prop} (refl : ∀ x, same x x) (xs : List α) :
    Renewed same fresh xs xs :=
  ⟨id,[],by rw [List.map_id,List.append_nil],refl,List.forall_mem_nil _⟩

theorem renewed_trans {α : Type} {same : α → α → Prop} {fresh : α → Prop} {xs ys zs : List α}
    (trans : ∀ x y z, same x y → same y z → same x z) (kept : ∀ x y, same x y → fresh x → fresh y)
    (first : Renewed same fresh xs ys) (second : Renewed same fresh ys zs) : Renewed same fresh xs zs := by
  obtain ⟨f,new,is,sameF,freshF⟩ := first
  obtain ⟨g,more,is',sameG,freshG⟩ := second
  refine ⟨g ∘ f,new.map g ++ more,?_,fun x => trans x (f x) _ (sameF x) (sameG _),?_⟩
  · rw [is',is,List.map_append,List.map_map,List.append_assoc]
  · intro x listed
    rcases List.mem_append.mp listed with old | added
    · obtain ⟨y,there,rfl⟩ := List.mem_map.mp old
      exact kept y (g y) (sameG y) (freshF y there)
    · exact freshG x added

theorem moves_rows (claims : t'.claims = t.claims) (items : t'.items = t.items) : Moves now t t' := by
  refine ⟨?_,?_⟩
  · rw [claims]
    exact renewed_refl (fun _ => ⟨rfl,rfl⟩) _
  · rw [items]
    exact renewed_refl (fun _ => ⟨rfl,rfl,rfl,rfl⟩) _

theorem moves_same (rows : t'.toRows = t.toRows) : Moves now t t' :=
  moves_rows (congrArg Rows.claims rows) (congrArg Rows.items rows)

theorem moves_trans (first : Moves now t t') (second : Moves now t' t'') : Moves now t t'' := by
  refine ⟨renewed_trans ?_ ?_ first.claims second.claims,renewed_trans ?_ ?_ first.items second.items⟩
  · exact fun _ _ _ one two => ⟨two.1.trans one.1,two.2.trans one.2⟩
  · exact fun _ _ same fresh => same.2.trans fresh
  · exact fun _ _ _ one two =>
      ⟨two.1.trans one.1,two.2.1.trans one.2.1,two.2.2.1.trans one.2.2.1,two.2.2.2.trans one.2.2.2⟩
  · exact fun _ _ same fresh => same.2.1.trans fresh

theorem updateClaim_moves (id : ClaimId) {f : Claim → Claim} (same : ∀ c, SameStamp c (f c)) : Moves now t (t.updateClaim id f) := by
  refine ⟨⟨fun c => if c.publicId = id then f c else c,[],(List.append_nil _).symm,?_,List.forall_mem_nil _⟩,
    renewed_refl (fun _ => ⟨rfl,rfl,rfl,rfl⟩) _⟩
  intro c
  dsimp only
  split
  · exact same c
  · exact ⟨rfl,rfl⟩

theorem updateItem_moves (id : String) {f : ModerationItem → ModerationItem} (same : ∀ i, SameOpening i (f i)) :
    Moves now t (t.updateItem id f) := by
  refine ⟨renewed_refl (fun _ => ⟨rfl,rfl⟩) _,
    ⟨fun i => if i.publicId = id then f i else i,[],(List.append_nil _).symm,?_,List.forall_mem_nil _⟩⟩
  intro i
  dsimp only
  split
  · exact same i
  · exact ⟨rfl,rfl,rfl,rfl⟩

theorem openItem_moves {itemType : ItemType} {c : Claim} {rules : List String} {actor : Actor} {newId : String}
    (done : openItem o t itemType c rules actor newId now = .ok t') : Moves now t t' := by
  unfold openItem at done
  split at done
  · cases done
    exact moves_same rfl
  · split at done
    · cases done
    · cases done
      refine ⟨renewed_refl (fun _ => ⟨rfl,rfl⟩) _,⟨id,_,by rw [List.map_id]; rfl,fun _ => ⟨rfl,rfl,rfl,rfl⟩,?_⟩⟩
      intro i listed
      rw [List.mem_singleton.mp listed]

theorem decideItem_moves (o : Office) (t : Tables) (i : ModerationItem) (decision operator rationale : String) (actor : Actor) (now : Time) :
    Moves now t (decideItem o t i decision operator rationale actor now) := by
  let decided := fun i : ModerationItem =>
    {i with isOpen := false,decision := decision,decidedBy := some operator,decidedAt := some now,rationale := rationale}
  have closed : Moves now t (t.updateItem i.publicId decided) := updateItem_moves i.publicId fun _ => ⟨rfl,rfl,rfl,rfl⟩
  exact moves_trans closed (moves_same rfl)

theorem decideClaimItem_moves (o : Office) (t : Tables) (id : ClaimId) (decision operator rationale : String) (actor : Actor) (now : Time) :
    Moves now t (decideClaimItem o t id decision operator rationale actor now) := by
  unfold decideClaimItem
  split
  · exact moves_same rfl
  · exact decideItem_moves ..

theorem dispute_moves {c : Claim} {actor : Actor} {newItem : String} (done : dispute o t c actor newItem now = .ok t') :
    Moves now t t' := by
  unfold dispute at done
  obtain ⟨queued,opened,told⟩ := Fallible.bind_exact.mp done
  have moved : Moves now t (t.updateClaim c.publicId fun c => {c with status := .disputed,reviewReason := "disputed"}) :=
    updateClaim_moves c.publicId fun _ => ⟨rfl,rfl⟩
  refine moves_trans (moves_trans ?_ (openItem_moves opened)) (moves_same (notifyOperators_rows told))
  exact moves_trans moved (moves_same rfl)

theorem expire_moves (t : Tables) (message : Option Nat) (at_ now : Time) : Moves now t (t.expirePendingCode message at_) :=
  moves_same (expirePendingCode_rows t message at_)

theorem sendCode_moves {c : Claim} {l : Listing} {windowStart : Time} {sentInWindow : Nat} {code : String}
    (done : sendCode p o t c l windowStart sentInWindow code now = .ok t') : Moves now t t' := by
  unfold sendCode at done
  obtain ⟨queued,sent,rest⟩ := Fallible.bind_exact.mp done
  cases rest
  have before : Moves now t queued := moves_trans (expire_moves t c.codeMessage now now) (moves_same (enqueue_rows sent))
  refine moves_trans before (moves_trans (updateClaim_moves c.publicId ?_) (moves_rows rfl rfl))
  exact fun _ => ⟨rfl,rfl⟩

theorem start_moves {c : Claim} {l : Listing} {g : Guard} {code : String} (done : start p o t c l g code now = .ok t') :
    Moves now t t' := by
  unfold start at done
  split at done
  · cases done
  · obtain ⟨told,tells,rest⟩ := Fallible.bind_exact.mp done
    cases rest
    next reason _ =>
      have flipped : Moves now t (t.updateClaim c.publicId (flipToManual reason)) := updateClaim_moves c.publicId fun _ => ⟨rfl,rfl⟩
      have telling : Moves now _ told := moves_trans (expire_moves _ c.codeMessage now now) (moves_same (tellUnlessDisputed_rows tells))
      exact moves_trans flipped (moves_trans telling (moves_same rfl))
  · cases done
    exact moves_same rfl
  · cases done
    exact moves_same rfl
  · exact sendCode_moves done

theorem wrongCode_moves {c : Claim} {g : Guard} {itemId : String} (done : wrongCode o t c g itemId now = .ok t') : Moves now t t' := by
  have counted : Moves now t (t.updateClaim c.publicId (wrongClaim g)) := by
    refine updateClaim_moves c.publicId ?_
    intro c
    unfold wrongClaim
    split
    · exact ⟨rfl,rfl⟩
    · split <;> exact ⟨rfl,rfl⟩
  unfold wrongCode at done
  dsimp only at done
  split at done
  · obtain ⟨queued,opened,told⟩ := Fallible.bind_exact.mp done
    have failed : Moves now _ queued := moves_trans (expire_moves _ c.codeMessage now now) (openItem_moves opened)
    refine moves_trans (moves_trans ?_ failed) (moves_same (tellUnlessDisputed_rows told))
    exact moves_trans counted (moves_rows rfl rfl)
  · cases done
    exact moves_trans counted (moves_rows rfl rfl)

theorem rejectLosers_moves (losers : List ClaimId) (done : rejectLosers o t now losers = .ok t') : Moves now t t' := by
  induction losers generalizing t with
  | nil =>
      cases done
      exact moves_same rfl
  | cons id rest ih =>
      unfold rejectLosers at done
      split at done
      · exact ih done
      · next c _ =>
          obtain ⟨next,lost,others⟩ := Fallible.bind_exact.mp done
          refine moves_trans ?_ (ih others)
          unfold rejectLoser mailRejection at lost
          dsimp only at lost
          have marked : Moves now t (t.updateClaim c.publicId fun c =>
            {c with status := .rejected,decidedAt := some now,rejectionReason := LOSER_REASON,codeHash := none}) :=
            updateClaim_moves c.publicId fun _ => ⟨rfl,rfl⟩
          refine moves_trans (moves_trans marked (expire_moves _ c.codeMessage now now)) ?_
          exact moves_same ((enqueue_rows lost).trans rfl)

theorem retire_moves (olds : List ClaimId) (t : Tables) :
    Moves now t (olds.foldl (fun t old => t.updateClaim old fun c => {c with status := .superseded}) t) := by
  induction olds generalizing t with
  | nil => exact moves_same rfl
  | cons id rest ih =>
      have first : Moves now t (t.updateClaim id fun c => {c with status := .superseded}) := updateClaim_moves id fun _ => ⟨rfl,rfl⟩
      exact moves_trans first (ih _)

theorem assignOwner_moves (t : Tables) (id : ListingId) (user : DirectoryUser) : Moves now t (assignOwner t id user) :=
  moves_rows rfl rfl

theorem approved_stamp (c : Claim) (manual : Option Manual) (now : Time) : SameStamp c (approved c manual now) := by
  unfold approved
  cases manual with
  | none => exact ⟨rfl,rfl⟩
  | some m => exact ⟨rfl,rfl⟩

theorem approveClaim_moves {c : Claim} {l : Listing} {actor : Actor} {manual : Option Manual} {olds losers : List ClaimId}
    (done : approveClaim p o t c l actor manual olds losers now = .ok t') : Moves now t t' := by
  unfold approveClaim at done
  obtain ⟨notified,notifies,rest⟩ := Fallible.bind_exact.mp done
  obtain ⟨lost,loses,rest⟩ := Fallible.bind_exact.mp rest
  have retired : Moves now t (olds.foldl (fun t old => t.updateClaim old fun c => {c with status := .superseded}) t) :=
    retire_moves olds t
  have expired := moves_trans retired (expire_moves _ c.codeMessage now now)
  have decided := moves_trans expired (updateClaim_moves c.publicId fun c => approved_stamp c manual now)
  have owned := moves_trans decided (assignOwner_moves _ c.listing c.claimant)
  have told : Moves now t notified := moves_trans owned (moves_same (enqueueAll_rows _ notifies))
  have losing : Moves now t lost := by
    refine moves_trans ?_ (rejectLosers_moves losers loses)
    exact moves_trans told (moves_same (approvalEvents_rows p o notified c l actor manual now))
  cases manual with
  | none =>
      cases rest
      exact losing
  | some m =>
      cases rest
      exact moves_trans losing (decideClaimItem_moves ..)

theorem reject_moves {c : Claim} {g : Guard} {r : Rejection} (done : reject o t c g r = .ok t') : Moves r.now t t' := by
  obtain ⟨queued,opened,mailed⟩ := reject_exact.mp done
  have decided : Moves r.now t ((t.expirePendingCode c.codeMessage r.now).updateClaim c.publicId
      (rejected r.operator.id (Text.strip r.reason) r.now)) :=
    moves_trans (expire_moves t c.codeMessage r.now r.now) (updateClaim_moves c.publicId fun _ => ⟨rfl,rfl⟩)
  have recorded_ : Moves r.now t (recorded o t c g r) := by
    unfold recorded
    refine moves_trans ?_ (decideClaimItem_moves ..)
    exact moves_trans decided (moves_rows rfl rfl)
  refine moves_trans ?_ (moves_same (enqueue_rows mailed))
  split at opened
  · exact moves_trans recorded_ (openItem_moves opened)
  · cases opened
    exact recorded_

theorem decideQueued_moves (o : Office) (t : Tables) (i : ModerationItem) (decision : String) (clear : Guard → Guard)
    (stands_ : Bool) (r : Ruling) : Moves r.now t (decideQueued o t i decision clear stands_ r) := by
  unfold decideQueued
  dsimp only
  refine moves_trans ?_ (decideItem_moves ..)
  split
  · exact moves_rows rfl rfl
  · exact moves_same rfl

theorem submit_moves {s : Submission} {u : DirectoryUser} {minted : Bool} {c : Claim} {seen : Listing}
    {starting : Option (Listing × Guard)} (stamp : c.updatedAt = s.now) (done : submit p o t s u minted c seen starting = .ok t') :
    Moves s.now t t' := by
  unfold submit at done
  obtain ⟨met,meets,rest⟩ := Fallible.bind_exact.mp done
  obtain ⟨created,creates,rest⟩ := Fallible.bind_exact.mp rest
  have meeting : Moves s.now t met := by
    unfold mintUser at meets
    split at meets
    · cases meets
      exact moves_same rfl
    · split at meets
      · cases meets
      · split at meets
        · cases meets
        · cases meets
          exact moves_rows rfl rfl
  have creating : Moves s.now met created := by
    unfold createClaim at creates
    split at creates
    · cases creates
    · cases creates
      refine ⟨⟨id,[c],by rw [List.map_id]; rfl,fun _ => ⟨rfl,rfl⟩,?_⟩,renewed_refl (fun _ => ⟨rfl,rfl,rfl,rfl⟩) _⟩
      intro c' listed
      rw [List.mem_singleton.mp listed]
      exact stamp
  have closing : ∀ (started : Tables) (flipped : Bool), (if seen.status = .claimed then dispute o started c (visitor u) s.itemId s.now
      else if c.method = .manual ∨ flipped then notifyOperators o started s.now else .ok started) = .ok t' → Moves s.now started t' := by
    intro started flipped rest
    split at rest
    · exact dispute_moves rest
    · split at rest
      · exact moves_same (notifyOperators_rows rest)
      · cases rest
        exact moves_same rfl
  refine moves_trans (moves_trans meeting creating) ?_
  cases starting with
  | none => exact closing created _ rest
  | some found =>
      obtain ⟨started,starts,rest⟩ := Fallible.bind_exact.mp rest
      exact moves_trans (start_moves starts) (closing started _ rest)

def Stamped (now : Time) (change : Tables → Except ClaimError Tables) : Prop := ∀ t t', change t = .ok t' → Moves now t t'

theorem all_ite {q : (Tables → Except ClaimError Tables) → Prop} {c : Prop} [Decidable c] {one other : Script} (first : one.All q)
    (second : other.All q) : (if c then one else other).All q := by
  by_cases holds : c
  · rw [if_pos holds]
    exact first
  · rw [if_neg holds]
    exact second

theorem lockEach_all {q : (Tables → Except ClaimError Tables) → Prop} {next : Script} (ks : List LockKey) (all : next.All q) :
    (lockEach ks next).All q := by
  induction ks with
  | nil => exact all
  | cons k rest ih => exact fun _ => ih

theorem lockPair_all {q : (Tables → Except ClaimError Tables) → Prop} {next : Guard → ClaimRow → Claim → Script} (id : ClaimId)
    (all : ∀ g row c, (next g row c).All q) : (lockPair id next).All q := by
  intro seen
  dsimp only
  split
  · exact True.intro
  · intro g row
    dsimp only
    split
    · exact True.intro
    · exact all g row _

theorem approval_all (p : Platform) (o : Office) (c : Claim) (row : ListingRow) (l : Listing) (actor : Actor) (manual : Option Manual)
    (items : List LockKey) {before : Tables → Tables} (now : Time) (first : ∀ t, Moves now t (before t)) :
    (approvalScript p o c row l actor manual items before now).All (Stamped now) := by
  refine lockEach_all _ fun ks => lockEach_all items ?_
  exact fun t t' done => moves_trans (first t) (approveClaim_moves done)

theorem accept_moves (t : Tables) (id : ClaimId) (now : Time) : Moves now t (t.updateClaim id (verified now)) :=
  updateClaim_moves id fun _ => ⟨rfl,rfl⟩

theorem resolve_all (p : Platform) (o : Office) (c : Claim) (itemId : String) (now : Time) :
    (resolveScript p o c itemId now).All (Stamped now) := by
  intro row
  dsimp only
  split
  · exact True.intro
  · split
    · intro t t' done
      cases done
      exact accept_moves t c.publicId now
    · split
      · exact fun _ t t' done => moves_trans (accept_moves t c.publicId now) (dispute_moves done)
      · exact approval_all p o _ row _ _ none [] now fun t => accept_moves t c.publicId now

theorem verify_all (p : Platform) (o : Office) (id : ClaimId) (code itemId : String) (now : Time) :
    (verifyScript p o id code itemId now).All (Stamped now) := by
  refine lockPair_all id ?_
  intro g row c
  split
  · exact True.intro
  · split
    · exact lockEach_all _ fun t t' done => wrongCode_moves done
    · split
      · intro t t' done
        cases done
        exact accept_moves t id now
      · exact resolve_all p o c itemId now

theorem resend_all (p : Platform) (o : Office) (id : ClaimId) (code : String) (now : Time) :
    (resendScript p o id code now).All (Stamped now) := by
  refine lockPair_all id ?_
  intro g row c
  split
  · exact True.intro
  · split
    · exact True.intro
    · split
      · exact True.intro
      · intro l
        dsimp only
        split
        · exact True.intro
        · split
          · exact True.intro
          · exact True.intro
          · exact True.intro
          · exact fun t t' done => start_moves done

theorem approve_all (p : Platform) (o : Office) (id : ClaimId) (r : Review) : (approveScript p o id r).All (Stamped r.now) := by
  unfold approveScript
  generalize (Text.strip r.evidenceRef).length = n
  refine all_ite True.intro (all_ite True.intro (all_ite True.intro ?_))
  intro claimRow
  dsimp only
  split
  · exact True.intro
  · refine all_ite True.intro ?_
    intro row
    dsimp only
    split
    · exact True.intro
    · refine all_ite True.intro (all_ite ?_ (all_ite True.intro (all_ite True.intro ?_)))
      · exact fun _ t t' done => dispute_moves done
      · exact approval_all p o _ row _ _ _ _ r.now fun t => moves_same rfl

theorem reject_all (o : Office) (id : ClaimId) (r : Rejection) : (rejectScript o id r).All (Stamped r.now) := by
  unfold rejectScript
  split
  · exact True.intro
  · split
    · exact True.intro
    · refine lockPair_all id ?_
      intro g row c
      split
      · exact True.intro
      · exact lockEach_all _ fun t t' done => reject_moves done

theorem queue_all (itemType : ItemType) (id : String) (r : Ruling) {change : Tables → ModerationItem → Guard → Tables}
    (moves : ∀ t i g, Moves r.now t (change t i g)) : (queueScript itemType id r change).All (Stamped r.now) := by
  unfold queueScript
  split
  · exact True.intro
  · split
    · exact True.intro
    · intro seen
      dsimp only
      split
      · exact True.intro
      · split
        · exact True.intro
        · intro g row
          dsimp only
          split
          · exact True.intro
          · split
            · exact True.intro
            · intro t t' done
              cases done
              exact moves t _ g

theorem inserting_all {q : (Tables → Except ClaimError Tables) → Prop} {next : Script} (s : Submission) (seen : Listing)
    (all : next.All q) : (inserting s seen next).All q := by
  intro row
  dsimp only
  split
  · exact True.intro
  · exact lockEach_all _ all

theorem submitAs_all (p : Platform) (o : Office) (s : Submission) (seen : Listing) (u : DirectoryUser) (minted : Bool) :
    (submitAs p o s seen u minted).All (Stamped s.now) := by
  intro g
  dsimp only
  split
  · exact True.intro
  · split
    · intro g
      dsimp only
      split
      · exact True.intro
      · exact inserting_all s seen fun t t' done => submit_moves rfl done
      · refine inserting_all s seen ?_
        intro g row
        dsimp only
        split
        · exact True.intro
        · exact fun t t' done => submit_moves rfl done
    · exact inserting_all s seen fun t t' done => submit_moves rfl done

theorem submit_all (p : Platform) (o : Office) (s : Submission) : (submitScript p o s).All (Stamped s.now) := by
  unfold submitScript
  split
  · exact True.intro
  · split
    · exact True.intro
    · intro seen
      dsimp only
      split
      · exact True.intro
      · intro found
        dsimp only
        split
        · exact submitAs_all p o s _ _ false
        · intro found
          dsimp only
          split
          · exact submitAs_all p o s _ _ false
          · exact submitAs_all p o s _ _ true

theorem command_stamped (p : Platform) (cmd : Command) (now : Time) : (script p (cmd.at_ now)).All (Stamped now) := by
  cases cmd with
  | submit o s => exact submit_all p o {s with now := now}
  | resend o id code _ => exact resend_all p o id code now
  | verify o id code itemId _ => exact verify_all p o id code itemId now
  | approve o id r => exact approve_all p o id {r with now := now}
  | reject o id r => exact reject_all o id {r with now := now}
  | unlock o id r => exact queue_all .verificationLock id {r with now := now} fun t i g => decideQueued_moves o t i _ _ _ {r with now := now}
  | unblock o id r => exact queue_all .claimBlock id {r with now := now} fun t i g => decideQueued_moves o t i _ _ _ {r with now := now}
  | writeListing id w =>
      intro row t t' done
      cases done
      exact moves_rows rfl rfl

end moves

section flushes

variable {p : Platform} {o : Office} {t t' : Tables} {now at_ : Time} {address : String}

theorem lastNotice_none (none_ : lastNotice t address = none) {m : Mail} (sent : m ∈ t.mail) : isNotice address m = false := by
  have empty := List.map_eq_nil_iff.mp (List.max?_eq_none_iff.mp none_)
  exact Bool.eq_false_iff.mpr (List.filter_eq_nil_iff.mp empty m sent)

theorem lastNotice_some {last : Time} (some_ : lastNotice t address = some last) :
    (∃ m ∈ t.mail, isNotice address m ∧ m.createdAt = last) ∧ ∀ m ∈ t.mail, isNotice address m → m.createdAt ≤ last := by
  obtain ⟨listed,most⟩ := List.max?_eq_some_iff.mp some_
  obtain ⟨m,there,is⟩ := List.mem_map.mp listed
  refine ⟨⟨m,(List.mem_filter.mp there).1,(List.mem_filter.mp there).2,is⟩,?_⟩
  intro m' sent notice
  exact most m'.createdAt (List.mem_map.mpr ⟨m',List.mem_filter.mpr ⟨sent,notice⟩,rfl⟩)

theorem outOfWindow_exact : outOfWindow t now address = true ↔ OutOfWindow t now address := by
  unfold outOfWindow
  cases last : lastNotice t address with
  | none => exact iff_of_true rfl fun m sent notice => absurd notice (by simp [lastNotice_none last sent])
  | some v =>
      obtain ⟨⟨m,sent,notice,is⟩,most⟩ := lastNotice_some last
      rw [Option.all_some,decide_eq_true_eq]
      constructor
      · exact fun past m sent notice => Int.le_trans (most m sent notice) past
      · exact fun past => is ▸ past m sent notice

theorem noticeFloor_exact (v : Time) : noticeFloor t now address < v ↔ SinceNotice t now address v := by
  unfold noticeFloor SinceNotice
  cases last : lastNotice t address with
  | none =>
      refine ⟨fun after => ⟨after,?_⟩,fun both => both.1⟩
      exact fun m sent notice => absurd notice (by simp [lastNotice_none last sent])
  | some last_ =>
      obtain ⟨⟨m,sent,notice,is⟩,most⟩ := lastNotice_some last
      dsimp only
      rw [max_lt_iff,and_comm]
      refine and_congr_right fun _ => ⟨fun after m sent notice => Int.lt_of_le_of_lt (most m sent notice) after,fun all => ?_⟩
      exact is ▸ all m sent notice

theorem enteredReviewSince_exact : enteredReviewSince t (noticeFloor t now address) = true ↔ Shows t now address := by
  unfold enteredReviewSince Shows
  rw [Bool.or_eq_true,List.any_eq_true,List.any_eq_true]
  simp only [Bool.and_eq_true,decide_eq_true_eq,noticeFloor_exact]

theorem flushDue_exact : address ∈ flushDue o t now ↔ address ∈ o.recipients ∧ OutOfWindow t now address ∧ Shows t now address := by
  unfold flushDue
  rw [List.mem_filter,Bool.and_eq_true,outOfWindow_exact,enteredReviewSince_exact]

theorem enqueueAll_mail {kind subject : String} {expiresAt : Time} (addresses : List String)
    (done : t.enqueueAll kind subject now expiresAt addresses = .ok t') :
    t'.mail = t.mail ++ addresses.map fun a =>
      {kind := kind,toAddress := a,subject := subject,createdAt := now,expiresAt := expiresAt} := by
  induction addresses generalizing t with
  | nil =>
      cases done
      rw [List.map_nil,List.append_nil]
  | cons a rest ih =>
      obtain ⟨queued,first,others⟩ := Fallible.bind_exact.mp done
      rw [ih others]
      unfold Tables.enqueue at first
      split at first
      · cases first
        rw [List.map_cons,List.append_assoc,List.singleton_append]
      · cases first

theorem claimNoticeFlush_exact (o : Office) (t : Tables) (now at_ : Time) :
    claimNoticeFlush o t now at_ = flushOperatorNotices o t now at_ := by
  unfold claimNoticeFlush
  dsimp only
  split
  · rfl
  · next quiet =>
      rw [Bool.or_eq_true,not_or,List.any_eq_true,List.any_eq_true] at quiet
      have nobody : flushDue o t now = [] := by
        refine List.eq_nil_iff_forall_not_mem.mpr fun address due => ?_
        rcases (flushDue_exact.mp due).2.2 with ⟨c,present,waits,since⟩ | ⟨i,present,opens,since⟩
        · have pending : c.status = .pendingVerification := by
            unfold inReview at waits
            rw [Bool.and_eq_true,decide_eq_true_eq] at waits
            exact waits.1
          exact quiet.1 ⟨c,present,by simp [pending,since.1]⟩
        · exact quiet.2 ⟨i,present,by simp [opens,since.1]⟩
      unfold flushOperatorNotices
      rw [nobody]
      rfl

end flushes

structure Logged (p : Platform) (s : Desk) : Prop where
  consistent : Consistent p s.tables.toRows
  past : ∀ id entry, (id,entry) ∈ s.entered → entry ≤ s.clock
  claims : ∀ c ∈ s.tables.claims, inReview c → ∃ entry, (c.publicId,entry) ∈ s.entered ∧ c.updatedAt ≤ entry
  items : ∀ i ∈ s.tables.items, isDispute i → ∃ entry, (i.claim,entry) ∈ s.entered ∧ i.createdAt ≤ entry
  stampedClaims : ∀ c ∈ s.tables.claims, c.updatedAt ≤ s.clock
  stampedItems : ∀ i ∈ s.tables.items, i.createdAt ≤ s.clock

section runs

variable {p : Platform} {s : Desk} {o : Office} {now : Time}

theorem tick_later (s : Desk) (wait : Nat) : s.clock ≤ s.tick wait := by
  have one : s.clock ≤ s.clock + 1 := Int.le_add_of_nonneg_right (by decide)
  exact Int.le_trans one (Int.le_add_of_nonneg_right (Int.natCast_nonneg wait))

theorem performed (cmd : Command) (now : Time) (consistent : Consistent p s.tables.toRows) :
    Consistent p (after s.tables (perform database s.tables (script p (cmd.at_ now)))).toRows ∧
      Moves now s.tables (after s.tables (perform database s.tables (script p (cmd.at_ now)))) := by
  cases done : perform database s.tables (script p (cmd.at_ now)) with
  | refused error => exact ⟨consistent,moves_same rfl⟩
  | committed result =>
      cases result with
      | error refused => exact ⟨consistent,moves_same rfl⟩
      | ok t' =>
          obtain ⟨held,exec⟩ := performed_exec done
          obtain ⟨change,stamped,is⟩ := perform_all database s.tables (command_stamped p cmd now) done
          exact ⟨(isolated p).kept (cmd.at_ now) s.tables held t' consistent exec,stamped s.tables t' is.symm⟩

theorem mem_enters_claim {t t' : Tables} {c : Claim} (present : c ∈ t'.claims) (waits : inReview c = true)
    (new : ∀ old ∈ t.claims, old.publicId = c.publicId → inReview old = false) : c.publicId ∈ enters t t' := by
  refine List.mem_append_left _ (List.mem_map.mpr ⟨c,List.mem_filter.mpr ⟨present,?_⟩,rfl⟩)
  rw [waits,Bool.true_and,Bool.not_eq_true',List.any_eq_false]
  intro old there
  rw [Bool.and_eq_true,decide_eq_true_eq,not_and,Bool.not_eq_true]
  exact new old there

theorem mem_enters_item {t t' : Tables} {i : ModerationItem} (present : i ∈ t'.items) (opens : isDispute i = true)
    (new : ∀ old ∈ t.items, old.publicId = i.publicId → isDispute old = false) : i.claim ∈ enters t t' := by
  refine List.mem_append_right _ (List.mem_map.mpr ⟨i,List.mem_filter.mpr ⟨present,?_⟩,rfl⟩)
  rw [opens,Bool.true_and,Bool.not_eq_true',List.any_eq_false]
  intro old there
  rw [Bool.and_eq_true,decide_eq_true_eq,not_and,Bool.not_eq_true]
  exact new old there

theorem command_logged (wait : Nat) (cmd : Command) (logged : Logged p s) : Logged p (s.call p (.command wait cmd)) := by
  obtain ⟨consistent,moves⟩ := performed cmd (s.tick wait) logged.consistent
  have later := tick_later s wait
  have keyed := consistent.keyed
  obtain ⟨f,newClaims,claims,sameClaim,freshClaim⟩ := moves.claims
  obtain ⟨g,newItems,items,sameItem,freshItem⟩ := moves.items
  unfold Desk.call
  dsimp only
  generalize after s.tables (perform database s.tables (script p (cmd.at_ (s.tick wait)))) = t' at consistent claims items keyed
  have claimTime : ∀ c ∈ t'.claims, c.updatedAt ≤ s.tick wait := by
    intro c present
    rw [claims] at present
    rcases List.mem_append.mp present with old | new
    · obtain ⟨was,there,rfl⟩ := List.mem_map.mp old
      rw [(sameClaim was).2]
      exact Int.le_trans (logged.stampedClaims was there) later
    · exact Int.le_of_eq (freshClaim c new)
  have itemTime : ∀ i ∈ t'.items, i.createdAt ≤ s.tick wait := by
    intro i present
    rw [items] at present
    rcases List.mem_append.mp present with old | new
    · obtain ⟨was,there,rfl⟩ := List.mem_map.mp old
      rw [(sameItem was).2.1]
      exact Int.le_trans (logged.stampedItems was there) later
    · exact Int.le_of_eq (freshItem i new)
  refine ⟨consistent,?_,?_,?_,claimTime,itemTime⟩
  · intro id entry listed
    rcases List.mem_append.mp listed with new | old
    · obtain ⟨_,_,is⟩ := List.mem_map.mp new
      exact Int.le_of_eq (Prod.mk.inj is).2.symm
    · exact Int.le_trans (logged.past id entry old) later
  · intro c present waits
    by_cases before : ∃ old ∈ s.tables.claims, old.publicId = c.publicId ∧ inReview old = true
    · obtain ⟨old,there,named,waited⟩ := before
      -- the claim is that one, rewritten
      have image : f old ∈ t'.claims := by
        rw [claims]
        exact List.mem_append_left _ (List.mem_map_of_mem there)
      have is : f old = c := List.inj_on_of_nodup_map keyed.claimIds image present ((sameClaim old).1.trans named)
      obtain ⟨entry,listed,bound⟩ := logged.claims old there waited
      refine ⟨entry,List.mem_append_right _ (named ▸ listed),?_⟩
      rw [← is,(sameClaim old).2]
      exact bound
    · refine ⟨s.tick wait,List.mem_append_left _ (List.mem_map.mpr ⟨c.publicId,mem_enters_claim present waits ?_,rfl⟩),claimTime c present⟩
      intro old there named
      exact Bool.eq_false_iff.mpr fun waited => before ⟨old,there,named,waited⟩
  · intro i present opens
    by_cases before : ∃ old ∈ s.tables.items, old.publicId = i.publicId ∧ isDispute old = true
    · obtain ⟨old,there,named,stood⟩ := before
      have image : g old ∈ t'.items := by
        rw [items]
        exact List.mem_append_left _ (List.mem_map_of_mem there)
      have is : g old = i := List.inj_on_of_nodup_map keyed.itemIds image present ((sameItem old).1.trans named)
      obtain ⟨entry,listed,bound⟩ := logged.items old there stood
      refine ⟨entry,List.mem_append_right _ ?_,?_⟩
      · rw [← is,(sameItem old).2.2.1]
        exact listed
      · rw [← is,(sameItem old).2.1]
        exact bound
    · refine ⟨s.tick wait,List.mem_append_left _ (List.mem_map.mpr ⟨i.claim,mem_enters_item present opens ?_,rfl⟩),itemTime i present⟩
      intro old there named
      exact Bool.eq_false_iff.mpr fun stood => before ⟨old,there,named,stood⟩

theorem flush_logged (wait : Nat) (logged : Logged p s) : Logged p (s.call p (.flush wait o now)) := by
  have later := tick_later s wait
  have still : Logged p ⟨s.tables,s.tick wait,s.entered⟩ :=
    ⟨logged.consistent,fun id entry listed => Int.le_trans (logged.past id entry listed) later,logged.claims,logged.items,
      fun c present => Int.le_trans (logged.stampedClaims c present) later,
      fun i present => Int.le_trans (logged.stampedItems i present) later⟩
  unfold Desk.call
  dsimp only
  split
  · next t' done =>
      have rows : t'.toRows = s.tables.toRows := enqueueAll_rows _ done
      have claims : t'.claims = s.tables.claims := congrArg Rows.claims rows
      have items : t'.items = s.tables.items := congrArg Rows.items rows
      refine ⟨?_,still.past,?_,?_,?_,?_⟩
      · rw [rows]
        exact still.consistent
      · rw [claims]
        exact still.claims
      · rw [items]
        exact still.items
      · rw [claims]
        exact still.stampedClaims
      · rw [items]
        exact still.stampedItems
  · exact still

theorem call_logged (s : Desk) (call : Call) (logged : Logged p s) : Logged p (s.call p call) := by
  cases call with
  | command wait cmd => exact command_logged wait cmd logged
  | flush wait o now => exact flush_logged wait logged

theorem flush_mail (wait : Nat) :
    (s.call p (.flush wait o now)).tables.mail = s.tables.mail ++
      if ∀ a ∈ flushDue o s.tables now, ("Claims waiting for review on " ++ o.name).length ≤ 200 ∧ a.length ≤ 254 then
        (flushDue o s.tables now).map fun a =>
          {kind := OPERATOR_NOTICE_KIND,toAddress := a,subject := "Claims waiting for review on " ++ o.name,
           createdAt := s.tick wait,expiresAt := now + OPERATOR_NOTICE_TTL}
      else [] := by
  unfold Desk.call
  dsimp only
  split
  · next t' done =>
      have fits := (enqueueAll_exact _).mp ⟨t',done⟩
      rw [if_pos fits]
      exact enqueueAll_mail _ done
  · next refused =>
      have long : ¬∀ a ∈ flushDue o s.tables now, ("Claims waiting for review on " ++ o.name).length ≤ 200 ∧ a.length ≤ 254 := by
        intro fits
        obtain ⟨t',done⟩ := (enqueueAll_exact _).mpr fits
        unfold flushOperatorNotices at refused
        rw [done] at refused
        cases refused
      rw [if_neg long,List.append_nil]

theorem isNotice_sent (address a subject : String) (createdAt expiresAt : Time) :
    isNotice address {kind := OPERATOR_NOTICE_KIND,toAddress := a,subject := subject,createdAt := createdAt,expiresAt := expiresAt} =
      true ↔ a = address := by
  unfold isNotice
  simp

theorem announces_exact (wait : Nat) (logged : Logged p s) :
    Announces s o now (s.call p (.flush wait o now)) ↔ Visible s o now := by
  unfold Announces
  rw [flush_mail wait]
  constructor
  · intro announces address recipient window unheard
    obtain ⟨id,entry,listed,⟨recent,after⟩,waits⟩ := unheard
    obtain ⟨m,sent,notice,bound⟩ := announces address recipient window id entry listed recent waits
    rcases List.mem_append.mp sent with old | new
    · exact absurd (after m old notice) (Int.not_lt.mpr bound)
    · split at new
      · next fits =>
          obtain ⟨a,due,rfl⟩ := List.mem_map.mp new
          rw [isNotice_sent] at notice
          subst notice
          refine ⟨(flushDue_exact.mp due).2.2,(fits a due).1,?_⟩
          exact fun other there window shows => (fits other (flushDue_exact.mpr ⟨there,window,shows⟩)).2
      · cases new
  · intro visible address recipient window id entry listed recent waits
    by_cases heard : ∃ m ∈ s.tables.mail, isNotice address m ∧ entry ≤ m.createdAt
    · obtain ⟨m,sent,there⟩ := heard
      exact ⟨m,List.mem_append_left _ sent,there⟩
    · have after : ∀ m ∈ s.tables.mail, isNotice address m → m.createdAt < entry := by
        intro m sent notice
        exact Int.not_le.mp fun bound => heard ⟨m,sent,notice,bound⟩
      obtain ⟨shows,subject,addresses⟩ := visible address recipient window ⟨id,entry,listed,⟨recent,after⟩,waits⟩
      have fits : ∀ a ∈ flushDue o s.tables now, ("Claims waiting for review on " ++ o.name).length ≤ 200 ∧ a.length ≤ 254 := by
        intro a due
        obtain ⟨there,window,shows⟩ := flushDue_exact.mp due
        exact ⟨subject,addresses a there window shows⟩
      rw [if_pos fits]
      refine ⟨_,List.mem_append_right _ (List.mem_map.mpr ⟨address,flushDue_exact.mpr ⟨recipient,window,shows⟩,rfl⟩),
        (isNotice_sent ..).mpr rfl,?_⟩
      exact Int.le_trans (logged.past id entry listed) (tick_later s wait)

theorem flush_quiets (wait : Nat) (logged : Logged p s) : Quiets s (s.call p (.flush wait o now)) := by
  intro address heard
  rw [flush_mail wait,List.filter_append]
  have nothing : address ∉ flushDue o s.tables now := by
    intro due
    rcases (flushDue_exact.mp due).2.2 with ⟨c,present,waits,_,since⟩ | ⟨i,present,opens,_,since⟩
    · obtain ⟨entry,listed,bound⟩ := logged.claims c present waits
      obtain ⟨m,sent,notice,later⟩ := heard c.publicId entry listed
      exact absurd (since m sent notice) (Int.not_lt.mpr (Int.le_trans bound later))
    · obtain ⟨entry,listed,bound⟩ := logged.items i present opens
      obtain ⟨m,sent,notice,later⟩ := heard i.claim entry listed
      exact absurd (since m sent notice) (Int.not_lt.mpr (Int.le_trans bound later))
  have unsent : ∀ m ∈ (if ∀ a ∈ flushDue o s.tables now, ("Claims waiting for review on " ++ o.name).length ≤ 200 ∧ a.length ≤ 254 then
      (flushDue o s.tables now).map fun a =>
        ({kind := OPERATOR_NOTICE_KIND,toAddress := a,subject := "Claims waiting for review on " ++ o.name,
          createdAt := s.tick wait,expiresAt := now + OPERATOR_NOTICE_TTL} : Mail)
      else []), ¬isNotice address m = true := by
    intro m sent
    split at sent
    · obtain ⟨a,due,rfl⟩ := List.mem_map.mp sent
      rw [isNotice_sent]
      exact fun same => nothing (same ▸ due)
    · cases sent
  rw [List.filter_eq_nil_iff.mpr unsent,List.append_nil]

end runs

-- In every run of a new tenant, a flush announces every waiting claim iff wherever one
-- entered review since a recipient's last notice, one was submitted or disputed since;
-- and it tells nobody what they were told.
theorem flush_announces (p : Platform) {t : Tables} (fresh : Fresh t) (clock : Time) (calls : List Call) :
    Runs.Along (Desk.call p) (fun s call => ∀ wait o now, call = .flush wait o now →
      (Announces s o now (s.call p call) ↔ Visible s o now) ∧ Quiets s (s.call p call)) ⟨t,clock,[]⟩ calls := by
  have begins : Logged p ⟨t,clock,[]⟩ := by
    refine ⟨fresh_consistent p fresh,nofun,?_,?_,?_,?_⟩
    all_goals
      intro row present
      simp [fresh.claims,fresh.items] at present
  refine Runs.along_of_forall (Desk.call p) call_logged ?_ begins calls
  intro s call logged wait o now is
  subst is
  exact ⟨announces_exact wait logged,flush_quiets wait logged⟩

def minutes (n : Nat) : Nat := n * 60000000

def manually (email claimId : String) : Submission := {submission email claimId "" 0 with method := .manual}

-- Bob's claim enters review inside the window of Ann's notice.
def deferred : List Call :=
  [.command 0 (.submit (officeOf "Town") (manually "ann" "A")),.command (minutes 5) (.submit (officeOf "Town") (manually "bob" "B")),
    .flush (minutes 25) (officeOf "Town") (30 * minute)]

theorem deferred_announced :
    Runs.Along (Desk.call byCode) (fun s call => ∀ wait o now, call = .flush wait o now →
      (Announces s o now (s.call byCode call) ↔ Visible s o now) ∧ Quiets s (s.call byCode call)) ⟨shopTables "Shop",0,[]⟩ deferred ∧
    (Runs.run (Desk.call byCode) ⟨shopTables "Shop",0,[]⟩ deferred).tables.mail.length = 2 :=
  ⟨flush_announces byCode (shop_fresh "Shop") 0 deferred,by decide +kernel⟩

-- Bob's claim was submitted before Ann's notice, and goes to review inside its window.
def flipped : List Call :=
  [.command 0 (.submit (officeOf "Town") (submission "bob" "B" "1" 0)),
    .command (minutes 5) (.submit (officeOf "Town") (manually "ann" "A")),
    .command (minutes 5) (.resend {officeOf "Town" with emailAvailable := false} "B" "2" 0)]

theorem late_flip_unannounced :
    ¬∀ (p : Platform) (t : Tables), Fresh t → ∀ clock calls, Runs.Along (Desk.call p) (fun s call => ∀ wait o now,
      call = .flush wait o now → Announces s o now (s.call p call)) ⟨t,clock,[]⟩ calls := by
  intro always
  have run := always byCode (shopTables "Shop") (shop_fresh "Shop") 0 (flipped ++ [.flush (minutes 20) (officeOf "Town") (30 * minute)])
  have last := ((Runs.along_append _ _ flipped _).mp run).2.1 (minutes 20) (officeOf "Town") (30 * minute) rfl
  have window : OutOfWindow (Runs.run (Desk.call byCode) ⟨shopTables "Shop",0,[]⟩ flipped).tables (30 * minute) "staff" := by
    unfold OutOfWindow
    decide +kernel
  obtain ⟨m,sent,notice,bound⟩ := last "staff" (List.mem_singleton.mpr rfl) window "B" 600000003 (by decide +kernel) (by decide) (by decide +kernel)
  have unheard : ∀ m ∈ ((Runs.run (Desk.call byCode) ⟨shopTables "Shop",0,[]⟩ flipped).call byCode
      (.flush (minutes 20) (officeOf "Town") (30 * minute))).tables.mail, isNotice "staff" m → m.createdAt < 600000003 := by
    decide +kernel
  exact absurd (unheard m sent notice) (Int.not_lt.mpr bound)

end Osds.Claims

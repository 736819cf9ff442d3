import Osds.Claims.Reachable
import Osds.Claims.Storable
import Mathlib.Algebra.Order.BigOperators.Group.List
import Mathlib.Algebra.Order.Group.Nat

namespace Osds.Claims
open Directory Audit RowLocks

def Command.byOperator : Command → Bool
  | .approve .. | .reject .. | .unlock .. | .unblock .. => true
  | _ => false

def closes (p : Platform) (t : Tables) (id : String) (cmd : Command) : Bool :=
  match perform database t (script p cmd) with
  | .committed (.ok t') => (t'.item id).any (¬·.isOpen)
  | _ => false

-- A disputed claim can be decided: its claimant can be told of a rejection, or there
-- is nobody else to tell of an approval.
def Resolvable (p : Platform) (t : Tables) (c : Claim) : Prop :=
  ("Update on your claim for " ++ t.listingName c.listing).length ≤ 200 ∨
    ∃ row, t.listings c.listing = some row ∧ row.status ≠ .suspended ∧ existingContacts p c row = [] ∧
      ∀ c' ∈ t.claims, c'.listing = c.listing → c'.status ≠ .pendingVerification

section performing

variable {p : Platform} {o : Office} {t t' : Tables} {i : ModerationItem} {c : Claim}

theorem perform_lockEach (ks : List LockKey) (next : Script) : perform database t (lockEach ks next) = perform database t next := by
  induction ks with
  | nil => rfl
  | cons k rest ih => exact ih

theorem perform_lock (k : LockKey) (next : Row k → Script) :
    perform database t (.lock k next) = perform database t (next (rowOf t.toRows k)) := rfl

theorem perform_read (k : LockKey) (next : Row k → Script) :
    perform database t (.read k next) = perform database t (next (rowOf t.toRows k)) := rfl

theorem claimRow_claim (id : ClaimId) : (rowOf t.toRows (.claim id) : ClaimRow).claim = t.claim id := rfl

theorem listingRow_listing (id : ListingId) : (rowOf t.toRows (.listing id) : ListingRow).listing = t.listings id := rfl

theorem perform_lockPair {id : ClaimId} (next : Guard → ClaimRow → Claim → Script) (found : t.claim id = some c) :
    perform database t (lockPair id next) =
      perform database t (next (t.guards c.listing c.claimant.id) (rowOf t.toRows (.claim id)) c) := by
  unfold lockPair
  rw [perform_read,claimRow_claim,found]
  dsimp only
  rw [perform_lock,perform_lock,claimRow_claim,found]
  rfl

theorem performed_exec {cmd : Command} (done : perform database t (script p cmd) = .committed (.ok t')) :
    ∃ held, Exec database t (script p cmd) held (.committed (.ok t')) := by
  obtain ⟨held,exec⟩ := perform_exec database t (script p cmd)
  rw [done] at exec
  exact ⟨held,exec⟩

theorem closes_of_settled (cmd : Command) (consistent : Consistent p t.toRows) (present : i ∈ t.items)
    (done : perform database t (script p cmd) = .committed (.ok t')) (settled : stands t'.toRows i.cause = false) :
    closes p t i.publicId cmd = true := by
  obtain ⟨held,exec⟩ := performed_exec done
  have after : Consistent p t'.toRows := (isolated p).kept cmd t held t' consistent exec
  have found : t.item i.publicId = some i := item_of_mem consistent.keyed present
  obtain ⟨i',found',same⟩ := (isolated p).forward cmd t held t' consistent exec (.item i.publicId) i found
  have found' : t'.item i.publicId = some i' := found'
  unfold closes
  rw [done]
  dsimp only
  rw [found',Option.any_some]
  by_contra open_
  have isOpen : i'.isOpen = true := by simpa using open_
  have standing := open_stands after.linked (List.mem_of_find?_eq_some found') isOpen
  rw [same_cause same,settled] at standing
  cases standing

theorem closes_not (cmd : Command) (keyed : Keyed t'.toRows) (done : perform database t (script p cmd) = .committed (.ok t'))
    (item : openDispute t.toRows c.publicId = some i) (kept : rowOf t'.toRows (.claim c.publicId) = rowOf t.toRows (.claim c.publicId)) :
    closes p t i.publicId cmd = false := by
  have same : openDispute t'.toRows c.publicId = openDispute t.toRows c.publicId := congrArg ClaimRow.dispute kept
  rw [item] at same
  obtain ⟨present,_,isOpen⟩ := openDispute_spec same
  unfold closes
  rw [done]
  dsimp only
  rw [item_of_mem keyed present,Option.any_some,isOpen]
  rfl

theorem perform_queue {itemType : ItemType} (r : Ruling) (change : Tables → ModerationItem → Guard → Tables)
    (may : r.operator.may MODERATOR = true) (given : Text.strip r.rationale ≠ "") (found : t.item i.publicId = some i)
    (is : i.itemType = itemType) (isOpen : i.isOpen = true) :
    perform database t (queueScript itemType i.publicId r change) =
      .committed (.ok (change t i (t.guards i.listing i.claimant.id))) := by
  have row : database.row t (.item i.publicId) = some i := found
  unfold queueScript
  rw [if_neg (not_not.mpr may),if_neg given]
  unfold perform
  rw [row]
  dsimp only
  rw [if_neg (not_not.mpr is)]
  unfold perform
  dsimp only
  unfold perform
  rw [row]
  dsimp only
  rw [if_neg (not_not.mpr isOpen)]
  rfl

theorem ruled_stands {decision : String} {clear : Guard → Guard} {r : Ruling} :
    (decideQueued o t i decision clear true r).toRows.guards i.listing i.claimant.id = clear (t.guards i.listing i.claimant.id) :=
  guard_updated t.toRows i.listing i.claimant.id clear

theorem openItem_fresh {itemType : ItemType} {rules : List String} {actor : Actor} {newId : String} {now : Time}
    (fresh : ∀ j ∈ t.items, j.publicId ≠ newId) : ∃ t', openItem o t itemType c rules actor newId now = .ok t' := by
  unfold openItem
  split
  · exact ⟨_,rfl⟩
  · split
    · next taken =>
        obtain ⟨j,listed,same⟩ := List.any_eq_true.mp taken
        exact absurd (of_decide_eq_true same) (fresh j listed)
    · exact ⟨_,rfl⟩

theorem decideClaimItem_frame (o : Office) (t : Tables) (id : ClaimId) (decision operator rationale : String) (actor : Actor)
    (now : Time) :
    (decideClaimItem o t id decision operator rationale actor now).claims = t.claims ∧
      (decideClaimItem o t id decision operator rationale actor now).listings = t.listings ∧
      (decideClaimItem o t id decision operator rationale actor now).items.map (·.publicId) = t.items.map (·.publicId) := by
  unfold decideClaimItem
  split
  · exact ⟨rfl,rfl,rfl⟩
  · refine ⟨rfl,rfl,?_⟩
    unfold decideItem Tables.emit Tables.updateItem Rows.updateItem
    dsimp only
    rw [List.map_map]
    refine List.map_congr_left ?_
    intro j _
    rw [Function.comp_apply]
    split <;> rfl

def recorded (o : Office) (t : Tables) (c : Claim) (g : Guard) (r : Rejection) : Tables :=
  let reason := Text.strip r.reason
  let decided := (t.expirePendingCode c.codeMessage r.now).updateClaim c.publicId (rejected r.operator.id reason r.now)
  let counted := decided.updateGuard c.listing c.claimant.id fun _ => rejectedGuard g r.now
  let told := counted.emit o.tenant c.publicId r.operator.actor
    (.claimRejected (claimRef (rejected r.operator.id reason r.now c)) reason r.operator.id)
  decideClaimItem o told c.publicId "rejected" r.operator.id reason r.operator.actor r.now

theorem reject_exact {g : Guard} {r : Rejection} : reject o t c g r = .ok t' ↔
    ∃ queued, (if blocks g then openItem o (recorded o t c g r) .claimBlock c ["repeated_rejection"] r.operator.actor r.itemId r.now
      else .ok (recorded o t c g r)) = .ok queued ∧ mailRejection queued c r.now = .ok t' := by
  unfold reject
  dsimp only
  split
  · exact Fallible.bind_exact
  · exact Fallible.bind_exact

theorem recorded_frame (o : Office) (t : Tables) (c : Claim) (g : Guard) (r : Rejection) :
    (recorded o t c g r).claims = (t.updateClaim c.publicId (rejected r.operator.id (Text.strip r.reason) r.now)).claims ∧
      (recorded o t c g r).listings = t.listings ∧
      (recorded o t c g r).items.map (·.publicId) = t.items.map (·.publicId) := by
  have expired := expirePendingCode_rows t c.codeMessage r.now
  unfold recorded
  dsimp only
  obtain ⟨claims,listings,items⟩ := decideClaimItem_frame o
    ((((t.expirePendingCode c.codeMessage r.now).updateClaim c.publicId (rejected r.operator.id (Text.strip r.reason) r.now)).updateGuard
      c.listing c.claimant.id fun _ => rejectedGuard g r.now).emit o.tenant c.publicId r.operator.actor
        (.claimRejected (claimRef (rejected r.operator.id (Text.strip r.reason) r.now c)) (Text.strip r.reason) r.operator.id))
    c.publicId "rejected" r.operator.id (Text.strip r.reason) r.operator.actor r.now
  rw [claims,listings,items]
  refine ⟨?_,?_,?_⟩
  · exact congrArg (fun rows : Rows => (rows.updateClaim c.publicId (rejected r.operator.id (Text.strip r.reason) r.now)).claims) expired
  · show (t.expirePendingCode c.codeMessage r.now).toRows.listings = t.listings
    rw [expired]
  · exact congrArg (fun rows : Rows => rows.items.map (·.publicId)) expired

theorem reject_told {g : Guard} {r : Rejection} (done : reject o t c g r = .ok t') :
    t'.claims = (t.updateClaim c.publicId (rejected r.operator.id (Text.strip r.reason) r.now)).claims ∧
      ("Update on your claim for " ++ t.listingName c.listing).length ≤ 200 := by
  obtain ⟨queued,opened,mailed⟩ := reject_exact.mp done
  obtain ⟨claims,listings,_⟩ := recorded_frame o t c g r
  have frame : queued.claims = (recorded o t c g r).claims ∧ queued.listings = (recorded o t c g r).listings := by
    split at opened
    · exact (openItem_frame opened).2
    · cases opened
      exact ⟨rfl,rfl⟩
  have fits := (enqueue_exact.mp ⟨t',mailed⟩).1
  unfold Tables.listingName at fits ⊢
  rw [frame.2,listings] at fits
  rw [enqueue_rows mailed,frame.1,claims]
  exact ⟨rfl,fits⟩

theorem reject_done (o : Office) (g : Guard) (r : Rejection) (fits : ("Update on your claim for " ++ t.listingName c.listing).length ≤ 200)
    (address : c.claimant.email.length ≤ 254) (fresh : ∀ j ∈ t.items, j.publicId ≠ r.itemId) :
    ∃ t', reject o t c g r = .ok t' := by
  obtain ⟨_,listings,items⟩ := recorded_frame o t c g r
  have opens : ∃ queued, (if blocks g then openItem o (recorded o t c g r) .claimBlock c ["repeated_rejection"] r.operator.actor
      r.itemId r.now else .ok (recorded o t c g r)) = .ok queued ∧ queued.listings = t.listings := by
    split
    · have unused : ∀ j ∈ (recorded o t c g r).items, j.publicId ≠ r.itemId := by
        intro j listed same
        have named : j.publicId ∈ (recorded o t c g r).items.map (·.publicId) := List.mem_map.mpr ⟨j,listed,rfl⟩
        rw [items] at named
        obtain ⟨j',present,equal⟩ := List.mem_map.mp named
        exact fresh j' present (equal.trans same)
      obtain ⟨queued,opened⟩ := openItem_fresh unused
      exact ⟨queued,opened,(openItem_frame opened).2.2.trans listings⟩
    · exact ⟨_,rfl,listings⟩
  obtain ⟨queued,opened,same⟩ := opens
  have mails : ∃ t', mailRejection queued c r.now = .ok t' := by
    refine enqueue_exact.mpr ⟨?_,address⟩
    unfold Tables.listingName at fits ⊢
    rw [same]
    exact fits
  obtain ⟨t',mailed⟩ := mails
  exact ⟨t',reject_exact.mpr ⟨queued,opened,mailed⟩⟩

theorem perform_reject (o : Office) (r : Rejection) (may : r.operator.may EDITOR = true) (given : Text.strip r.reason ≠ "")
    (found : t.claim c.publicId = some c) (waits : isOpenClaim c = true) :
    perform database t (rejectScript o c.publicId r) = .committed (reject o t c (t.guards c.listing c.claimant.id) r) := by
  unfold rejectScript
  rw [if_neg (not_not.mpr may),if_neg given,perform_lockPair _ found,if_neg (not_not.mpr waits),perform_lockEach]
  rfl

def losersOf (t : Tables) (c : Claim) : List ClaimId :=
  claimIds ((database.keys t).filter fun k => isLoser c.listing c.publicId k (rowOf t.toRows k))

theorem losers_none (keyed : Keyed t.toRows) (notPending : c.status ≠ .pendingVerification) (found : t.claim c.publicId = some c) :
    losersOf t c = [] ↔ ∀ c' ∈ t.claims, c'.listing = c.listing → c'.status ≠ .pendingVerification := by
  unfold losersOf claimIds
  rw [List.filterMap_eq_nil_iff]
  constructor
  · intro none_ c' present here pends
    have there := claim_of_mem keyed present
    have differ : c'.publicId ≠ c.publicId := by
      intro same
      rw [claim_unique keyed found present same] at pends
      exact notPending pends
    have loses : isLoser c.listing c.publicId (.claim c'.publicId) (rowOf t.toRows (.claim c'.publicId)) = true := by
      show (decide (c'.publicId ≠ c.publicId) && (t.claim c'.publicId).any fun a =>
        a.listing = c.listing && a.status = .pendingVerification) = true
      rw [there,Option.any_some,here,pends]
      simpa using differ
    have listed : LockKey.claim c'.publicId ∈ database.keys t := List.mem_map.mpr ⟨c',present,rfl⟩
    cases none_ _ (List.mem_filter.mpr ⟨listed,loses⟩)
  · intro none_ k listed
    obtain ⟨listed,loses⟩ := List.mem_filter.mp listed
    obtain ⟨c',present,rfl⟩ := List.mem_map.mp listed
    have row : (decide (c'.publicId ≠ c.publicId) && (t.claim c'.publicId).any fun a =>
        a.listing = c.listing && a.status = .pendingVerification) = true := loses
    rw [claim_of_mem keyed present,Option.any_some] at row
    simp only [Bool.and_eq_true,decide_eq_true_eq] at row
    exact absurd row.2.2 (none_ c' present row.2.1)

theorem losers_spec {id : ClaimId} (listed : id ∈ losersOf t c) :
    id ≠ c.publicId ∧ ∃ c', t.claim id = some c' ∧ c'.listing = c.listing ∧ c'.status = .pendingVerification := by
  obtain ⟨k,among_,is⟩ := List.mem_filterMap.mp listed
  have loses := (List.mem_filter.mp among_).2
  cases k with
  | claim id' =>
      cases is
      have row : (decide (id ≠ c.publicId) && (t.claim id).any fun a =>
          a.listing = c.listing && a.status = .pendingVerification) = true := loses
      rw [Bool.and_eq_true,decide_eq_true_eq] at row
      refine ⟨row.1,?_⟩
      have there := row.2
      cases found : t.claim id with
      | none =>
          rw [found] at there
          cases there
      | some c' =>
          rw [found,Option.any_some,Bool.and_eq_true,decide_eq_true_eq,decide_eq_true_eq] at there
          exact ⟨c',rfl,there⟩
  | _ => cases is

theorem perform_approval (p : Platform) (o : Office) (row : ListingRow) (l : Listing) (actor : Actor) (manual : Option Manual)
    (items : List LockKey) (before : Tables → Tables) (now : Time) :
    perform database t (approvalScript p o c row l actor manual items before now) =
      .committed (approveClaim p o (before t) c l actor manual (row.approved.filter (· ≠ c.publicId)) (losersOf t c) now) := by
  unfold approvalScript
  dsimp only
  rw [perform_lockEach]
  unfold perform
  rw [perform_lockEach]
  rfl

theorem rejectLoser_told {now : Time} (done : rejectLoser o t c now = .ok t') :
    ("Update on your claim for " ++ t.listingName c.listing).length ≤ 200 := by
  have fits := (enqueue_exact.mp ⟨t',done⟩).1
  have expired := expirePendingCode_rows (t.updateClaim c.publicId (lost now)) c.codeMessage now
  have listings : ((t.updateClaim c.publicId (lost now)).expirePendingCode c.codeMessage now).listings = t.listings := by
    rw [expired]
    rfl
  unfold Tables.listingName at fits ⊢
  rw [← listings]
  exact fits

theorem approveClaim_told {l : Listing} {actor : Actor} {manual : Option Manual} {olds losers : List ClaimId} {now : Time}
    (done : approveClaim p o t c l actor manual olds losers now = .ok t') :
    (∀ address ∈ existingContacts p c l, ("Your listing " ++ l.name ++ " was just claimed").length ≤ 200) ∧
      ∀ id rest c', losers = id :: rest → t.claim id = some c' →
        ("Update on your claim for " ++ t.listingName c'.listing).length ≤ 200 := by
  obtain ⟨owned,notified,after,given,told,lost_,_⟩ := approveClaim_parts done
  refine ⟨fun address listed => ((enqueueAll_exact _).mp ⟨notified,told⟩ address listed).1,?_⟩
  intro id rest c' is found
  subst is
  have rows : (approvalEvents p o notified c l actor manual now).toRows = apply t.toRows (.approve c (approved · manual now) olds) := by
    rw [approvalEvents_rows,enqueueAll_rows _ told,given]
  have rewritten : ∀ a, SameClaim a (approving c.publicId (approved · manual now) olds a) := by
    intro a
    unfold approving
    split
    · cases manual <;> exact ⟨rfl,rfl,rfl⟩
    · split <;> exact ⟨rfl,rfl,rfl⟩
  have there : (approvalEvents p o notified c l actor manual now).claim id =
      some (approving c.publicId (approved · manual now) olds c') := by
    rw [rows]
    exact (claim_mapped (fun a _ => rewritten a) id).trans (congrArg (Option.map _) found)
  have names : ∀ l', (approvalEvents p o notified c l actor manual now).listingName l' = t.listingName l' := by
    intro l'
    unfold Tables.listingName
    rw [rows]
    unfold apply owning
    dsimp only
    split
    · cases t.listings l' <;> rfl
    · rfl
  unfold rejectLosers at lost_
  rw [there] at lost_
  obtain ⟨next,first,_⟩ := Fallible.bind_exact.mp lost_
  have fits := rejectLoser_told first
  rw [names,(rewritten c').listing] at fits
  exact fits

theorem approveClaim_quiet (o : Office) (t : Tables) {l : Listing} (actor : Actor) (manual : Option Manual) (olds : List ClaimId) (now : Time)
    (quiet : existingContacts p c l = []) : ∃ t', approveClaim p o t c l actor manual olds [] now = .ok t' := by
  have told : ∀ owned, notifyExistingContacts p owned c l now = .ok owned := by
    intro owned
    unfold notifyExistingContacts
    rw [quiet]
    rfl
  cases manual with
  | none => exact ⟨_,Fallible.bind_exact.mpr ⟨_,told _,Fallible.bind_exact.mpr ⟨_,rfl,rfl⟩⟩⟩
  | some m => exact ⟨_,Fallible.bind_exact.mpr ⟨_,told _,Fallible.bind_exact.mpr ⟨_,rfl,rfl⟩⟩⟩

end performing

section deciding

variable {p : Platform} {o : Office} {t t' : Tables} {i : ModerationItem} {c : Claim}

-- `_apply_approve` alone, of a claim that waits: disputed, or given its listing.
theorem approve_performed {r : Review} {id : ClaimId} (done : perform database t (approveScript p o id r) = .committed (.ok t')) :
    ∃ c, t.claim id = some c ∧ isOpenClaim c = true ∧
      (c.status = .pendingVerification ∧ dispute o t c r.operator.actor r.itemId r.now = .ok t' ∨
        ∃ l m, t.listings c.listing = some l ∧ l.status ≠ .suspended ∧
          approveClaim p o t c l r.operator.actor (some m)
            ((rowOf t.toRows (.listing c.listing) : ListingRow).approved.filter (· ≠ c.publicId)) (losersOf t c) r.now = .ok t') := by
  unfold approveScript at done
  split at done
  · cases done
  · split at done
    · cases done
    · split at done
      · cases done
      · rw [perform_lock,claimRow_claim] at done
        cases found : t.claim id with
        | none =>
            rw [found] at done
            cases done
        | some c =>
            rw [found] at done
            dsimp only at done
            refine ⟨c,rfl,?_⟩
            split at done
            · cases done
            · next waits =>
                refine ⟨not_not.mp waits,?_⟩
                rw [perform_lock,listingRow_listing] at done
                cases there : t.listings c.listing with
                | none =>
                    rw [there] at done
                    cases done
                | some l =>
                    rw [there] at done
                    dsimp only at done
                    split at done
                    · cases done
                    · next notSuspended =>
                        split at done
                        · next pends => exact .inl ⟨pends.1,Ending.committed.inj done⟩
                        · split at done
                          · cases done
                          · split at done
                            · cases done
                            · rw [perform_approval] at done
                              exact .inr ⟨l,_,rfl,notSuspended,Ending.committed.inj done⟩

theorem perform_approve (p : Platform) (o : Office) (r : Review) {l : Listing} (may : r.operator.may EDITOR = true) (given : Text.strip r.notes ≠ "")
    (known : r.methodUsed ∈ MANUAL_METHODS) (found : t.claim c.publicId = some c) (disputes : c.status = .disputed)
    (there : t.listings c.listing = some l) (notSuspended : l.status ≠ .suspended) (confirmed : r.transfer = true)
    (short : (Text.strip r.evidenceRef).length ≤ 500) :
    perform database t (approveScript p o c.publicId r) = .committed (approveClaim p o t c l r.operator.actor
      (some ⟨r.operator.id,r.methodUsed,Text.strip r.notes,Text.strip r.evidenceRef⟩)
      ((rowOf t.toRows (.listing c.listing) : ListingRow).approved.filter (· ≠ c.publicId)) (losersOf t c) r.now) := by
  have waits : isOpenClaim c = true := by
    unfold isOpenClaim
    rw [disputes]
    rfl
  unfold approveScript
  rw [if_neg (not_not.mpr may),if_neg given,if_neg (not_not.mpr known),perform_lock,claimRow_claim,found]
  dsimp only
  rw [if_neg (not_not.mpr waits),perform_lock,listingRow_listing,there]
  dsimp only
  have notPending : ¬(c.status = .pendingVerification ∧ l.status = .claimed) := by
    rw [disputes]
    intro pends
    cases pends.1
  rw [if_neg notSuspended,if_neg notPending,if_neg (fun both => both.2 confirmed),if_neg (Nat.not_lt.mpr short),perform_approval]

end deciding

section closing

variable {p : Platform} {t t' : Tables} {i : ModerationItem} {c : Claim}

def boss : Operator := ⟨"boss",some ADMIN⟩

def anyOffice : Office := ⟨0,"",[],none,false,"",[]⟩

def lifting : Ruling := ⟨boss,"seen",0⟩

def sending (id : String) : Rejection := ⟨boss,"seen",id,0⟩

def granting : Review := ⟨boss,"phone","seen","",true,"",0⟩

theorem boss_edits : boss.may EDITOR = true := by decide

theorem seen_given : Text.strip "seen" ≠ "" := by decide

theorem fresh_id (items : List ModerationItem) : ∃ id, ∀ j ∈ items, j.publicId ≠ id := by
  let longest := (items.map (·.publicId.length)).sum + 1
  refine ⟨String.ofList (List.replicate longest 'I'),?_⟩
  intro j listed same
  have long : j.publicId.length = longest := by rw [same,String.length_ofList,List.length_replicate]
  have bound := List.le_sum_of_mem (List.mem_map.mpr ⟨j,listed,rfl⟩ : j.publicId.length ∈ items.map (·.publicId.length))
  omega

theorem lifting_closes {itemType : ItemType} {clear : Guard → Guard} {flag : Guard → Bool} {decision : String} (cmd : Command)
    (lifts : Lifts itemType clear flag) (consistent : Consistent p t.toRows) (present : i ∈ t.items) (isOpen : i.isOpen = true)
    (is : i.itemType = itemType)
    (scripted : script p cmd = queueScript itemType i.publicId lifting fun t i g =>
      decideQueued anyOffice t i decision clear (flag g) lifting) : closes p t i.publicId cmd = true := by
  have standing := open_stands consistent.linked present isOpen
  have done := perform_queue lifting (fun t i g => decideQueued anyOffice t i decision clear (flag g) lifting) (by decide) (by decide)
    (item_of_mem consistent.keyed present) is isOpen
  rw [← scripted] at done
  refine closes_of_settled cmd consistent present done ?_
  unfold ModerationItem.cause at standing ⊢
  rcases lifts with ⟨locks,clears,flags⟩ | ⟨blocks_,clears,flags⟩
  · rw [is.trans locks] at standing ⊢
    have stood : flag (t.guards i.listing i.claimant.id) = true := (congrFun flags _).trans standing
    unfold stands
    dsimp only
    rw [stood,ruled_stands,clears]
    rfl
  · rw [is.trans blocks_] at standing ⊢
    have stood : flag (t.guards i.listing i.claimant.id) = true := (congrFun flags _).trans standing
    unfold stands
    dsimp only
    rw [stood,ruled_stands,clears]
    rfl

theorem reject_closes (consistent : Consistent p t.toRows) (present : i ∈ t.items) (cause : i.cause = .dispute c.publicId)
    (found : t.claim c.publicId = some c) (disputes : c.status = .disputed)
    (fits : ("Update on your claim for " ++ t.listingName c.listing).length ≤ 200) {id : String}
    (fresh : ∀ j ∈ t.items, j.publicId ≠ id) :
    closes p t i.publicId (.reject anyOffice c.publicId (sending id)) = true := by
  have waits : isOpenClaim c = true := by
    unfold isOpenClaim
    rw [disputes]
    rfl
  have address := consistent.addressed.claims c (claim_found found).1
  have done := perform_reject anyOffice (sending id) boss_edits seen_given found waits
  obtain ⟨t',rejects⟩ := reject_done anyOffice (t.guards c.listing c.claimant.id) (sending id) fits address fresh
  rw [rejects] at done
  refine closes_of_settled (.reject anyOffice c.publicId (sending id)) consistent present done ?_
  have same : SameClaim c (rejected boss.id (Text.strip "seen") 0 c) := ⟨rfl,rfl,rfl⟩
  have there : t'.claim c.publicId = some (rejected boss.id (Text.strip "seen") 0 c) := by
    unfold Rows.claim
    rw [(reject_told rejects).1]
    exact (claim_updated consistent.keyed found same c.publicId).trans (if_pos rfl)
  rw [cause,stands_dispute there]
  rfl

theorem approve_closes (consistent : Consistent p t.toRows) (present : i ∈ t.items) (cause : i.cause = .dispute c.publicId)
    (found : t.claim c.publicId = some c) (disputes : c.status = .disputed) {l : Listing} (there : t.listings c.listing = some l)
    (notSuspended : l.status ≠ .suspended) (quiet : existingContacts p c l = [])
    (none_ : ∀ c' ∈ t.claims, c'.listing = c.listing → c'.status ≠ .pendingVerification) :
    closes p t i.publicId (.approve anyOffice c.publicId granting) = true := by
  have notPending : c.status ≠ .pendingVerification := by
    rw [disputes]
    exact nofun
  have done := perform_approve p anyOffice granting (by decide) (by decide)
    (by decide) found disputes there notSuspended rfl (by decide)
  rw [(losers_none consistent.keyed notPending found).mpr none_] at done
  obtain ⟨t',approves⟩ := approveClaim_quiet anyOffice t boss.actor
    (some ⟨boss.id,"phone",Text.strip "seen",Text.strip ""⟩)
    ((rowOf t.toRows (.listing c.listing) : ListingRow).approved.filter (· ≠ c.publicId)) 0 quiet
  have done := done.trans (congrArg Ending.committed approves)
  refine closes_of_settled (.approve anyOffice c.publicId granting) consistent present done ?_
  obtain ⟨t'',rows,ends⟩ := approveClaim_rows approves
  have claims : t'.claims = t''.claims := by
    rw [ends]
    exact (decideClaimItem_frame ..).1
  have there : t'.claim c.publicId = some (approved c (some ⟨boss.id,"phone",Text.strip "seen",Text.strip ""⟩) 0) := by
    unfold Rows.claim
    rw [claims,rows]
    unfold awarded
    rw [among_nil]
    have same : SameClaim c (approved c (some ⟨boss.id,"phone",Text.strip "seen",Text.strip ""⟩) 0) := ⟨rfl,rfl,rfl⟩
    refine (claim_mapped (approving_same consistent.keyed found same _) c.publicId).trans ?_
    rw [found,Option.map_some]
    exact congrArg some (if_pos rfl)
  rw [cause,stands_dispute there]
  rfl

theorem openDispute_open {r : Rows} {id : ClaimId} (linked : Linked r) (present : i ∈ r.items) (isOpen : i.isOpen = true)
    (cause : i.cause = .dispute id) : openDispute r id = some i := by
  have standing := open_stands linked present isOpen
  have one := linked (.dispute id)
  rw [← cause,standing,if_pos rfl,cause] at one
  unfold openFor at one
  rw [List.countP_eq_length_filter,List.length_eq_one_iff] at one
  obtain ⟨only,one⟩ := one
  have member : ∀ j ∈ r.items, j.isOpen = true → j.cause = .dispute id → j = only := by
    intro j listed open_ same
    have among_ : j ∈ r.items.filter fun i => i.isOpen && i.cause = .dispute id :=
      List.mem_filter.mpr ⟨listed,by rw [open_,same,decide_eq_true rfl]; rfl⟩
    rw [one] at among_
    exact List.mem_singleton.mp among_
  have some_ : (openDispute r id).isSome := by
    rw [openDispute_counted,linked,← cause,standing]
    exact Nat.one_ne_zero
  obtain ⟨j,first⟩ := Option.isSome_iff_exists.mp some_
  obtain ⟨listed,same,open_⟩ := openDispute_spec first
  rw [first,member j listed open_ same,member i present isOpen cause]

theorem commits_apart {kind : Change → Prop} {held : List LockKey} {r r' : Rows} {k : LockKey} (keyed : Keyed r)
    (commits : Commits p kind held r r') (other : k ∉ held) : rowOf r' k = rowOf r k := by
  obtain ⟨xs,changes,all⟩ := commits
  exact changes_kept changes keyed k fun x listed named => other ((all x listed).2 k named)

-- The keys that reject, dispute and approve hold beside their own claim's.
theorem claim_unlisted (id : ClaimId) (row : ClaimRow) : LockKey.claim id ∉ disputeKey row := by
  intro listed
  obtain ⟨j,_,is⟩ := List.mem_map.mp listed
  cases is

theorem reject_unheld {id other : ClaimId} {g : Guard} {l : ListingId} {u newItem : String} (row : ClaimRow)
    (differ : id ≠ other) :
    LockKey.claim id ∉ .claim other :: .guard l u :: (disputeKey row ++ if blocks g then [.item newItem] else []) := by
  have unlisted := claim_unlisted id row
  split <;> simp [differ,unlisted]

theorem approve_unheld {id other : ClaimId} {olds losers : List ClaimId} {l : ListingId} (row : ClaimRow) (differ : id ≠ other)
    (old : id ∉ olds) (loser : id ∉ losers) :
    LockKey.claim id ∉ .claim other :: .listing l :: (olds.map .claim ++ losers.map .claim ++ disputeKey row) := by
  have unlisted := claim_unlisted id row
  simp [differ,old,loser,unlisted]

-- A name too long for a rejection's subject is too long for a contact's.
theorem contacts_none {l : Listing} (there : t.listings c.listing = some l)
    (contacts : ∀ address ∈ existingContacts p c l, ("Your listing " ++ l.name ++ " was just claimed").length ≤ 200)
    (long : ¬("Update on your claim for " ++ t.listingName c.listing).length ≤ 200) : existingContacts p c l = [] := by
  have named : t.listingName c.listing = l.name := by
    unfold Tables.listingName
    rw [there]
    rfl
  refine List.eq_nil_iff_forall_not_mem.mpr ?_
  intro address listed
  have short := contacts address listed
  rw [named] at long
  simp only [String.length_append] at short long
  have head : "Your listing ".length = 13 := rfl
  have tail : " was just claimed".length = 17 := rfl
  have update : "Update on your claim for ".length = 25 := rfl
  omega

theorem losers_told
    (losers : ∀ id rest c', losersOf t c = id :: rest → t.claim id = some c' →
      ("Update on your claim for " ++ t.listingName c'.listing).length ≤ 200)
    (long : ¬("Update on your claim for " ++ t.listingName c.listing).length ≤ 200) : losersOf t c = [] := by
  cases all : losersOf t c with
  | nil => rfl
  | cons first rest =>
      obtain ⟨_,loser,there,here,_⟩ := losers_spec (all ▸ List.mem_cons_self .. : first ∈ losersOf t c)
      have short := losers first rest loser all there
      rw [here] at short
      exact absurd short long

-- An approval that is done has told everybody it had to.
theorem approval_resolvable {o : Office} {l : Listing} {actor : Actor} {manual : Option Manual} {olds : List ClaimId} {now : Time}
    (keyed : Keyed t.toRows) (found : t.claim c.publicId = some c) (notPending : c.status ≠ .pendingVerification)
    (there : t.listings c.listing = some l) (notSuspended : l.status ≠ .suspended)
    (approves : approveClaim p o t c l actor manual olds (losersOf t c) now = .ok t') : Resolvable p t c := by
  obtain ⟨contacts,losers⟩ := approveClaim_told approves
  by_cases fits : ("Update on your claim for " ++ t.listingName c.listing).length ≤ 200
  · exact .inl fits
  · exact .inr ⟨l,there,notSuspended,contacts_none there contacts fits,
      (losers_none keyed notPending found).mp (losers_told losers fits)⟩

-- The approval of another claim leaves a disputed one as it is.
theorem approval_apart {o : Office} {l : Listing} {c' : Claim} {actor : Actor} {m : Manual} {now : Time}
    (consistent : Consistent p t.toRows) (found : t.claim c.publicId = some c) (disputes : c.status = .disputed)
    (found' : t.claim c'.publicId = some c') (waits : isOpenClaim c' = true) (differ : c.publicId ≠ c'.publicId)
    (there : t.listings c'.listing = some l)
    (approves : approveClaim p o t c' l actor (some m)
      ((rowOf t.toRows (.listing c'.listing) : ListingRow).approved.filter (· ≠ c'.publicId)) (losersOf t c') now = .ok t') :
    rowOf t'.toRows (.claim c.publicId) = rowOf t.toRows (.claim c.publicId) := by
  have keyed := consistent.keyed
  have notApproved : c'.status ≠ .approved := by
    intro approved_
    unfold isOpenClaim at waits
    rw [approved_] at waits
    cases waits
  have lose : Losing t.toRows c' (losersOf t c') := by
    intro id listed
    obtain ⟨other,loser,known,_,pends⟩ := losers_spec listed
    exact ⟨other,loser,known,pends⟩
  have old : c.publicId ∉ (approvedClaims t.toRows c'.listing).map (·.publicId) := by
    intro listed
    have approved_ := (approved_listing keyed rfl (claim_found found).1 listed).2
    rw [disputes] at approved_
    cases approved_
  have loser : c.publicId ∉ losersOf t c' := by
    intro listed
    obtain ⟨_,loser,known,pends⟩ := lose c.publicId listed
    cases known.symm.trans found
    rw [disputes] at pends
    cases pends
  rw [olds_exact c'.listing keyed found' notApproved] at approves
  have present : (t.listings c'.listing).isSome := by
    rw [there]
    rfl
  exact commits_apart keyed (approveClaim_commits consistent present found' waits rfl lose approves)
    (approve_unheld _ differ old loser)

theorem closes_resolvable (consistent : Consistent p t.toRows) (item : openDispute t.toRows c.publicId = some i)
    (found : t.claim c.publicId = some c) (disputes : c.status = .disputed) {cmd : Command} (by_ : cmd.byOperator = true)
    (closed : closes p t i.publicId cmd = true) : Resolvable p t c := by
  have keyed := consistent.keyed
  have performs : ∃ t', perform database t (script p cmd) = .committed (.ok t') := by
    unfold closes at closed
    split at closed
    · next t' done => exact ⟨t',done⟩
    · cases closed
  obtain ⟨t',done⟩ := performs
  obtain ⟨held,exec⟩ := performed_exec done
  have consistent' : Consistent p t'.toRows := (isolated p).kept cmd t held t' consistent exec
  -- it would leave the item open if it left the claim's row alone
  have touched : rowOf t'.toRows (.claim c.publicId) = rowOf t.toRows (.claim c.publicId) → Resolvable p t c := by
    intro kept
    rw [closes_not cmd consistent'.keyed done item kept] at closed
    cases closed
  cases cmd with
  | submit o s => cases by_
  | resend o id code now => cases by_
  | verify o id code itemId now => cases by_
  | writeListing id w => cases by_
  | unlock o id r =>
      obtain ⟨_,_,commits⟩ := lifted_commits (.inl ⟨rfl,rfl,rfl⟩) consistent exec
      exact touched (commits_apart keyed commits (by simp))
  | unblock o id r =>
      obtain ⟨_,_,commits⟩ := lifted_commits (.inr ⟨rfl,rfl,rfl⟩) consistent exec
      exact touched (commits_apart keyed commits (by simp))
  | reject o id r =>
      obtain ⟨c',found',waits,rejects,_⟩ := reject_exec exec
      obtain ⟨named⟩ : c'.publicId = id := (claim_found found').2
      by_cases same : c.publicId = c'.publicId
      · have equal := claim_unique keyed found (claim_found found').1 same.symm
        rw [equal] at rejects
        exact .inl (reject_told rejects).2
      · exact touched (commits_apart keyed (reject_commits consistent found' waits rejects) (reject_unheld _ same))
  | approve o id r =>
      obtain ⟨c',found',waits,either⟩ := approve_performed done
      obtain ⟨named⟩ : c'.publicId = id := (claim_found found').2
      have notPending : c.status ≠ .pendingVerification := by
        rw [disputes]
        exact nofun
      by_cases same : c.publicId = c'.publicId
      · obtain ⟨equal⟩ : c' = c := claim_unique keyed found (claim_found found').1 same.symm
        rcases either with ⟨pends,_⟩ | ⟨l,m,there,notSuspended,approves⟩
        · exact absurd pends notPending
        · exact approval_resolvable keyed found notPending there notSuspended approves
      · rcases either with ⟨pends,opens⟩ | ⟨l,m,there,_,approves⟩
        · exact touched (commits_apart keyed (dispute_commits consistent found' pends opens) (by simp [same]))
        · exact touched (approval_apart consistent found disputes found' waits same there approves)

theorem closable_exact (consistent : Consistent p t.toRows) (present : i ∈ t.items) (isOpen : i.isOpen = true) :
    (∃ cmd : Command, cmd.byOperator = true ∧ closes p t i.publicId cmd = true) ↔
      (i.itemType = .claimDispute → ∃ c, t.claim i.claim = some c ∧ Resolvable p t c) := by
  cases is : i.itemType with
  | verificationLock => exact iff_of_true ⟨_,rfl,lifting_closes (.unlock anyOffice i.publicId lifting) (.inl ⟨rfl,rfl,rfl⟩) consistent
      present isOpen is rfl⟩ nofun
  | claimBlock => exact iff_of_true ⟨_,rfl,lifting_closes (.unblock anyOffice i.publicId lifting) (.inr ⟨rfl,rfl,rfl⟩) consistent
      present isOpen is rfl⟩ nofun
  | claimDispute =>
      have cause : i.cause = .dispute i.claim := (cause_dispute i i.claim).mpr ⟨rfl,is⟩
      have standing := open_stands consistent.linked present isOpen
      rw [cause] at standing
      obtain ⟨c,found,disputes⟩ := (Option.any_eq_true ..).mp standing
      rw [decide_eq_true_eq] at disputes
      have named := (claim_found found).2
      rw [← named] at found cause ⊢
      have item := openDispute_open consistent.linked present isOpen cause
      constructor
      · intro closable _
        obtain ⟨cmd,by_,closed⟩ := closable
        exact ⟨c,found,closes_resolvable consistent item found disputes by_ closed⟩
      · intro resolvable
        obtain ⟨c',found',fits | ⟨l,there,notSuspended,quiet,none_⟩⟩ := resolvable rfl
        · cases found.symm.trans found'
          obtain ⟨id,fresh⟩ := fresh_id t.items
          exact ⟨_,rfl,reject_closes consistent present cause found disputes fits fresh⟩
        · cases found.symm.trans found'
          exact ⟨_,rfl,approve_closes consistent present cause found disputes there notSuspended quiet none_⟩

-- Where nobody holds a row, the command's statements close the item one after another.
theorem closes_run {s : State} {cmd : Command} {id : String} (alone : ∀ k, s.holder k = none)
    (closed : closes p s.store id cmd = true) :
    ∃ n, ((Runs.run (step p) (step p s (.begin cmd)) (List.replicate n (.advance s.next))).store.item id).any (¬·.isOpen) = true := by
  have running : (step p s (.begin cmd)).running s.next = some ⟨cmd,script p cmd⟩ := Function.update_self ..
  obtain ⟨n,done⟩ := perform_advance (script p cmd) running fun k => (free_exact _ _ k).mpr (.inl (alone k))
  refine ⟨n,(congrArg (fun t : Tables => (t.item id).any (¬·.isOpen)) done).trans ?_⟩
  unfold closes at closed
  split at closed
  · next t' ends =>
      have same : perform database (step p s (.begin cmd)).store (script p cmd) = .committed (.ok t') := ends
      rw [same]
      exact closed
  · cases closed

end closing

-- In every state of every schedule each flag has its one open item, and no other
-- cause has one; and an open item can be closed there by an operator, but for a
-- dispute that can be decided in no way that is told.
theorem items_mirror {p : Platform} {s : State} (path : Runs.Reached (step p) Initial s) :
    (∀ c ∈ s.store.claims, c.status = .disputed ↔ openFor s.store.toRows (.dispute c.publicId) = 1) ∧
    (∀ l u, (s.store.guards l u).verificationLockedAt.isSome ↔ openFor s.store.toRows (.lock l u) = 1) ∧
    (∀ l u, (s.store.guards l u).claimBlockedAt.isSome ↔ openFor s.store.toRows (.block l u) = 1) ∧
    ∀ i ∈ s.store.items, i.isOpen = true →
      ((∃ cmd : Command, cmd.byOperator = true ∧ closes p s.store i.publicId cmd = true) ↔
        (i.itemType = .claimDispute → ∃ c, s.store.claim i.claim = some c ∧ Resolvable p s.store c)) := by
  have consistent := (reached_sound path).store
  have flags : ∀ k, openFor s.store.toRows k = 1 ↔ stands s.store.toRows k = true := by
    intro k
    rw [consistent.linked]
    split
    · next holds => exact iff_of_true rfl holds
    · next falls => exact iff_of_false Nat.zero_ne_one falls
  refine ⟨?_,fun l u => (flags (.lock l u)).symm,fun l u => (flags (.block l u)).symm,?_⟩
  · intro c present
    rw [flags,stands_dispute (claim_of_mem consistent.keyed present),decide_eq_true_eq]
  · intro i present isOpen
    exact closable_exact consistent present isOpen

def disputing (n : Nat) : State :=
  let o := officeOf "Town"
  Runs.run (step byCode) (RowLocks.start (shopTables (String.ofList (List.replicate n 'a')))) <| inTurn
    [.submit o {submission "ann" "A" "1" 0 with method := .manual},
      .approve o "A" ⟨editor,"phone","called","",false,"I1",5⟩,
      .submit o {submission "bob" "B" "2" 10 with method := .manual}]

theorem disputing_reached (n : Nat) : Runs.Reached (step byCode) Initial (disputing n) := shop_reached byCode _ _

theorem dispute_closable : ∃ i ∈ (disputing 175).store.items, i.isOpen = true ∧
    ∃ cmd : Command, cmd.byOperator = true ∧ closes byCode (disputing 175).store i.publicId cmd = true := by
  have there : ∃ i ∈ (disputing 175).store.items, i.isOpen = true ∧ i.claim = "B" := by decide +kernel
  have short : ((disputing 175).store.claim "B").any (fun c =>
      decide (("Update on your claim for " ++ (disputing 175).store.listingName c.listing).length ≤ 200)) = true := by
    decide +kernel
  obtain ⟨i,present,isOpen,names⟩ := there
  obtain ⟨c,found,fits⟩ := (Option.any_eq_true ..).mp short
  refine ⟨i,present,isOpen,((items_mirror (disputing_reached 175)).2.2.2 i present isOpen).mpr fun _ => ⟨c,?_,.inl ?_⟩⟩
  · rw [names]
    exact found
  · exact of_decide_eq_true fits

-- A letter more, and neither Bob can be told of a rejection nor Ann of the transfer.
theorem dispute_stuck : ¬∀ s, Runs.Reached (step byCode) Initial s → ∀ i ∈ s.store.items, i.isOpen = true →
    ∃ cmd : Command, cmd.byOperator = true ∧ closes byCode s.store i.publicId cmd = true := by
  intro closable
  have there : ∃ i ∈ (disputing 176).store.items, i.isOpen = true ∧ i.itemType = .claimDispute ∧ i.claim = "B" := by
    decide +kernel
  have long : ((disputing 176).store.claim "B").all (fun c =>
      ¬("Update on your claim for " ++ (disputing 176).store.listingName c.listing).length ≤ 200 ∧
        ((disputing 176).store.listings c.listing).all fun l => existingContacts byCode c l ≠ []) = true := by
    decide +kernel
  obtain ⟨i,present,isOpen,is,names⟩ := there
  have path := disputing_reached 176
  have consistent := (reached_sound path).store
  obtain ⟨c,found,resolvable⟩ := (closable_exact consistent present isOpen).mp (closable _ path i present isOpen) is
  rw [names] at found
  rw [found,Option.all_some,decide_eq_true_eq] at long
  rcases resolvable with fits | ⟨l,listed,_,quiet,_⟩
  · exact long.1 fits
  · have told := long.2
    rw [listed,Option.all_some,decide_eq_true_eq] at told
    exact told quiet

end Osds.Claims

import Osds.Claims.Isolation

namespace Osds.Claims
open Directory Audit RowLocks

abbrev State := System Command LockKey Row Tables ClaimError

def step (p : Platform) : State → Action Command → State := RowLocks.step database (script p)

structure Fresh (t : Tables) : Prop where
  claims : t.claims = []
  items : t.items = []
  codes : t.codes = []
  guards : ∀ l u, t.guards l u = {}
  listings : ∀ l row, t.listings l = some row → row.owner = none ∧ row.status ≠ .claimed
  users : ∀ u ∈ t.users, u.email.length ≤ 254

def Initial (s : State) : Prop := ∃ t, Fresh t ∧ s = RowLocks.start t

section reachable

variable {p : Platform} {r r' : Rows} {t : Tables} {s : State} {l : ListingId}

theorem fresh_consistent (p : Platform) (fresh : Fresh t) : Consistent p t.toRows := by
  obtain ⟨claims,items,_,guards,listings,users⟩ := fresh
  refine ⟨⟨?_,?_⟩,?_,?_,?_,?_,?_,users⟩
  · rw [claims]
    exact List.nodup_nil
  · rw [items]
    exact List.nodup_nil
  · intro l
    refine ⟨?_,?_⟩
    · unfold approvedClaims ownerOf
      rw [claims]
      cases there : t.listings l with
      | none => rfl
      | some row =>
          rw [Option.bind_some,(listings l row there).1]
          rfl
    · intro row there
      obtain ⟨unowned,unclaimed⟩ := listings l row there
      rw [unowned]
      exact iff_of_false unclaimed nofun
  · intro l u
    rw [guards]
    exact ⟨Nat.zero_lt_succ 4,Nat.zero_le _,iff_of_false nofun nofun,fun _ => rfl⟩
  · rw [claims]
    exact List.forall_mem_nil _
  · intro k
    have falls : stands t.toRows k = false := by
      cases k with
      | dispute id =>
          unfold stands Rows.claim
          rw [claims]
          rfl
      | lock l u =>
          unfold stands
          dsimp only
          rw [guards]
          rfl
      | block l u =>
          unfold stands
          dsimp only
          rw [guards]
          rfl
    unfold openFor
    rw [items,falls]
    rfl
  · rw [claims]
    exact List.forall_mem_nil _

abbrev Sound (p : Platform) (s : State) : Prop := Valid database (script p) (fun t => Consistent p t.toRows) s

theorem initial_sound (begins : Initial s) : Sound p s := by
  obtain ⟨t,fresh,rfl⟩ := begins
  exact start_valid t (fresh_consistent p fresh)

theorem step_sound (s : State) (action : Action Command) (sound : Sound p s) : Sound p (step p s action) :=
  step_valid (isolated p) s action sound

theorem reached_sound (path : Runs.Reached (step p) Initial s) : Sound p s :=
  Runs.reached_invariant (step p) (fun _ => initial_sound) step_sound path

theorem step_commits (sound : Sound p s) (action : Action Command) :
    (step p s action).store = s.store ∨ ∃ cmd held, ending s action = some cmd ∧
      Commits p (cmd.may s.store.toRows) held s.store.toRows (step p s action).store.toRows := by
  cases ends : ending s action with
  | none => exact .inl (quiet_store ends)
  | some cmd =>
      obtain ⟨held,result,done,moved⟩ := ending_exec sound ends
      cases result with
      | error refused => exact .inl moved
      | ok t' =>
          have commits := command_commits cmd sound.store done
          refine .inr ⟨cmd,held,rfl,?_⟩
          unfold step
          rw [moved]
          exact commits

theorem owner_kept {guesses : Prop} {rules : ItemType → Prop} {gives : ListingId → Prop} {x : Change}
    (only : x.only guesses rules gives) (other : ¬gives l) : ownerOf (apply r x) l = ownerOf r l := by
  cases x with
  | approve c f olds =>
      have differ : l ≠ c.listing := fun same => other (same ▸ only)
      unfold ownerOf apply owning
      dsimp only
      rw [if_neg differ]
  | write id w =>
      unfold ownerOf apply
      dsimp only
      split
      · cases r.listings l <;> rfl
      · rfl
  | _ => rfl

theorem commits_owner {guesses : Prop} {rules : ItemType → Prop} {gives : ListingId → Prop} {held : List LockKey}
    (commits : Commits p (Change.only guesses rules gives) held r r') (other : ¬gives l) : ownerOf r' l = ownerOf r l := by
  obtain ⟨xs,changes,all⟩ := commits
  induction changes with
  | nil => rfl
  | cons _ _ ih =>
      have later := ih fun x listed => all x (List.mem_cons_of_mem _ listed)
      exact later.trans (owner_kept (all _ (List.mem_cons_self ..)).1 other)

theorem owner_moved (sound : Sound p s) {action : Action Command}
    (moves : ownerOf (step p s action).store.toRows l ≠ ownerOf s.store.toRows l) :
    ∃ cmd, ending s action = some cmd ∧ Gives s.store.toRows cmd l := by
  rcases step_commits sound action with still | ⟨cmd,held,ends,commits⟩
  · rw [still] at moves
    exact absurd rfl moves
  · refine ⟨cmd,ends,?_⟩
    by_contra keeps
    exact moves (commits_owner commits keeps)

end reachable

-- The commands that may pass a listing on: a verified code to its first owner, and
-- an operator's approval, from a sitting owner only as a transfer.
def Passes (row : Listing) : Command → Prop
  | .verify .. => row.owner = none
  | .approve _ _ review => row.owner.isSome → review.transfer = true
  | _ => False

theorem gives_passes {r : Rows} {l : ListingId} {row : Listing} {cmd : Command} (owned : Owned r l)
    (there : r.listings l = some row) (gives : Gives r cmd l) : row.status ≠ .suspended ∧ Passes row cmd := by
  have mirrored := owned.mirrored row there
  cases cmd with
  | verify o id code itemId now =>
      obtain ⟨row',there',unclaimed⟩ := gives
      cases there.symm.trans there'
      refine ⟨by rw [unclaimed]; exact nofun,?_⟩
      have unowned : ¬row.owner.isSome := fun sits => by
        have claimed := mirrored.mpr sits
        rw [unclaimed] at claimed
        cases claimed
      exact Option.not_isSome_iff_eq_none.mp unowned
  | approve o id review =>
      obtain ⟨row',there',notSuspended,confirmed⟩ := gives
      cases there.symm.trans there'
      exact ⟨notSuspended,fun sits => confirmed (mirrored.mpr sits)⟩
  | _ => exact False.elim gives

-- In every state of every schedule a listing has at most one approved claim, its
-- claimant as owner and the status that says so; and no step moves the owner but a
-- command that may.
theorem ownership_contract {p : Platform} {s : State} (path : Runs.Reached (step p) Initial s) {l : ListingId} {row : Listing}
    (there : s.store.listings l = some row) :
    (approvedClaims s.store.toRows l).length ≤ 1 ∧ (row.status = .claimed ↔ row.owner.isSome) ∧
      (∀ u, row.owner = some u ↔ ∃ c ∈ s.store.claims, c.listing = l ∧ c.status = .approved ∧ c.claimant = u) ∧
      ∀ action, ownerOf (step p s action).store.toRows l ≠ row.owner →
        row.status ≠ .suspended ∧ ∃ cmd, ending s action = some cmd ∧ Passes row cmd := by
  have sound := reached_sound path
  have owned := sound.store.owned l
  have owner : ownerOf s.store.toRows l = row.owner := by
    unfold ownerOf
    rw [there,Option.bind_some]
  have holders := owned.holders
  rw [owner] at holders
  refine ⟨?_,owned.mirrored row there,?_,?_⟩
  · have count := congrArg List.length holders
    rw [List.length_map] at count
    rw [count]
    cases row.owner with
    | none => exact Nat.zero_le 1
    | some u => exact Nat.le_refl 1
  · intro u
    have held : u ∈ (approvedClaims s.store.toRows l).map (·.claimant) ↔ row.owner = some u := by
      rw [holders]
      exact Option.mem_toList
    rw [← held,List.mem_map]
    unfold approvedClaims
    refine exists_congr fun c => ?_
    rw [List.mem_filter,Bool.and_eq_true,decide_eq_true_eq,decide_eq_true_eq,and_assoc,and_assoc]
  · intro action moves
    rw [← owner] at moves
    obtain ⟨cmd,ends,gives⟩ := owner_moved sound moves
    obtain ⟨notSuspended,passes⟩ := gives_passes owned there gives
    exact ⟨notSuspended,cmd,ends,passes⟩

def byCode : Platform := ⟨fun text => text,fun _ code => code,fun _ => .ok (some "shop"),fun _ => some "shop"⟩

def officeOf (name : String) : Office := ⟨0,name,[.domainEmail,.manual],none,true,"",["staff"]⟩

def shopListing (name : String) : Listing :=
  ⟨0,"shop",⟨"shop",name,none,[],⟨none,none,none,none,none,none,none,none,""⟩,⟨none,none,none,[]⟩,[],[],.null,false,[],"",none⟩,
    .unclaimed,.published,none,none⟩

def shopTables (name : String) : Tables :=
  ⟨⟨fun l => if l = "L" then some (shopListing name) else none,[],[],fun _ _ => {},[],[]⟩,[],[]⟩

theorem shop_fresh (name : String) : Fresh (shopTables name) := by
  refine ⟨rfl,rfl,rfl,fun _ _ => rfl,?_,List.forall_mem_nil _⟩
  intro l row there
  unfold shopTables at there
  dsimp only at there
  split at there
  · cases there
    exact ⟨rfl,nofun⟩
  · cases there

theorem shop_reached (p : Platform) (name : String) (actions : List (Action Command)) :
    Runs.Reached (step p) Initial (Runs.run (step p) (RowLocks.start (shopTables name)) actions) :=
  Runs.reached_run _ (.initial ⟨_,shop_fresh name,rfl⟩) actions

def submission (email claimId code : String) (now : Time) : Submission :=
  ⟨"L",.domainEmail,email,"","","owner",CONSENT_CHANNELS.map (·,false),none,claimId,"U" ++ claimId,"I" ++ claimId,code,now⟩

def editor : Operator := ⟨"op",some EDITOR⟩

def alone (p : Nat) (c : Command) : List (Action Command) := .begin c :: List.replicate 12 (.advance p)

def inTurn (cmds : List Command) : List (Action Command) := (cmds.zipIdx.map fun (c,p) => alone p c).flatten

-- Ann's code makes her the owner; Bob's claim is disputed, and an approval of it with
-- the transfer confirmed has only its commit left.
def transferring : State :=
  Runs.run (step byCode) (RowLocks.start (shopTables "Shop")) <|
    alone 0 (.submit (officeOf "Town") (submission "ann" "A" "1" 0)) ++ alone 1 (.verify (officeOf "Town") "A" "1" "I1" 5) ++
      alone 2 (.submit (officeOf "Town") (submission "bob" "B" "2" 10)) ++
      .begin (.approve (officeOf "Town") "B" ⟨editor,"phone","called","",true,"I2",20⟩) :: List.replicate 5 (.advance 3)

def annsListing : Listing := {shopListing "Shop" with owner := some ⟨"UA","ann"⟩,status := .claimed}

set_option maxRecDepth 2000 in
theorem transfer_passes : transferring.store.listings "L" = some annsListing ∧
    ownerOf (step byCode transferring (.advance 3)).store.toRows "L" = some ⟨"UB","bob"⟩ ∧
    annsListing.status ≠ .suspended ∧ ∃ cmd, ending transferring (.advance 3) = some cmd ∧ Passes annsListing cmd := by
  have path : Runs.Reached (step byCode) Initial transferring := shop_reached byCode "Shop" _
  have sits : transferring.store.listings "L" = some annsListing := rfl
  have passed : ownerOf (step byCode transferring (.advance 3)).store.toRows "L" = some ⟨"UB","bob"⟩ := by decide +kernel
  refine ⟨sits,passed,(ownership_contract path sits).2.2.2 (.advance 3) ?_⟩
  rw [passed]
  decide

end Osds.Claims

import Osds.Claims.Models
import Osds.Lib.Lists
import Osds.Lib.Runs
import Mathlib.Data.List.Pairwise
import Mathlib.Data.List.Sort

namespace Osds.Tenants.OperatorInvites
open Directory (Time)
open Claims (days)

def INVITE_TTL : Time := days 7

structure Operator where
  id : Nat
  email : String
  active : Bool
  usable : Bool
  holder : Option Nat
  deriving DecidableEq, Repr

structure Membership where
  id : Nat
  operator : Nat
  tenant : String
  pending : Bool
  deriving DecidableEq, Repr

structure Invite where
  id : Nat
  operator : Nat
  membership : Option Nat
  createdAt : Time
  expiresAt : Time
  usedAt : Option Time
  holder : Option Nat
  deriving DecidableEq, Repr

-- The statement a command runs next, with what it has read. `found` is the operator
-- an invitation is for, none when it makes one; `minted` is when its invite was.
inductive Inviting where
  | finding
  | granting (found : Option Nat)
  | minting
  | written (found : Option Nat) (minted : Option Time)
  deriving DecidableEq, Repr

inductive Issuing where
  | finding
  | attaching (op : Nat)
  | superseding (op : Nat) (membership : Option Nat)
  | locking (op : Nat) (membership : Option Nat) (left mine : List Nat)
  | created (op : Nat) (membership : Option Nat) (mine : List Nat)
  deriving DecidableEq, Repr

-- `carried` is the pending membership that came with the invite's row, `row` the
-- invite as it was when the password was set and `time` the clock then.
inductive Spending where
  | opening
  | owning (carried : Option Nat)
  | spent (row : Invite) (time : Time) (carried : Option Nat)
  deriving DecidableEq, Repr

inductive Job where
  | inviteStaff (email tenant : String) (mail : Bool) (phase : Inviting)
  | issueInvite (email : String) (now : Time) (phase : Issuing)
  | setPassword (invite : Nat) (now : Time) (phase : Spending)
  deriving DecidableEq, Repr

-- A set_password that succeeded, for the statements: the invite and the clock as in
-- `spent`, whether the operator had a usable password, the memberships before and after.
structure Spend where
  invite : Invite
  time : Time
  replaced : Bool
  memberships : List Membership
  after : List Membership
  deriving DecidableEq, Repr

structure State where
  clock : Time
  operators : List Operator
  memberships : List Membership
  invites : List Invite
  spends : List Spend
  nextOperator : Nat
  nextMembership : Nat
  nextInvite : Nat
  jobs : Nat → Option Job
  nextJob : Nat

inductive Action where
  | wait (time : Nat)
  | inviteStaff (email tenant : String) (mail : Bool)
  | issueInvite (email : String)
  | setPassword (invite : Nat)
  | next (p : Nat)
  | commit (p : Nat)
  | abort (p : Nat)

-- Operators and memberships from before there were invites.
structure Installation where
  operators : List Operator
  memberships : List Membership
  nextOperator : Nat
  nextMembership : Nat
  unique : ∀ o ∈ operators, ∀ o' ∈ operators, o.id = o'.id → o = o'
  bounded : ∀ o ∈ operators, o.id < nextOperator
  single : ∀ m ∈ memberships, ∀ m' ∈ memberships, m.id = m'.id → m = m'
  numbered : ∀ m ∈ memberships, m.id < nextMembership

namespace State

def start (i : Installation) (clock : Time) : State :=
  ⟨clock,i.operators,i.memberships,[],[],i.nextOperator,i.nextMembership,0,fun _ => none,0⟩

def set (s : State) (p : Nat) (job : Option Job) : State := {s with jobs := fun q => if q = p then job else s.jobs q}

def begin (s : State) (job : Job) : State := {s.set s.nextJob (some job) with nextJob := s.nextJob + 1}

def free (p : Nat) (holder : Option Nat) : Bool := holder.all (· = p)

def releaseInvite (p : Nat) (i : Invite) : Invite := {i with holder := if i.holder = some p then none else i.holder}

def releaseOperator (p : Nat) (o : Operator) : Operator := {o with holder := if o.holder = some p then none else o.holder}

def stop (s : State) (p : Nat) : State :=
  {s.set p none with
    operators := s.operators.map (releaseOperator p)
    invites := s.invites.map (releaseInvite p)}

def holdInvite (p id : Nat) (i : Invite) : Invite := if i.id = id then {i with holder := some p} else i

def holdOperator (p id : Nat) (o : Operator) : Operator := if o.id = id then {o with holder := some p} else o

def operator (s : State) (id : Nat) : Option Operator := s.operators.find? (·.id = id)

def invite (s : State) (id : Nat) : Option Invite := s.invites.find? (·.id = id)

def invitesOf (s : State) (op : Nat) : List Invite := s.invites.filter (·.operator = op)

def unspent (now : Time) (i : Invite) : Bool := i.usedAt.isNone && now < i.expiresAt

def live (s : State) (i : Invite) : Bool := unspent s.clock i && (s.operator i.operator).any fun o => o.active && !o.usable

def makes (email : String) : Job → Bool
  | .inviteStaff email' _ _ (.granting none) | .inviteStaff email' _ _ .minting | .inviteStaff email' _ _ (.written none _) => email' = email
  | _ => false

def grants (op : Nat) (tenant : String) : Job → Bool
  | .inviteStaff _ tenant' _ (.written (some op') _) => op' = op ∧ tenant' = tenant
  | _ => false

def other (s : State) (p : Nat) (found : Job → Bool) : Bool :=
  (List.range s.nextJob).any fun q => q ≠ p && (s.jobs q).any found

-- `_apply_invite_staff`: a new operator has no invites for `mint_invite` to count or expire.
def invitation (s : State) (p : Nat) (email tenant : String) (mail : Bool) : Inviting → State
  | .finding => match s.operators.find? (·.email = email) with
      | some o => s.set p (some (.inviteStaff email tenant mail (.granting (some o.id))))
      | none => if s.other p (makes email) then s else s.set p (some (.inviteStaff email tenant mail (.granting none)))
  | .granting (some op) =>
      if s.memberships.any fun m => m.operator = op && m.tenant = tenant then s.stop p
      else if s.other p (grants op tenant) then s
      else s.set p (some (.inviteStaff email tenant mail (.written (some op) none)))
  | .granting none => s.set p (some (.inviteStaff email tenant mail (if mail then .minting else .written none none)))
  | .minting => s.set p (some (.inviteStaff email tenant mail (.written none (some s.clock))))
  | .written .. => s

def prior (s : State) (op : Nat) : Option Nat :=
  (((s.invitesOf op).filter (·.membership.isSome)).insertionSort fun a b => b.createdAt ≤ a.createdAt).head?.bind (·.membership)

def issue (s : State) (p : Nat) (email : String) (now : Time) : Issuing → State
  | .finding => match s.operators.find? (·.email = email) with
      | none => s.stop p
      | some o =>
          if ¬free p o.holder then s
          else if ¬o.active ∨ o.usable then s.stop p
          else {s with operators := s.operators.map (holdOperator p o.id)}.set p (some (.issueInvite email now (.attaching o.id)))
  | .attaching op =>
      let attached := (s.prior op).filter fun id => s.memberships.any fun m => m.id = id && m.pending
      s.set p (some (.issueInvite email now (.superseding op attached)))
  | .superseding op membership =>
      s.set p (some (.issueInvite email now (.locking op membership (((s.invitesOf op).filter (unspent now)).map (·.id)) [])))
  -- a row that another holds is waited for, and looked at again
  | .locking op membership (id :: left) mine => match s.invite id with
      | none => s.set p (some (.issueInvite email now (.locking op membership left mine)))
      | some i =>
          if ¬free p i.holder then s
          else if unspent now i then
            {s with invites := s.invites.map (holdInvite p id)}.set p (some (.issueInvite email now (.locking op membership left (id :: mine))))
          else s.set p (some (.issueInvite email now (.locking op membership left mine)))
  | .locking op membership [] mine => s.set p (some (.issueInvite email now (.created op membership mine)))
  | .created .. => s

def spend (s : State) (p id : Nat) (now : Time) : Spending → State
  | .opening => match s.invite id with
      | none => s.stop p
      | some i =>
          if ¬free p i.holder then s
          else if i.usedAt.isSome ∨ i.expiresAt ≤ now then s.stop p
          else
            let carried := i.membership.filter fun m => s.memberships.any fun row => row.id = m && row.pending
            {s with invites := s.invites.map (holdInvite p id)}.set p (some (.setPassword id now (.owning carried)))
  | .owning carried => match s.invite id with
      | none => s.stop p
      | some i => match s.operator i.operator with
          | none => s.stop p
          | some o =>
              if ¬free p o.holder then s
              else if ¬o.active ∨ o.usable then s.stop p
              else {s with operators := s.operators.map (holdOperator p o.id)}.set p (some (.setPassword id now (.spent i s.clock carried)))
  | .spent .. => s

def supersede (now : Time) (mine : List Nat) (i : Invite) : Invite := if i.id ∈ mine then {i with expiresAt := now} else i

def use (now : Time) (id : Nat) (i : Invite) : Invite := if i.id = id then {i with usedAt := some now} else i

def gain (op : Nat) (o : Operator) : Operator := if o.id = op then {o with usable := true} else o

def accept (carried : Option Nat) (m : Membership) : Membership := if some m.id = carried then {m with pending := false} else m

def commit (s : State) (p : Nat) : Job → State
  | .inviteStaff email tenant _ (.written found minted) =>
      let op := found.getD s.nextOperator
      let s := s.stop p
      {s with
        operators := if found.isNone then s.operators ++ [⟨op,email,true,false,none⟩] else s.operators
        nextOperator := if found.isNone then s.nextOperator + 1 else s.nextOperator
        memberships := s.memberships ++ [⟨s.nextMembership,op,tenant,true⟩]
        nextMembership := s.nextMembership + 1
        invites := s.invites ++ (minted.map fun now => ⟨s.nextInvite,op,some s.nextMembership,now,now + INVITE_TTL,none,none⟩).toList
        nextInvite := if minted.isSome then s.nextInvite + 1 else s.nextInvite}
  | .issueInvite _ now (.created op membership mine) =>
      let s := {s with invites := s.invites.map (supersede now mine)}.stop p
      {s with
        invites := s.invites ++ [⟨s.nextInvite,op,membership,now,now + INVITE_TTL,none,none⟩]
        nextInvite := s.nextInvite + 1}
  | .setPassword id now (.spent row time carried) =>
      let spend : Spend := ⟨row,time,(s.operator row.operator).any (·.usable),s.memberships,s.memberships.map (accept carried)⟩
      let s := {s with
        operators := s.operators.map (gain row.operator)
        invites := s.invites.map (use now id)
        memberships := s.memberships.map (accept carried)}.stop p
      {s with spends := s.spends ++ [spend]}
  | _ => s

def step (s : State) : Action → State
  | .wait time => {s with clock := s.clock + time}
  | .inviteStaff email tenant mail => s.begin (.inviteStaff email tenant mail .finding)
  | .issueInvite email => s.begin (.issueInvite email s.clock .finding)
  | .setPassword invite => s.begin (.setPassword invite s.clock .opening)
  | .next p => match s.jobs p with
      | some (.inviteStaff email tenant mail phase) => s.invitation p email tenant mail phase
      | some (.issueInvite email now phase) => s.issue p email now phase
      | some (.setPassword id now phase) => s.spend p id now phase
      | none => s
  | .commit p => match s.jobs p with
      | some job => s.commit p job
      | none => s
  | .abort p => s.stop p

end State
open State

-- An invite that had not expired by the clock that was read has not expired since.
def Timely (s : State) : Action → Prop
  | .next p => match s.jobs p with
      | some (.setPassword id now (.owning _)) => ∀ i ∈ s.invite id, ∀ o ∈ s.operator i.operator,
          free p o.holder → o.active → o.usable = false → now < i.expiresAt → s.clock < i.expiresAt
      | _ => True
  | _ => True

structure Guarded (s : State) : Prop where
  single : ∀ op, ((s.invitesOf op).filter s.live).length ≤ 1
  -- the invite was unused, unexpired and the latest of its operator
  unspent : ∀ x ∈ s.spends, unspent x.time x.invite
  latest : ∀ x ∈ s.spends, ∀ i ∈ s.invitesOf x.invite.operator, i.id ≤ x.invite.id
  kept : ∀ x ∈ s.spends, x.replaced = false
  once : (s.spends.map (·.invite.operator)).Nodup
  activated : ∀ x ∈ s.spends, ∀ m ∈ x.after, m ∈ x.memberships ∨
    ∃ before ∈ x.memberships, some before.id = x.invite.membership ∧ before.pending ∧ m = {before with pending := false}

def Holds (s : State) (p op : Nat) : Prop := ∃ o ∈ s.operators, o.id = op ∧ o.holder = some p ∧ o.usable = false

def Usable (s : State) (op : Nat) : Prop := ∃ o ∈ s.operators, o.id = op ∧ o.usable

def Belongs (s : State) (op : Nat) (membership : Option Nat) : Prop :=
  ∀ k ∈ membership, k < s.nextMembership ∧ ∀ m ∈ s.memberships, m.id = k → m.operator = op

def Owned (s : State) (op : Nat) (ids : List Nat) : Prop := ∀ id ∈ ids, ∃ i ∈ s.invites, i.id = id ∧ i.operator = op

def Locked (s : State) (p op : Nat) (ids : List Nat) : Prop := ∀ id ∈ ids, ∃ i ∈ s.invites, i.id = id ∧ i.operator = op ∧ i.holder = some p

def Superseded (s : State) (op : Nat) (now : Time) (ids : List Nat) : Prop := ∀ i ∈ s.invites, i.operator = op → unspent now i → i.id ∈ ids

def Issued (s : State) (p : Nat) (now : Time) : Issuing → Prop
  | .finding => True
  | .attaching op => Holds s p op
  | .superseding op membership => Holds s p op ∧ Belongs s op membership
  | .locking op membership left mine => Holds s p op ∧ Belongs s op membership ∧ Owned s op left ∧ Locked s p op mine ∧
      Superseded s op now (left ++ mine)
  | .created op membership mine => Holds s p op ∧ Belongs s op membership ∧ Locked s p op mine ∧ Superseded s op now mine

structure Spends (s : State) (p id : Nat) (i : Invite) : Prop where
  listed : i ∈ s.invites
  same : i.id = id
  held : i.holder = some p
  unused : i.usedAt = none

def Pending (s : State) (i : Invite) (carried : Option Nat) : Prop :=
  ∀ k ∈ carried, i.membership = some k ∧ ∀ m ∈ s.memberships, m.id = k → m.pending ∨ Usable s i.operator

def Spent (s : State) (p id : Nat) (now : Time) : Spending → Prop
  | .opening => True
  | .owning carried => ∃ i, Spends s p id i ∧ now < i.expiresAt ∧ Pending s i carried
  | .spent row time carried => ∃ i, Spends s p id i ∧ Pending s i carried ∧ row.id = i.id ∧ row.operator = i.operator ∧
      row.membership = i.membership ∧ unspent time row ∧ Holds s p i.operator ∧ ∀ k ∈ s.invites, k.operator = i.operator → k.id ≤ i.id

-- Only for an operator it makes does an invitation mint.
def Invited : Inviting → Prop
  | .written found minted => ∀ op, found = some op → minted = none
  | _ => True

def Fits (s : State) (p : Nat) : Job → Prop
  | .inviteStaff _ _ _ phase => Invited phase
  | .issueInvite _ now phase => now ≤ s.clock ∧ Issued s p now phase
  | .setPassword id now phase => Spent s p id now phase

structure Rows (s : State) : Prop where
  operators : ∀ o ∈ s.operators, o.id < s.nextOperator
  unique : ∀ o ∈ s.operators, ∀ o' ∈ s.operators, o.id = o'.id → o = o'
  numbered : ∀ m ∈ s.memberships, m.id < s.nextMembership
  single : ∀ m ∈ s.memberships, ∀ m' ∈ s.memberships, m.id = m'.id → m = m'
  ids : ∀ i ∈ s.invites, i.id < s.nextInvite
  order : s.invites.Pairwise fun a b => a.id < b.id
  owner : ∀ i ∈ s.invites, i.operator < s.nextOperator
  carries : ∀ i ∈ s.invites, Belongs s i.operator i.membership
  -- only the last invite of an operator can be unspent
  dead : s.invites.Pairwise fun a b => a.operator = b.operator → unspent s.clock a = false
  good : ∀ x ∈ s.spends, unspent x.time x.invite ∧ x.replaced = false ∧ Usable s x.invite.operator
  latest : ∀ x ∈ s.spends, ∀ i ∈ s.invites, i.operator = x.invite.operator → i.id ≤ x.invite.id
  once : (s.spends.map (·.invite.operator)).Nodup
  activated : ∀ x ∈ s.spends, ∀ m ∈ x.after, m ∈ x.memberships ∨
    ∃ before ∈ x.memberships, some before.id = x.invite.membership ∧ before.pending ∧ m = {before with pending := false}

structure Sound (s : State) : Prop extends Rows s where
  jobs : ∀ p job, s.jobs p = some job → Fits s p job

section rows
variable {s s' : State} {p q op id : Nat} {now : Time} {i : Invite} {job : Job}
  {f : Invite → Invite} {g : Operator → Operator} {h : Membership → Membership}

theorem unspent_iff : unspent now i = true ↔ i.usedAt = none ∧ now < i.expiresAt := by
  unfold unspent
  rw [Bool.and_eq_true,Option.isNone_iff_eq_none,decide_eq_true_iff]

theorem unspent_earlier {later : Time} (order : now ≤ later) (good : unspent later i) : unspent now i := by
  obtain ⟨unused,before⟩ := unspent_iff.mp good
  exact unspent_iff.mpr ⟨unused,Int.lt_of_le_of_lt order before⟩

theorem mem_invitesOf : i ∈ s.invitesOf op ↔ i ∈ s.invites ∧ i.operator = op := by
  unfold State.invitesOf
  rw [List.mem_filter,decide_eq_true_iff]

theorem invite_some (found : s.invite id = some i) : i ∈ s.invites ∧ i.id = id :=
  ⟨List.mem_of_find?_eq_some found,of_decide_eq_true (List.find?_some (p := fun i : Invite => decide (i.id = id)) found)⟩

theorem operator_some {o : Operator} (found : s.operator id = some o) : o ∈ s.operators ∧ o.id = id :=
  ⟨List.mem_of_find?_eq_some found,of_decide_eq_true (List.find?_some (p := fun o : Operator => decide (o.id = id)) found)⟩

theorem unique_invite (rows : Rows s) {a b : Invite} (there : a ∈ s.invites) (there' : b ∈ s.invites) (same : a.id = b.id) : a = b := by
  have ordered : s.invites.Pairwise fun a b => a.id ≠ b.id := rows.order.imp fun less => Nat.ne_of_lt less
  have : Std.Symm fun a b : Invite => a.id ≠ b.id := ⟨fun _ _ differ => differ.symm⟩
  by_contra apart
  exact ordered.forall there there' apart same

theorem not_usable (rows : Rows s) (holds : Holds s p op) : ¬Usable s op := by
  intro usable
  obtain ⟨o,there,same,-,unusable⟩ := holds
  obtain ⟨o',there',same',usable⟩ := usable
  cases rows.unique o there o' there' (same.trans same'.symm)
  exact Bool.false_ne_true (unusable.symm.trans usable)

theorem rows_guarded (rows : Rows s) : Guarded s where
  single op := by
    unfold State.invitesOf
    rw [List.filter_filter]
    refine Lists.filter_at_most_one (rows.dead.imp fun {a b} gone both => ?_)
    obtain ⟨living,mine⟩ := Bool.and_eq_true_iff.mp both.1
    have other := (Bool.and_eq_true_iff.mp both.2).2
    have dead := gone ((of_decide_eq_true mine).trans (of_decide_eq_true other).symm)
    exact Bool.false_ne_true (dead.symm.trans (Bool.and_eq_true_iff.mp living).1)
  unspent x there := (rows.good x there).1
  latest x there i listed := rows.latest x there i (mem_invitesOf.mp listed).1 (mem_invitesOf.mp listed).2
  kept x there := (rows.good x there).2.1
  once := rows.once
  activated := rows.activated

structure Rewritten (f : Invite → Invite) (g : Operator → Operator) (h : Membership → Membership) (s s' : State) : Prop where
  invites : s'.invites = s.invites.map f
  operators : s'.operators = s.operators.map g
  memberships : s'.memberships = s.memberships.map h
  clock : s'.clock = s.clock
  nextInvite : s'.nextInvite = s.nextInvite
  nextOperator : s'.nextOperator = s.nextOperator
  nextMembership : s'.nextMembership = s.nextMembership
  spends : s'.spends = s.spends
  invite : ∀ i, (f i).id = i.id ∧ (f i).operator = i.operator ∧ (f i).membership = i.membership
  operator : ∀ o, (g o).id = o.id ∧ (o.usable → (g o).usable)
  membership : ∀ m, (h m).id = m.id ∧ (h m).operator = m.operator

theorem usable_kept (new : Rewritten f g h s s') (usable : Usable s op) : Usable s' op := by
  obtain ⟨o,there,same,usable⟩ := usable
  exact ⟨g o,new.operators ▸ List.mem_map_of_mem there,(new.operator o).1.trans same,(new.operator o).2 usable⟩

theorem belongs_kept (new : Rewritten f g h s s') {membership : Option Nat} (belongs : Belongs s op membership) : Belongs s' op membership := by
  intro k carried
  obtain ⟨bound,all⟩ := belongs k carried
  refine ⟨new.nextMembership ▸ bound,?_⟩
  rw [new.memberships]
  intro m' there same
  obtain ⟨m,listed,rfl⟩ := List.mem_map.mp there
  exact (new.membership m).2.trans (all m listed ((new.membership m).1.symm.trans same))

theorem rows_kept (rows : Rows s) (new : Rewritten f g h s s') (fades : ∀ i, unspent s.clock (f i) → unspent s.clock i) : Rows s' where
  operators := by
    rw [new.operators,new.nextOperator]
    intro o' there
    obtain ⟨o,listed,rfl⟩ := List.mem_map.mp there
    exact (new.operator o).1 ▸ rows.operators o listed
  unique := by
    rw [new.operators]
    intro a there b there' same
    obtain ⟨o,listed,rfl⟩ := List.mem_map.mp there
    obtain ⟨o',listed',rfl⟩ := List.mem_map.mp there'
    rw [(new.operator o).1,(new.operator o').1] at same
    exact congrArg g (rows.unique o listed o' listed' same)
  numbered := by
    rw [new.memberships,new.nextMembership]
    intro m' there
    obtain ⟨m,listed,rfl⟩ := List.mem_map.mp there
    exact (new.membership m).1 ▸ rows.numbered m listed
  single := by
    rw [new.memberships]
    intro a there b there' same
    obtain ⟨m,listed,rfl⟩ := List.mem_map.mp there
    obtain ⟨m',listed',rfl⟩ := List.mem_map.mp there'
    rw [(new.membership m).1,(new.membership m').1] at same
    exact congrArg h (rows.single m listed m' listed' same)
  ids := by
    rw [new.invites,new.nextInvite]
    intro i' there
    obtain ⟨i,listed,rfl⟩ := List.mem_map.mp there
    exact (new.invite i).1 ▸ rows.ids i listed
  order := by
    rw [new.invites]
    refine List.pairwise_map.mpr (rows.order.imp fun {a b} less => ?_)
    rw [(new.invite a).1,(new.invite b).1]
    exact less
  owner := by
    rw [new.invites,new.nextOperator]
    intro i' there
    obtain ⟨i,listed,rfl⟩ := List.mem_map.mp there
    exact (new.invite i).2.1 ▸ rows.owner i listed
  carries := by
    rw [new.invites]
    intro i' there
    obtain ⟨i,listed,rfl⟩ := List.mem_map.mp there
    rw [(new.invite i).2.1,(new.invite i).2.2]
    exact belongs_kept new (rows.carries i listed)
  dead := by
    rw [new.invites,new.clock]
    refine List.pairwise_map.mpr (rows.dead.imp fun {a b} gone same => ?_)
    rw [(new.invite a).2.1,(new.invite b).2.1] at same
    exact Bool.eq_false_iff.mpr fun good => Bool.false_ne_true ((gone same).symm.trans (fades a good))
  good := by
    rw [new.spends]
    intro x there
    obtain ⟨unspent,kept,usable⟩ := rows.good x there
    exact ⟨unspent,kept,usable_kept new usable⟩
  latest := by
    rw [new.spends,new.invites]
    intro x there i' there' same
    obtain ⟨i,listed,rfl⟩ := List.mem_map.mp there'
    rw [(new.invite i).2.1] at same
    rw [(new.invite i).1]
    exact rows.latest x there i listed same
  once := new.spends ▸ rows.once
  activated := new.spends ▸ rows.activated

structure Apart (q : Nat) (f : Invite → Invite) (g : Operator → Operator) (h : Membership → Membership) (s s' : State) : Prop where
  invite : ∀ i ∈ s.invites, i.holder = some q → (f i).holder = some q ∧ (f i).usedAt = i.usedAt ∧ (f i).expiresAt = i.expiresAt
  operator : ∀ o ∈ s.operators, o.holder = some q → (g o).holder = some q ∧ (g o).usable = o.usable
  fades : ∀ i ∈ s.invites, Holds s q i.operator → ∀ time, unspent time (f i) → unspent time i
  pending : ∀ m ∈ s.memberships, m.pending → (h m).pending ∨ Usable s' m.operator

theorem holds_kept (new : Rewritten f g h s s') (apart : Apart q f g h s s') (holds : Holds s q op) : Holds s' q op := by
  obtain ⟨o,there,same,held,unusable⟩ := holds
  obtain ⟨still,as⟩ := apart.operator o there held
  exact ⟨g o,new.operators ▸ List.mem_map_of_mem there,(new.operator o).1.trans same,still,as.trans unusable⟩

theorem owned_kept (new : Rewritten f g h s s') {ids : List Nat} (owned : Owned s op ids) : Owned s' op ids := by
  intro id there
  obtain ⟨i,listed,same,of⟩ := owned id there
  have still : f i ∈ s'.invites := new.invites ▸ List.mem_map_of_mem listed
  exact ⟨f i,still,(new.invite i).1.trans same,(new.invite i).2.1.trans of⟩

theorem locked_kept (new : Rewritten f g h s s') (apart : Apart q f g h s s') {ids : List Nat} (locked : Locked s q op ids) :
    Locked s' q op ids := by
  intro id there
  obtain ⟨i,listed,same,of,held⟩ := locked id there
  have still : f i ∈ s'.invites := new.invites ▸ List.mem_map_of_mem listed
  exact ⟨f i,still,(new.invite i).1.trans same,(new.invite i).2.1.trans of,(apart.invite i listed held).1⟩

theorem superseded_kept (new : Rewritten f g h s s') (apart : Apart q f g h s s') (holds : Holds s q op) {ids : List Nat}
    (superseded : Superseded s op now ids) : Superseded s' op now ids := by
  unfold Superseded
  rw [new.invites]
  intro i' there same good
  obtain ⟨i,listed,rfl⟩ := List.mem_map.mp there
  have mine := (new.invite i).2.1.symm.trans same
  rw [(new.invite i).1]
  exact superseded i listed mine (apart.fades i listed (mine ▸ holds) now good)

theorem pending_kept (rows : Rows s) (new : Rewritten f g h s s') (apart : Apart q f g h s s') (listed : i ∈ s.invites)
    {carried : Option Nat} (pending : Pending s i carried) : Pending s' (f i) carried := by
  intro k there
  obtain ⟨as,all⟩ := pending k there
  refine ⟨(new.invite i).2.2.trans as,?_⟩
  rw [new.memberships,(new.invite i).2.1]
  intro m' there' same
  obtain ⟨m,listed',rfl⟩ := List.mem_map.mp there'
  have same' := (new.membership m).1.symm.trans same
  have mine := (rows.carries i listed k as).2 m listed' same'
  rcases all m listed' same' with pending | usable
  · exact mine ▸ apart.pending m listed' pending
  · exact .inr (usable_kept new usable)

theorem spends_kept (new : Rewritten f g h s s') (apart : Apart q f g h s s') (spends : Spends s q id i) : Spends s' q id (f i) := by
  obtain ⟨still,as,-⟩ := apart.invite i spends.listed spends.held
  exact ⟨new.invites ▸ List.mem_map_of_mem spends.listed,(new.invite i).1.trans spends.same,still,as.trans spends.unused⟩

theorem fits_kept (rows : Rows s) (new : Rewritten f g h s s') (apart : Apart q f g h s s') (fits : Fits s q job) : Fits s' q job := by
  cases job with
  | inviteStaff email tenant mail phase => exact fits
  | issueInvite email now phase =>
      refine ⟨new.clock.symm ▸ fits.1,?_⟩
      have issued := fits.2
      cases phase with
      | finding => trivial
      | attaching op => exact holds_kept new apart issued
      | superseding op membership => exact ⟨holds_kept new apart issued.1,belongs_kept new issued.2⟩
      | locking op membership left mine =>
          obtain ⟨holds,belongs,lefts,mines,superseded⟩ := issued
          exact ⟨holds_kept new apart holds,belongs_kept new belongs,owned_kept new lefts,locked_kept new apart mines,
            superseded_kept new apart holds superseded⟩
      | created op membership mine =>
          obtain ⟨holds,belongs,mines,superseded⟩ := issued
          exact ⟨holds_kept new apart holds,belongs_kept new belongs,locked_kept new apart mines,superseded_kept new apart holds superseded⟩
  | setPassword id now phase =>
      cases phase with
      | opening => trivial
      | owning carried =>
          obtain ⟨i,spends,early,pending⟩ := fits
          have same := (apart.invite i spends.listed spends.held).2.2
          exact ⟨f i,spends_kept new apart spends,same.symm ▸ early,pending_kept rows new apart spends.listed pending⟩
      | spent row time carried =>
          obtain ⟨i,spends,pending,same,whose,what,good,holds,latest⟩ := fits
          refine ⟨f i,spends_kept new apart spends,pending_kept rows new apart spends.listed pending,
            same.trans (new.invite i).1.symm,whose.trans (new.invite i).2.1.symm,what.trans (new.invite i).2.2.symm,good,
            (new.invite i).2.1.symm ▸ holds_kept new apart holds,?_⟩
          rw [new.invites,(new.invite i).1,(new.invite i).2.1]
          intro k' there of
          obtain ⟨k,listed,rfl⟩ := List.mem_map.mp there
          rw [(new.invite k).2.1] at of
          rw [(new.invite k).1]
          exact latest k listed of

theorem earlier_dead (rows : Rows s) {a b : Invite} (there : a ∈ s.invites) (there' : b ∈ s.invites) (before : a.id < b.id)
    (same : a.operator = b.operator) : unspent s.clock a = false := by
  have both : s.invites.Pairwise fun a b => (a.id < b.id → a.operator = b.operator → unspent s.clock a = false) ∧
      (b.id < a.id → b.operator = a.operator → unspent s.clock b = false) :=
    (rows.order.and rows.dead).imp fun facts => ⟨fun _ => facts.2,fun after => absurd facts.1 (Nat.lt_asymm after)⟩
  have : Std.Symm fun a b : Invite => (a.id < b.id → a.operator = b.operator → unspent s.clock a = false) ∧
      (b.id < a.id → b.operator = a.operator → unspent s.clock b = false) := ⟨fun _ _ facts => ⟨facts.2,facts.1⟩⟩
  have differ : a ≠ b := fun equal => Nat.lt_irrefl _ (equal ▸ before)
  exact (both.forall there there' differ).1 before same

theorem sound_of {after : Option Job} (sound : Sound s) (rows : Rows s') (jobs : s'.jobs = fun q => if q = p then after else s.jobs q)
    (others : ∀ q job, q ≠ p → Fits s q job → Fits s' q job) (own : ∀ job, after = some job → Fits s' p job) : Sound s' where
  toRows := rows
  jobs := by
    rw [jobs]
    exact Runs.jobs_kept sound.jobs others own

theorem rewritten_jobs (s : State) (jobs : Nat → Option Job) (nextJob : Nat) :
    Rewritten (fun i => i) (fun o => o) (fun m => m) s {s with jobs := jobs,nextJob := nextJob} :=
  ⟨(List.map_id' _).symm,(List.map_id' _).symm,(List.map_id' _).symm,rfl,rfl,rfl,rfl,rfl,fun _ => ⟨rfl,rfl,rfl⟩,
    fun _ => ⟨rfl,fun usable => usable⟩,fun _ => ⟨rfl,rfl⟩⟩

theorem apart_jobs (q : Nat) (s s' : State) : Apart q (fun i => i) (fun o => o) (fun m => m) s s' :=
  ⟨fun _ _ held => ⟨held,rfl,rfl⟩,fun _ _ held => ⟨held,rfl⟩,fun _ _ _ _ good => good,fun _ _ pending => .inl pending⟩

theorem fits_jobs (rows : Rows s) (jobs : Nat → Option Job) (nextJob : Nat) (fits : Fits s q job) :
    Fits {s with jobs := jobs,nextJob := nextJob} q job :=
  fits_kept rows (rewritten_jobs s jobs nextJob) (apart_jobs q s _) fits

theorem sound_set (sound : Sound s) (fits : Fits s p job) : Sound (s.set p (some job)) := by
  refine sound_of sound (rows_kept sound.toRows (rewritten_jobs ..) fun _ good => good) rfl (fun _ _ _ => fits_jobs sound.toRows _ _) ?_
  intro job same
  cases same
  exact fits_jobs sound.toRows _ _ fits

theorem sound_begin (sound : Sound s) (fits : Fits s s.nextJob job) : Sound (s.begin job) := by
  refine sound_of sound (rows_kept sound.toRows (rewritten_jobs ..) fun _ good => good) rfl (fun _ _ _ => fits_jobs sound.toRows _ _) ?_
  intro job same
  cases same
  exact fits_jobs sound.toRows _ _ fits

theorem rewritten_stop (s : State) (p : Nat) : Rewritten (releaseInvite p) (releaseOperator p) (fun m => m) s (s.stop p) :=
  ⟨rfl,rfl,(List.map_id' _).symm,rfl,rfl,rfl,rfl,rfl,fun _ => ⟨rfl,rfl,rfl⟩,fun _ => ⟨rfl,fun usable => usable⟩,fun _ => ⟨rfl,rfl⟩⟩

theorem release_kept {holder : Option Nat} (other : q ≠ p) (held : holder = some q) : (if holder = some p then none else holder) = some q := by
  rw [held,if_neg fun same => other (Option.some.inj same)]

theorem apart_stop (other : q ≠ p) (s : State) : Apart q (releaseInvite p) (releaseOperator p) (fun m => m) s (s.stop p) :=
  ⟨fun _ _ held => ⟨release_kept other held,rfl,rfl⟩,fun _ _ held => ⟨release_kept other held,rfl⟩,fun _ _ _ _ good => good,
    fun _ _ pending => .inl pending⟩

theorem sound_stop (sound : Sound s) (p : Nat) : Sound (s.stop p) :=
  sound_of sound (rows_kept sound.toRows (rewritten_stop s p) fun _ good => good) rfl
    (fun _ _ other => fits_kept sound.toRows (rewritten_stop s p) (apart_stop other s)) (by simp)

theorem unspent_hold : unspent now (holdInvite p id i) = unspent now i := by
  unfold holdInvite
  split <;> rfl

theorem wears_holdInvite (p id : Nat) (i : Invite) :
    (holdInvite p id i).id = i.id ∧ (holdInvite p id i).operator = i.operator ∧ (holdInvite p id i).membership = i.membership := by
  unfold holdInvite
  split <;> exact ⟨rfl,rfl,rfl⟩

theorem wears_holdOperator (p id : Nat) (o : Operator) : (holdOperator p id o).id = o.id ∧ (holdOperator p id o).usable = o.usable := by
  unfold holdOperator
  split <;> exact ⟨rfl,rfl⟩

theorem rewritten_holdInvite (s : State) (p id : Nat) (jobs : Nat → Option Job) :
    Rewritten (holdInvite p id) (fun o => o) (fun m => m) s {s with invites := s.invites.map (holdInvite p id),jobs := jobs} :=
  ⟨rfl,(List.map_id' _).symm,(List.map_id' _).symm,rfl,rfl,rfl,rfl,rfl,wears_holdInvite p id,
    fun _ => ⟨rfl,fun usable => usable⟩,fun _ => ⟨rfl,rfl⟩⟩

theorem rewritten_holdOperator (s : State) (p id : Nat) (jobs : Nat → Option Job) :
    Rewritten (fun i => i) (holdOperator p id) (fun m => m) s {s with operators := s.operators.map (holdOperator p id),jobs := jobs} :=
  ⟨(List.map_id' _).symm,rfl,(List.map_id' _).symm,rfl,rfl,rfl,rfl,rfl,fun _ => ⟨rfl,rfl,rfl⟩,
    fun o => ⟨(wears_holdOperator p id o).1,fun usable => (wears_holdOperator p id o).2.trans usable⟩,fun _ => ⟨rfl,rfl⟩⟩

theorem free_other {holder : Option Nat} (free : free p holder) (held : holder = some q) : q = p := by
  unfold State.free at free
  rw [held] at free
  exact of_decide_eq_true free

theorem apart_holdInvite (rows : Rows s) (listed : i ∈ s.invites) (same : i.id = id) (free : free p i.holder) (s' : State) :
    Apart q (holdInvite p id) (fun o => o) (fun m => m) s s' := by
  refine ⟨?_,fun _ _ held => ⟨held,rfl⟩,fun _ _ _ _ good => unspent_hold.symm.trans good,fun _ _ pending => .inl pending⟩
  intro k there held
  unfold holdInvite
  split
  · next this =>
      cases unique_invite rows there listed (this.trans same.symm)
      exact ⟨congrArg some (free_other free held).symm,rfl,rfl⟩
  · exact ⟨held,rfl,rfl⟩

theorem apart_holdOperator {o : Operator} (rows : Rows s) (listed : o ∈ s.operators) (same : o.id = id) (free : free p o.holder) (s' : State) :
    Apart q (fun i => i) (holdOperator p id) (fun m => m) s s' := by
  refine ⟨fun _ _ held => ⟨held,rfl,rfl⟩,?_,fun _ _ _ _ good => good,fun _ _ pending => .inl pending⟩
  intro k there held
  unfold holdOperator
  split
  · next this =>
      cases rows.unique k there o listed (this.trans same.symm)
      exact ⟨congrArg some (free_other free held).symm,rfl⟩
  · exact ⟨held,rfl⟩

theorem sound_holdInvite (sound : Sound s) (found : s.invite id = some i) (free : free p i.holder)
    (fits : Fits {s with invites := s.invites.map (holdInvite p id)} p job) :
    Sound ({s with invites := s.invites.map (holdInvite p id)}.set p (some job)) := by
  obtain ⟨listed,same⟩ := invite_some found
  have new := rewritten_holdInvite s p id
  have rows := rows_kept sound.toRows (new s.jobs) fun _ good => unspent_hold.symm.trans good
  refine sound_of sound (rows_kept rows (rewritten_jobs ..) fun _ good => good) rfl ?_ ?_
  · exact fun q job _ fits => fits_kept sound.toRows (new _) (apart_holdInvite sound.toRows listed same free _) fits
  · intro job same
    cases same
    exact fits_jobs rows _ _ fits

theorem sound_holdOperator {o : Operator} (sound : Sound s) (listed : o ∈ s.operators) (same : o.id = id) (free : free p o.holder)
    (fits : Fits {s with operators := s.operators.map (holdOperator p id)} p job) :
    Sound ({s with operators := s.operators.map (holdOperator p id)}.set p (some job)) := by
  have new := rewritten_holdOperator s p id
  have rows := rows_kept sound.toRows (new s.jobs) fun _ good => good
  refine sound_of sound (rows_kept rows (rewritten_jobs ..) fun _ good => good) rfl ?_ ?_
  · exact fun q job _ fits => fits_kept sound.toRows (new _) (apart_holdOperator sound.toRows listed same free _) fits
  · intro job same
    cases same
    exact fits_jobs rows _ _ fits

theorem holds_holdOperator {o : Operator} (listed : o ∈ s.operators) (unusable : o.usable = false) :
    Holds {s with operators := s.operators.map (holdOperator p o.id)} p o.id := by
  refine ⟨holdOperator p o.id o,List.mem_map_of_mem listed,(wears_holdOperator p o.id o).1,?_,(wears_holdOperator p o.id o).2.trans unusable⟩
  unfold holdOperator
  rw [if_pos rfl]

theorem sound_invitation {email tenant : String} {mail : Bool} {phase : Inviting} (sound : Sound s) :
    Sound (s.invitation p email tenant mail phase) := by
  cases phase with
  | finding =>
      unfold State.invitation
      dsimp only
      split
      · exact sound_set sound trivial
      · split
        · exact sound
        · exact sound_set sound trivial
  | granting found =>
      unfold State.invitation
      cases found with
      | none =>
          dsimp only
          split
          · exact sound_set sound trivial
          · exact sound_set sound nofun
      | some op =>
          dsimp only
          split
          · exact sound_stop sound p
          · split
            · exact sound
            · exact sound_set sound fun _ _ => rfl
  | minting => exact sound_set sound nofun
  | written found minted => exact sound

theorem prior_belongs (rows : Rows s) : Belongs s op (s.prior op) := by
  intro k found
  obtain ⟨i,head,carried⟩ := Option.bind_eq_some_iff.mp found
  have there := (List.mem_insertionSort _).mp (List.mem_of_head? head)
  obtain ⟨listed,rfl⟩ := mem_invitesOf.mp (List.mem_filter.mp there).1
  exact rows.carries i listed k carried

theorem sound_issue {email : String} {phase : Issuing} (sound : Sound s) (early : now ≤ s.clock) (issued : Issued s p now phase) :
    Sound (s.issue p email now phase) := by
  cases phase with
  | finding =>
      unfold State.issue
      dsimp only
      split
      · exact sound_stop sound p
      next o found =>
        have listed := List.mem_of_find?_eq_some found
        split
        · exact sound
        next free =>
          split
          · exact sound_stop sound p
          next good =>
            have unusable := Bool.eq_false_iff.mpr (not_or.mp good).2
            exact sound_holdOperator sound listed rfl (Decidable.not_not.mp free) ⟨early,holds_holdOperator listed unusable⟩
  | attaching op =>
      refine sound_set sound ⟨early,issued,fun k there => prior_belongs sound.toRows k ?_⟩
      exact (Option.filter_eq_some_iff.mp there).1
  | superseding op membership =>
      refine sound_set sound ⟨early,issued.1,issued.2,?_,nofun,?_⟩
      · intro id there
        obtain ⟨i,chosen,rfl⟩ := List.mem_map.mp there
        obtain ⟨listed,mine⟩ := mem_invitesOf.mp (List.mem_filter.mp chosen).1
        exact ⟨i,listed,rfl,mine⟩
      · intro i listed mine good
        rw [List.append_nil]
        exact List.mem_map_of_mem (List.mem_filter.mpr ⟨mem_invitesOf.mpr ⟨listed,mine⟩,good⟩)
  | locking op membership left mine =>
      obtain ⟨holds,belongs,lefts,mines,superseded⟩ := issued
      cases left with
      | nil => exact sound_set sound ⟨early,holds,belongs,mines,superseded⟩
      | cons id left =>
          have rest : Owned s op left := fun i there => lefts i (List.mem_cons_of_mem _ there)
          -- the row that is passed over is spent or has expired
          have pass (gone : ∀ i ∈ s.invites, i.id = id → unspent now i = false) :
              Sound (s.set p (some (.issueInvite email now (.locking op membership left mine)))) := by
            refine sound_set sound ⟨early,holds,belongs,rest,mines,fun i listed same good => ?_⟩
            rcases List.mem_cons.mp (superseded i listed same good) with this | there
            · exact absurd ((gone i listed this).symm.trans good) Bool.false_ne_true
            · exact there
          unfold State.issue
          dsimp only
          split
          next missing =>
            refine pass fun i listed same => ?_
            exact absurd (decide_eq_true same) (List.find?_eq_none.mp missing i listed)
          next i found =>
            obtain ⟨listed,same⟩ := invite_some found
            split
            · exact sound
            next free =>
              have free := Decidable.not_not.mp free
              split
              · have new := rewritten_holdInvite s p id s.jobs
                have apart := apart_holdInvite (q := p) sound.toRows listed same free {s with invites := s.invites.map (holdInvite p id)}
                refine sound_holdInvite sound found free ⟨early,holds_kept new apart holds,belongs_kept new belongs,owned_kept new rest,?_,?_⟩
                · intro k there
                  rcases List.mem_cons.mp there with rfl | there
                  · obtain ⟨j,owned,this,of⟩ := lefts k List.mem_cons_self
                    cases unique_invite sound.toRows owned listed (this.trans same.symm)
                    refine ⟨_,List.mem_map_of_mem listed,(wears_holdInvite p k i).1.trans same,(wears_holdInvite p k i).2.1.trans of,?_⟩
                    unfold holdInvite
                    rw [if_pos same]
                  · exact locked_kept new apart mines k there
                · exact superseded_kept new apart holds fun k listed mine good => List.perm_middle.mem_iff.mpr (superseded k listed mine good)
              next gone =>
                refine pass fun k there this => ?_
                cases unique_invite sound.toRows there listed (this.trans same.symm)
                exact Bool.eq_false_iff.mpr gone
  | created op membership mine => exact sound

theorem carried_pending (rows : Rows s) (i : Invite) :
    Pending s i (i.membership.filter fun m => s.memberships.any fun row => row.id = m && row.pending) := by
  intro k there
  obtain ⟨as,read⟩ := Option.filter_eq_some_iff.mp there
  obtain ⟨row,listed,found⟩ := List.any_eq_true.mp read
  obtain ⟨same,pending⟩ := Bool.and_eq_true_iff.mp found
  refine ⟨as,fun m listed' same' => .inl ?_⟩
  cases rows.single m listed' row listed (same'.trans (of_decide_eq_true same).symm)
  exact pending

theorem spends_holdInvite (found : s.invite id = some i) (unused : i.usedAt = none) :
    Spends {s with invites := s.invites.map (holdInvite p id)} p id (holdInvite p id i) := by
  obtain ⟨listed,same⟩ := invite_some found
  refine ⟨List.mem_map_of_mem listed,(wears_holdInvite p id i).1.trans same,?_,?_⟩
  all_goals
    unfold holdInvite
    rw [if_pos same]
  exact unused

theorem sound_spend {phase : Spending} (sound : Sound s) (spent : Spent s p id now phase)
    (timely : ∀ carried, phase = .owning carried → ∀ i ∈ s.invite id, ∀ o ∈ s.operator i.operator,
      free p o.holder → o.active → o.usable = false → now < i.expiresAt → s.clock < i.expiresAt) : Sound (s.spend p id now phase) := by
  cases phase with
  | opening =>
      unfold State.spend
      dsimp only
      split
      · exact sound_stop sound p
      next i found =>
        obtain ⟨listed,same⟩ := invite_some found
        split
        · exact sound
        next free =>
          have free := Decidable.not_not.mp free
          split
          · exact sound_stop sound p
          next good =>
            obtain ⟨unused,early⟩ := not_or.mp good
            have unused := Option.not_isSome_iff_eq_none.mp unused
            have stays : now < (holdInvite p id i).expiresAt := by
              unfold holdInvite
              split <;> exact Int.not_le.mp early
            have new := rewritten_holdInvite s p id s.jobs
            have apart := apart_holdInvite (q := p) sound.toRows listed same free {s with invites := s.invites.map (holdInvite p id)}
            exact sound_holdInvite sound found free
              ⟨_,spends_holdInvite found unused,stays,pending_kept sound.toRows new apart listed (carried_pending sound.toRows i)⟩
  | owning carried =>
      unfold State.spend
      dsimp only
      split
      · exact sound_stop sound p
      next i found =>
        split
        · exact sound_stop sound p
        next o known =>
          obtain ⟨listed,same⟩ := invite_some found
          obtain ⟨stored,whose⟩ := operator_some known
          split
          · exact sound
          next free =>
            have free := Decidable.not_not.mp free
            split
            · exact sound_stop sound p
            next good =>
              obtain ⟨inactive,used⟩ := not_or.mp good
              have unusable := Bool.eq_false_iff.mpr used
              obtain ⟨k,spends,early,pending⟩ := spent
              cases unique_invite sound.toRows spends.listed listed (spends.same.trans same.symm)
              have before := timely carried rfl i found o known free (Decidable.not_not.mp inactive) unusable early
              have fresh : unspent s.clock i := unspent_iff.mpr ⟨spends.unused,before⟩
              have new := rewritten_holdOperator s p o.id s.jobs
              have apart := apart_holdOperator (q := p) sound.toRows stored rfl free {s with operators := s.operators.map (holdOperator p o.id)}
              refine sound_holdOperator sound stored rfl free ⟨i,spends_kept new apart spends,
                pending_kept sound.toRows new apart listed pending,rfl,rfl,rfl,fresh,whose ▸ holds_holdOperator stored unusable,?_⟩
              -- a later invite would have ended this one
              intro k there mine
              refine Nat.not_lt.mp fun later => ?_
              exact Bool.false_ne_true ((earlier_dead sound.toRows listed there later mine.symm).symm.trans fresh)
  | spent row time carried => exact sound

structure Grown (s s' : State) : Prop where
  clock : s.clock ≤ s'.clock
  numbers : s.nextMembership ≤ s'.nextMembership
  operators : ∀ o ∈ s.operators, o ∈ s'.operators
  memberships : ∀ m ∈ s'.memberships, m ∈ s.memberships ∨ s.nextMembership ≤ m.id
  invites : ∀ i ∈ s.invites, i ∈ s'.invites
  fresh : ∀ i ∈ s'.invites, i ∈ s.invites ∨ ∀ q, ¬Holds s q i.operator

theorem holds_grown (grown : Grown s s') (holds : Holds s q op) : Holds s' q op := by
  obtain ⟨o,there,facts⟩ := holds
  exact ⟨o,grown.operators o there,facts⟩

theorem usable_grown (grown : Grown s s') (usable : Usable s op) : Usable s' op := by
  obtain ⟨o,there,facts⟩ := usable
  exact ⟨o,grown.operators o there,facts⟩

theorem belongs_grown (grown : Grown s s') {membership : Option Nat} (belongs : Belongs s op membership) : Belongs s' op membership := by
  intro k carried
  obtain ⟨bound,all⟩ := belongs k carried
  refine ⟨Nat.lt_of_lt_of_le bound grown.numbers,fun m there same => ?_⟩
  rcases grown.memberships m there with old | new
  · exact all m old same
  · exact absurd (same ▸ new) (Nat.not_le.mpr bound)

theorem superseded_grown (grown : Grown s s') (holds : Holds s q op) {ids : List Nat} (superseded : Superseded s op now ids) :
    Superseded s' op now ids := by
  intro i there mine good
  rcases grown.fresh i there with old | new
  · exact superseded i old mine good
  · exact absurd (mine ▸ holds) (new q)

theorem pending_grown (rows : Rows s) (grown : Grown s s') (listed : i ∈ s.invites) {carried : Option Nat} (pending : Pending s i carried) :
    Pending s' i carried := by
  intro k there
  obtain ⟨as,all⟩ := pending k there
  refine ⟨as,fun m there' same => ?_⟩
  rcases grown.memberships m there' with old | new
  · exact (all m old same).imp (fun pending => pending) (usable_grown grown)
  · exact absurd (same ▸ new) (Nat.not_le.mpr (rows.carries i listed k as).1)

theorem fits_grown (rows : Rows s) (grown : Grown s s') (fits : Fits s q job) : Fits s' q job := by
  have owned {op : Nat} {ids : List Nat} (owned : Owned s op ids) : Owned s' op ids := by
    intro id there
    obtain ⟨i,listed,facts⟩ := owned id there
    exact ⟨i,grown.invites i listed,facts⟩
  have locked {op : Nat} {ids : List Nat} (locked : Locked s q op ids) : Locked s' q op ids := by
    intro id there
    obtain ⟨i,listed,facts⟩ := locked id there
    exact ⟨i,grown.invites i listed,facts⟩
  have spends {id : Nat} {i : Invite} (spends : Spends s q id i) : Spends s' q id i :=
    ⟨grown.invites i spends.listed,spends.same,spends.held,spends.unused⟩
  cases job with
  | inviteStaff email tenant mail phase => exact fits
  | issueInvite email now phase =>
      refine ⟨Int.le_trans fits.1 grown.clock,?_⟩
      have issued := fits.2
      cases phase with
      | finding => trivial
      | attaching op => exact holds_grown grown issued
      | superseding op membership => exact ⟨holds_grown grown issued.1,belongs_grown grown issued.2⟩
      | locking op membership left mine =>
          obtain ⟨holds,belongs,lefts,mines,superseded⟩ := issued
          exact ⟨holds_grown grown holds,belongs_grown grown belongs,owned lefts,locked mines,superseded_grown grown holds superseded⟩
      | created op membership mine =>
          obtain ⟨holds,belongs,mines,superseded⟩ := issued
          exact ⟨holds_grown grown holds,belongs_grown grown belongs,locked mines,superseded_grown grown holds superseded⟩
  | setPassword id now phase =>
      cases phase with
      | opening => trivial
      | owning carried =>
          obtain ⟨i,held,early,pending⟩ := fits
          exact ⟨i,spends held,early,pending_grown rows grown held.listed pending⟩
      | spent row time carried =>
          obtain ⟨i,held,pending,same,whose,what,good,holds,latest⟩ := fits
          refine ⟨i,spends held,pending_grown rows grown held.listed pending,same,whose,what,good,holds_grown grown holds,?_⟩
          intro k there mine
          rcases grown.fresh k there with old | new
          · exact latest k old mine
          · exact absurd (mine ▸ holds) (new q)

theorem sound_addOperator (sound : Sound s) (email : String) :
    Sound {s with operators := s.operators ++ [⟨s.nextOperator,email,true,false,none⟩],nextOperator := s.nextOperator + 1} := by
  have grown : Grown s {s with operators := s.operators ++ [⟨s.nextOperator,email,true,false,none⟩],nextOperator := s.nextOperator + 1} :=
    ⟨Int.le_refl _,Nat.le_refl _,fun _ => List.mem_append_left _,fun _ => .inl,fun _ there => there,fun _ => .inl⟩
  have rows := sound.toRows
  refine ⟨⟨?_,?_,rows.numbered,rows.single,rows.ids,rows.order,fun i there => Nat.lt_succ_of_lt (rows.owner i there),
    fun i there => belongs_grown grown (rows.carries i there),rows.dead,?_,rows.latest,rows.once,rows.activated⟩,
    fun q job there => fits_grown rows grown (sound.jobs q job there)⟩
  · intro o there
    rcases List.mem_append.mp there with old | new
    · exact Nat.lt_succ_of_lt (rows.operators o old)
    · cases List.mem_singleton.mp new
      exact Nat.lt_succ_self _
  · intro a there b there' same
    rcases List.mem_append.mp there with old | new <;> rcases List.mem_append.mp there' with old' | new'
    · exact rows.unique a old b old' same
    · cases List.mem_singleton.mp new'
      exact absurd same (Nat.ne_of_lt (rows.operators a old))
    · cases List.mem_singleton.mp new
      exact absurd same.symm (Nat.ne_of_lt (rows.operators b old'))
    · exact (List.mem_singleton.mp new).trans (List.mem_singleton.mp new').symm
  · intro x there
    obtain ⟨good,kept,usable⟩ := rows.good x there
    exact ⟨good,kept,usable_grown grown usable⟩

theorem sound_addMembership (sound : Sound s) (op : Nat) (tenant : String) :
    Sound {s with memberships := s.memberships ++ [⟨s.nextMembership,op,tenant,true⟩],nextMembership := s.nextMembership + 1} := by
  have grown : Grown s {s with memberships := s.memberships ++ [⟨s.nextMembership,op,tenant,true⟩],nextMembership := s.nextMembership + 1} := by
    refine ⟨Int.le_refl _,Nat.le_succ _,fun _ there => there,fun m there => ?_,fun _ there => there,fun _ => .inl⟩
    refine (List.mem_append.mp there).imp (fun old => old) fun new => ?_
    cases List.mem_singleton.mp new
    exact Nat.le_refl _
  have rows := sound.toRows
  refine ⟨⟨rows.operators,rows.unique,?_,?_,rows.ids,rows.order,rows.owner,
    fun i there => belongs_grown grown (rows.carries i there),rows.dead,rows.good,rows.latest,rows.once,rows.activated⟩,
    fun q job there => fits_grown rows grown (sound.jobs q job there)⟩
  · intro m there
    rcases List.mem_append.mp there with old | new
    · exact Nat.lt_succ_of_lt (rows.numbered m old)
    · cases List.mem_singleton.mp new
      exact Nat.lt_succ_self _
  · intro a there b there' same
    rcases List.mem_append.mp there with old | new <;> rcases List.mem_append.mp there' with old' | new'
    · exact rows.single a old b old' same
    · cases List.mem_singleton.mp new'
      exact absurd same (Nat.ne_of_lt (rows.numbered a old))
    · cases List.mem_singleton.mp new
      exact absurd same.symm (Nat.ne_of_lt (rows.numbered b old'))
    · exact (List.mem_singleton.mp new).trans (List.mem_singleton.mp new').symm

theorem sound_mint {membership : Option Nat} {createdAt expiresAt : Time} (sound : Sound s) (known : op < s.nextOperator)
    (belongs : Belongs s op membership) (unheld : ∀ q, ¬Holds s q op) (unusable : ¬Usable s op)
    (dead : ∀ i ∈ s.invites, i.operator = op → unspent s.clock i = false) :
    Sound {s with invites := s.invites ++ [⟨s.nextInvite,op,membership,createdAt,expiresAt,none,none⟩],nextInvite := s.nextInvite + 1} := by
  have grown : Grown s {s with invites := s.invites ++ [⟨s.nextInvite,op,membership,createdAt,expiresAt,none,none⟩],nextInvite := s.nextInvite + 1} := by
    refine ⟨Int.le_refl _,Nat.le_refl _,fun _ there => there,fun _ => .inl,fun _ => List.mem_append_left _,fun i there => ?_⟩
    refine (List.mem_append.mp there).imp (fun old => old) fun new => ?_
    cases List.mem_singleton.mp new
    exact unheld
  have rows := sound.toRows
  refine ⟨⟨rows.operators,rows.unique,rows.numbered,rows.single,?_,?_,?_,?_,?_,rows.good,?_,rows.once,rows.activated⟩,
    fun q job there => fits_grown rows grown (sound.jobs q job there)⟩
  · intro i there
    rcases List.mem_append.mp there with old | new
    · exact Nat.lt_succ_of_lt (rows.ids i old)
    · cases List.mem_singleton.mp new
      exact Nat.lt_succ_self _
  · refine List.pairwise_append.mpr ⟨rows.order,List.pairwise_singleton _ _,?_⟩
    intro i old k new
    cases List.mem_singleton.mp new
    exact rows.ids i old
  · intro i there
    rcases List.mem_append.mp there with old | new
    · exact rows.owner i old
    · cases List.mem_singleton.mp new
      exact known
  · intro i there
    rcases List.mem_append.mp there with old | new
    · exact belongs_grown grown (rows.carries i old)
    · cases List.mem_singleton.mp new
      exact belongs
  · refine List.pairwise_append.mpr ⟨rows.dead,List.pairwise_singleton _ _,?_⟩
    intro i old k new same
    cases List.mem_singleton.mp new
    exact dead i old same
  · intro x there i there' same
    rcases List.mem_append.mp there' with old | new
    · exact rows.latest x there i old same
    · cases List.mem_singleton.mp new
      have usable := (rows.good x there).2.2
      rw [← same] at usable
      exact absurd usable unusable

theorem sound_commit_invitation {email tenant : String} {mail : Bool} {found : Option Nat} {minted : Option Time} (sound : Sound s)
    (alone : ∀ op, found = some op → minted = none) : Sound (s.commit p (.inviteStaff email tenant mail (.written found minted))) := by
  have ended := sound_stop sound p
  have rows := ended.toRows
  cases found with
  | some op =>
      cases alone op rfl
      have granted := sound_addMembership ended op tenant
      have same : (s.stop p).invites ++ [] = (s.stop p).invites := List.append_nil _
      unfold State.commit
      dsimp only [Option.getD_some,Option.isNone_some,Bool.false_eq_true,if_false,Option.map_none,Option.toList_none,Option.isSome_none]
      rw [same]
      exact granted
  | none =>
      have granted := sound_addMembership (sound_addOperator ended email) s.nextOperator tenant
      cases minted with
      | none =>
          have same : (s.stop p).invites ++ [] = (s.stop p).invites := List.append_nil _
          unfold State.commit
          dsimp only [Option.getD_none,Option.isNone_none,if_true,Option.map_none,Option.toList_none,Option.isSome_none,
            Bool.false_eq_true,if_false]
          rw [same]
          exact granted
      | some now =>
          refine sound_mint granted (Nat.lt_succ_self _) ?_ ?_ ?_ ?_
          · intro k there
            cases there
            refine ⟨Nat.lt_succ_self _,fun m there same => ?_⟩
            rcases List.mem_append.mp there with old | new
            · exact absurd same (Nat.ne_of_lt (rows.numbered m old))
            · cases List.mem_singleton.mp new
              rfl
          · intro q holds
            obtain ⟨o,there,same,held,-⟩ := holds
            rcases List.mem_append.mp there with old | new
            · exact absurd same (Nat.ne_of_lt (rows.operators o old))
            · cases List.mem_singleton.mp new
              exact nomatch held
          · intro usable
            obtain ⟨o,there,same,usable⟩ := usable
            rcases List.mem_append.mp there with old | new
            · exact absurd same (Nat.ne_of_lt (rows.operators o old))
            · cases List.mem_singleton.mp new
              exact nomatch usable
          · intro i there same
            exact absurd same (Nat.ne_of_lt (rows.owner i there))

theorem unspent_supersede {time : Time} {mine : List Nat} (past : time ≤ now) (good : unspent now (supersede time mine i)) :
    unspent now i ∧ i.id ∉ mine := by
  unfold supersede at good
  split at good
  · exact absurd (unspent_iff.mp good).2 (Int.not_lt.mpr past)
  · next out => exact ⟨good,out⟩

theorem unspent_use {time : Time} (good : unspent now (use time id i)) : unspent now i := by
  unfold use at good
  split at good
  · exact nomatch (unspent_iff.mp good).1
  · exact good

theorem wears_supersede (time : Time) (mine : List Nat) (i : Invite) : (supersede time mine i).id = i.id ∧
    (supersede time mine i).operator = i.operator ∧ (supersede time mine i).membership = i.membership := by
  unfold supersede
  split <;> exact ⟨rfl,rfl,rfl⟩

theorem wears_use (time : Time) (id : Nat) (i : Invite) : (use time id i).id = i.id ∧
    (use time id i).operator = i.operator ∧ (use time id i).membership = i.membership := by
  unfold use
  split <;> exact ⟨rfl,rfl,rfl⟩

theorem holder_unique (rows : Rows s) (one : Holds s p op) (other : Holds s q op) : p = q := by
  obtain ⟨o,there,same,held,-⟩ := one
  obtain ⟨o',there',same',held',-⟩ := other
  cases rows.unique o there o' there' (same.trans same'.symm)
  exact Option.some.inj (held.symm.trans held')

theorem sound_commit_issue {email : String} {membership : Option Nat} {mine : List Nat} (sound : Sound s)
    (fits : Fits s p (.issueInvite email now (.created op membership mine))) :
    Sound (s.commit p (.issueInvite email now (.created op membership mine))) := by
  obtain ⟨early,holds,belongs,mines,superseded⟩ := fits
  have rows := sound.toRows
  have new : Rewritten (releaseInvite p ∘ supersede now mine) (releaseOperator p) (fun m => m) s
      (State.stop {s with invites := s.invites.map (supersede now mine)} p) :=
    ⟨List.map_map ..,rfl,(List.map_id' _).symm,rfl,rfl,rfl,rfl,rfl,wears_supersede now mine,fun _ => ⟨rfl,fun usable => usable⟩,fun _ => ⟨rfl,rfl⟩⟩
  have ended : Sound (State.stop {s with invites := s.invites.map (supersede now mine)} p) := by
    refine sound_of sound (rows_kept rows new fun i good => (unspent_supersede early good).1) rfl ?_ (by simp)
    intro q job other
    refine fits_kept rows new ⟨?_,fun _ _ held => ⟨release_kept other held,rfl⟩,?_,fun _ _ pending => .inl pending⟩
    -- the invites that are superseded are held
    · intro i listed held
      have foreign : i.id ∉ mine := by
        intro there
        obtain ⟨k,listed',same,-,mine⟩ := mines _ there
        cases unique_invite rows listed' listed same
        exact other (Option.some.inj (held.symm.trans mine))
      have same : supersede now mine i = i := if_neg foreign
      rw [Function.comp,same]
      exact ⟨release_kept other held,rfl,rfl⟩
    -- the invites of an operator that another holds are none of those superseded
    · intro i listed theirs time good
      have foreign : i.id ∉ mine := by
        intro there
        obtain ⟨k,listed',same,of,-⟩ := mines _ there
        cases unique_invite rows listed' listed same
        exact other (holder_unique rows (of ▸ theirs) holds)
      have same : supersede now mine i = i := if_neg foreign
      have kept : unspent time (releaseInvite p i) = true := same ▸ good
      exact kept
  refine sound_mint ended ?_ (belongs_kept new belongs) ?_ ?_ ?_
  · obtain ⟨o,there,same,-⟩ := holds
    exact same ▸ rows.operators o there
  · intro q held
    obtain ⟨o',there,same,held,-⟩ := held
    obtain ⟨o,listed,rfl⟩ := List.mem_map.mp there
    obtain ⟨k,listed',same',mine,-⟩ := holds
    cases rows.unique o listed k listed' (same.trans same'.symm)
    exact nomatch (if_pos mine).symm.trans held
  · intro usable
    obtain ⟨o',there,same,usable⟩ := usable
    obtain ⟨o,listed,rfl⟩ := List.mem_map.mp there
    exact not_usable rows holds ⟨o,listed,same,usable⟩
  · intro i' there same
    rw [new.invites] at there
    obtain ⟨i,listed,rfl⟩ := List.mem_map.mp there
    refine Bool.eq_false_iff.mpr fun good => ?_
    obtain ⟨alive,kept⟩ := unspent_supersede early (good : unspent s.clock (supersede now mine i) = true)
    exact kept (superseded i listed ((wears_supersede now mine i).2.1.symm.trans same) (unspent_earlier early alive))

theorem sound_commit_spend {row : Invite} {time : Time} {carried : Option Nat} (sound : Sound s)
    (fits : Fits s p (.setPassword id now (.spent row time carried))) : Sound (s.commit p (.setPassword id now (.spent row time carried))) := by
  obtain ⟨i,spends,pending,same,whose,what,good,holds,latest⟩ := fits
  have rows := sound.toRows
  let written : State := {s with
    operators := s.operators.map (gain row.operator)
    invites := s.invites.map (use now id)
    memberships := s.memberships.map (accept carried)}
  have gains (o : Operator) : (gain row.operator o).id = o.id ∧ (o.usable → (gain row.operator o).usable) := by
    unfold gain
    split
    · exact ⟨rfl,fun _ => rfl⟩
    · exact ⟨rfl,fun usable => usable⟩
  have accepts (m : Membership) : (accept carried m).id = m.id ∧ (accept carried m).operator = m.operator := by
    unfold accept
    split <;> exact ⟨rfl,rfl⟩
  have new : Rewritten (releaseInvite p ∘ use now id) (releaseOperator p ∘ gain row.operator) (accept carried) s (written.stop p) :=
    ⟨List.map_map ..,List.map_map ..,rfl,rfl,rfl,rfl,rfl,rfl,wears_use now id,gains,accepts⟩
  have gained : Usable (written.stop p) row.operator := by
    obtain ⟨o,there,mine,-⟩ := holds
    have mine := mine.trans whose.symm
    refine ⟨releaseOperator p (gain row.operator o),new.operators ▸ List.mem_map_of_mem there,(gains o).1.trans mine,?_⟩
    show (gain row.operator o).usable
    unfold gain
    rw [if_pos mine]
  have unusable := not_usable rows holds
  have carriedPending (k : Nat) (there : k ∈ carried) : ∀ m ∈ s.memberships, m.id = k → m.pending ∧ m.operator = i.operator := by
    intro m listed as
    obtain ⟨carries,all⟩ := pending k there
    exact ⟨(all m listed as).resolve_right unusable,(rows.carries i spends.listed k carries).2 m listed as⟩
  have ended : Sound (written.stop p) := by
    refine sound_of sound (rows_kept rows new fun _ good => unspent_use good) rfl ?_ (by simp)
    intro q job other
    refine fits_kept rows new ⟨?_,?_,fun _ _ _ _ good => unspent_use good,?_⟩
    · intro k listed held
      have apart : k.id ≠ id := by
        intro as
        cases unique_invite rows listed spends.listed (as.trans spends.same.symm)
        exact other (Option.some.inj (held.symm.trans spends.held))
      have kept : use now id k = k := if_neg apart
      rw [Function.comp,kept]
      exact ⟨release_kept other held,rfl,rfl⟩
    · intro o listed held
      have apart : o.id ≠ row.operator := by
        intro as
        obtain ⟨o',there,mine,held',-⟩ := holds
        cases rows.unique o listed o' there (as.trans (whose.trans mine.symm))
        exact other (Option.some.inj (held.symm.trans held'))
      have kept : gain row.operator o = o := if_neg apart
      refine ⟨release_kept other (kept.symm ▸ held),?_⟩
      show (gain row.operator o).usable = o.usable
      rw [kept]
    · intro m listed waiting
      unfold accept
      split
      next this =>
        have mine := (carriedPending m.id this.symm m listed rfl).2
        exact .inr (mine.trans whose.symm ▸ gained)
      · exact .inl waiting
  have replaced : ((s.operator row.operator).any (·.usable)) = false := by
    refine Bool.eq_false_iff.mpr fun found => ?_
    obtain ⟨o,known,usable⟩ := (Option.any_eq_true ..).mp found
    obtain ⟨listed,mine⟩ := operator_some known
    exact unusable ⟨o,listed,mine.trans whose,usable⟩
  refine ⟨⟨ended.operators,ended.unique,ended.numbered,ended.single,ended.ids,ended.order,ended.owner,ended.carries,ended.dead,?_,?_,?_,?_⟩,
    fun q job there => fits_grown ended.toRows ⟨Int.le_refl _,Nat.le_refl _,fun _ there => there,fun _ => .inl,fun _ there => there,fun _ => .inl⟩
      (ended.jobs q job there)⟩
  · intro x there
    rcases List.mem_append.mp there with old | new
    · exact ended.good x old
    · cases List.mem_singleton.mp new
      exact ⟨good,replaced,gained⟩
  · intro x there k' there' mine
    rcases List.mem_append.mp there with old | added
    · exact ended.latest x old k' there' mine
    · cases List.mem_singleton.mp added
      obtain ⟨k,listed,rfl⟩ := List.mem_map.mp (new.invites ▸ there' : k' ∈ s.invites.map (releaseInvite p ∘ use now id))
      have mine : (releaseInvite p (use now id k)).operator = row.operator := mine
      rw [(new.invite k).1,same]
      exact latest k listed (((new.invite k).2.1.symm.trans mine).trans whose)
  · show ((s.spends ++ [_]).map _).Nodup
    rw [List.map_append]
    refine List.nodup_append.mpr ⟨rows.once,List.pairwise_singleton _ _,?_⟩
    intro op old op' added equal
    obtain ⟨x,there,rfl⟩ := List.mem_map.mp old
    have usable := (rows.good x there).2.2
    rw [equal,List.mem_singleton.mp added] at usable
    exact unusable (whose ▸ usable)
  · intro x there
    rcases List.mem_append.mp there with old | added
    · exact ended.activated x old
    · cases List.mem_singleton.mp added
      intro m' there'
      obtain ⟨m,listed,rfl⟩ := List.mem_map.mp there'
      unfold accept
      split
      next this =>
        obtain ⟨carries,-⟩ := pending m.id this.symm
        exact .inr ⟨m,listed,(what.trans carries).symm,(carriedPending m.id this.symm m listed rfl).1,rfl⟩
      · exact .inl listed

theorem step_sound {action : Action} (sound : Sound s) (timely : Timely s action) : Sound (step s action) := by
  cases action with
  | wait time =>
      have later : s.clock ≤ s.clock + time := Int.le_add_of_nonneg_right (Int.natCast_nonneg time)
      have rows := sound.toRows
      refine ⟨⟨rows.operators,rows.unique,rows.numbered,rows.single,rows.ids,rows.order,rows.owner,rows.carries,?_,rows.good,rows.latest,
        rows.once,rows.activated⟩,?_⟩
      · exact rows.dead.imp fun {a b} gone same => Bool.eq_false_iff.mpr fun good =>
          Bool.false_ne_true ((gone same).symm.trans (unspent_earlier later good))
      · intro q job there
        refine fits_grown rows ⟨later,Nat.le_refl _,?_,fun _ => .inl,?_,fun _ => .inl⟩ (sound.jobs q job there)
        · exact fun _ listed => listed
        · exact fun _ listed => listed
  | inviteStaff email tenant mail => exact sound_begin sound trivial
  | issueInvite email => exact sound_begin sound ⟨Int.le_refl _,trivial⟩
  | setPassword id => exact sound_begin sound trivial
  | next p =>
      unfold State.step
      unfold Timely at timely
      dsimp only at timely ⊢
      cases known : s.jobs p with
      | none => exact sound
      | some job =>
          rw [known] at timely
          have fits := sound.jobs p job known
          cases job with
          | inviteStaff email tenant mail phase => exact sound_invitation sound
          | issueInvite email now phase => exact sound_issue sound fits.1 fits.2
          | setPassword id now phase =>
              refine sound_spend sound fits ?_
              intro carried same
              cases same
              exact timely
  | commit p =>
      unfold State.step
      dsimp only
      cases known : s.jobs p with
      | none => exact sound
      | some job =>
          have fits := sound.jobs p job known
          cases job with
          | inviteStaff email tenant mail phase =>
              cases phase with
              | written found minted => exact sound_commit_invitation sound fits
              | _ => exact sound
          | issueInvite email now phase =>
              cases phase with
              | created op membership mine => exact sound_commit_issue sound fits
              | _ => exact sound
          | setPassword id now phase =>
              cases phase with
              | spent row time carried => exact sound_commit_spend sound fits
              | _ => exact sound
  | abort p => exact sound_stop sound p

end rows

theorem start_sound (i : Installation) (clock : Time) : Sound (start i clock) where
  operators := i.bounded
  unique := i.unique
  numbered := i.numbered
  single := i.single
  ids := by simp [start]
  order := .nil
  owner := by simp [start]
  carries := by simp [start]
  dead := .nil
  good := by simp [start]
  latest := by simp [start]
  once := .nil
  activated := by simp [start]
  jobs := by simp [start]

theorem invites_guarded (i : Installation) (clock : Time) (actions : List Action)
    (timely : Runs.Along step Timely (start i clock) actions) : Guarded (Runs.run step (start i clock) actions) :=
  rows_guarded (Runs.along_invariant step (fun _ _ => step_sound) (start_sound i clock) timely).toRows

def installation : Installation where
  operators := [⟨0,"root@example.org",true,true,none⟩]
  memberships := [⟨0,0,"tnt_1",false⟩]
  nextOperator := 1
  nextMembership := 1
  unique := by decide
  bounded := by decide
  single := by decide
  numbered := by decide

def invited : List Action := [.inviteStaff "dana@example.org" "tnt_1" true,.next 0,.next 0,.next 0,.commit 0,.wait 1000000]

def reissue (p : Nat) : List Action := [.next p,.next p,.next p,.next p,.next p,.commit p]

def oneAfterAnother : List Action :=
  invited ++ [.issueInvite "dana@example.org"] ++ reissue 1 ++
    ([.setPassword 0,.next 2,.setPassword 1,.setPassword 1,.next 3,.next 4,.next 3,.commit 3,.next 4,.issueInvite "dana@example.org",
      .next 5] : List Action)

instance decidableTimely (s : State) : (action : Action) → Decidable (Timely s action)
  | .next p => match known : s.jobs p with
      | some (.setPassword id now (.owning _)) => decidable_of_iff (∀ i ∈ s.invite id, ∀ o ∈ s.operator i.operator,
          free p o.holder → o.active → o.usable = false → now < i.expiresAt → s.clock < i.expiresAt) (by simp only [Timely,known])
      | some (.setPassword _ _ .opening) | some (.setPassword _ _ (.spent _ _ _)) | some (.inviteStaff _ _ _ _)
      | some (.issueInvite _ _ _) | none => .isTrue (by simp only [Timely,known])
  | .wait _ | .inviteStaff _ _ _ | .issueInvite _ | .setPassword _ | .commit _ | .abort _ => .isTrue trivial

theorem invites_guarded_one_after_another : Guarded (Runs.run step (start installation 0) oneAfterAnother) :=
  invites_guarded installation 0 oneAfterAnother (by decide +kernel)

example : (Runs.run step (start installation 0) oneAfterAnother).spends.map (·.invite.id) = [1] := by decide +kernel

-- A set_password that reads the clock, then an issue of another link, then the rest of it.
def overlapping : List Action :=
  invited ++ ([.setPassword 0,.wait 1000000,.issueInvite "dana@example.org"] : List Action) ++ reissue 2 ++ [.next 1,.next 1,.commit 1]

theorem superseded_link_spent : ¬Guarded (Runs.run step (start installation 0) overlapping) := by
  intro guarded
  have unspent := guarded.unspent
  revert unspent
  decide +kernel

end Osds.Tenants.OperatorInvites

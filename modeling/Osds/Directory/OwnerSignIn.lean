import Osds.Claims.Models
import Osds.Lib.Lists
import Osds.Lib.Runs

namespace Osds.Directory.OwnerSignIn
open Claims (minute hour)

abbrev UserId := String

def SIGNIN_TTL : Time := 12 * hour
def MAX_LINKS_PER_HOUR : Nat := 3
def BETWEEN_LINKS : Time := 1 * minute

-- A row of OwnerSignInToken; its number stands for the secret, and `holder` is the
-- transaction that has it locked.
structure Link where
  id : Nat
  user : UserId
  createdAt : Time
  expiresAt : Time
  usedAt : Option Time
  holder : Option Nat
  deriving DecidableEq, Repr

-- A row of OwnerSession, with the link it was opened by and whether its user owned a
-- listing when that link was used.
structure Session where
  link : Nat
  user : UserId
  owned : Bool
  deriving DecidableEq, Repr

-- The statement a request runs next. `known` is how many links of its owner there were
-- when it read the last one, `mine` the links it has locked to let them expire.
inductive Phase where
  | finding
  | spacing
  | counting (known : Nat)
  | superseding (known : Nat)
  | locking (known : Nat) (left mine : List Nat)
  | created (known : Nat) (mine : List Nat) (createdAt : Time)
  deriving DecidableEq, Repr

inductive Exchange where
  | locking
  | checking
  | spent (user : UserId) (owned : Bool)
  deriving DecidableEq, Repr

inductive Job where
  | request (user : UserId) (now : Time) (phase : Phase)
  | signIn (link : Nat) (now : Time) (exchange : Exchange)
  deriving DecidableEq, Repr

structure State where
  clock : Time
  owners : List UserId
  links : List Link
  sessions : List Session
  nextLink : Nat
  jobs : Nat → Option Job
  nextJob : Nat

inductive Action where
  | wait (time : Nat)
  -- claims, and whatever else changes who owns a listing
  | own (owners : List UserId)
  | requestSignIn (user : UserId)
  | signIn (link : Nat)
  | next (p : Nat)
  | commit (p : Nat)
  | abort (p : Nat)

namespace State

def start (clock : Time) : State := ⟨clock,[],[],[],0,fun _ => none,0⟩

def set (s : State) (p : Nat) (job : Option Job) : State := {s with jobs := fun q => if q = p then job else s.jobs q}

def begin (s : State) (job : Job) : State := {s.set s.nextJob (some job) with nextJob := s.nextJob + 1}

def release (p : Nat) (l : Link) : Link := {l with holder := if l.holder = some p then none else l.holder}

def stop (s : State) (p : Nat) : State := {s.set p none with links := s.links.map (release p)}

def hold (p id : Nat) (l : Link) : Link := if l.id = id then {l with holder := some p} else l

def lock (s : State) (p id : Nat) : State := {s with links := s.links.map (hold p id)}

def linksOf (s : State) (user : UserId) : List Link := s.links.filter (·.user = user)

def link (s : State) (id : Nat) : Option Link := s.links.find? (·.id = id)

def free (p : Nat) (l : Link) : Bool := l.holder.all (· = p)

def live (now : Time) (l : Link) : Bool := l.usedAt.isNone && now < l.expiresAt

def recent (now : Time) (l : Link) : Bool := now - 1 * hour < l.createdAt

def ask (s : State) (p : Nat) (user : UserId) (now : Time) : Phase → State
  | .finding => if user ∈ s.owners then s.set p (some (.request user now .spacing)) else s.stop p
  | .spacing =>
      if ((s.linksOf user).map (·.createdAt)).max?.any (now - · < BETWEEN_LINKS) then s.stop p
      else s.set p (some (.request user now (.counting (s.linksOf user).length)))
  | .counting known =>
      if MAX_LINKS_PER_HOUR ≤ ((s.linksOf user).filter (recent now)).length then s.stop p
      else s.set p (some (.request user now (.superseding known)))
  | .superseding known =>
      s.set p (some (.request user now (.locking known (((s.linksOf user).filter (live now)).map (·.id)) [])))
  -- a row that another holds is waited for, and looked at again
  | .locking known (id :: left) mine =>
      match s.link id with
      | none => s.set p (some (.request user now (.locking known left mine)))
      | some l =>
          if ¬free p l then s
          else if live now l then (s.lock p id).set p (some (.request user now (.locking known left (id :: mine))))
          else s.set p (some (.request user now (.locking known left mine)))
  | .locking known [] mine => s.set p (some (.request user now (.created known mine s.clock)))
  | .created .. => s

def exchange (s : State) (p id : Nat) (now : Time) : Exchange → State
  | .locking => match s.link id with
      | none => s.stop p
      | some l => if free p l then (s.lock p id).set p (some (.signIn id now .checking)) else s
  | .checking => match s.link id with
      | none => s.stop p
      | some l =>
          if l.usedAt.isSome ∨ l.expiresAt ≤ now ∨ l.user ∉ s.owners then s.stop p
          else s.set p (some (.signIn id now (.spent l.user (l.user ∈ s.owners))))
  | .spent .. => s

def supersede (now : Time) (mine : List Nat) (l : Link) : Link := if l.id ∈ mine then {l with expiresAt := now} else l

def use (now : Time) (id : Nat) (l : Link) : Link := if l.id = id then {l with usedAt := some now} else l

def commit (s : State) (p : Nat) : Job → State
  | .request user now (.created _ mine createdAt) =>
      let s := {s with links := s.links.map (supersede now mine)}.stop p
      {s with links := s.links ++ [⟨s.nextLink,user,createdAt,now + SIGNIN_TTL,none,none⟩],nextLink := s.nextLink + 1}
  | .signIn id now (.spent user owned) =>
      let s := {s with links := s.links.map (use now id)}.stop p
      {s with sessions := s.sessions ++ [⟨id,user,owned⟩]}
  | _ => s

def step (s : State) : Action → State
  | .wait time => {s with clock := s.clock + time}
  | .own owners => {s with owners := owners}
  | .requestSignIn user => s.begin (.request user s.clock .finding)
  | .signIn link => s.begin (.signIn link s.clock .locking)
  | .next p => match s.jobs p with
      | some (.request user now phase) => s.ask p user now phase
      | some (.signIn link now phase) => s.exchange p link now phase
      | none => s
  | .commit p => match s.jobs p with
      | some job => s.commit p job
      | none => s
  | .abort p => s.stop p

end State
open State

-- A request issues its link with no other of its owner issued since it looked for them.
def Alone (s : State) : Action → Prop
  | .commit p => match s.jobs p with
      | some (.request user _ (.created known _ _)) => (s.linksOf user).length = known
      | _ => True
  | _ => True

structure Limited (s : State) : Prop where
  single : ∀ user, ((s.linksOf user).filter (live s.clock)).length ≤ 1
  spaced : s.links.Pairwise fun a b => a.user = b.user → a.createdAt + BETWEEN_LINKS ≤ b.createdAt
  hourly : ∀ user t, ((s.linksOf user).filter fun l => t < l.createdAt ∧ l.createdAt ≤ t + 1 * hour).length ≤ MAX_LINKS_PER_HOUR
  once : (s.sessions.map (·.link)).Nodup
  owned : ∀ x ∈ s.sessions, x.owned = true

def Spaced (s : State) (user : UserId) (now : Time) : Prop := ∀ l ∈ s.linksOf user, l.createdAt + BETWEEN_LINKS ≤ now

def Few (s : State) (user : UserId) (now : Time) : Prop := ((s.linksOf user).filter (recent now)).length < MAX_LINKS_PER_HOUR

def Superseded (s : State) (user : UserId) (now : Time) (ids : List Nat) : Prop := ∀ l ∈ s.linksOf user, live now l → l.id ∈ ids

def Owned (s : State) (user : UserId) (ids : List Nat) : Prop := ∀ id ∈ ids, ∃ l ∈ s.links, l.id = id ∧ l.user = user

structure Known (s : State) (user : UserId) (known : Nat) (facts : Prop) : Prop where
  bound : known ≤ (s.linksOf user).length
  read : (s.linksOf user).length = known → facts

def Asked (s : State) (user : UserId) (now : Time) : Phase → Prop
  | .finding => True
  | .spacing => True
  | .counting known => Known s user known (Spaced s user now)
  | .superseding known => Known s user known (Spaced s user now ∧ Few s user now)
  | .locking known left mine => Owned s user left ∧ Owned s user mine ∧
      Known s user known (Spaced s user now ∧ Few s user now ∧ Superseded s user now (left ++ mine))
  | .created known mine createdAt => now ≤ createdAt ∧ Owned s user mine ∧
      Known s user known (Spaced s user now ∧ Few s user now ∧ Superseded s user now mine)

def Exchanged (s : State) (p id : Nat) : Exchange → Prop
  | .locking => True
  | .checking => ∃ l ∈ s.links, l.id = id ∧ l.holder = some p
  | .spent _ owned => owned = true ∧ ∃ l ∈ s.links, l.id = id ∧ l.holder = some p ∧ l.usedAt = none

def Fits (s : State) (p : Nat) : Job → Prop
  | .request user now phase => now ≤ s.clock ∧ Asked s user now phase
  | .signIn id _ phase => Exchanged s p id phase

-- The links in the order in which they were issued: only the last of a user can be live.
structure Rows (s : State) : Prop where
  ids : ∀ l ∈ s.links, l.id < s.nextLink
  unique : ∀ l ∈ s.links, ∀ k ∈ s.links, l.id = k.id → l = k
  spaced : s.links.Pairwise fun a b => a.user = b.user → a.createdAt + BETWEEN_LINKS ≤ b.createdAt
  hourly : ∀ user t, ((s.linksOf user).filter fun l => t < l.createdAt ∧ l.createdAt ≤ t + 1 * hour).length ≤ MAX_LINKS_PER_HOUR
  dead : s.links.Pairwise fun a b => a.user = b.user → live s.clock a = false
  sessions : ∀ x ∈ s.sessions, x.owned = true ∧ ∃ l ∈ s.links, l.id = x.link ∧ l.usedAt.isSome
  once : (s.sessions.map (·.link)).Nodup

structure Sound (s : State) : Prop extends Rows s where
  jobs : ∀ p job, s.jobs p = some job → Fits s p job

section links
variable {s s' : State} {user : UserId} {now : Time} {f : Link → Link} {p q id : Nat} {l : Link} {job : Job} {more : List Link}

structure Wears (f : Link → Link) : Prop where
  id : ∀ l, (f l).id = l.id
  user : ∀ l, (f l).user = l.user
  createdAt : ∀ l, (f l).createdAt = l.createdAt

-- None of these links comes back to life.
def Fades (f : Link → Link) (links : List Link) : Prop := ∀ l ∈ links, ∀ now, live now (f l) → live now l

def Keeps (p : Nat) (f : Link → Link) (links : List Link) : Prop :=
  ∀ l ∈ links, l.holder = some p → (f l).holder = some p ∧ (f l).usedAt = l.usedAt

theorem mem_linksOf : l ∈ s.linksOf user ↔ l ∈ s.links ∧ l.user = user := by
  unfold State.linksOf
  rw [List.mem_filter,decide_eq_true_iff]

theorem live_iff : live now l = true ↔ l.usedAt = none ∧ now < l.expiresAt := by
  unfold live
  rw [Bool.and_eq_true,Option.isNone_iff_eq_none,decide_eq_true_iff]

theorem live_earlier {later : Time} (order : now ≤ later) (living : live later l) : live now l := by
  obtain ⟨unused,before⟩ := live_iff.mp living
  exact live_iff.mpr ⟨unused,Int.lt_of_le_of_lt order before⟩

theorem link_some (found : s.link id = some l) : l ∈ s.links ∧ l.id = id :=
  ⟨List.mem_of_find?_eq_some found,of_decide_eq_true (List.find?_some (p := fun l : Link => decide (l.id = id)) found)⟩

theorem link_none (missing : s.link id = none) (listed : l ∈ s.links) : l.id ≠ id := by
  have no := List.find?_eq_none.mp missing l listed
  exact fun same => no (decide_eq_true same)

theorem rows_limited (rows : Rows s) : Limited s where
  single user := by
    unfold State.linksOf
    rw [List.filter_filter]
    refine Lists.filter_at_most_one (rows.dead.imp fun {a b} gone both => ?_)
    obtain ⟨living,mine⟩ := Bool.and_eq_true_iff.mp both.1
    have other := (Bool.and_eq_true_iff.mp both.2).2
    have dead := gone ((of_decide_eq_true mine).trans (of_decide_eq_true other).symm)
    exact Bool.false_ne_true (dead.symm.trans living)
  spaced := rows.spaced
  hourly := rows.hourly
  once := rows.once
  owned x there := (rows.sessions x there).1

theorem linksOf_map (wears : Wears f) (links : s'.links = s.links.map f) (user : UserId) : s'.linksOf user = (s.linksOf user).map f := by
  unfold State.linksOf
  rw [links,List.filter_map]
  refine congrArg (List.map f) (List.filter_congr fun l _ => ?_)
  rw [Function.comp,wears.user]

theorem linksOf_append (wears : Wears f) (links : s'.links = s.links.map f ++ more) (user : UserId) :
    s'.linksOf user = (s.linksOf user).map f ++ more.filter (·.user = user) := by
  have mapped : ({s with links := s.links.map f} : State).linksOf user = (s.linksOf user).map f := linksOf_map wears rfl user
  unfold State.linksOf at mapped ⊢
  rw [links,List.filter_append,mapped]

theorem recent_map (wears : Wears f) (links : List Link) : ((links.map f).filter (recent now)).length = (links.filter (recent now)).length := by
  rw [List.filter_map,List.length_map]
  refine congrArg List.length (List.filter_congr fun l _ => ?_)
  unfold recent
  rw [Function.comp,wears.createdAt]

-- A link more of the same user leaves nothing known of that user's.
theorem known_kept {known : Nat} {facts facts' : Prop} (wears : Wears f) (links : s'.links = s.links.map f ++ more)
    (read : (∀ l ∈ more, l.user ≠ user) → s'.linksOf user = (s.linksOf user).map f → facts → facts')
    (held : Known s user known facts) : Known s' user known facts' := by
  have length : (s'.linksOf user).length = (s.linksOf user).length + (more.filter (·.user = user)).length := by
    rw [linksOf_append wears links,List.length_append,List.length_map]
  refine ⟨length ▸ Nat.le_trans held.bound (Nat.le_add_right _ _),?_⟩
  intro same
  have bound := held.bound
  have none_ : (more.filter (·.user = user)).length = 0 := by omega
  have others := List.filter_eq_nil_iff.mp (List.eq_nil_of_length_eq_zero none_)
  refine read (fun l there same => others l there (decide_eq_true same)) ?_ (held.read (by omega))
  rw [linksOf_append wears links,List.eq_nil_of_length_eq_zero none_,List.append_nil]

theorem owned_kept {ids : List Nat} (wears : Wears f) (links : s'.links = s.links.map f ++ more) (owned : Owned s user ids) :
    Owned s' user ids := by
  intro id there
  obtain ⟨l,listed,same,of⟩ := owned id there
  have still : f l ∈ s'.links := links ▸ List.mem_append_left _ (List.mem_map_of_mem listed)
  exact ⟨f l,still,(wears.id l).trans same,(wears.user l).trans of⟩

theorem spaced_kept (wears : Wears f) (linksOf : s'.linksOf user = (s.linksOf user).map f) (spaced : Spaced s user now) : Spaced s' user now := by
  intro k there
  rw [linksOf] at there
  obtain ⟨l,listed,rfl⟩ := List.mem_map.mp there
  exact wears.createdAt l ▸ spaced l listed

theorem few_kept (wears : Wears f) (linksOf : s'.linksOf user = (s.linksOf user).map f) (few : Few s user now) : Few s' user now := by
  unfold Few
  rw [linksOf,recent_map wears]
  exact few

theorem superseded_kept {ids : List Nat} (wears : Wears f) (linksOf : s'.linksOf user = (s.linksOf user).map f)
    (fades : Fades f (s.linksOf user)) (superseded : Superseded s user now ids) : Superseded s' user now ids := by
  intro k there living
  rw [linksOf] at there
  obtain ⟨l,listed,rfl⟩ := List.mem_map.mp there
  exact wears.id l ▸ superseded l listed (fades l listed now living)

theorem asked_kept (more : List Link) (wears : Wears f) (links : s'.links = s.links.map f ++ more)
    (fades : (∀ l ∈ more, l.user ≠ user) → Fades f (s.linksOf user))
    {phase : Phase} (asked : Asked s user now phase) : Asked s' user now phase := by
  cases phase with
  | finding => trivial
  | spacing => trivial
  | counting known => exact known_kept wears links (fun _ same => spaced_kept wears same) asked
  | superseding known => exact known_kept wears links (fun _ same => .imp (spaced_kept wears same) (few_kept wears same)) asked
  | locking known left mine =>
      refine ⟨owned_kept wears links asked.1,owned_kept wears links asked.2.1,?_⟩
      exact known_kept wears links (fun others same => .imp (spaced_kept wears same)
        (.imp (few_kept wears same) (superseded_kept wears same (fades others)))) asked.2.2
  | created known mine createdAt =>
      refine ⟨asked.1,owned_kept wears links asked.2.1,?_⟩
      exact known_kept wears links (fun others same => .imp (spaced_kept wears same)
        (.imp (few_kept wears same) (superseded_kept wears same (fades others)))) asked.2.2

theorem exchanged_kept (wears : Wears f) (links : s'.links = s.links.map f ++ more) (keeps : Keeps p f s.links)
    {phase : Exchange} (exchanged : Exchanged s p id phase) : Exchanged s' p id phase := by
  have still {l : Link} (listed : l ∈ s.links) : f l ∈ s'.links := links ▸ List.mem_append_left _ (List.mem_map_of_mem listed)
  cases phase with
  | locking => trivial
  | checking =>
      obtain ⟨l,listed,same,held⟩ := exchanged
      exact ⟨f l,still listed,(wears.id l).trans same,(keeps l listed held).1⟩
  | spent user owned =>
      obtain ⟨checked,l,listed,same,held,unused⟩ := exchanged
      obtain ⟨kept,as⟩ := keeps l listed held
      exact ⟨checked,f l,still listed,(wears.id l).trans same,kept,as.trans unused⟩

theorem fits_kept (more : List Link) (fits : Fits s p job) (later : s.clock ≤ s'.clock) (wears : Wears f) (links : s'.links = s.links.map f ++ more)
    (fades : ∀ user, (∀ l ∈ more, l.user ≠ user) → Fades f (s.linksOf user)) (keeps : Keeps p f s.links) : Fits s' p job := by
  cases job with
  | request user now phase => exact ⟨Int.le_trans fits.1 later,asked_kept more wears links (fades user) fits.2⟩
  | signIn id now phase => exact exchanged_kept wears links keeps fits

theorem wears_id : Wears fun l => l := ⟨fun _ => rfl,fun _ => rfl,fun _ => rfl⟩

theorem wears_release (p : Nat) : Wears (release p) := ⟨fun _ => rfl,fun _ => rfl,fun _ => rfl⟩

theorem wears_if (c : Link → Prop) [DecidablePred c] (wears : Wears f) : Wears fun l => if c l then f l else l where
  id l := by
    split
    · exact wears.id l
    · rfl
  user l := by
    split
    · exact wears.user l
    · rfl
  createdAt l := by
    split
    · exact wears.createdAt l
    · rfl

theorem wears_hold (p id : Nat) : Wears (hold p id) :=
  wears_if (·.id = id) ⟨fun _ => rfl,fun _ => rfl,fun _ => rfl⟩

theorem wears_supersede (now : Time) (ids : List Nat) : Wears (supersede now ids) :=
  wears_if (·.id ∈ ids) ⟨fun _ => rfl,fun _ => rfl,fun _ => rfl⟩

theorem wears_use (now : Time) (id : Nat) : Wears (use now id) :=
  wears_if (·.id = id) ⟨fun _ => rfl,fun _ => rfl,fun _ => rfl⟩

theorem wears_comp {g : Link → Link} (first : Wears f) (second : Wears g) : Wears (g ∘ f) where
  id l := (second.id (f l)).trans (first.id l)
  user l := (second.user (f l)).trans (first.user l)
  createdAt l := (second.createdAt (f l)).trans (first.createdAt l)

theorem live_release : live now (release p l) = live now l := rfl

theorem live_hold : live now (hold p id l) = live now l := by
  unfold hold
  split <;> rfl

theorem live_use {at_ : Time} (living : live now (use at_ id l)) : live now l := by
  unfold use at living
  split at living
  · exact nomatch (live_iff.mp living).1
  · exact living

theorem live_supersede {at_ : Time} {ids : List Nat} (past : at_ ≤ now) (living : live now (supersede at_ ids l)) :
    live now l ∧ l.id ∉ ids := by
  unfold supersede at living
  split at living
  · exact absurd (live_iff.mp living).2 (Int.not_lt.mpr past)
  · rename_i out
    exact ⟨living,out⟩

theorem release_kept (other : p ≠ q) (held : l.holder = some p) : (release q l).holder = some p := by
  unfold release
  rw [held,if_neg fun same => other (Option.some.inj same)]

theorem rows_jobs (rows : Rows s) (jobs : Nat → Option Job) (nextJob : Nat) : Rows {s with jobs := jobs,nextJob := nextJob} :=
  ⟨rows.ids,rows.unique,rows.spaced,rows.hourly,rows.dead,rows.sessions,rows.once⟩

theorem rows_wait (rows : Rows s) (time : Nat) : Rows {s with clock := s.clock + time} where
  ids := rows.ids
  unique := rows.unique
  spaced := rows.spaced
  hourly := rows.hourly
  dead := rows.dead.imp fun {a b} gone same => by
    have order : s.clock ≤ s.clock + time := Int.le_add_of_nonneg_right (Int.natCast_nonneg time)
    exact Bool.eq_false_iff.mpr fun living => Bool.false_ne_true ((gone same).symm.trans (live_earlier order living))
  sessions := rows.sessions
  once := rows.once

theorem rows_map (rows : Rows s) (wears : Wears f) (fades : ∀ l, live s.clock (f l) → live s.clock l)
    (spent : ∀ l, l.usedAt.isSome → (f l).usedAt.isSome) : Rows {s with links := s.links.map f} where
  ids := by
    intro k there
    obtain ⟨l,listed,rfl⟩ := List.mem_map.mp there
    exact wears.id l ▸ rows.ids l listed
  unique := by
    intro k there k' there' same
    obtain ⟨l,listed,rfl⟩ := List.mem_map.mp there
    obtain ⟨l',listed',rfl⟩ := List.mem_map.mp there'
    rw [wears.id,wears.id] at same
    exact congrArg f (rows.unique l listed l' listed' same)
  spaced := by
    refine List.pairwise_map.mpr (rows.spaced.imp fun {a b} apart same => ?_)
    rw [wears.user,wears.user] at same
    rw [wears.createdAt,wears.createdAt]
    exact apart same
  hourly user t := by
    have mapped : ({s with links := s.links.map f} : State).linksOf user = (s.linksOf user).map f := linksOf_map wears rfl user
    rw [mapped,List.filter_map,List.length_map]
    refine Nat.le_trans (Nat.le_of_eq (congrArg List.length (List.filter_congr fun l _ => ?_))) (rows.hourly user t)
    rw [Function.comp,wears.createdAt]
  dead := by
    refine List.pairwise_map.mpr (rows.dead.imp fun {a b} gone same => ?_)
    rw [wears.user,wears.user] at same
    exact Bool.eq_false_iff.mpr fun living => Bool.false_ne_true ((gone same).symm.trans (fades a living))
  sessions := by
    intro x there
    obtain ⟨owned,l,listed,same,used⟩ := rows.sessions x there
    exact ⟨owned,f l,List.mem_map_of_mem listed,(wears.id l).trans same,spent l used⟩
  once := rows.once

theorem rows_issue (user : UserId) (createdAt : Time) (rows : Rows s) (spaced : Spaced s user createdAt) (few : Few s user createdAt)
    (dead : ∀ l ∈ s.linksOf user, live s.clock l = false) (expiresAt : Time) :
    Rows {s with links := s.links ++ [⟨s.nextLink,user,createdAt,expiresAt,none,none⟩],nextLink := s.nextLink + 1} where
  ids := by
    intro l there
    rcases List.mem_append.mp there with listed | new
    · exact Nat.lt_succ_of_lt (rows.ids l listed)
    · cases List.mem_singleton.mp new
      exact Nat.lt_succ_self _
  unique := by
    intro l there k there' same
    rcases List.mem_append.mp there with listed | new <;> rcases List.mem_append.mp there' with listed' | new'
    · exact rows.unique l listed k listed' same
    · cases List.mem_singleton.mp new'
      exact absurd same (Nat.ne_of_lt (rows.ids l listed))
    · cases List.mem_singleton.mp new
      exact absurd same.symm (Nat.ne_of_lt (rows.ids k listed'))
    · exact (List.mem_singleton.mp new).trans (List.mem_singleton.mp new').symm
  spaced := by
    refine List.pairwise_append.mpr ⟨rows.spaced,List.pairwise_singleton _ _,?_⟩
    intro l listed k new same
    cases List.mem_singleton.mp new
    exact spaced l (mem_linksOf.mpr ⟨listed,same⟩)
  hourly other t := by
    unfold State.linksOf
    rw [List.filter_append,List.filter_append,List.length_append]
    have before := rows.hourly other t
    unfold State.linksOf at before
    by_cases counted : user = other ∧ t < createdAt ∧ createdAt ≤ t + 1 * hour
    · obtain ⟨mine,after,within⟩ := counted
      subst mine
      have fewer : ((s.linksOf user).filter fun l => t < l.createdAt ∧ l.createdAt ≤ t + 1 * hour).length ≤
          ((s.linksOf user).filter (recent createdAt)).length := by
        refine (List.monotone_filter_right _ fun l inside => ?_).length_le
        have open_ := (of_decide_eq_true inside).1
        exact decide_eq_true (Int.lt_of_le_of_lt (Int.sub_right_le_of_le_add within) open_)
      have under := Nat.lt_of_le_of_lt fewer few
      refine Nat.le_trans (Nat.add_le_add_left (m := 1) ?_ _) (Nat.succ_le_of_lt under)
      exact Nat.le_trans (List.length_filter_le _ _) (List.length_filter_le _ _)
    · have none_ : ([⟨s.nextLink,user,createdAt,expiresAt,none,none⟩].filter (fun l : Link => l.user = other)).filter
          (fun l => t < l.createdAt ∧ l.createdAt ≤ t + 1 * hour) = [] := by
        refine List.filter_eq_nil_iff.mpr fun l there inside => counted ?_
        obtain ⟨new,of⟩ := List.mem_filter.mp there
        cases List.mem_singleton.mp new
        exact ⟨of_decide_eq_true of,of_decide_eq_true inside⟩
      rw [none_]
      exact before
  dead := by
    refine List.pairwise_append.mpr ⟨rows.dead,List.pairwise_singleton _ _,?_⟩
    intro l listed k new same
    cases List.mem_singleton.mp new
    exact dead l (mem_linksOf.mpr ⟨listed,same⟩)
  sessions := by
    intro x there
    obtain ⟨owned,l,listed,facts⟩ := rows.sessions x there
    exact ⟨owned,l,List.mem_append_left _ listed,facts⟩
  once := rows.once

theorem rows_open (rows : Rows s) (listed : l ∈ s.links) (same : l.id = id) (used : l.usedAt.isSome)
    (first : ∀ x ∈ s.sessions, x.link ≠ id) (user : UserId) : Rows {s with sessions := s.sessions ++ [⟨id,user,true⟩]} where
  ids := rows.ids
  unique := rows.unique
  spaced := rows.spaced
  hourly := rows.hourly
  dead := rows.dead
  sessions := by
    intro x there
    rcases List.mem_append.mp there with opened | new
    · exact rows.sessions x opened
    · cases List.mem_singleton.mp new
      exact ⟨rfl,l,listed,same,used⟩
  once := by
    show ((s.sessions ++ _).map (·.link)).Nodup
    rw [List.map_append]
    refine List.nodup_append.mpr ⟨rows.once,List.pairwise_singleton _ _,?_⟩
    intro a opened b new same
    obtain ⟨x,there,rfl⟩ := List.mem_map.mp opened
    exact first x there (same.trans (List.mem_singleton.mp new))

theorem sound_of {after : Option Job} (sound : Sound s) (rows : Rows s') (jobs : s'.jobs = fun q => if q = p then after else s.jobs q)
    (others : ∀ q job, q ≠ p → Fits s q job → Fits s' q job) (own : ∀ job, after = some job → Fits s' p job) : Sound s' where
  toRows := rows
  jobs := by
    rw [jobs]
    exact Runs.jobs_kept sound.jobs others own

theorem fits_as (fits : Fits s p job) (links : s'.links = s.links) (clock : s'.clock = s.clock) : Fits s' p job := by
  refine fits_kept (f := fun l => l) [] fits (Int.le_of_eq clock.symm) wears_id ?_ ?_ ?_
  · rw [links,List.append_nil,List.map_id']
  · exact fun _ _ _ _ _ living => living
  · exact fun _ _ held => ⟨held,rfl⟩

theorem sound_set (sound : Sound s) (fits : Fits s p job) : Sound (s.set p (some job)) := by
  refine sound_of sound (rows_jobs sound.toRows _ _) rfl (fun _ _ _ fits => fits_as fits rfl rfl) ?_
  intro job same
  cases same
  exact fits_as fits rfl rfl

theorem sound_begin (sound : Sound s) (fits : Fits s s.nextJob job) : Sound (s.begin job) := by
  refine sound_of sound (rows_jobs sound.toRows _ _) rfl (fun _ _ _ fits => fits_as fits rfl rfl) ?_
  intro job same
  cases same
  exact fits_as fits rfl rfl

theorem sound_stop (sound : Sound s) (p : Nat) : Sound (s.stop p) := by
  have kept := rows_map sound.toRows (wears_release p) (fun _ living => living) (fun _ used => used)
  refine sound_of sound (rows_jobs kept _ _) rfl ?_ nofun
  intro q job other fits
  refine fits_kept [] fits (Int.le_refl _) (wears_release p) (List.append_nil _).symm ?_ ?_
  · exact fun _ _ _ _ _ living => living
  · exact fun _ _ held => ⟨release_kept other held,rfl⟩

theorem sound_lock (sound : Sound s) (found : s.link id = some l) (free : free p l) (fits : Fits (s.lock p id) p job) :
    Sound ((s.lock p id).set p (some job)) := by
  have kept : Rows (s.lock p id) := by
    refine rows_map sound.toRows (wears_hold p id) (fun _ living => live_hold.symm.trans living) ?_
    intro l used
    unfold hold
    split <;> exact used
  refine sound_of sound (rows_jobs kept _ _) rfl ?_ ?_
  · intro q job other fits
    refine fits_kept [] fits (Int.le_refl _) (wears_hold p id) (List.append_nil _).symm ?_ ?_
    · exact fun _ _ _ _ _ living => live_hold.symm.trans living
    · intro k listed held
      have apart : k.id ≠ id := by
        intro same
        obtain ⟨there,as⟩ := link_some found
        cases sound.unique k listed l there (same.trans as.symm)
        unfold State.free at free
        rw [held] at free
        exact other (of_decide_eq_true free)
      unfold hold
      rw [if_neg apart]
      exact ⟨held,rfl⟩
  · intro job same
    cases same
    exact fits_as fits rfl rfl

theorem spaced_of_max (apart : ¬((s.linksOf user).map (·.createdAt)).max?.any (now - · < BETWEEN_LINKS)) : Spaced s user now := by
  intro l there
  cases found : ((s.linksOf user).map (·.createdAt)).max? with
  | none =>
      rw [List.max?_eq_none_iff,List.map_eq_nil_iff] at found
      exact nomatch (found ▸ there : l ∈ [])
  | some last =>
      rw [found] at apart
      have order : l.createdAt ≤ last := (List.max?_eq_some_iff.mp found).2 _ (List.mem_map_of_mem there)
      have far : BETWEEN_LINKS ≤ now - last := Int.not_lt.mp fun near => apart (decide_eq_true near)
      exact Int.le_trans (Int.add_le_add_right order _) (Int.add_comm last _ ▸ Int.add_le_of_le_sub_right far)

theorem asked_lock {known : Nat} {left mine : List Nat} (asked : Asked s user now (.locking known (id :: left) mine)) :
    Asked (s.lock p id) user now (.locking known left (id :: mine)) := by
  have moved : Asked (s.lock p id) user now (.locking known (id :: left) mine) := by
    refine asked_kept [] (wears_hold p id) (List.append_nil _).symm ?_ asked
    exact fun _ _ _ _ living => live_hold.symm.trans living
  obtain ⟨lefts,mines,read⟩ := moved
  refine ⟨fun i there => lefts i (List.mem_cons_of_mem _ there),?_,read.bound,fun same => ?_⟩
  · intro i there
    rcases List.mem_cons.mp there with rfl | there
    · exact lefts i List.mem_cons_self
    · exact mines i there
  · obtain ⟨spaced,few,superseded⟩ := read.read same
    refine ⟨spaced,few,fun l listed living => ?_⟩
    exact List.perm_middle.mem_iff.mpr (superseded l listed living)

theorem asked_pass {known : Nat} {left mine : List Nat} (asked : Asked s user now (.locking known (id :: left) mine))
    (gone : ∀ l ∈ s.links, l.id = id → live now l = false) : Asked s user now (.locking known left mine) := by
  obtain ⟨lefts,mines,read⟩ := asked
  refine ⟨fun i there => lefts i (List.mem_cons_of_mem _ there),mines,read.bound,fun same => ?_⟩
  obtain ⟨spaced,few,superseded⟩ := read.read same
  refine ⟨spaced,few,fun l listed living => ?_⟩
  rcases List.mem_cons.mp (superseded l listed living) with mine | there
  · exact absurd ((gone l (mem_linksOf.mp listed).1 mine).symm.trans living) Bool.false_ne_true
  · exact there

theorem sound_ask {phase : Phase} (sound : Sound s) (early : now ≤ s.clock) (asked : Asked s user now phase) :
    Sound (s.ask p user now phase) := by
  cases phase with
  | finding =>
      unfold State.ask
      dsimp only
      split
      · exact sound_set sound ⟨early,trivial⟩
      · exact sound_stop sound p
  | spacing =>
      unfold State.ask
      dsimp only
      split
      · exact sound_stop sound p
      · rename_i apart
        exact sound_set sound ⟨early,Nat.le_refl _,fun _ => spaced_of_max apart⟩
  | counting known =>
      unfold State.ask
      dsimp only
      split
      · exact sound_stop sound p
      · rename_i few
        exact sound_set sound ⟨early,asked.bound,fun same => ⟨asked.read same,Nat.not_le.mp few⟩⟩
  | superseding known =>
      refine sound_set sound ⟨early,?_,nofun,asked.bound,fun same => ⟨(asked.read same).1,(asked.read same).2,?_⟩⟩
      · intro id there
        obtain ⟨l,chosen,rfl⟩ := List.mem_map.mp there
        obtain ⟨listed,mine⟩ := mem_linksOf.mp (List.mem_filter.mp chosen).1
        exact ⟨l,listed,rfl,mine⟩
      · intro l listed living
        rw [List.append_nil]
        exact List.mem_map_of_mem (List.mem_filter.mpr ⟨listed,living⟩)
  | locking known left mine =>
      cases left with
      | nil => exact sound_set sound ⟨early,early,asked.2.1,asked.2.2⟩
      | cons id left =>
          unfold State.ask
          dsimp only
          cases found : s.link id with
          | none => exact sound_set sound ⟨early,asked_pass asked fun l listed same => absurd same (link_none found listed)⟩
          | some l =>
              dsimp only
              split
              · exact sound
              rename_i free
              split
              · exact sound_lock sound found (Decidable.not_not.mp free) ⟨early,asked_lock asked⟩
              · rename_i gone
                refine sound_set sound ⟨early,asked_pass asked fun k listed same => ?_⟩
                obtain ⟨there,as⟩ := link_some found
                cases sound.unique k listed l there (same.trans as.symm)
                exact Bool.eq_false_iff.mpr gone
  | created known mine createdAt => exact sound

theorem sound_exchange {phase : Exchange} (sound : Sound s) (exchanged : Exchanged s p id phase) :
    Sound (s.exchange p id now phase) := by
  cases phase with
  | locking =>
      unfold State.exchange
      dsimp only
      cases found : s.link id with
      | none => exact sound_stop sound p
      | some l =>
          dsimp only
          split
          · rename_i free
            obtain ⟨listed,same⟩ := link_some found
            refine sound_lock sound found free ⟨hold p id l,List.mem_map_of_mem listed,?_,?_⟩
            · exact ((wears_hold p id).id l).trans same
            · unfold hold
              rw [if_pos same]
          · exact sound
  | checking =>
      unfold State.exchange
      dsimp only
      cases found : s.link id with
      | none => exact sound_stop sound p
      | some l =>
          dsimp only
          split
          · exact sound_stop sound p
          · rename_i good
            obtain ⟨unused,rest⟩ := not_or.mp good
            obtain ⟨-,owns⟩ := not_or.mp rest
            obtain ⟨there,as⟩ := link_some found
            obtain ⟨k,listed,same,held⟩ := exchanged
            cases sound.unique k listed l there (same.trans as.symm)
            exact sound_set sound ⟨decide_eq_true (Decidable.not_not.mp owns),l,there,as,held,Option.not_isSome_iff_eq_none.mp unused⟩
  | spent user owned => exact sound

theorem sound_commit_request {known : Nat} {mine : List Nat} {createdAt : Time} (sound : Sound s)
    (fits : Fits s p (.request user now (.created known mine createdAt))) (alone : (s.linksOf user).length = known) :
    Sound (s.commit p (.request user now (.created known mine createdAt))) := by
  obtain ⟨early,later,mines,read⟩ := fits
  obtain ⟨spaced,few,superseded⟩ := read.read alone
  have wears := wears_comp (wears_supersede now mine) (wears_release p)
  have dimmed : Rows {s with links := s.links.map (supersede now mine)} := by
    refine rows_map sound.toRows (wears_supersede now mine) (fun _ living => (live_supersede early living).1) ?_
    intro l used
    unfold supersede
    split <;> exact used
  have ended : Rows (State.stop {s with links := s.links.map (supersede now mine)} p) :=
    rows_jobs (rows_map dimmed (wears_release p) (fun _ living => living) (fun _ used => used)) _ _
  have linksOf : (State.stop {s with links := s.links.map (supersede now mine)} p).linksOf user =
      (s.linksOf user).map (release p ∘ supersede now mine) := linksOf_map wears (List.map_map ..) user
  have rows := rows_issue user createdAt ended ?_ ?_ ?_ (now + SIGNIN_TTL)
  refine sound_of sound rows rfl ?_ nofun
  · intro q job other fits
    refine fits_kept _ fits (Int.le_refl _) wears (congrArg (· ++ _) (List.map_map ..)) ?_ ?_
    -- a link of another user is none of those superseded
    · intro owner others l listed time living
      have foreign : l.id ∉ mine := by
        intro there
        obtain ⟨k,listed',same,of⟩ := mines _ there
        obtain ⟨stored,whose⟩ := mem_linksOf.mp listed
        cases sound.unique k listed' l stored same
        exact others _ List.mem_cons_self (of.symm.trans whose)
      rw [Function.comp,live_release] at living
      unfold supersede at living
      rwa [if_neg foreign] at living
    · intro l listed held
      have dim : (supersede now mine l).holder = some q ∧ (supersede now mine l).usedAt = l.usedAt := by
        unfold supersede
        split <;> exact ⟨held,rfl⟩
      exact ⟨release_kept other dim.1,dim.2⟩
  · intro k there
    rw [linksOf] at there
    obtain ⟨l,listed,rfl⟩ := List.mem_map.mp there
    rw [wears.createdAt]
    exact Int.le_trans (spaced l listed) later
  · unfold Few
    rw [linksOf,recent_map wears]
    refine Nat.lt_of_le_of_lt ((List.monotone_filter_right _ fun l new => ?_).length_le) few
    exact decide_eq_true (Int.lt_of_le_of_lt (Int.sub_le_sub_right later _) (of_decide_eq_true new))
  · intro k there
    rw [linksOf] at there
    obtain ⟨l,listed,rfl⟩ := List.mem_map.mp there
    refine Bool.eq_false_iff.mpr fun living => ?_
    obtain ⟨alive,kept⟩ := live_supersede early (live_release.symm.trans living)
    exact kept (superseded l listed (live_earlier early alive))

theorem sound_commit_signIn {owned : Bool} (sound : Sound s) (fits : Fits s p (.signIn id now (.spent user owned))) :
    Sound (s.commit p (.signIn id now (.spent user owned))) := by
  obtain ⟨rfl,l,listed,rfl,held,unused⟩ := fits
  have wears := wears_comp (wears_use now l.id) (wears_release p)
  have used : Rows {s with links := s.links.map (use now l.id)} := by
    refine rows_map sound.toRows (wears_use now l.id) (fun _ living => live_use living) ?_
    intro k used
    unfold use
    split
    · rfl
    · exact used
  have ended : Rows (State.stop {s with links := s.links.map (use now l.id)} p) :=
    rows_jobs (rows_map used (wears_release p) (fun _ living => living) (fun _ used => used)) _ _
  have spent : (use now l.id l).usedAt = some now := by
    unfold use
    rw [if_pos rfl]
  have rows := rows_open ended (l := release p (use now l.id l)) (List.mem_map_of_mem (List.mem_map_of_mem listed))
    (wears.id l) (Option.isSome_iff_exists.mpr ⟨now,spent⟩) ?_ user
  · refine sound_of sound rows rfl ?_ nofun
    intro q job other fits
    refine fits_kept [] fits (Int.le_refl _) wears ((List.map_map ..).trans (List.append_nil _).symm) ?_ ?_
    · exact fun _ _ _ _ _ living => live_use living
    -- the link used is held by this sign-in, and by no other
    · intro k stored held'
      have apart : k.id ≠ l.id := by
        intro same
        cases sound.unique k stored l listed same
        exact other (Option.some.inj (held'.symm.trans held))
      have same : use now l.id k = k := if_neg apart
      have as : (use now l.id k).usedAt = k.usedAt := congrArg Link.usedAt same
      exact ⟨release_kept other (same.symm ▸ held'),as⟩
  · intro x there same
    obtain ⟨-,k,stored,as,done⟩ := sound.sessions x there
    cases sound.unique k stored l listed (as.trans same)
    rw [unused] at done
    exact nomatch done

theorem step_sound {action : Action} (sound : Sound s) (alone : Alone s action) : Sound (step s action) := by
  cases action with
  | wait time =>
      refine ⟨rows_wait sound.toRows time,fun p job there => ?_⟩
      refine fits_kept (f := fun l => l) [] (sound.jobs p job there) ?_ wears_id ?_ ?_ ?_
      · exact Int.le_add_of_nonneg_right (Int.natCast_nonneg time)
      · exact ((List.append_nil _).trans (List.map_id' _)).symm
      · exact fun _ _ _ _ _ living => living
      · exact fun _ _ held => ⟨held,rfl⟩
  | own owners => exact ⟨⟨sound.ids,sound.unique,sound.spaced,sound.hourly,sound.dead,sound.sessions,sound.once⟩,
      fun p job there => fits_as (sound.jobs p job there) rfl rfl⟩
  | requestSignIn user => exact sound_begin sound ⟨Int.le_refl _,trivial⟩
  | signIn link => exact sound_begin sound trivial
  | next p =>
      unfold State.step
      dsimp only
      cases known : s.jobs p with
      | none => exact sound
      | some job =>
          have fits := sound.jobs p job known
          cases job with
          | request user now phase => exact sound_ask sound fits.1 fits.2
          | signIn link now phase => exact sound_exchange sound fits
  | commit p =>
      unfold State.step
      unfold Alone at alone
      dsimp only at alone ⊢
      cases known : s.jobs p with
      | none => exact sound
      | some job =>
          rw [known] at alone
          have fits := sound.jobs p job known
          cases job with
          | request user now phase =>
              cases phase with
              | created n mine createdAt => exact sound_commit_request sound fits alone
              | _ => exact sound
          | signIn link now phase =>
              cases phase with
              | spent user owned => exact sound_commit_signIn sound fits
              | _ => exact sound
  | abort p => exact sound_stop sound p

end links

theorem start_sound (clock : Time) : Sound (start clock) where
  ids := nofun
  unique := nofun
  spaced := .nil
  hourly _ _ := Nat.zero_le _
  dead := .nil
  sessions := nofun
  once := .nil
  jobs := nofun

theorem links_limited (clock : Time) (actions : List Action) (alone : Runs.Along step Alone (start clock) actions) :
    Limited (Runs.run step (start clock) actions) :=
  rows_limited (Runs.along_invariant step (fun _ _ => step_sound) (start_sound clock) alone).toRows

def untilCreated (p : Nat) : List Action := [.next p,.next p,.next p,.next p,.next p]

def oneAfterAnother : List Action :=
  [.own ["owner@example.org"],.requestSignIn "owner@example.org"] ++ untilCreated 0 ++
    ([.commit 0,.wait 60000000,.requestSignIn "owner@example.org",.next 1,.next 1,.next 1,.next 1,.next 1,.next 1,.commit 1,
      .signIn 0,.signIn 1,.next 2,.next 2,.next 3,.signIn 1,.next 4,.next 3,.commit 3,.next 4,.next 4] : List Action)

instance decidableAlone (s : State) : (action : Action) → Decidable (Alone s action)
  | .commit p => match known : s.jobs p with
      | some (.request user _ (.created n _ _)) => decidable_of_iff ((s.linksOf user).length = n) (by simp only [Alone,known])
      | some (.request _ _ .finding) | some (.request _ _ .spacing) | some (.request _ _ (.counting _))
      | some (.request _ _ (.superseding _)) | some (.request _ _ (.locking _ _ _)) | some (.signIn _ _ _) | none =>
          .isTrue (by simp only [Alone,known])
  | .wait _ | .own _ | .requestSignIn _ | .signIn _ | .next _ | .abort _ => .isTrue trivial

theorem links_limited_one_after_another : Limited (Runs.run step (start 0) oneAfterAnother) :=
  links_limited 0 oneAfterAnother (by decide +kernel)

example : ((Runs.run step (start 0) oneAfterAnother).sessions.map (·.link),(Runs.run step (start 0) oneAfterAnother).links.length) = ([1],2) := by
  decide +kernel

-- Two requests of one owner that both look for links before either issues one.
def overlapping : List Action :=
  [.own ["owner@example.org"],.requestSignIn "owner@example.org",.requestSignIn "owner@example.org"] ++
    untilCreated 0 ++ untilCreated 1 ++ [.commit 0,.commit 1]

theorem two_links_live : ¬Limited (Runs.run step (start 0) overlapping) := by
  intro limited
  have single := limited.single "owner@example.org"
  revert single
  decide +kernel

end Osds.Directory.OwnerSignIn

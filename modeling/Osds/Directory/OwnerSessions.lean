import Osds.Claims.Models
import Osds.Lib.Lists
import Osds.Lib.Runs
import Osds.Lib.Sweeps

namespace Osds.Directory.OwnerSessions
open Claims (minute hour)

abbrev UserId := String

def SESSION_IDLE : Time := 12 * hour
def SESSION_ABSOLUTE : Time := 30 * (24 * hour)
def TOUCH_INTERVAL : Time := 1 * minute
def OWNER_AUTH_CHUNK : Nat := 1000
def OWNER_AUTH_KEEP : Time := 24 * hour

-- A row of OwnerSession; its number stands for the secret of the cookie.
structure Session where
  id : Nat
  tenant : Nat
  user : UserId
  expiresAt : Time
  lastSeenAt : Time
  deriving DecidableEq, Repr

inductive Purpose where
  | visit
  | signOut (everywhere : Bool)
  deriving DecidableEq, Repr

inductive Phase where
  | opening (user : UserId)
  | reading (cookie : Option Nat) (purpose : Purpose)
  | deleting (id : Nat)
  | touching (id : Nat) (user : UserId) (purpose : Purpose)
  | resolved (id : Nat) (user : UserId) (purpose : Purpose)
  deriving DecidableEq, Repr

-- A request, with the `now` it reads once.
structure Job where
  tenant : Nat
  now : Time
  phase : Phase
  deriving DecidableEq, Repr

inductive Event where
  | opened (id tenant : Nat) (user : UserId) (now : Time)
  | answered (p id tenant : Nat) (user : UserId) (now : Time)
  | refused (p : Nat)
  | signedOut (id tenant : Nat) (user : UserId) (everywhere : Bool)
  deriving DecidableEq, Repr

structure State where
  clock : Time
  sessions : List Session
  nextSession : Nat
  jobs : Nat → Option Job
  nextJob : Nat
  selected : List Nat
  log : List Event

inductive Action where
  | wait (time : Nat)
  -- a link is used
  | signIn (tenant : Nat) (user : UserId)
  | request (tenant : Nat) (cookie : Option Nat) (purpose : Purpose)
  | next (p : Nat)
  | abort (p : Nat)
  -- the worker selects rows, by a `now` this much in the past, and deletes them
  | select (late : Nat)
  | delete

def deadSessions : Sweeps.Sweep Session Time where
  key := (·.id)
  due now r := r.expiresAt < now - OWNER_AUTH_KEEP || r.lastSeenAt < now - OWNER_AUTH_KEEP - SESSION_IDLE
  still _ := true
  blank _ _ := none

namespace State

def start (clock : Time) : State := ⟨clock,[],0,fun _ => none,0,[],[]⟩

def set (s : State) (p : Nat) (job : Option Job) : State := {s with jobs := fun q => if q = p then job else s.jobs q}

def begin (s : State) (job : Job) : State := {s.set s.nextJob (some job) with nextJob := s.nextJob + 1}

def tell (s : State) (event : Event) : State := {s with log := s.log ++ [event]}

def find (s : State) (tenant : Nat) (cookie : Option Nat) : Option Session :=
  s.sessions.find? fun r => cookie = some r.id && r.tenant = tenant

def expired (now : Time) (r : Session) : Bool := r.expiresAt ≤ now || r.lastSeenAt + SESSION_IDLE ≤ now

def touch (now : Time) (id : Nat) (r : Session) : Session := if r.id = id then {r with lastSeenAt := now} else r

def create (s : State) (tenant : Nat) (user : UserId) (now : Time) : State :=
  tell {s with sessions := s.sessions ++ [⟨s.nextSession,tenant,user,now + SESSION_ABSOLUTE,now⟩],nextSession := s.nextSession + 1}
    (.opened s.nextSession tenant user now)

def ends (id tenant : Nat) (user : UserId) (everywhere : Bool) (r : Session) : Bool :=
  if everywhere then r.tenant = tenant && r.user = user else r.id = id

def next (s : State) (p : Nat) (job : Job) : State :=
  match job.phase with
  | .opening user =>
      (s.set p none).create job.tenant user job.now
  | .reading cookie purpose => match s.find job.tenant cookie with
      | none => (s.set p none).tell (.refused p)
      | some r =>
          if expired job.now r then (s.set p (some {job with phase := .deleting r.id})).tell (.refused p)
          else
            let phase := if TOUCH_INTERVAL ≤ job.now - r.lastSeenAt then .touching r.id r.user purpose else .resolved r.id r.user purpose
            (s.set p (some {job with phase := phase})).tell (.answered p r.id job.tenant r.user job.now)
  | .deleting id => {s.set p none with sessions := s.sessions.filter (·.id ≠ id)}
  | .touching id user purpose =>
      {s.set p (some {job with phase := .resolved id user purpose}) with sessions := s.sessions.map (touch job.now id)}
  | .resolved id user purpose => match purpose with
      | .visit => s.set p none
      | .signOut everywhere =>
          tell {s.set p none with sessions := s.sessions.filter (!ends id job.tenant user everywhere ·)}
            (.signedOut id job.tenant user everywhere)

def step (s : State) : Action → State
  | .wait time => {s with clock := s.clock + time}
  | .signIn tenant user => s.begin ⟨tenant,s.clock,.opening user⟩
  | .request tenant cookie purpose => s.begin ⟨tenant,s.clock,.reading cookie purpose⟩
  | .next p => match s.jobs p with
      | some job => s.next p job
      | none => s
  | .abort p => s.set p none
  | .select late => {s with selected := Sweeps.ids deadSessions OWNER_AUTH_CHUNK (s.clock - late) s.sessions}
  | .delete => {s with sessions := s.sessions.filter (·.id ∉ s.selected),selected := []}

end State
open State

-- A request takes its next step before a session could have lapsed since it began.
def prompt (s : State) : Action → Bool
  | .next p => (s.jobs p).all fun job => s.clock ≤ job.now + SESSION_IDLE
  | _ => true

def Action.unpruned : Action → Bool
  | .select _ => false
  | .delete => false
  | _ => true

def Event.Ends (id tenant : Nat) (user : UserId) : Event → Prop
  | .signedOut other tenant' user' everywhere => if everywhere then tenant = tenant' ∧ user = user' else id = other
  | _ => False

def Event.Uses (id : Nat) (now : Time) : Event → Prop
  | .opened other _ _ at_ => other = id ∧ at_ = now
  | .answered _ other _ _ at_ => other = id ∧ at_ = now
  | _ => False

def Open (log : List Event) (id tenant : Nat) (user : UserId) (opened : Time) : Prop :=
  ∃ before after, log = before ++ Event.opened id tenant user opened :: after ∧ ∀ e ∈ after, ¬e.Ends id tenant user

-- Every answer is to a session that is open, less than thirty days old, and was
-- used less than twelve hours before.
def Justified (log : List Event) : Prop :=
  ∀ before p id tenant user now after, log = before ++ Event.answered p id tenant user now :: after →
    (∃ opened, Open before id tenant user opened ∧ now < opened + SESSION_ABSOLUTE) ∧
      ∃ seen, (∃ e ∈ before, e.Uses id seen) ∧ now < seen + SESSION_IDLE

section states
variable (s : State) (p q : Nat) (job : Option Job) (event : Event)

@[simp] theorem set_sessions : (s.set p job).sessions = s.sessions := rfl
@[simp] theorem set_log : (s.set p job).log = s.log := rfl
@[simp] theorem set_clock : (s.set p job).clock = s.clock := rfl
@[simp] theorem set_nextSession : (s.set p job).nextSession = s.nextSession := rfl
@[simp] theorem set_selected : (s.set p job).selected = s.selected := rfl
@[simp] theorem set_jobs : (s.set p job).jobs q = if q = p then job else s.jobs q := rfl
@[simp] theorem tell_sessions : (s.tell event).sessions = s.sessions := rfl
@[simp] theorem tell_log : (s.tell event).log = s.log ++ [event] := rfl
@[simp] theorem tell_clock : (s.tell event).clock = s.clock := rfl
@[simp] theorem tell_nextSession : (s.tell event).nextSession = s.nextSession := rfl
@[simp] theorem tell_selected : (s.tell event).selected = s.selected := rfl
@[simp] theorem tell_jobs : (s.tell event).jobs = s.jobs := rfl

variable {s} {r : Session} {tenant : Nat} {cookie : Option Nat}

theorem find_some (found : s.find tenant cookie = some r) : r ∈ s.sessions ∧ cookie = some r.id ∧ r.tenant = tenant := by
  have kept := List.find?_some found
  simp only [Bool.and_eq_true,decide_eq_true_eq] at kept
  exact ⟨List.mem_of_find?_eq_some found,kept⟩

theorem expired_false {now : Time} (live : ¬expired now r = true) : now < r.expiresAt ∧ now < r.lastSeenAt + SESSION_IDLE := by
  simpa [expired] using live

@[simp] theorem touch_id (now : Time) (id : Nat) (r : Session) : (touch now id r).id = r.id := by
  unfold touch
  split <;> rfl

theorem touch_fixed {now : Time} {id : Nat} {r : Session} (other : r.id ≠ id) : touch now id r = r := by simp [touch,other]

end states

section history
variable {log : List Event} {e : Event} {r : Session} {id tenant : Nat} {user : UserId} {opened now : Time} {everywhere : Bool}

def Known (log : List Event) (r : Session) : Prop :=
  (∃ opened, Open log r.id r.tenant r.user opened ∧ r.expiresAt = opened + SESSION_ABSOLUTE) ∧ ∃ e ∈ log, e.Uses r.id r.lastSeenAt

theorem open_tell (open_ : Open log id tenant user opened) (quiet : ¬e.Ends id tenant user) : Open (log ++ [e]) id tenant user opened := by
  obtain ⟨before,after,rfl,still⟩ := open_
  refine ⟨before,after ++ [e],by simp,?_⟩
  intro other there
  rcases List.mem_append.mp there with old | new
  · exact still other old
  · exact List.mem_singleton.mp new ▸ quiet

theorem known_tell (known : Known log r) (quiet : ¬e.Ends r.id r.tenant r.user) : Known (log ++ [e]) r := by
  obtain ⟨⟨opened,open_,until_⟩,used,there,uses⟩ := known
  exact ⟨⟨opened,open_tell open_ quiet,until_⟩,used,List.mem_append_left _ there,uses⟩

theorem justified_tell (just : Justified log) (quiet : ∀ p id tenant user now, e ≠ .answered p id tenant user now) :
    Justified (log ++ [e]) := by
  intro before p id tenant user now after split
  rcases Lists.split_concat split with ⟨_,same,_⟩ | ⟨others,_,old⟩
  · exact absurd same.symm (quiet p id tenant user now)
  · exact just before p id tenant user now others old

theorem justified_answer (just : Justified log) (known : Known log r) (live : now < r.expiresAt ∧ now < r.lastSeenAt + SESSION_IDLE) :
    Justified (log ++ [.answered p r.id r.tenant r.user now]) := by
  intro before q id tenant user at_ after split
  rcases Lists.split_concat split with ⟨rfl,same,_⟩ | ⟨others,_,old⟩
  · cases same
    obtain ⟨⟨opened,open_,until_⟩,used⟩ := known
    exact ⟨⟨opened,open_,until_ ▸ live.1⟩,r.lastSeenAt,used,live.2⟩
  · exact just before q id tenant user at_ others old

theorem ends_iff : Event.Ends r.id r.tenant r.user (.signedOut id tenant user everywhere) ↔ ends id tenant user everywhere r = true := by
  cases everywhere <;> simp [Event.Ends,ends]

theorem touched_known (known : Known log r) (used : ∃ e ∈ log, e.Uses id now) : Known log (touch now id r) := by
  by_cases same : r.id = id
  · subst same
    simp only [touch,if_true]
    exact ⟨known.1,used⟩
  · rwa [touch_fixed same]

end history

section safety
variable {s : State} {e : Event} {rows : List Session} {p : Nat} {job : Option Job}

structure Told (s : State) : Prop where
  rows : ∀ r ∈ s.sessions, Known s.log r
  jobs : ∀ p job, s.jobs p = some job → ∀ id user purpose, job.phase = .touching id user purpose → ∃ e ∈ s.log, e.Uses id job.now
  log : Justified s.log

theorem told_begin (told : Told s) (job : Job) (fresh : ∀ id user purpose, job.phase ≠ .touching id user purpose) : Told (s.begin job) where
  rows := told.rows
  log := told.log
  jobs p job' there id user purpose phase := by
    have there : (if p = s.nextJob then some job else s.jobs p) = some job' := there
    split at there
    · cases there
      exact absurd phase (fresh id user purpose)
    · exact told.jobs p job' there id user purpose phase

theorem told_set (told : Told s) (known : ∀ r ∈ rows, Known s.log r)
    (used : ∀ moved, job = some moved → ∀ id user purpose, moved.phase = .touching id user purpose → ∃ e ∈ s.log, e.Uses id moved.now) :
    Told {s.set p job with sessions := rows} where
  rows := known
  log := told.log
  jobs q job' there id user purpose phase := by
    have there : (if q = p then job else s.jobs q) = some job' := there
    split at there
    · exact used job' there id user purpose phase
    · exact told.jobs q job' there id user purpose phase

theorem told_tell (told : Told s) (just : Justified (s.log ++ [e])) (quiet : ∀ r ∈ s.sessions, ¬e.Ends r.id r.tenant r.user) : Told (s.tell e) where
  rows r there := known_tell (told.rows r there) (quiet r there)
  log := just
  jobs p job there id user purpose phase := by
    obtain ⟨used,listed,uses⟩ := told.jobs p job there id user purpose phase
    exact ⟨used,List.mem_append_left _ listed,uses⟩

theorem told_opened (told : Told s) (tenant : Nat) (user : UserId) (now : Time) : Told (s.create tenant user now) where
  rows r there := by
    rcases List.mem_append.mp there with old | new
    · exact known_tell (told.rows r old) id
    · cases List.mem_singleton.mp new
      exact ⟨⟨now,⟨s.log,[],rfl,nofun⟩,rfl⟩,_,List.mem_append_right _ (List.mem_singleton_self _),rfl,rfl⟩
  log := justified_tell told.log nofun
  jobs q job there id user purpose phase := by
    obtain ⟨used,listed,uses⟩ := told.jobs q job there id user purpose phase
    exact ⟨used,List.mem_append_left _ listed,uses⟩

theorem told_next (told : Told s) (p : Nat) (job : Job) (there : s.jobs p = some job) : Told (s.next p job) := by
  have stopped : ∀ moved : Job, none = some moved → ∀ id user purpose, moved.phase = .touching id user purpose →
      ∃ e ∈ s.log, e.Uses id moved.now := nofun
  unfold State.next
  cases phase : job.phase with
  | opening user => exact told_opened (told_set (p := p) told told.rows stopped) job.tenant user job.now
  | reading cookie purpose =>
      dsimp only
      cases found : s.find job.tenant cookie with
      | none => exact told_tell (told_set told told.rows stopped) (justified_tell told.log nofun) fun r _ => id
      | some r =>
          obtain ⟨listed,_,tenant⟩ := find_some found
          dsimp only
          split
          · have refused : Told (s.set p (some {job with phase := .deleting r.id})) := told_set told told.rows (by simp)
            exact told_tell refused (justified_tell told.log nofun) fun r _ => id
          · next live =>
              have just := justified_answer told.log (told.rows r listed) (expired_false live) (p := p)
              rw [tenant] at just
              have answered := told_tell told just fun r _ => id
              refine told_set answered answered.rows ?_
              rintro moved ⟨⟩ id user purpose' phase'
              split at phase'
              · cases phase'
                exact ⟨_,List.mem_append_right _ (List.mem_singleton_self _),rfl,rfl⟩
              · cases phase'
  | deleting id => exact told_set told (fun r there => told.rows r (List.mem_of_mem_filter there)) stopped
  | touching id user purpose =>
      refine told_set told ?_ ?_
      · intro r listed
        obtain ⟨r,old,rfl⟩ := List.mem_map.mp listed
        exact touched_known (told.rows r old) (told.jobs p job there id user purpose phase)
      · rintro moved ⟨⟩ id' user' purpose' ⟨⟩
  | resolved id user purpose =>
      cases purpose with
      | visit => exact told_set told told.rows stopped
      | signOut everywhere =>
          have ended : Told {s.set p none with sessions := s.sessions.filter (!ends id job.tenant user everywhere ·)} :=
            told_set told (fun r there => told.rows r (List.mem_of_mem_filter there)) stopped
          refine told_tell ended (justified_tell told.log nofun) fun r left => ?_
          have out := (List.mem_filter.mp left).2
          rw [ends_iff]
          simpa using out

theorem told_step (told : Told s) (action : Action) : Told (step s action) := by
  cases action with
  | wait => exact ⟨told.rows,told.jobs,told.log⟩
  | signIn tenant user => exact told_begin told _ nofun
  | request tenant cookie purpose => exact told_begin told _ nofun
  | next p =>
      unfold State.step
      dsimp only
      cases there : s.jobs p with
      | none => exact told
      | some job => exact told_next told p job there
  | abort p => exact told_set told told.rows nofun
  | select => exact ⟨told.rows,told.jobs,told.log⟩
  | delete => exact ⟨fun r there => told.rows r (List.mem_of_mem_filter there),told.jobs,told.log⟩

theorem start_told (clock : Time) : Told (start clock) where
  rows := nofun
  jobs := nofun
  log before p id tenant user now after split := by simp [start] at split

end safety

section pruning
variable {s c i : State} {kept : Nat → Bool} {rows : List Session} {p : Nat} {job : Option Job} {now : Time} {id tenant : Nat} {cookie : Option Nat}

structure Ordered (s : State) : Prop where
  ids : ∀ r ∈ s.sessions, r.id < s.nextSession
  unique : ∀ r ∈ s.sessions, ∀ r' ∈ s.sessions, r.id = r'.id → r = r'
  early : ∀ p job, s.jobs p = some job → job.now ≤ s.clock
  touches : ∀ p job, s.jobs p = some job → ∀ id user purpose, job.phase = .touching id user purpose →
    id < s.nextSession ∧ ∀ r ∈ s.sessions, r.id = id → job.now < r.expiresAt ∧ job.now ≤ r.lastSeenAt + SESSION_IDLE

theorem ordered_begin (ordered : Ordered s) (job : Job) (now : job.now = s.clock)
    (fresh : ∀ id user purpose, job.phase ≠ .touching id user purpose) : Ordered (s.begin job) where
  ids := ordered.ids
  unique := ordered.unique
  early p job' there := by
    have there : (if p = s.nextJob then some job else s.jobs p) = some job' := there
    split at there
    · cases there
      exact Int.le_of_eq now
    · exact ordered.early p job' there
  touches p job' there id user purpose phase := by
    have there : (if p = s.nextJob then some job else s.jobs p) = some job' := there
    split at there
    · cases there
      exact absurd phase (fresh id user purpose)
    · exact ordered.touches p job' there id user purpose phase

theorem ordered_set (ordered : Ordered s) (f : Session → Session) (wears : ∀ r, f r = r ∨ f r = touch now id r)
    (sub : ∀ r ∈ rows, ∃ r' ∈ s.sessions, r = f r') (prompt : s.clock ≤ now + SESSION_IDLE)
    (early : ∀ moved, job = some moved → moved.now ≤ s.clock)
    (read : ∀ moved, job = some moved → ∀ id user purpose, moved.phase = .touching id user purpose →
      ∃ r ∈ s.sessions, r.id = id ∧ moved.now < r.expiresAt ∧ moved.now ≤ r.lastSeenAt + SESSION_IDLE) :
    Ordered {s.set p job with sessions := rows} := by
  have moved_ : ∀ r, (f r).id = r.id ∧ (f r).expiresAt = r.expiresAt ∧ ((f r).lastSeenAt = r.lastSeenAt ∨ (f r).lastSeenAt = now) := by
    intro r
    rcases wears r with same | touched
    · simp [same]
    · rw [touched]
      unfold touch
      split <;> simp
  refine ⟨?_,?_,?_,?_⟩
  · intro r there
    obtain ⟨r',listed,rfl⟩ := sub r there
    exact (moved_ r').1 ▸ ordered.ids r' listed
  · intro r there k there' same
    obtain ⟨r',listed,rfl⟩ := sub r there
    obtain ⟨k',listed',rfl⟩ := sub k there'
    rw [(moved_ r').1,(moved_ k').1] at same
    rw [ordered.unique r' listed k' listed' same]
  · intro q job' there
    have there : (if q = p then job else s.jobs q) = some job' := there
    split at there
    · exact early job' there
    · exact ordered.early q job' there
  · intro q job' there id' user purpose phase
    have there : (if q = p then job else s.jobs q) = some job' := there
    have now_ : job'.now ≤ s.clock := by
      split at there
      · exact early job' there
      · exact ordered.early q job' there
    have held : id' < s.nextSession ∧ ∀ r ∈ s.sessions, r.id = id' → job'.now < r.expiresAt ∧ job'.now ≤ r.lastSeenAt + SESSION_IDLE := by
      split at there
      · obtain ⟨r,listed,rfl,live⟩ := read job' there id' user purpose phase
        exact ⟨ordered.ids r listed,fun k listed' same => ordered.unique k listed' r listed same ▸ live⟩
      · exact ordered.touches q job' there id' user purpose phase
    refine ⟨held.1,?_⟩
    intro r listed same
    obtain ⟨r',listed',rfl⟩ := sub r listed
    obtain ⟨same',expires,seen⟩ := moved_ r'
    have before := held.2 r' listed' (same' ▸ same)
    refine ⟨expires ▸ before.1,?_⟩
    rcases seen with seen | seen
    · exact seen ▸ before.2
    · exact seen ▸ Int.le_trans now_ prompt

theorem ordered_create (ordered : Ordered s) (tenant : Nat) (user : UserId) (now : Time) : Ordered (s.create tenant user now) where
  ids r there := by
    rcases List.mem_append.mp there with old | new
    · exact Nat.lt_succ_of_lt (ordered.ids r old)
    · cases List.mem_singleton.mp new
      exact Nat.lt_succ_self _
  unique r there k there' same := by
    rcases List.mem_append.mp there with old | new <;> rcases List.mem_append.mp there' with old' | new'
    · exact ordered.unique r old k old' same
    · cases List.mem_singleton.mp new'
      exact absurd same (Nat.ne_of_lt (ordered.ids r old))
    · cases List.mem_singleton.mp new
      exact absurd same.symm (Nat.ne_of_lt (ordered.ids k old'))
    · cases List.mem_singleton.mp new
      cases List.mem_singleton.mp new'
      rfl
  early := ordered.early
  touches p job there id user purpose phase := by
    obtain ⟨bound,read⟩ := ordered.touches p job there id user purpose phase
    refine ⟨Nat.lt_succ_of_lt bound,fun r listed same => ?_⟩
    rcases List.mem_append.mp listed with old | new
    · exact read r old same
    · cases List.mem_singleton.mp new
      exact absurd same.symm (Nat.ne_of_lt bound)

theorem ordered_tell (ordered : Ordered s) (e : Event) : Ordered (s.tell e) := ⟨ordered.ids,ordered.unique,ordered.early,ordered.touches⟩

theorem ordered_next (ordered : Ordered s) {job : Job} (there : s.jobs p = some job)
    (prompt : ∀ id user purpose, job.phase = .touching id user purpose → s.clock ≤ job.now + SESSION_IDLE) : Ordered (s.next p job) := by
  have early := ordered.early p job there
  have positive : (0 : Int) ≤ SESSION_IDLE := by decide
  have now_ : s.clock ≤ s.clock + SESSION_IDLE := Int.le_add_of_nonneg_right positive
  have stays : ∀ r, (fun r : Session => r) r = r ∨ (fun r : Session => r) r = touch s.clock 0 r := fun r => .inl rfl
  have same : ∀ r ∈ s.sessions, ∃ r' ∈ s.sessions, r = r' := fun r listed => ⟨r,listed,rfl⟩
  have fewer : ∀ keep : Session → Bool, ∀ r ∈ s.sessions.filter keep, ∃ r' ∈ s.sessions, r = r' :=
    fun keep r listed => ⟨r,List.mem_of_mem_filter listed,rfl⟩
  unfold State.next
  cases phase : job.phase with
  | opening user => exact ordered_create (ordered_set (p := p) ordered _ stays same now_ (by simp) (by simp)) _ _ _
  | reading cookie purpose =>
      dsimp only
      cases found : s.find job.tenant cookie with
      | none => exact ordered_tell (ordered_set ordered _ stays same now_ (by simp) (by simp)) _
      | some r =>
          obtain ⟨listed,_,_⟩ := find_some found
          dsimp only
          split
          · exact ordered_tell (ordered_set ordered _ stays same now_ (by simpa using early) (by simp)) _
          · next live =>
              have unexpired := expired_false live
              refine ordered_tell (ordered_set ordered _ stays same now_ (by simpa using early) ?_) _
              rintro moved ⟨⟩ id user purpose' phase'
              split at phase'
              · cases phase'
                exact ⟨r,listed,rfl,unexpired.1,Int.le_of_lt unexpired.2⟩
              · cases phase'
  | deleting id => exact ordered_set ordered _ stays (fewer _) now_ (by simp) (by simp)
  | touching id user purpose =>
      refine ordered_set ordered (touch job.now id) (fun r => .inr rfl) ?_ (prompt id user purpose phase) (by simpa using early) (by simp)
      intro r listed
      obtain ⟨r',old,rfl⟩ := List.mem_map.mp listed
      exact ⟨r',old,rfl⟩
  | resolved id user purpose =>
      cases purpose with
      | visit => exact ordered_set ordered _ stays same now_ (by simp) (by simp)
      | signOut everywhere => exact ordered_tell (ordered_set ordered _ stays (fewer _) now_ (by simp) (by simp)) _

structure Lapsed (s : State) (r : Session) : Prop where
  past : r.expiresAt + SESSION_IDLE ≤ s.clock ∨ r.lastSeenAt + SESSION_IDLE + SESSION_IDLE ≤ s.clock
  left : ∀ p job, s.jobs p = some job → ∀ user purpose, job.phase = .touching r.id user purpose → job.now + SESSION_IDLE < s.clock

def Out (kept : Nat → Bool) (c : State) (id : Nat) : Prop := kept id = false ∨ id ∈ c.selected

-- With the worker and without: the same history, and the rows that are kept.
structure Follows (kept : Nat → Bool) (c i : State) : Prop where
  clock : c.clock = i.clock
  nextSession : c.nextSession = i.nextSession
  nextJob : c.nextJob = i.nextJob
  log : c.log = i.log
  sessions : c.sessions = i.sessions.filter (kept ·.id)
  gone : ∀ r ∈ i.sessions, Out kept c r.id → Lapsed i r
  old : ∀ id, Out kept c id → id < i.nextSession
  -- a request that found a row lapsed, where there was none
  jobs : ∀ p, c.jobs p = i.jobs p ∨ c.jobs p = none ∧ ∃ job id, i.jobs p = some job ∧ job.phase = .deleting id ∧ kept id = false

theorem lapsed_expired (lapsed : Lapsed s r) (prompt : s.clock ≤ now + SESSION_IDLE) : expired now r = true := by
  simp only [expired,Bool.or_eq_true,decide_eq_true_eq]
  rcases lapsed.past with past | past
  · exact .inl (Int.le_of_add_le_add_right (Int.le_trans past prompt))
  · exact .inr (Int.le_of_add_le_add_right (Int.le_trans past prompt))

theorem lapsed_set {moved : Option Job} (lapsed : Lapsed s r)
    (fresh : ∀ job', moved = some job' → ∀ user purpose, job'.phase ≠ .touching r.id user purpose) : Lapsed {s.set p moved with sessions := rows} r where
  past := lapsed.past
  left q job' there user purpose phase := by
    have there : (if q = p then moved else s.jobs q) = some job' := there
    split at there
    · exact absurd phase (fresh job' there user purpose)
    · exact lapsed.left q job' there user purpose phase

-- The row a request finds, unless the worker has deleted it.
theorem find_kept (follows : Follows kept c i) (tenant : Nat) (cookie : Option Nat) :
    c.find tenant cookie = (i.find tenant cookie).filter (kept ·.id) := by
  have same : c.find tenant cookie = i.sessions.find? fun r => kept r.id && (cookie = some r.id && r.tenant = tenant) := by
    unfold State.find
    rw [follows.sessions,List.find?_filter]
    refine congrArg (fun f => i.sessions.find? f) (funext fun r => ?_)
    simp
  rw [same]
  cases found : i.find tenant cookie with
  | none =>
      refine List.find?_eq_none.mpr fun r there => ?_
      have missing := List.find?_eq_none.mp found r there
      simp only [Bool.and_eq_true,not_and] at missing ⊢
      exact fun _ => missing
  | some r =>
      obtain ⟨_,rfl,_⟩ := find_some found
      -- the rows it looks at have the number of this one
      have only : ∀ k : Session, (kept k.id && (decide (some r.id = some k.id) && decide (k.tenant = tenant))) =
          (kept r.id && (decide (some r.id = some k.id) && decide (k.tenant = tenant))) := by
        intro k
        by_cases named : r.id = k.id <;> simp [named]
      simp only [only]
      cases keeps : kept r.id with
      | true => simpa [Option.filter,keeps,State.find] using found
      | false => simp [Option.filter,keeps]

theorem follows_set (follows : Follows kept c i) {cs is : List Session} {jc ji : Option Job} (sessions : cs = is.filter (kept ·.id))
    (sub : ∀ r ∈ is, Out kept c r.id → r ∈ i.sessions)
    (jobs : jc = ji ∨ jc = none ∧ ∃ job id, ji = some job ∧ job.phase = .deleting id ∧ kept id = false)
    (fresh : ∀ job', ji = some job' → ∀ id user purpose, job'.phase = .touching id user purpose → ¬Out kept c id) :
    Follows kept {c.set p jc with sessions := cs} {i.set p ji with sessions := is} where
  clock := follows.clock
  nextSession := follows.nextSession
  nextJob := follows.nextJob
  log := follows.log
  sessions := sessions
  gone r there out := by
    refine lapsed_set (follows.gone r (sub r there out) out) ?_
    intro job' moved user purpose phase
    exact fresh job' moved r.id user purpose phase out
  old := follows.old
  jobs q := by
    simp only [set_jobs]
    split
    · exact jobs
    · exact follows.jobs q

theorem follows_tell (follows : Follows kept c i) (e : Event) : Follows kept (c.tell e) (i.tell e) :=
  ⟨follows.clock,follows.nextSession,follows.nextJob,congrArg (· ++ [e]) follows.log,follows.sessions,
    fun r there out => ⟨(follows.gone r there out).past,(follows.gone r there out).left⟩,follows.old,follows.jobs⟩

theorem follows_create (follows : Follows kept c i) (tenant : Nat) (user : UserId) (now : Time) :
    Follows kept (c.create tenant user now) (i.create tenant user now) := by
  have fresh : ¬Out kept c i.nextSession := fun out => Nat.lt_irrefl _ (follows.old _ out)
  have new : kept i.nextSession = true := by
    cases keeps : kept i.nextSession with
    | true => rfl
    | false => exact absurd (.inl keeps) fresh
  refine ⟨follows.clock,congrArg (· + 1) follows.nextSession,follows.nextJob,?_,?_,?_,?_,follows.jobs⟩
  · simp [State.create,follows.log,follows.nextSession]
  · simp [State.create,follows.sessions,follows.nextSession,new]
  · intro r there out
    rcases List.mem_append.mp there with old | added
    · exact ⟨(follows.gone r old out).past,(follows.gone r old out).left⟩
    · cases List.mem_singleton.mp added
      exact absurd out fresh
  · intro id out
    exact Nat.lt_succ_of_lt (follows.old id out)

theorem follows_begin (follows : Follows kept c i) (job : Job) (fresh : ∀ id user purpose, job.phase ≠ .touching id user purpose) :
    Follows kept (c.begin job) (i.begin job) where
  clock := follows.clock
  nextSession := follows.nextSession
  nextJob := congrArg (· + 1) follows.nextJob
  log := follows.log
  sessions := follows.sessions
  gone r there out := by
    have lapsed := follows.gone r there out
    refine ⟨lapsed.past,fun q job' there user purpose phase => ?_⟩
    have there : (if q = i.nextJob then some job else i.jobs q) = some job' := there
    split at there
    · cases there
      exact absurd phase (fresh r.id user purpose)
    · exact lapsed.left q job' there user purpose phase
  old := follows.old
  jobs q := by
    have same := follows.nextJob
    simp only [State.begin,set_jobs,same]
    split
    · exact .inl rfl
    · exact follows.jobs q

theorem touching_kept (follows : Follows kept c i) {job : Job} (there : i.jobs p = some job) (prompt : i.clock ≤ job.now + SESSION_IDLE)
    (phase : job.phase = .touching id user purpose) (r : Session) (listed : r ∈ i.sessions) (named : r.id = id) : ¬Out kept c r.id := by
  intro out
  subst named
  exact Int.not_lt.mpr prompt ((follows.gone r listed out).left p job there user purpose phase)

theorem follows_next (follows : Follows kept c i) {job : Job} (running : i.jobs p = some job)
    (prompt : i.clock ≤ job.now + SESSION_IDLE) : Follows kept (c.next p job) (i.next p job) := by
  have all : ∀ r ∈ i.sessions, Out kept c r.id → r ∈ i.sessions := fun r listed _ => listed
  have fewer : ∀ keep : Session → Bool, ∀ r ∈ i.sessions.filter keep, Out kept c r.id → r ∈ i.sessions :=
    fun keep r listed _ => List.mem_of_mem_filter listed
  have commutes : ∀ keep : Session → Bool, c.sessions.filter keep = (i.sessions.filter keep).filter (kept ·.id) := by
    intro keep
    rw [follows.sessions,List.filter_filter,List.filter_filter]
    exact List.filter_congr fun r _ => Bool.and_comm _ _
  unfold State.next
  cases phase : job.phase with
  | opening user =>
      have stopped : Follows kept (c.set p none) (i.set p none) := follows_set follows follows.sessions all (.inl rfl) (by simp)
      exact follows_create stopped _ _ _
  | reading cookie purpose =>
      dsimp only
      rw [find_kept follows]
      cases found : i.find job.tenant cookie with
      | none => exact follows_tell (follows_set follows follows.sessions all (.inl rfl) (by simp)) _
      | some r =>
          obtain ⟨listed,_,_⟩ := find_some found
          have lapsed : Out kept c r.id → expired job.now r = true := fun out => lapsed_expired (follows.gone r listed out) prompt
          cases keeps : kept r.id with
          | false =>
              simp only [Option.filter,keeps,lapsed (.inl keeps)]
              exact follows_tell (follows_set follows follows.sessions all (.inr ⟨rfl,_,r.id,rfl,rfl,keeps⟩) (by simp)) _
          | true =>
              simp only [Option.filter,keeps,if_true]
              split
              · exact follows_tell (follows_set follows follows.sessions all (.inl rfl) (by simp)) _
              · next live =>
                  refine follows_tell (follows_set follows follows.sessions all (.inl rfl) ?_) _
                  rintro moved ⟨⟩ id user purpose' phase'
                  split at phase'
                  · cases phase'
                    exact fun out => live (lapsed out)
                  · cases phase'
  | deleting id => exact follows_set follows (commutes _) (fewer _) (.inl rfl) (by simp)
  | touching id user purpose =>
      refine follows_set follows ?_ ?_ (.inl rfl) (by simp)
      · rw [follows.sessions,List.filter_map]
        exact congrArg _ (List.filter_congr fun r _ => by simp)
      · intro r there out
        obtain ⟨r,old,rfl⟩ := List.mem_map.mp there
        rw [touch_id] at out
        have other : r.id ≠ id := fun named => touching_kept follows running prompt phase r old named out
        rwa [touch_fixed other]
  | resolved id user purpose =>
      cases purpose with
      | visit => exact follows_set follows follows.sessions all (.inl rfl) (by simp)
      | signOut everywhere => exact follows_tell (follows_set follows (commutes _) (fewer _) (.inl rfl) (by simp)) _

theorem ordered_step (ordered : Ordered s) (action : Action)
    (prompt : ∀ p job, action = .next p → s.jobs p = some job → ∀ id user purpose, job.phase = .touching id user purpose →
      s.clock ≤ job.now + SESSION_IDLE) : Ordered (step s action) := by
  have stays : ∀ r, (fun r : Session => r) r = r ∨ (fun r : Session => r) r = touch s.clock 0 r := fun r => .inl rfl
  have positive : (0 : Int) ≤ SESSION_IDLE := by decide
  have now_ : s.clock ≤ s.clock + SESSION_IDLE := Int.le_add_of_nonneg_right positive
  cases action with
  | wait time =>
      have later : s.clock ≤ s.clock + (time : Int) := Int.le_add_of_nonneg_right (Int.natCast_nonneg time)
      exact ⟨ordered.ids,ordered.unique,fun p job there => Int.le_trans (ordered.early p job there) later,ordered.touches⟩
  | signIn tenant user => exact ordered_begin ordered _ rfl nofun
  | request tenant cookie purpose => exact ordered_begin ordered _ rfl nofun
  | next p =>
      unfold State.step
      dsimp only
      cases there : s.jobs p with
      | none => exact ordered
      | some job => exact ordered_next ordered there (prompt p job rfl there)
  | abort p => exact ordered_set ordered _ stays (fun r listed => ⟨r,listed,rfl⟩) now_ (by simp) (by simp)
  | select => exact ⟨ordered.ids,ordered.unique,ordered.early,ordered.touches⟩
  | delete =>
      have sub : ∀ r ∈ s.sessions.filter (·.id ∉ s.selected), r ∈ s.sessions := fun r there => List.mem_of_mem_filter there
      exact ⟨fun r there => ordered.ids r (sub r there),fun r there k there' => ordered.unique r (sub r there) k (sub k there'),
        ordered.early,fun p job there id user purpose phase =>
          ⟨(ordered.touches p job there id user purpose phase).1,
            fun r listed => (ordered.touches p job there id user purpose phase).2 r (sub r listed)⟩⟩

theorem set_none (ended : s.jobs p = none) : s.set p none = s := by
  unfold State.set
  congr
  funext q
  split
  · next same => rw [same,ended]
  · rfl

theorem follows_deleted (follows : Follows kept c i) {job : Job} (ended : c.jobs p = none) (phase : job.phase = .deleting id)
    (deleted : kept id = false) : Follows kept c (i.next p job) := by
  have moved : Follows kept {c.set p none with sessions := c.sessions} {i.set p none with sessions := i.sessions.filter (·.id ≠ id)} := by
    refine follows_set follows ?_ (fun r there _ => List.mem_of_mem_filter there) (.inl rfl) (by simp)
    rw [follows.sessions,List.filter_filter]
    refine List.filter_congr fun r _ => ?_
    by_cases named : r.id = id <;> simp [named,deleted]
  have same : {c.set p none with sessions := c.sessions} = c := set_none ended
  rw [same] at moved
  unfold State.next
  simpa only [phase] using moved

theorem due_past {expires seen now late : Int} (idle : Int) (due : expires < now - late - (idle + idle) ∨ seen < now - late - (idle + idle) - idle)
    (late_ : 0 ≤ late) (idle_ : 0 ≤ idle) :
    (expires + idle ≤ now ∨ seen + idle + idle ≤ now) ∧ ∀ read, read < expires → read ≤ seen + idle → read + idle < now := by
  refine ⟨by omega,fun read _ _ => by omega⟩

theorem follows_select (follows : Follows kept c i) (ordered : Ordered i) (late : Nat) :
    Follows kept (step c (.select late)) i where
  clock := follows.clock
  nextSession := follows.nextSession
  nextJob := follows.nextJob
  log := follows.log
  sessions := follows.sessions
  gone r there out := by
    rcases out with deleted | listed
    · exact follows.gone r there (.inl deleted)
    · obtain ⟨k,picked,named⟩ := List.mem_map.mp listed
      have due := Sweeps.selected_due picked
      have old : k ∈ i.sessions := by
        have kept_ : k ∈ c.sessions := Sweeps.selected_sublist.subset picked
        rw [follows.sessions] at kept_
        exact List.mem_of_mem_filter kept_
      cases ordered.unique k old r there named
      simp only [deadSessions,Bool.or_eq_true,decide_eq_true_eq,follows.clock] at due
      have past := due_past SESSION_IDLE due (Int.natCast_nonneg late) (by decide)
      refine ⟨past.1,fun p job touching user purpose phase => ?_⟩
      obtain ⟨_,read⟩ := ordered.touches p job touching r.id user purpose phase
      exact past.2 job.now (read r there rfl).1 (read r there rfl).2
  old id out := by
    rcases out with deleted | listed
    · exact follows.old id (.inl deleted)
    · obtain ⟨k,picked,rfl⟩ := List.mem_map.mp listed
      have kept_ : k ∈ c.sessions := Sweeps.selected_sublist.subset picked
      rw [follows.sessions] at kept_
      exact ordered.ids k (List.mem_of_mem_filter kept_)
  jobs := follows.jobs

theorem follows_delete (follows : Follows kept c i) : Follows (fun id => kept id && id ∉ c.selected) (step c .delete) i where
  clock := follows.clock
  nextSession := follows.nextSession
  nextJob := follows.nextJob
  log := follows.log
  sessions := by
    unfold State.step
    rw [follows.sessions,List.filter_filter]
    exact List.filter_congr fun r _ => Bool.and_comm _ _
  gone r there out := by
    refine follows.gone r there ?_
    simpa [Out,State.step,or_iff_not_imp_left] using out
  old id out := by
    refine follows.old id ?_
    simpa [Out,State.step,or_iff_not_imp_left] using out
  jobs p := by
    rcases follows.jobs p with same | ⟨ended,job,id,there,phase,deleted⟩
    · exact .inl same
    · exact .inr ⟨ended,job,id,there,phase,by simp [deleted]⟩

theorem follows_wait (follows : Follows kept c i) (time : Nat) : Follows kept (step c (.wait time)) (step i (.wait time)) where
  clock := congrArg (· + (time : Int)) follows.clock
  nextSession := follows.nextSession
  nextJob := follows.nextJob
  log := follows.log
  sessions := follows.sessions
  gone r there out := by
    have later : i.clock ≤ i.clock + (time : Int) := Int.le_add_of_nonneg_right (Int.natCast_nonneg time)
    have lapsed := follows.gone r there out
    refine ⟨lapsed.past.imp (fun past => Int.le_trans past later) fun past => Int.le_trans past later,?_⟩
    exact fun p job touching user purpose phase => Int.lt_of_lt_of_le (lapsed.left p job touching user purpose phase) later
  old := follows.old
  jobs := follows.jobs

def unprunedStep (s : State) (action : Action) : State := if action.unpruned then step s action else s

theorem follows_step (follows : Follows kept c i) (ordered : Ordered i) (action : Action) (prompt_ : prompt c action = true) :
    ∃ kept', Follows kept' (step c action) (unprunedStep i action) ∧ Ordered (unprunedStep i action) := by
  have all : ∀ r ∈ i.sessions, Out kept c r.id → r ∈ i.sessions := fun r listed _ => listed
  cases action with
  | wait time => exact ⟨kept,follows_wait follows time,ordered_step ordered (.wait time) nofun⟩
  | signIn tenant user =>
      refine ⟨kept,?_,ordered_step ordered (.signIn tenant user) nofun⟩
      change Follows kept (c.begin ⟨tenant,c.clock,_⟩) (i.begin ⟨tenant,i.clock,_⟩)
      rw [follows.clock]
      exact follows_begin follows _ nofun
  | request tenant cookie purpose =>
      refine ⟨kept,?_,ordered_step ordered (.request tenant cookie purpose) nofun⟩
      change Follows kept (c.begin ⟨tenant,c.clock,_⟩) (i.begin ⟨tenant,i.clock,_⟩)
      rw [follows.clock]
      exact follows_begin follows _ nofun
  | next p =>
      change ∃ kept', Follows kept' (match c.jobs p with | some job => c.next p job | none => c) (step i (.next p)) ∧ Ordered (step i (.next p))
      rcases follows.jobs p with same | ⟨ended,job,id,there,phase,deleted⟩
      · cases running : i.jobs p with
        | none =>
            rw [running] at same
            have idle : step i (.next p) = i := by simp [State.step,running]
            rw [same,idle]
            exact ⟨kept,follows,ordered⟩
        | some job =>
            rw [running] at same
            have swift : i.clock ≤ job.now + SESSION_IDLE := by simpa [prompt,same,follows.clock] using prompt_
            have moved : step i (.next p) = i.next p job := by simp [State.step,running]
            rw [same,moved]
            exact ⟨kept,follows_next follows running swift,ordered_next ordered running fun _ _ _ _ => swift⟩
      · have moved : step i (.next p) = i.next p job := by simp [State.step,there]
        rw [ended,moved]
        refine ⟨kept,follows_deleted follows ended phase deleted,ordered_next ordered there ?_⟩
        intro id' user purpose phase'
        cases phase.symm.trans phase'
  | abort p =>
      refine ⟨kept,?_,ordered_step ordered (.abort p) nofun⟩
      exact follows_set follows follows.sessions all (.inl rfl) (by simp)
  | select late => exact ⟨kept,follows_select follows ordered late,ordered⟩
  | delete => exact ⟨_,follows_delete follows,ordered⟩

theorem follows_run (follows : Follows kept c i) (ordered : Ordered i) (actions : List Action)
    (prompt_ : Runs.Along step (fun s action => prompt s action = true) c actions) :
    ∃ kept', Follows kept' (Runs.run step c actions) (Runs.run step i (actions.filter (·.unpruned))) := by
  induction actions generalizing c i kept with
  | nil => exact ⟨kept,follows⟩
  | cons action rest ih =>
      obtain ⟨kept',follows',ordered'⟩ := follows_step follows ordered action prompt_.1
      obtain ⟨final,left⟩ := ih follows' ordered' prompt_.2
      refine ⟨final,?_⟩
      unfold unprunedStep at left
      cases listed : action.unpruned with
      | true => simpa [List.filter_cons,listed,Runs.run] using left
      | false => simpa [List.filter_cons,listed,Runs.run] using left

theorem start_ordered (clock : Time) : Ordered (start clock) := ⟨nofun,nofun,nofun,nofun⟩

theorem start_follows (clock : Time) : Follows (fun _ => true) (start clock) (start clock) := by
  refine ⟨rfl,rfl,rfl,rfl,rfl,nofun,?_,fun _ => .inl rfl⟩
  intro id out
  simp [Out,start] at out

end pruning

-- Every owner answered has an open, recently used session, however the requests
-- interleave; and where none of them takes half a day, nobody sees what the worker deletes.
theorem sessions_justified (clock : Time) (actions : List Action) :
    let left := Runs.run step (start clock) actions
    Justified left.log ∧ (Runs.Along step (fun s action => prompt s action = true) (start clock) actions →
      (Runs.run step (start clock) (actions.filter (·.unpruned))).log = left.log) := by
  intro left
  have kept : ∀ s action, Told s → Told (step s action) := fun s action told => told_step told action
  have told : Told left := Runs.run_invariant step kept (start_told clock) actions
  refine ⟨told.log,fun swift => ?_⟩
  obtain ⟨_,follows⟩ := follows_run (start_follows clock) (start_ordered clock) actions swift
  exact follows.log.symm

-- A session that the worker deletes before its owner comes back.
def lateVisit : List Action :=
  [.signIn 1 "ada",.next 0,.wait (48*3600*1000000),.select 0,.delete,.request 1 (some 0) .visit,.next 1]

theorem late_visit_unseen : (Runs.run step (start 0) (lateVisit.filter (·.unpruned))).log = (Runs.run step (start 0) lateVisit).log :=
  (sessions_justified 0 lateVisit).2 (by decide)

end Osds.Directory.OwnerSessions

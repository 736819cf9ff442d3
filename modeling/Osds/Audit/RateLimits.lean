import Osds.Directory.Projection
import Osds.Lib.Fallible
import Osds.Lib.Lists
import Osds.Lib.Runs
import Mathlib.Logic.Function.Basic
import Mathlib.Tactic.Linarith
import Mathlib.Tactic.Ring

namespace Osds.Audit.RateLimits
open Directory

def SECOND : Time := 1000000

def RATE_LIMIT_KEEP : Time := 48*3600*SECOND

structure Rule where
  name : String
  limit : Nat
  window : Nat
  deriving DecidableEq

structure Verdict where
  allowed : Bool
  rule : Option String
  retryAfter : Int
  firstBlock : Bool
  deriving DecidableEq, Repr

structure Group where
  kind : String
  value : Option String
  rules : List Rule

structure Key where
  rule : String
  subject : String
  start : Time
  deriving DecidableEq

-- The counts; a row that is not there reads 0.
abbrev Counters := Key → Nat

def COUNT_MAX : Nat := 2147483647

inductive Failure where
  | zeroDivisionError
  | dataError
  deriving DecidableEq, Repr

structure Library where
  ipBucket : String → String
  digest : String → String → String

def subjectHash (env : Library) (kind value : String) : String :=
  env.digest kind (if kind = "ip" then env.ipBucket value else value)

-- int(now.timestamp()) truncates towards the epoch.
def timestamp (now : Time) : Int := if 0 ≤ now then now / SECOND else -(-now / SECOND)

def seconds (window : Nat) : Int := (window : Int) / SECOND

def windowStart (now : Time) (window : Nat) : Except Failure Time :=
  if seconds window = 0 then .error .zeroDivisionError
  else .ok (timestamp now / seconds window * seconds window * SECOND)

def ceil (span : Int) : Int := -(-span / SECOND)

def hit (counters : Counters) (rule : Rule) (digest : String) (now : Time) :
    Except Failure (Nat × Key × Time × Counters) := do
  let start ← windowStart now rule.window
  let key := ⟨rule.name,digest,start⟩
  if COUNT_MAX ≤ counters key then .error .dataError
  else pure (counters key+1,key,start+rule.window,Function.update counters key (counters key+1))

def blocked (rule : Rule) (count : Nat) (ends now : Time) : Verdict :=
  {allowed := false
   rule := some rule.name
   retryAfter := max 1 (ceil (ends-now))
   firstBlock := count = rule.limit+1}

def allowed : Verdict := ⟨true,none,0,false⟩

def plan (env : Library) (checks : List Group) : List (Rule × String) :=
  checks.flatMap fun g =>
    match g.value with
    | none => []
    | some value =>
        if value = "" ∨ (g.kind = "ip" ∧ env.ipBucket value = "") then []
        else g.rules.map fun rule => (rule,subjectHash env g.kind value)

def checkFrom (now : Time) : Counters → List (Rule × String) → Except Failure Verdict × Counters
  | counters,[] => (.ok allowed,counters)
  | counters,(rule,digest) :: rest =>
      match hit counters rule digest now with
      | .error f => (.error f,counters)
      | .ok (count,_,ends,charged) =>
          if rule.limit < count then (.ok (blocked rule count ends now),charged) else checkFrom now charged rest

def check (env : Library) (counters : Counters) (checks : List Group) (now : Time) :
    Except Failure Verdict × Counters :=
  checkFrom now counters (plan env checks)

-- A row that was counted up, by a call under one of its rules.
structure Hit where
  rule : Rule
  key : Key
  count : Nat

structure Call where
  now : Time
  checks : List Group
  plan : List (Rule × String)
  charged : List Hit
  rest : List (Rule × String)
  answer : Option (Except Failure Verdict)

-- One tenant's counters, the calls begun so far, and the clocks of the pruning
-- runs that have deleted.
structure State where
  counters : Counters
  calls : List Call
  pruned : List Time

inductive Action where
  | begin_ (now : Time) (checks : List Group)
  -- the call's next statement
  | hit (i : Nat)
  -- a chunk of the rows that are due
  | prune (now : Time) (chunk : List Key)

def charge (counters : Counters) (c : Call) : Counters × Call :=
  match c.answer,c.rest with
  | some _,_ => (counters,c)
  | none,[] => (counters,{c with answer := some (.ok allowed)})
  | none,(rule,digest) :: rest =>
      match hit counters rule digest c.now with
      | .error f => (counters,{c with answer := some (.error f)})
      | .ok (count,key,ends,charged) =>
          let charge := {c with charged := c.charged ++ [⟨rule,key,count⟩],rest := rest}
          if rule.limit < count then (charged,{charge with answer := some (.ok (blocked rule count ends c.now))})
          else (charged,charge)

def dead (now : Time) (key : Key) : Bool := key.start < now-RATE_LIMIT_KEEP

def prune (counters : Counters) (now : Time) (chunk : List Key) : Counters :=
  fun key => if key ∈ chunk ∧ dead now key then 0 else counters key

def step (env : Library) (s : State) : Action → State
  | .begin_ now checks => {s with calls := s.calls ++ [⟨now,checks,plan env checks,[],plan env checks,none⟩]}
  | .hit i =>
      match s.calls[i]? with
      | none => s
      | some c =>
          let (counters,c) := charge s.counters c
          {s with counters := counters,calls := s.calls.set i c}
  | .prune now chunk => {s with counters := prune s.counters now chunk,pruned := now :: s.pruned}

def initial : State := ⟨fun _ => 0,[],[]⟩

section windows

variable {now start : Time} {window : Nat}

theorem windowStart_exact : windowStart now window = .ok start ↔
    seconds window ≠ 0 ∧ start = timestamp now / seconds window * seconds window * SECOND := by
  unfold windowStart
  split
  · next zero => exact iff_of_false nofun (fun both => both.1 zero)
  · next some =>
      constructor
      · intro equal
        exact ⟨some,(Except.ok.inj equal).symm⟩
      · intro both
        rw [both.2]

theorem le_timestamp {n : Int} (reached : n * SECOND ≤ now) : n ≤ timestamp now := by
  unfold timestamp
  unfold SECOND at reached ⊢
  split <;> omega

theorem lt_timestamp {now : Int} : now < (timestamp now + 1) * SECOND := by
  unfold timestamp SECOND
  split <;> omega

theorem le_ceil {span : Int} : span ≤ ceil span * SECOND := by
  unfold ceil SECOND
  omega

theorem retry_later (began : windowStart now window = .ok start) :
    ∃ later, windowStart (now + max 1 (ceil (start+window-now)) * SECOND) window = .ok later ∧ start < later := by
  obtain ⟨some,equal⟩ := windowStart_exact.mp began
  refine ⟨_,windowStart_exact.mpr ⟨some,rfl⟩,?_⟩
  have length : 0 < seconds window := by
    have above : 0 ≤ seconds window := by unfold seconds SECOND; omega
    exact lt_of_le_of_ne above (Ne.symm some)
  have fits : seconds window * SECOND ≤ window := by unfold seconds SECOND; omega
  have waited : ceil (start+window-now) * SECOND ≤ max 1 (ceil (start+window-now)) * SECOND :=
    Int.mul_le_mul_of_nonneg_right (Int.le_max_right ..) (by decide)
  have rounded : start+window-now ≤ ceil (start+window-now) * SECOND := le_ceil
  -- the seconds reach the end of the window, the first second of the next
  have reached : (timestamp now / seconds window + 1) * seconds window * SECOND ≤
      now + max 1 (ceil (start+window-now)) * SECOND := by
    have next : (timestamp now / seconds window + 1) * seconds window * SECOND = start + seconds window * SECOND := by
      rw [equal]
      ring
    rw [next]
    linarith
  have later := le_timestamp reached
  have index : timestamp now / seconds window + 1 ≤
      timestamp (now + max 1 (ceil (start+window-now)) * SECOND) / seconds window :=
    (Int.le_ediv_iff_mul_le length).mpr later
  have grown : timestamp now / seconds window * seconds window <
      timestamp (now + max 1 (ceil (start+window-now)) * SECOND) / seconds window * seconds window :=
    Int.mul_lt_mul_of_pos_right (Int.lt_of_add_one_le index) length
  calc start = timestamp now / seconds window * seconds window * SECOND := equal
    _ < _ := Int.mul_lt_mul_of_pos_right grown (by decide)

theorem live_kept {key : Key} (live : now - 24*3600*SECOND ≤ key.start + (window : Int))
    (short : (window : Int) ≤ 24*3600*SECOND) : dead now key = false := by
  unfold dead RATE_LIMIT_KEEP
  refine decide_eq_false ?_
  linarith

theorem windowStart_open (began : windowStart now window = .ok start) : now < start + (window : Int) := by
  obtain ⟨some,equal⟩ := windowStart_exact.mp began
  have length : 0 < seconds window := by
    have above : 0 ≤ seconds window := by unfold seconds SECOND; omega
    exact lt_of_le_of_ne above (Ne.symm some)
  have fits : seconds window * SECOND ≤ window := by unfold seconds SECOND; omega
  have second : now < (timestamp now + 1) * SECOND := lt_timestamp
  have index : timestamp now + 1 ≤ (timestamp now / seconds window + 1) * seconds window :=
    Int.lt_ediv_add_one_mul_self _ length
  have scaled : (timestamp now + 1) * SECOND ≤ (timestamp now / seconds window + 1) * seconds window * SECOND :=
    Int.mul_le_mul_of_nonneg_right index (by decide)
  have next : (timestamp now / seconds window + 1) * seconds window * SECOND = start + seconds window * SECOND := by
    rw [equal]
    ring
  linarith

end windows

def within (h : Hit) : Prop := h.count ≤ h.rule.limit

def what (h : Hit) : Rule × String := (h.rule,h.key.subject)

def Call.block (c : Call) : Option (Key × Verdict) :=
  match c.answer,c.charged.getLast? with
  | some (.ok v),some h => if v.allowed then none else some (h.key,v)
  | _,_ => none

def Call.first (c : Call) (key : Key) : Prop := ∃ v, c.block = some (key,v) ∧ v.firstBlock = true

def State.charged (s : State) : List Hit := s.calls.flatMap (·.charged)

-- What the limiter promises, of everything that has happened.
structure Guarded (book : String → Rule) (env : Library) (s : State) : Prop where
  -- a call that is allowed was counted under each rule of its checks, within the limit
  passed : ∀ c ∈ s.calls, ∀ v, c.answer = some (.ok v) → v.allowed = true → ∀ g ∈ c.checks, ∀ value,
    g.value = some value → value ≠ "" → ¬(g.kind = "ip" ∧ env.ipBucket value = "") → ∀ rule ∈ g.rules,
      ∃ h ∈ c.charged, what h = (rule,subjectHash env g.kind value) ∧ h.key.rule = rule.name ∧
        windowStart c.now rule.window = .ok h.key.start ∧ within h
  -- at most `limit` hits of a rule and subject are allowed in one window
  limited : ∀ key, (s.charged.filter fun h => h.key = key ∧ h.count ≤ h.rule.limit).length ≤ (book key.rule).limit
  -- one call of those a counter stopped is told it was the first
  first : ∀ key, (∃ c ∈ s.calls, ∃ v, c.block = some (key,v)) →
    ∃ i : Nat, (∃ c, s.calls[i]? = some c ∧ c.first key) ∧ ∀ (j : Nat) c, s.calls[j]? = some c → c.first key → j = i
  -- a call that was stopped has charged the rules up to the one that did
  stops : ∀ c ∈ s.calls, ∀ key v, c.block = some (key,v) → ∃ before h after,
    c.plan = before.map what ++ what h :: after ∧ c.charged = before ++ [h] ∧ h.key = key ∧
      v.rule = some h.rule.name ∧ ∀ b ∈ before, within b
  -- and may come back in a later window
  retry : ∀ c ∈ s.calls, ∀ key v, c.block = some (key,v) → ∃ later,
    windowStart (c.now + v.retryAfter * SECOND) (book key.rule).window = .ok later ∧ key.start < later
  -- a pruning run leaves the counters of the windows that are open
  kept : ∀ now chunk, ∀ key : Key, ((book key.rule).window : Int) ≤ 24*3600*SECOND →
    now < key.start + ((book key.rule).window : Int) → prune s.counters now chunk key = s.counters key

def Call.next (c : Call) : Option Key :=
  match c.answer,c.rest with
  | none,(rule,digest) :: _ =>
      match windowStart c.now rule.window with
      | .ok start => some ⟨rule.name,digest,start⟩
      | .error _ => none
  | _,_ => none

-- No call counts in a window that a pruning run has taken for dead.
def Timely (s : State) : Action → Prop
  | .hit i => ∀ c ∈ s.calls[i]?, ∀ key ∈ c.next, ∀ t ∈ s.pruned, dead t key = false
  | _ => True

def Named (book : String → Rule) : Action → Prop
  | .begin_ _ checks => ∀ g ∈ checks, ∀ rule ∈ g.rules, book rule.name = rule
  | _ => True

def Orderly (book : String → Rule) (s : State) (action : Action) : Prop := Timely s action ∧ Named book action

instance (s : State) (action : Action) : Decidable (Timely s action) := by
  cases action <;> unfold Timely <;> infer_instance

instance (book : String → Rule) (action : Action) : Decidable (Named book action) := by
  cases action <;> unfold Named <;> infer_instance

instance (book : String → Rule) (s : State) (action : Action) : Decidable (Orderly book s action) :=
  inferInstanceAs (Decidable (_ ∧ _))

theorem hit_exact : hit counters rule digest now = .ok (count,key,ends,charged) ↔
    ∃ start, windowStart now rule.window = .ok start ∧ key = ⟨rule.name,digest,start⟩ ∧ counters key < COUNT_MAX ∧
      count = counters key+1 ∧ ends = start+rule.window ∧ charged = Function.update counters key count := by
  unfold hit
  rw [Fallible.bind_exact]
  constructor
  · intro counted
    obtain ⟨start,began,rest⟩ := counted
    dsimp only at rest
    split at rest
    · cases rest
    · next room =>
        cases rest
        exact ⟨start,began,rfl,Nat.lt_of_not_le room,rfl,rfl,rfl⟩
  · intro counted
    obtain ⟨start,began,rfl,room,rfl,rfl,rfl⟩ := counted
    exact ⟨start,began,if_neg (Nat.not_le_of_lt room)⟩

-- What the next statement of a call does: nothing, or it ends the call, or it
-- counts a hit and ends the call if that is one too many.
inductive Charged (counters : Counters) (c : Call) : Counters × Call → Prop where
  | done (answer : Except Failure Verdict) (answered : c.answer = some answer) : Charged counters c (counters,c)
  | passed (unanswered : c.answer = none) (done : c.rest = []) :
      Charged counters c (counters,{c with answer := some (.ok allowed)})
  | failed (f : Failure) (unanswered : c.answer = none) :
      Charged counters c (counters,{c with answer := some (.error f)})
  | counted (rule : Rule) (digest : String) (rest : List (Rule × String)) (key : Key) (ends : Time)
      (unanswered : c.answer = none) (due : c.rest = (rule,digest) :: rest)
      (began : windowStart c.now rule.window = .ok key.start) (named : key.rule = rule.name)
      (of_ : key.subject = digest) (until_ : ends = key.start+rule.window) :
      Charged counters c (Function.update counters key (counters key+1),
        {c with
          charged := c.charged ++ [⟨rule,key,counters key+1⟩]
          rest := rest
          answer := if rule.limit < counters key+1 then some (.ok (blocked rule (counters key+1) ends c.now)) else none})

theorem charge_charged (counters : Counters) (c : Call) : Charged counters c (charge counters c) := by
  unfold charge
  split
  · next answered => exact .done _ answered
  · next unanswered done => exact .passed unanswered done
  · next rule digest rest unanswered due =>
      split
      · next f _ => exact .failed f unanswered
      · next count key ends charged counted =>
          obtain ⟨start,began,rfl,_,rfl,rfl,rfl⟩ := hit_exact.mp counted
          have charges := @Charged.counted counters c rule digest rest ⟨rule.name,digest,start⟩ _ unanswered due began
            rfl rfl rfl
          dsimp only
          split
          · next above =>
              rw [if_pos above] at charges
              exact charges
          · next under =>
              rw [if_neg under,← unanswered] at charges
              exact charges

theorem next_due {c : Call} (unanswered : c.answer = none) (due : c.rest = (rule,digest) :: rest)
    (began : windowStart c.now rule.window = .ok key.start) (named : key.rule = rule.name) (of_ : key.subject = digest) :
    c.next = some key := by
  unfold Call.next
  rw [unanswered,due]
  dsimp only
  rw [began]
  dsimp only
  rw [← named,← of_]

def Halted (c : Call) : Prop :=
  ((∀ h ∈ c.charged, within h) ∧ ∀ v, c.answer = some (.ok v) → v.allowed = true) ∨
    ∃ before h, c.charged = before ++ [h] ∧ (∀ b ∈ before, within b) ∧ h.rule.limit < h.count ∧
      c.answer = some (.ok (blocked h.rule h.count (h.key.start+h.rule.window) c.now))

structure Call.Sound (book : String → Rule) (env : Library) (c : Call) : Prop where
  checked : c.plan = RateLimits.plan env c.checks
  passed : ∀ v, c.answer = some (.ok v) → v.allowed = true → c.rest = []
  planned : c.plan = c.charged.map what ++ c.rest
  keyed : ∀ h ∈ c.charged, windowStart c.now h.rule.window = .ok h.key.start ∧ h.key.rule = h.rule.name
  named : ∀ x ∈ c.plan, book x.1.name = x.1
  halted : Halted c

theorem Call.Sound.within {c : Call} (sound : c.Sound book env) (unanswered : c.answer = none) :
    ∀ h ∈ c.charged, within h := by
  rcases sound.halted with ⟨all,_⟩ | ⟨_,_,_,_,_,answered⟩
  · exact all
  · rw [unanswered] at answered
    cases answered

theorem begun_sound (env : Library) (named : Named book (.begin_ now checks)) :
    Call.Sound book env ⟨now,checks,plan env checks,[],plan env checks,none⟩ := by
  refine ⟨rfl,fun _ answered => (Option.some_ne_none _ answered.symm).elim,rfl,List.forall_mem_nil _,?_,
    .inl ⟨List.forall_mem_nil _,fun _ answered => (Option.some_ne_none _ answered.symm).elim⟩⟩
  intro x there
  obtain ⟨g,listed,there⟩ := List.mem_flatMap.mp there
  split at there
  · cases there
  · split at there
    · cases there
    · obtain ⟨rule,own,rfl⟩ := List.mem_map.mp there
      exact named g listed rule own

theorem charged_sound (moved : Charged counters c (after,c')) (sound : c.Sound book env) : c'.Sound book env := by
  cases moved with
  | done answer answered => exact sound
  | passed unanswered done =>
      refine ⟨sound.checked,fun _ _ _ => done,sound.planned,sound.keyed,sound.named,.inl ⟨sound.within unanswered,?_⟩⟩
      intro v answered
      cases answered
      rfl
  | failed f unanswered =>
      refine ⟨sound.checked,?_,sound.planned,sound.keyed,sound.named,.inl ⟨sound.within unanswered,?_⟩⟩
      all_goals
        intro v answered
        cases answered
  | counted rule digest rest key ends unanswered due began named of_ until_ =>
      subst of_ until_
      have before := sound.within unanswered
      refine ⟨sound.checked,?_,?_,?_,sound.named,?_⟩
      · intro v answered passes
        split at answered
        · cases answered
          cases passes
        · cases answered
      · rw [sound.planned,due,List.map_append,List.append_assoc]
        rfl
      · intro h there
        rcases List.mem_append.mp there with old | new
        · exact sound.keyed h old
        · rw [List.mem_singleton.mp new]
          exact ⟨began,named⟩
      · by_cases above : rule.limit < counters key+1
        · exact .inr ⟨c.charged,_,rfl,before,above,by rw [if_pos above]⟩
        · refine .inl ⟨?_,by rw [if_neg above]; nofun⟩
          intro h there
          rcases List.mem_append.mp there with old | new
          · exact before h old
          · rw [List.mem_singleton.mp new]
            exact Nat.le_of_not_lt above

structure Sound (book : String → Rule) (env : Library) (s : State) : Prop where
  calls : ∀ c ∈ s.calls, c.Sound book env
  positive : ∀ h ∈ s.charged, 1 ≤ h.count
  unique : (s.charged.map fun h => (h.key,h.count)).Nodup
  -- the counts of a counter have no gap
  dense : ∀ h ∈ s.charged, ∀ n, 1 ≤ n → n ≤ h.count → ∃ h' ∈ s.charged, h'.key = h.key ∧ h'.count = n
  -- and where nothing was pruned the row has the last of them
  live : ∀ key, (∀ t ∈ s.pruned, dead t key = false) →
    (∀ h ∈ s.charged, h.key = key → h.count ≤ s.counters key) ∧
      (0 < s.counters key → ∃ h ∈ s.charged, h.key = key ∧ h.count = s.counters key)

theorem sound_begin (sound : Sound book env s) (named : Named book (.begin_ now checks)) :
    Sound book env (step env s (.begin_ now checks)) := by
  have same : (step env s (.begin_ now checks)).charged = s.charged := by
    unfold State.charged
    change List.flatMap _ (s.calls ++ [_]) = _
    rw [List.flatMap_append]
    exact List.append_nil _
  refine ⟨?_,?_,?_,?_,?_⟩
  · intro c there
    rcases List.mem_append.mp there with old | new
    · exact sound.calls c old
    · rw [List.mem_singleton.mp new]
      exact begun_sound env named
  · rw [same]; exact sound.positive
  · rw [same]; exact sound.unique
  · rw [same]; exact sound.dense
  · rw [same]; exact sound.live

theorem sound_prune (sound : Sound book env s) : Sound book env (step env s (.prune now chunk)) := by
  refine ⟨sound.calls,sound.positive,sound.unique,sound.dense,?_⟩
  intro key alive
  have same : (step env s (.prune now chunk)).counters key = s.counters key := by
    have here := alive now (List.mem_cons_self ..)
    exact if_neg (fun both => by rw [here] at both; cases both.2)
  rw [same]
  exact sound.live key (fun t there => alive t (List.mem_cons_of_mem _ there))

theorem sound_ended (sound : Sound book env s) (there : s.calls[i]? = some c) (after : c'.Sound book env)
    (same : c'.charged = c.charged) : Sound book env {s with calls := s.calls.set i c'} := by
  have charged : State.charged {s with calls := s.calls.set i c'} = s.charged := Lists.flatMap_kept there same
  refine ⟨?_,?_,?_,?_,?_⟩
  · intro other present
    rcases List.mem_or_eq_of_mem_set present with old | new
    · exact sound.calls other old
    · rw [new]; exact after
  · rw [charged]; exact sound.positive
  · rw [charged]; exact sound.unique
  · rw [charged]; exact sound.dense
  · rw [charged]; exact sound.live

theorem sound_counted (sound : Sound book env s) (there : s.calls[i]? = some c) (after : c'.Sound book env)
    (grown : c'.charged = c.charged ++ [⟨rule,key,s.counters key+1⟩])
    (alive : ∀ t ∈ s.pruned, dead t key = false) :
    Sound book env {s with counters := Function.update s.counters key (s.counters key+1),calls := s.calls.set i c'} := by
  obtain ⟨below,top⟩ := sound.live key alive
  have perm : (s.calls.set i c').flatMap (·.charged) |>.Perm (⟨rule,key,s.counters key+1⟩ :: s.charged) :=
    Lists.flatMap_set there grown
  have mem : ∀ h, h ∈ (s.calls.set i c').flatMap (·.charged) ↔ h = ⟨rule,key,s.counters key+1⟩ ∨ h ∈ s.charged := by
    intro h
    rw [perm.mem_iff,List.mem_cons]
  refine ⟨?_,?_,?_,?_,?_⟩
  · intro other present
    rcases List.mem_or_eq_of_mem_set present with old | new
    · exact sound.calls other old
    · rw [new]; exact after
  · intro h present
    rcases (mem h).mp present with rfl | old
    · exact Nat.succ_le_succ (Nat.zero_le _)
    · exact sound.positive h old
  · refine ((perm.map fun h : Hit => (h.key,h.count)).nodup_iff).mpr (List.nodup_cons.mpr ⟨?_,sound.unique⟩)
    intro present
    obtain ⟨h,old,equal⟩ := List.mem_map.mp present
    cases h
    cases equal
    exact absurd (below _ old rfl) (Nat.not_succ_le_self _)
  · intro h present n low high
    rcases (mem h).mp present with rfl | old
    · rcases Nat.lt_or_eq_of_le high with less | equal
      · have positive : 0 < s.counters key := Nat.lt_of_lt_of_le low (Nat.le_of_lt_succ less)
        obtain ⟨last,old,same,count⟩ := top positive
        obtain ⟨h',old',same',count'⟩ := sound.dense last old n low (by rw [count]; exact Nat.le_of_lt_succ less)
        exact ⟨h',(mem h').mpr (.inr old'),same'.trans same,count'⟩
      · exact ⟨_,(mem _).mpr (.inl rfl),rfl,equal.symm⟩
    · obtain ⟨h',old',same,count⟩ := sound.dense h old n low high
      exact ⟨h',(mem h').mpr (.inr old'),same,count⟩
  · intro other untouched
    obtain ⟨below',top'⟩ := sound.live other untouched
    by_cases equal : other = key
    · subst equal
      constructor
      · intro h present _
        change h.count ≤ Function.update s.counters other (s.counters other+1) other
        rw [Function.update_self]
        rcases (mem h).mp present with rfl | old
        · exact Nat.le_refl _
        · rename_i same
          exact Nat.le_succ_of_le (below h old same)
      · intro _
        refine ⟨_,(mem _).mpr (.inl rfl),rfl,?_⟩
        change _ = Function.update s.counters other (s.counters other+1) other
        rw [Function.update_self]
    · constructor
      · intro h present same
        change h.count ≤ Function.update s.counters key (s.counters key+1) other
        rw [Function.update_of_ne equal]
        rcases (mem h).mp present with rfl | old
        · exact (equal same.symm).elim
        · exact below' h old same
      · intro positive
        change 0 < Function.update s.counters key (s.counters key+1) other at positive
        rw [Function.update_of_ne equal] at positive
        obtain ⟨h,old,same,count⟩ := top' positive
        refine ⟨h,(mem h).mpr (.inr old),same,?_⟩
        change _ = Function.update s.counters key (s.counters key+1) other
        rw [Function.update_of_ne equal]
        exact count

theorem step_sound (book : String → Rule) (env : Library) (s : State) (action : Action) (sound : Sound book env s)
    (orderly : Orderly book s action) : Sound book env (step env s action) := by
  obtain ⟨timely,named⟩ := orderly
  cases action with
  | begin_ now checks => exact sound_begin sound named
  | prune now chunk => exact sound_prune sound
  | hit i =>
      unfold step
      dsimp only
      cases present : s.calls[i]? with
      | none => exact sound
      | some c =>
          dsimp only
          have listed := List.mem_of_getElem? present
          have moved := charge_charged s.counters c
          generalize charge s.counters c = result at moved ⊢
          obtain ⟨counters,c'⟩ := result
          have after := charged_sound moved (sound.calls c listed)
          cases moved with
          | done answer answered => exact sound_ended sound present after rfl
          | passed unanswered done => exact sound_ended sound present after rfl
          | failed f unanswered => exact sound_ended sound present after rfl
          | counted rule digest rest key ends unanswered due began own of_ until_ =>
              have next := next_due unanswered due began own of_
              exact sound_counted sound present after rfl (timely c present key next)

theorem initial_sound (book : String → Rule) (env : Library) : Sound book env initial := by
  refine ⟨List.forall_mem_nil _,List.forall_mem_nil _,List.nodup_nil,List.forall_mem_nil _,?_⟩
  exact fun _ _ => ⟨List.forall_mem_nil _,fun positive => absurd positive (Nat.lt_irrefl 0)⟩

theorem Sound.rule (sound : Sound book env s) (there : h ∈ s.charged) : book h.key.rule = h.rule := by
  obtain ⟨c,listed,own⟩ := List.mem_flatMap.mp there
  have call := sound.calls c listed
  rw [(call.keyed h own).2]
  refine call.named (what h) ?_
  rw [call.planned]
  exact List.mem_append_left _ (List.mem_map_of_mem own)

theorem block_exact (sound : Call.Sound book env c) : c.block = some (key,v) ↔ ∃ before h, c.charged = before ++ [h] ∧
    (∀ b ∈ before, within b) ∧ h.rule.limit < h.count ∧ h.key = key ∧
      v = blocked h.rule h.count (h.key.start+h.rule.window) c.now := by
  unfold Call.block
  rcases sound.halted with ⟨all,passed⟩ | ⟨before,h,charged,under,above,answered⟩
  · refine iff_of_false ?_ ?_
    · cases answered : c.answer with
      | none => nofun
      | some answer =>
          cases answer with
          | error f => nofun
          | ok verdict =>
              have passes := passed verdict answered
              cases c.charged.getLast? with
              | none => nofun
              | some h =>
                  dsimp only
                  rw [if_pos passes]
                  nofun
    · intro stopped
      obtain ⟨before,h,charged,_,above,_⟩ := stopped
      have under := all h (by rw [charged]; exact List.mem_append_right _ (List.mem_singleton_self h))
      exact absurd above (Nat.not_lt.mpr under)
  · rw [answered,charged,List.getLast?_append]
    constructor
    · intro equal
      cases equal
      exact ⟨before,h,rfl,under,above,rfl,rfl⟩
    · intro stopped
      obtain ⟨before',h',equal,_,_,rfl,rfl⟩ := stopped
      obtain ⟨_,same⟩ := List.append_inj' equal rfl
      cases same
      rfl

theorem blocked_first : (blocked rule count ends now).firstBlock = true ↔ count = rule.limit+1 := decide_eq_true_iff

theorem first_of_hit (sound : Call.Sound book env c) (own : h ∈ c.charged) (crossed : h.count = h.rule.limit+1) :
    c.first h.key := by
  rcases sound.halted with ⟨all,_⟩ | ⟨before,last,charged,under,above,answered⟩
  · have inside : h.count ≤ h.rule.limit := all h own
    omega
  · have equal : h = last := by
      rw [charged] at own
      rcases List.mem_append.mp own with early | final
      · have inside : h.count ≤ h.rule.limit := under h early
        omega
      · exact List.mem_singleton.mp final
    subst equal
    exact ⟨_,(block_exact sound).mpr ⟨before,h,charged,under,above,rfl,rfl⟩,blocked_first.mpr crossed⟩

theorem hit_of_first (sound : Call.Sound book env c) (first : c.first key) :
    ∃ h ∈ c.charged, h.key = key ∧ h.count = h.rule.limit+1 := by
  obtain ⟨v,stopped,told⟩ := first
  obtain ⟨before,h,charged,_,_,same,rfl⟩ := (block_exact sound).mp stopped
  exact ⟨h,by rw [charged]; exact List.mem_append_right _ (List.mem_singleton_self h),same,blocked_first.mp told⟩

theorem sound_limited (sound : Sound book env s) (key : Key) :
    (s.charged.filter fun h => h.key = key ∧ h.count ≤ h.rule.limit).length ≤ (book key.rule).limit := by
  let hits := s.charged.filter fun h => h.key = key ∧ h.count ≤ h.rule.limit
  have inside : ∀ h ∈ hits, h ∈ s.charged ∧ h.key = key ∧ h.count ≤ (book key.rule).limit := by
    intro h present
    obtain ⟨there,both⟩ := List.mem_filter.mp present
    obtain ⟨same,under⟩ := of_decide_eq_true both
    refine ⟨there,same,?_⟩
    rw [← same,sound.rule there]
    exact under
  have pairs : (hits.map fun h => (h.key,h.count)).Nodup := sound.unique.sublist (List.filter_sublist.map _)
  have counts : (hits.map (·.count)).Nodup := by
    refine List.Nodup.of_map (fun n => (key,n)) ?_
    rw [List.map_map]
    have equal : hits.map ((fun n => (key,n)) ∘ (·.count)) = hits.map fun h => (h.key,h.count) := by
      refine List.map_congr_left (fun h present => ?_)
      rw [(inside h present).2.1]
      rfl
    rw [equal]
    exact pairs
  have bounded : ∀ n ∈ hits.map (·.count), 1 ≤ n ∧ n ≤ (book key.rule).limit := by
    intro n present
    obtain ⟨h,there,rfl⟩ := List.mem_map.mp present
    obtain ⟨charged,_,under⟩ := inside h there
    exact ⟨sound.positive h charged,under⟩
  have short := Lists.nodup_bounded counts bounded
  rw [List.length_map] at short
  exact short

theorem sound_first (sound : Sound book env s) (key : Key) (stopped : ∃ c ∈ s.calls, ∃ v, c.block = some (key,v)) :
    ∃ i : Nat, (∃ c, s.calls[i]? = some c ∧ c.first key) ∧ ∀ (j : Nat) c, s.calls[j]? = some c → c.first key → j = i := by
  obtain ⟨c,listed,v,blocked⟩ := stopped
  obtain ⟨before,h,charged,_,above,same,_⟩ := (block_exact (sound.calls c listed)).mp blocked
  have own : h ∈ c.charged := by rw [charged]; exact List.mem_append_right _ (List.mem_singleton_self h)
  have there : h ∈ s.charged := List.mem_flatMap.mpr ⟨c,listed,own⟩
  -- the counts have no gap, so one of the hits crossed the limit
  obtain ⟨crossing,present,equal,count⟩ := sound.dense h there (h.rule.limit+1) (Nat.succ_le_succ (Nat.zero_le _)) above
  have rules : crossing.rule = h.rule := by rw [← sound.rule present,← sound.rule there,equal]
  have crossed : crossing.count = crossing.rule.limit+1 := by rw [count,rules]
  obtain ⟨teller,told,mine⟩ := List.mem_flatMap.mp present
  obtain ⟨i,at_⟩ := List.mem_iff_getElem?.mp told
  have firsts := first_of_hit (sound.calls teller told) mine crossed
  rw [equal,same] at firsts
  refine ⟨i,⟨teller,at_,firsts⟩,?_⟩
  intro j other there' also
  obtain ⟨h',own',same',crossed'⟩ := hit_of_first (sound.calls other (List.mem_of_getElem? there')) also
  have present' : h' ∈ s.charged := List.mem_flatMap.mpr ⟨other,List.mem_of_getElem? there',own'⟩
  have unique := sound.unique
  unfold State.charged at unique
  rw [List.map_flatMap] at unique
  have pair : (h'.key,h'.count) = (crossing.key,crossing.count) := by
    have rules' : h'.rule = crossing.rule := by rw [← sound.rule present',← sound.rule present,equal,same,same']
    rw [crossed',crossed,rules',same',equal,same]
  exact Lists.flatMap_apart unique there' at_ (List.mem_map.mpr ⟨h',own',pair⟩) (List.mem_map_of_mem mine)

theorem mem_plan (listed : g ∈ checks) (given : g.value = some value) (some_ : value ≠ "")
    (counts : ¬(g.kind = "ip" ∧ env.ipBucket value = "")) (own : rule ∈ g.rules) :
    (rule,subjectHash env g.kind value) ∈ plan env checks := by
  refine List.mem_flatMap.mpr ⟨g,listed,?_⟩
  rw [given]
  dsimp only
  rw [if_neg (fun either => either.elim some_ counts)]
  exact List.mem_map_of_mem own

theorem Sound.guarded (sound : Sound book env s) : Guarded book env s := by
  refine ⟨?_,sound_limited sound,sound_first sound,?_,?_,?_⟩
  · intro c listed v answered passes g checked value given some_ counts rule own
    have call := sound.calls c listed
    have all := call.planned
    rw [call.passed v answered passes,List.append_nil,call.checked] at all
    have due := mem_plan checked given some_ counts own
    rw [all] at due
    obtain ⟨h,there,equal⟩ := List.mem_map.mp due
    obtain ⟨began,named⟩ := call.keyed h there
    obtain rfl : h.rule = rule := congrArg Prod.fst equal
    refine ⟨h,there,equal,named,began,?_⟩
    rcases call.halted with ⟨under,_⟩ | ⟨_,_,_,_,_,stopped⟩
    · exact under h there
    · rw [stopped] at answered
      cases answered
      cases passes
  · intro c listed key v stopped
    have call := sound.calls c listed
    obtain ⟨before,h,charged,under,above,same,rfl⟩ := (block_exact call).mp stopped
    refine ⟨before,h,c.rest,?_,charged,same,rfl,under⟩
    rw [call.planned,charged,List.map_append,List.append_assoc]
    rfl
  · intro c listed key v stopped
    have call := sound.calls c listed
    obtain ⟨before,h,charged,under,above,rfl,rfl⟩ := (block_exact call).mp stopped
    have own : h ∈ c.charged := by rw [charged]; exact List.mem_append_right _ (List.mem_singleton_self h)
    rw [sound.rule (List.mem_flatMap.mpr ⟨c,listed,own⟩)]
    exact retry_later (call.keyed h own).1
  · intro now chunk key short open_
    have alive : dead now key = false := live_kept (by unfold SECOND; linarith) short
    exact if_neg (fun both => by rw [alive] at both; cases both.2)

def asked : Action → List (Time × List Group)
  | .begin_ now checks => [(now,checks)]
  | _ => []

theorem charge_asked : ((charge counters c).2.now,(charge counters c).2.checks) = (c.now,c.checks) := by
  have moved := charge_charged counters c
  generalize charge counters c = result at moved ⊢
  cases moved <;> rfl

theorem step_asked : (step env s action).calls.map (fun c => (c.now,c.checks)) =
    s.calls.map (fun c => (c.now,c.checks)) ++ asked action := by
  cases action with
  | begin_ now checks => exact List.map_append
  | prune now chunk => exact (List.append_nil _).symm
  | hit i =>
      unfold step asked
      dsimp only
      rw [List.append_nil]
      cases present : s.calls[i]? with
      | none => rfl
      | some c =>
          dsimp only
          rw [List.map_set,charge_asked]
          obtain ⟨below,at_⟩ := List.getElem?_eq_some_iff.mp present
          rw [← at_,← List.getElem_map (fun c : Call => (c.now,c.checks)) (h := by rwa [List.length_map])]
          exact List.set_getElem_self _

section alone

variable {env : Library} {s : State} {c : Call}

theorem step_hit (env : Library) (there : s.calls[i]? = some c) : step env s (.hit i) =
    {s with counters := (charge s.counters c).1,calls := s.calls.set i (charge s.counters c).2} := by
  unfold step
  dsimp only
  rw [there]

theorem run_answered (n : Nat) (there : s.calls[i]? = some c) (answered : c.answer = some answer) :
    Runs.run (step env) s (List.replicate n (.hit i)) = s := by
  induction n with
  | zero => rfl
  | succ n ih =>
      have same : charge s.counters c = (s.counters,c) := by
        unfold charge
        rw [answered]
      obtain ⟨below,at_⟩ := List.getElem?_eq_some_iff.mp there
      rw [List.replicate_succ,Runs.run,step_hit env there,same,← at_,List.set_getElem_self below]
      exact ih

theorem check_alone (rest : List (Rule × String)) (there : s.calls[i]? = some c) (unanswered : c.answer = none)
    (left : c.rest = rest) : ∃ c', c'.answer = some (checkFrom c.now s.counters rest).1 ∧
      Runs.run (step env) s (List.replicate (rest.length+1) (.hit i)) =
        {s with counters := (checkFrom c.now s.counters rest).2,calls := s.calls.set i c'} := by
  induction rest generalizing s c with
  | nil =>
      have passes : charge s.counters c = (s.counters,{c with answer := some (.ok allowed)}) := by
        unfold charge
        rw [unanswered,left]
      refine ⟨{c with answer := some (.ok allowed)},rfl,?_⟩
      rw [List.length_nil,List.replicate_succ,Runs.run,step_hit env there,passes]
      rfl
  | cons next rest ih =>
      obtain ⟨rule,digest⟩ := next
      rw [List.length_cons,List.replicate_succ,Runs.run,step_hit env there]
      unfold checkFrom
      cases counted : hit s.counters rule digest c.now with
      | error f =>
          have fails : charge s.counters c = (s.counters,{c with answer := some (.error f)}) := by
            unfold charge
            rw [unanswered,left]
            dsimp only
            rw [counted]
          rw [fails]
          refine ⟨{c with answer := some (.error f)},rfl,?_⟩
          exact run_answered _ (Lists.set_there _ there) rfl
      | ok result =>
          obtain ⟨count,key,ends,counters⟩ := result
          dsimp only
          let charging : Call := {c with charged := c.charged ++ [⟨rule,key,count⟩],rest := rest}
          by_cases above : rule.limit < count
          · let stopped : Call := {charging with answer := some (.ok (blocked rule count ends c.now))}
            have stops : charge s.counters c = (counters,stopped) := by
              unfold charge
              rw [unanswered,left]
              dsimp only
              rw [counted]
              dsimp only
              rw [if_pos above]
            rw [stops,if_pos above]
            refine ⟨stopped,rfl,?_⟩
            exact run_answered _ (Lists.set_there _ there) rfl
          · have goes : charge s.counters c = (counters,charging) := by
              unfold charge
              rw [unanswered,left]
              dsimp only
              rw [counted]
              dsimp only
              rw [if_neg above,← unanswered]
            rw [goes,if_neg above]
            obtain ⟨c',answer,run⟩ := ih (s := {s with counters := counters,calls := s.calls.set i charging})
              (Lists.set_there charging there) unanswered rfl
            refine ⟨c',answer,?_⟩
            rw [run]
            dsimp only
            rw [List.set_set]

end alone

section example_rules

def exampleLibrary : Library := ⟨fun address => address,fun kind value => kind ++ value⟩

def submitIp : Rule := ⟨"claim.submit.ip.10m",2,600000000⟩

def submitEmail : Rule := ⟨"claim.submit.email.24h",1,86400000000⟩

def submission (email : String) (now : Time) : Action :=
  .begin_ now [⟨"ip",some "203.0.113.7",[submitIp]⟩,⟨"email",some email,[submitEmail]⟩]

end example_rules

end Osds.Audit.RateLimits

import Osds.Tenants.SettingsSaves

namespace Osds.Tenants.MailPassword
open Directory (PatchOp)
open SettingsSaves (Fields Tenant truthy dictOf updateTenantSettings)

def SMTP_SECURITY_MODES : List String := ["none","starttls","tls"]

inductive Save where
  | mail (config : Fields) (password : String) (clearPassword : Bool)
  | skip
  deriving DecidableEq

def Save.config : Save → Fields
  | .mail config _ _ => config
  | .skip => []

def textAt (block : Fields) (key : String) : Option String :=
  match block.lookup key with
  | some (.str s) => some s
  | value => if truthy value then none else some ""

def usernameOf (block : Fields) : String := Text.strip ((textAt block "username").getD "")

def smtp (t : Tenant) : Fields := dictOf (t.settings.lookup "smtp")

def isSecurity : Option Json → Bool
  | some (.str mode) => mode ∈ SMTP_SECURITY_MODES
  | _ => false

def isText : Option Json → Bool
  | none => true
  | some (.str _) => true
  | _ => false

def isPort : Option Json → Bool
  | none => true
  | some .null => true
  | some (.num n) => n.den = 1 && 1 ≤ n && n ≤ 65535
  | _ => false

def validateSmtp (config : Fields) : Bool :=
  config.isEmpty ||
    isSecurity (config.lookup "security") && ["host","from_email","username"].all (fun key => isText (config.lookup key)) &&
      isPort (config.lookup "port") && !(usernameOf config ≠ "" && (textAt config "security") = some "none")

section saves

variable (lower : String → String)

def normal (host : String) : String := lower (Text.strip host)

def hostOf (block : Fields) : String := normal lower ((textAt block "host").getD "")

-- Whether the password is asked for again, on the tenant as it was loaded.
def hostChangeNeedsPassword (loaded : Tenant) (config : Fields) (hasSecret : Bool) : Option Bool :=
  if usernameOf config = "" then some false
  else do
    let old ← textAt (smtp loaded) "host"
    let new ← textAt config "host"
    pure (normal lower new ≠ normal lower old && (normal lower old ≠ "" || hasSecret))

def admits (loaded : Tenant) (hasSecret : Bool) : Save → Bool
  | .mail config password clearPassword =>
      (textAt config "username").isSome &&
        (password ≠ "" || clearPassword || hostChangeNeedsPassword lower loaded config hasSecret = some false) && validateSmtp config
  | .skip => true

def storedPassword (stored : Option String) : Save → Option String
  | .mail config password clearPassword =>
      if password ≠ "" then some password
      else if clearPassword || usernameOf config = "" then none
      else stored
  | .skip => none

-- A request with the tenant as it loaded it, and what `has_secret` told it once it has
-- passed the check.
structure Request where
  loaded : Tenant
  save : Save
  hadSecret : Option Bool

structure State where
  tenant : Tenant
  password : Option String
  events : List (List PatchOp)
  saved : List Save
  requests : Nat → Option Request
  nextRequest : Nat

inductive Action where
  | load (save : Save)
  | check (p : Nat)
  -- the row is written under its lock, and the secret before the lock is let go
  | commit (p : Nat)
  | abort (p : Nat)

namespace State

def start (t : Tenant) : State := ⟨t,none,[],[],fun _ => none,0⟩

def set (s : State) (p : Nat) (r : Option Request) : State := {s with requests := fun q => if q = p then r else s.requests q}

def finish (s : State) (p : Nat) (r : Request) : State :=
  let (written,changes) := updateTenantSettings r.loaded "smtp" (.obj r.save.config)
  {s.set p none with
    tenant := {s.tenant with settings := written.settings}
    password := storedPassword s.password r.save
    events := s.events ++ [changes]
    saved := s.saved ++ [r.save]}

def checked (s : State) (p : Nat) (r : Request) : State :=
  if admits lower r.loaded s.password.isSome r.save then s.set p (some {r with hadSecret := some s.password.isSome})
  else s.set p none

def step (s : State) : Action → State
  | .load save => {s.set s.nextRequest (some ⟨s.tenant,save,none⟩) with nextRequest := s.nextRequest + 1}
  | .check p => match s.requests p with
      | some r => s.checked lower p r
      | none => s
  | .commit p => match s.requests p with
      | some r => if r.hadSecret.isSome then s.finish p r else s
      | none => s
  | .abort p => s.set p none

end State

-- The password came with a save for this host, and no save for another was committed since.
def Supplied (saved : List Save) (password host : String) : Prop :=
  ∃ earlier config clearPassword later, saved = earlier ++ .mail config password clearPassword :: later ∧ password ≠ "" ∧
    hostOf lower config = host ∧ ∀ save ∈ later, hostOf lower save.config = host

def Bound (s : State) : Prop :=
  ∀ password ∈ s.password, hostOf lower (smtp s.tenant) ≠ "" → usernameOf (smtp s.tenant) ≠ "" →
    Supplied lower s.saved password (hostOf lower (smtp s.tenant))

def keeps : Save → Bool
  | .mail config password clearPassword => password = "" && !clearPassword && usernameOf config ≠ ""
  | .skip => false

-- A save that keeps a stored password commits the host that is stored by then.
def SameHost (s : State) : Action → Prop
  | .commit p => ∀ r, s.requests p = some r → r.hadSecret.isSome → keeps r.save → s.password.isSome →
      hostOf lower r.save.config ≠ "" → hostOf lower r.save.config = hostOf lower (smtp s.tenant)
  | _ => True

end saves

open State

section runs

variable {lower : String → String} {s : State} {p : Nat} {r : Request} {action : Action} {saved : List Save} {save : Save}
  {password host : String}

structure Kept (lower : String → String) (s : State) : Prop where
  last : ∀ before save, s.saved = before ++ [save] → smtp s.tenant = save.config
  supplied : ∀ password ∈ s.password, hostOf lower (smtp s.tenant) ≠ "" →
    Supplied lower s.saved password (hostOf lower (smtp s.tenant))

theorem smtp_finish : smtp (s.finish p r).tenant = r.save.config := by
  have written : (s.finish p r).tenant.settings.lookup "smtp" = some (.obj r.save.config) :=
    (Dict.lookup_set r.loaded.settings ("smtp",some (.obj r.save.config)) "smtp").trans (if_pos rfl)
  unfold smtp
  rw [written]
  rfl

theorem saved_finish : (s.finish p r).saved = s.saved ++ [r.save] := rfl

theorem password_finish : (s.finish p r).password = storedPassword s.password r.save := rfl

theorem append_last {α : Type} {before earlier later : List α} {x y : α} (same : before ++ [x] = earlier ++ y :: later) :
    x = y ∧ before = earlier ∧ later = [] ∨ ∃ rest, later = rest ++ [x] ∧ before = earlier ++ y :: rest := by
  rcases List.eq_nil_or_concat later with none_ | ⟨rest,z,split⟩
  · subst none_
    obtain ⟨first,last⟩ := List.append_inj' same rfl
    exact .inl ⟨(List.cons.inj last).1,first,rfl⟩
  · rw [List.concat_eq_append] at split
    subst split
    have same : before ++ [x] = (earlier ++ y :: rest) ++ [z] := by rw [same,List.append_assoc,List.cons_append]
    obtain ⟨first,last⟩ := List.append_inj' same rfl
    exact .inr ⟨rest,by rw [(List.cons.inj last).1],first⟩

theorem storedPassword_cases {stored : Option String} (there : password ∈ storedPassword stored save) :
    (∃ config clearPassword, save = .mail config password clearPassword ∧ password ≠ "") ∨ keeps save = true ∧ password ∈ stored := by
  cases save with
  | skip => cases there
  | mail config given clearPassword =>
      unfold storedPassword at there
      dsimp only at there
      split at there
      next supplied =>
        cases there
        exact .inl ⟨config,clearPassword,rfl,supplied⟩
      next blank =>
        split at there
        next => cases there
        next kept =>
          rw [Bool.or_eq_true,not_or,decide_eq_true_eq] at kept
          refine .inr ⟨?_,there⟩
          unfold keeps
          rw [not_not] at blank
          rw [Bool.and_eq_true,Bool.and_eq_true,decide_eq_true_eq,decide_eq_true_eq,Bool.not_eq_true']
          exact ⟨⟨blank,Bool.eq_false_iff.mpr kept.1⟩,kept.2⟩

theorem keeps_stored {stored : Option String} (kept : keeps save = true) : storedPassword stored save = stored := by
  cases save with
  | skip => cases kept
  | mail config given clearPassword =>
      unfold keeps at kept
      rw [Bool.and_eq_true,Bool.and_eq_true,decide_eq_true_eq,decide_eq_true_eq,Bool.not_eq_true'] at kept
      unfold storedPassword
      dsimp only
      rw [if_neg (not_not.mpr kept.1.1),kept.1.2,Bool.false_or,if_neg fun empty => kept.2 (of_decide_eq_true empty)]

theorem keeps_username (kept : keeps save = true) : usernameOf save.config ≠ "" := by
  cases save with
  | skip => cases kept
  | mail config given clearPassword =>
      unfold keeps at kept
      rw [Bool.and_eq_true,decide_eq_true_eq] at kept
      exact kept.2

theorem supplied_keep (supplied : Supplied lower saved password host) (same : hostOf lower save.config = host) :
    Supplied lower (saved ++ [save]) password host := by
  obtain ⟨earlier,config,clearPassword,later,split,given,own,since⟩ := supplied
  refine ⟨earlier,config,clearPassword,later ++ [save],?_,given,own,?_⟩
  · rw [split,List.append_assoc,List.cons_append]
  · intro other there
    rcases List.mem_append.mp there with before | last
    · exact since other before
    · rw [List.mem_singleton.mp last]
      exact same

theorem supplied_given {config : Fields} {clearPassword : Bool} (given : password ≠ "") :
    Supplied lower (saved ++ [.mail config password clearPassword]) password (hostOf lower config) :=
  ⟨saved,config,clearPassword,[],rfl,given,rfl,fun _ there => by cases there⟩

theorem supplied_kept {previous : Fields} (kept : keeps save = true) (last : ∀ before save, saved = before ++ [save] → previous = save.config)
    (supplied : Supplied lower (saved ++ [save]) password (hostOf lower save.config)) : hostOf lower save.config = hostOf lower previous := by
  obtain ⟨earlier,config,clearPassword,later,split,given,own,since⟩ := supplied
  rcases append_last split with ⟨rfl,_,_⟩ | ⟨rest,rfl,before⟩
  · unfold keeps at kept
    rw [Bool.and_eq_true,Bool.and_eq_true,decide_eq_true_eq] at kept
    exact absurd kept.1.1 given
  · rcases List.eq_nil_or_concat rest with none_ | ⟨between,final,split⟩
    · subst none_
      rw [last earlier _ before]
      exact own.symm
    · rw [List.concat_eq_append] at split
      subst split
      have later : saved = (earlier ++ .mail config password clearPassword :: between) ++ [final] := by
        rw [before,List.append_assoc,List.cons_append]
      rw [last _ _ later]
      exact (since final (List.mem_append_left _ (List.mem_append_right _ (List.mem_singleton_self _)))).symm

def Alike (s s' : State) : Prop := s'.tenant = s.tenant ∧ s'.password = s.password ∧ s'.saved = s.saved

theorem kept_alike {s' : State} (alike : Alike s s') (kept : Kept lower s) : Kept lower s' := by
  obtain ⟨tenant,password,saved⟩ := alike
  refine ⟨?_,?_⟩
  · rw [saved,tenant]
    exact kept.last
  · rw [saved,tenant,password]
    exact kept.supplied

theorem kept_bound (kept : Kept lower s) : Bound lower s := fun password there host _ => kept.supplied password there host

theorem step_cases (lower : String → String) (s : State) (action : Action) :
    Alike s (step lower s action) ∧ SameHost lower s action ∨
      ∃ p r, action = .commit p ∧ s.requests p = some r ∧ r.hadSecret.isSome ∧ step lower s action = s.finish p r := by
  cases action with
  | load save => exact .inl ⟨⟨rfl,rfl,rfl⟩,trivial⟩
  | abort p => exact .inl ⟨⟨rfl,rfl,rfl⟩,trivial⟩
  | check p =>
      refine .inl ⟨?_,trivial⟩
      unfold State.step
      dsimp only
      split
      · unfold State.checked
        split
        · exact ⟨rfl,rfl,rfl⟩
        · exact ⟨rfl,rfl,rfl⟩
      · exact ⟨rfl,rfl,rfl⟩
  | commit p =>
      cases there : s.requests p with
      | none =>
          refine .inl ⟨?_,?_⟩
          · unfold State.step
            dsimp only
            rw [there]
            exact ⟨rfl,rfl,rfl⟩
          · intro r known
            rw [there] at known
            cases known
      | some r =>
          cases passed : r.hadSecret with
          | none =>
              refine .inl ⟨?_,?_⟩
              · unfold State.step
                dsimp only
                rw [there]
                dsimp only
                rw [passed]
                exact ⟨rfl,rfl,rfl⟩
              · intro other known absurd
                rw [there] at known
                cases known
                rw [passed] at absurd
                cases absurd
          | some hadSecret =>
              refine .inr ⟨p,r,rfl,there,by rw [passed]; rfl,?_⟩
              unfold State.step
              dsimp only
              rw [there]
              dsimp only
              rw [passed]
              rfl

theorem finish_last : ∀ before save, (s.finish p r).saved = before ++ [save] → smtp (s.finish p r).tenant = save.config := by
  intro before save split
  rw [smtp_finish,(List.cons.inj (List.append_inj' (saved_finish.symm.trans split) rfl).2).1]

theorem finish_supplied (kept : Kept lower s) (there : password ∈ storedPassword s.password r.save)
    (named : hostOf lower r.save.config ≠ "") (same : keeps r.save → s.password.isSome → hostOf lower r.save.config ≠ "" →
      hostOf lower r.save.config = hostOf lower (smtp s.tenant)) :
    Supplied lower (s.saved ++ [r.save]) password (hostOf lower r.save.config) := by
  rcases storedPassword_cases there with ⟨config,clearPassword,given,nonempty⟩ | ⟨keeping,stored⟩
  · rw [given]
    exact supplied_given nonempty
  · have own := same keeping (Option.isSome_of_mem stored) named
    exact supplied_keep (own ▸ kept.supplied password stored (own ▸ named)) rfl

theorem kept_step (kept : Kept lower s) (same : SameHost lower s action) : Kept lower (step lower s action) := by
  rcases step_cases lower s action with ⟨alike,_⟩ | ⟨p,r,rfl,there,passed,finished⟩
  · exact kept_alike alike kept
  · rw [finished]
    refine ⟨finish_last,?_⟩
    rw [smtp_finish,saved_finish,password_finish]
    intro password stored named
    exact finish_supplied kept stored named (same r there passed)

theorem bound_step (kept : Kept lower s) : Bound lower (step lower s action) ↔ SameHost lower s action := by
  rcases step_cases lower s action with ⟨alike,same⟩ | ⟨p,r,rfl,there,passed,finished⟩
  · exact iff_of_true (kept_bound (kept_alike alike kept)) same
  · constructor
    · intro bound other known _ keeping stored named
      rw [there] at known
      cases known
      rw [finished] at bound
      unfold Bound at bound
      rw [smtp_finish,saved_finish,password_finish,keeps_stored keeping] at bound
      obtain ⟨password,there⟩ := Option.isSome_iff_exists.mp stored
      exact supplied_kept keeping kept.last (bound password there named (keeps_username keeping))
    · intro same
      exact kept_bound (kept_step kept same)

theorem start_kept (t : Tenant) : Kept lower (start t) := by
  refine ⟨?_,fun _ absurd => by cases absurd⟩
  intro before save split
  exact absurd (List.nil_eq_append_iff.mp split).2 (List.cons_ne_nil _ _)

theorem admits_kept {loaded : Tenant} (passed : admits lower loaded true save = true) (kept : keeps save = true) :
    hostOf lower save.config = hostOf lower (smtp loaded) := by
  cases save with
  | skip => cases kept
  | mail config password clearPassword =>
      have username := keeps_username kept
      change usernameOf config ≠ "" at username
      unfold keeps at kept
      rw [Bool.and_eq_true,Bool.and_eq_true,decide_eq_true_eq,Bool.not_eq_true'] at kept
      unfold admits at passed
      rw [Bool.and_eq_true,Bool.and_eq_true,kept.1.1,kept.1.2] at passed
      have free : hostChangeNeedsPassword lower loaded config true = some false := by simpa using passed.1.2
      unfold hostChangeNeedsPassword at free
      rw [if_neg username] at free
      obtain ⟨old,held,rest⟩ := Option.bind_eq_some_iff.mp free
      obtain ⟨new,given,rest⟩ := Option.bind_eq_some_iff.mp rest
      have same : normal lower new = normal lower old := by simpa using Option.some.inj rest
      show normal lower ((textAt config "host").getD "") = normal lower ((textAt (smtp loaded) "host").getD "")
      rw [held,given]
      exact same

def Passed (lower : String → String) (s : State) : Prop :=
  ∀ p r hadSecret, s.requests p = some r → r.hadSecret = some hadSecret → admits lower r.loaded hadSecret r.save = true

theorem passed_set (passed : Passed lower s) {entry : Option Request}
    (held : ∀ r hadSecret, entry = some r → r.hadSecret = some hadSecret → admits lower r.loaded hadSecret r.save = true) :
    Passed lower (s.set p entry) := by
  intro q r hadSecret there
  change (if q = p then entry else s.requests q) = some r at there
  split at there
  · exact held r hadSecret there
  · exact passed q r hadSecret there

theorem passed_none (passed : Passed lower s) : Passed lower (s.set p none) := passed_set passed fun _ _ absurd => by cases absurd

theorem passed_step (passed : Passed lower s) : Passed lower (step lower s action) := by
  cases action with
  | load save =>
      refine passed_set passed fun r hadSecret there told => ?_
      cases there
      cases told
  | abort p => exact passed_none passed
  | check p =>
      unfold State.step
      dsimp only
      split
      next r there =>
        unfold State.checked
        split
        next admitted =>
          refine passed_set passed fun other hadSecret there told => ?_
          cases there
          cases told
          exact admitted
        next => exact passed_none passed
      next => exact passed
  | commit p =>
      unfold State.step
      dsimp only
      split
      next r there =>
        split
        next => exact passed_none passed
        next => exact passed
      next => exact passed

-- The host on the tenant's object, and what `has_secret` told, are what is stored at the commit.
def Current (lower : String → String) (s : State) : Action → Prop
  | .commit p => ∀ r, s.requests p = some r →
      hostOf lower (smtp r.loaded) = hostOf lower (smtp s.tenant) ∧ ∀ hadSecret ∈ r.hadSecret, hadSecret = s.password.isSome
  | _ => True

theorem current_same (passed : Passed lower s) (current : Current lower s action) : SameHost lower s action := by
  cases action with
  | commit p =>
      intro r there told keeping stored _
      obtain ⟨hadSecret,told⟩ := Option.isSome_iff_exists.mp told
      obtain ⟨host,secret⟩ := current r there
      have admitted := passed p r hadSecret there told
      rw [secret hadSecret told,stored] at admitted
      exact (admits_kept admitted keeping).trans host
  | load save => exact trivial
  | check p => exact trivial
  | abort p => exact trivial

theorem current_bound (t : Tenant) (actions : List Action) (current : Runs.Along (step lower) (Current lower) (start t) actions) :
    Runs.Along (step lower) (SameHost lower) (start t) actions := by
  have none_ : Passed lower (start t) := fun _ _ _ absurd => by cases absurd
  exact Runs.along_keeps (step lower) (fun _ _ passed _ => passed_step passed) (fun _ _ => current_same) none_ current

end runs

section law

variable (lower : String → String) (t : Tenant) (actions : List Action)

-- The stored password meets no host but the one it was given for, exactly in the runs
-- whose keeping saves commit the stored host.
theorem password_bound : Bound lower (start t) ∧
    (Runs.Along (step lower) (fun s action => Bound lower (step lower s action)) (start t) actions ↔
      Runs.Along (step lower) (SameHost lower) (start t) actions) :=
  ⟨kept_bound (start_kept t),
    Runs.along_exact (step lower) (fun _ _ => kept_step) (fun _ _ => bound_step) (start_kept t)⟩

end law

section stale

def block (host : String) : Fields := [("host",.str host),("port",.num 587),("username",.str "mailer"),("security",.str "starttls")]

def moved : List Action :=
  [.load (.mail (block "smtp.a.org") "first" false),.check 0,.commit 0,.load (.mail (block "SMTP.A.ORG") "" false),
    .load (.mail (block "smtp.b.org") "second" false),.check 2,.commit 2,.check 1,.commit 1]

def after : State := Runs.run (step String.toLower) (start ⟨"",[]⟩) moved

theorem after_stored : hostOf String.toLower (smtp after.tenant) = "smtp.a.org" ∧ usernameOf (smtp after.tenant) = "mailer" ∧
    after.password = some "second" := by
  unfold after
  rw [Text.toLower_chars]
  decide +kernel

theorem after_saved : after.saved = [.mail (block "smtp.a.org") "first" false,.mail (block "smtp.b.org") "second" false,
    .mail (block "SMTP.A.ORG") "" false] := by
  unfold after
  rw [Text.toLower_chars]
  decide +kernel

-- The password for one host is stored with another, from a page loaded before the move.
theorem password_moved : ¬Bound String.toLower (Runs.run (step String.toLower) (start ⟨"",[]⟩) moved) := by
  intro bound
  change Bound String.toLower after at bound
  obtain ⟨host,username,stored⟩ := after_stored
  unfold Bound at bound
  rw [host,username,after_saved] at bound
  obtain ⟨earlier,config,clearPassword,later,split,_,own,_⟩ := bound "second" stored (by decide) (by decide)
  cases earlier with
  | nil => exact absurd (Save.mail.inj (List.cons.inj split).1).2.1 (by decide)
  | cons first earlier =>
      have split := (List.cons.inj split).2
      cases earlier with
      | nil =>
          rw [← (Save.mail.inj (List.cons.inj split).1).1] at own
          exact absurd own (by decide +kernel)
      | cons second earlier =>
          have split := (List.cons.inj split).2
          cases earlier with
          | nil => exact absurd (Save.mail.inj (List.cons.inj split).1).2.1 (by decide)
          | cons third earlier => exact absurd (List.nil_eq_append_iff.mp (List.cons.inj split).2).2 (List.cons_ne_nil _ _)

end stale

end Osds.Tenants.MailPassword

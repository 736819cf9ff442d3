import Osds.Directory.Projection
import Osds.Lib.Dict
import Osds.Lib.Runs
import Osds.Lib.Text

namespace Osds.Tenants.SettingsSaves
open Directory (PatchOp)

abbrev Fields := List (String × Json)

def truthy : Option Json → Bool
  | none => false
  | some .null => false
  | some (.bool b) => b
  | some (.num n) => n ≠ 0
  | some (.instant _) => true
  | some (.str text) => text ≠ ""
  | some (.arr items) => !items.isEmpty
  | some (.obj fields) => !fields.isEmpty

def dictOf : Option Json → Fields
  | some (.obj fields) => fields
  | _ => []

structure Tenant where
  primaryDomain : String
  settings : Fields

structure Field where
  key : String
  secret : Bool
  flag : Bool

inductive Value where
  | flag (b : Bool)
  | text (s : String)

structure Subscriber where
  id : String
  configKey : Option String
  fields : List Field
  -- `derive_config`
  derive : Fields → Fields

structure Submission where
  values : List (String × Value)
  clear : List String
  grants : List (String × Bool)

def adapterConfig (settings : Fields) (a : Subscriber) : Fields :=
  match a.configKey with
  | some key => dictOf (settings.lookup key)
  | none => dictOf ((dictOf (settings.lookup "adapters")).lookup a.id)

def scopeSetting (scope : String) : String := "scope_" ++ String.ofList (scope.toList.map fun c => if c = ':' then '_' else c)

def Submission.submitted (x : Submission) (f : Field) : Option Json :=
  let raw := x.values.lookup f.key
  if f.secret then
    if f.key ∈ x.clear then some (.str "")
    else match raw with
      | some (.text s) => if Text.strip s = "" then none else some (.str (Text.strip s))
      | _ => none
  else if f.flag then match raw with
    | none => some (.bool false)
    | some (.flag b) => some (.bool b)
    | some (.text s) => some (.bool (s ≠ ""))
  else match raw with
    | none => some .null
    | some (.flag b) => some (.bool b)
    | some (.text s) => some (.str (Text.strip s))

-- `config.pop(key, None)` for None and "", else `config[key] = value`.
def filled : Json → Option Json
  | .null => none
  | .str "" => none
  | value => some value

def Submission.changes (x : Submission) (a : Subscriber) : List (String × Option Json) :=
  ((a.fields.filter fun f => !f.secret).filterMap fun f => (x.submitted f).map fun value => (f.key,filled value)) ++
    (a.derive (a.fields.filterMap fun f => (x.submitted f).map fun value => (f.key,value))).map (fun item => (item.1,filled item.2)) ++
      x.grants.map fun grant => (scopeSetting grant.1,some (.bool grant.2))

def Submission.config (x : Submission) (a : Subscriber) (settings : Fields) : Fields :=
  (x.changes a).foldl Dict.set (adapterConfig settings a)

inductive Page where
  | smtp
  | leads
  | claimVerification
  | storage
  deriving DecidableEq, Repr

def Page.key : Page → String
  | .smtp => "smtp"
  | .leads => "leads"
  | .claimVerification => "claim_verification"
  | .storage => "storage"

inductive Save where
  | domain (name challenge : String)
  | page (block : Page) (value : Json)
  | adapter (a : Subscriber) (submission : Submission)

def pointer (key : String) : String := "/" ++ key

def updateTenantSettings (t : Tenant) (key : String) (value : Json) : Tenant × List PatchOp :=
  ({t with settings := Dict.set t.settings (key,some value)},
    [if (t.settings.lookup key).isSome then .replace (pointer key) value else .add (pointer key) value])

def applyTenantDomain (t : Tenant) (name challenge : String) : Tenant × List PatchOp :=
  ({primaryDomain := name,settings := if truthy (t.settings.lookup "domain_challenge") then t.settings
      else Dict.set t.settings ("domain_challenge",some (.str challenge))},
    [if t.primaryDomain ≠ "" then .replace (pointer "primary_domain") (.str name) else .add (pointer "primary_domain") (.str name)])

def applyAdapterSettings (t : Tenant) (a : Subscriber) (x : Submission) : Tenant × List PatchOp :=
  updateTenantSettings t "adapters" (.obj (Dict.set (dictOf (t.settings.lookup "adapters")) (a.id,some (.obj (x.config a t.settings)))))

def Save.apply (t : Tenant) : Save → Tenant × List PatchOp
  | .domain name challenge => applyTenantDomain t name challenge
  | .page block value => updateTenantSettings t block.key value
  | .adapter a x => applyAdapterSettings t a x

def Save.write (row loaded : Tenant) : Save → Tenant
  | .domain name challenge => (applyTenantDomain loaded name challenge).1
  | save => {row with settings := (save.apply loaded).1.settings}

structure Request where
  loaded : Tenant
  save : Save

structure State where
  tenant : Tenant
  events : List (List PatchOp)
  saved : List Request
  requests : Nat → Option Request
  nextRequest : Nat

inductive Action where
  | load (save : Save)
  -- the row is written under its lock, so the writes are ordered as the commits
  | commit (p : Nat)
  | refuse (p : Nat)

namespace State

def start (t : Tenant) : State := ⟨t,[],[],fun _ => none,0⟩

def set (s : State) (p : Nat) (r : Option Request) : State := {s with requests := fun q => if q = p then r else s.requests q}

def finish (s : State) (p : Nat) (r : Request) : State :=
  {s.set p none with
    tenant := r.save.write s.tenant r.loaded
    events := s.events ++ [(r.save.apply r.loaded).2]
    saved := s.saved ++ [r]}

def step (s : State) : Action → State
  | .load save => {s.set s.nextRequest (some ⟨s.tenant,save⟩) with nextRequest := s.nextRequest + 1}
  | .commit p => match s.requests p with
      | some r => s.finish p r
      | none => s
  | .refuse p => s.set p none

end State
open State

-- What a save is of: the adapters share one dict of the column.
inductive Block where
  | page (block : Page)
  | domainChallenge
  | adapter (id : String)
  deriving DecidableEq, Repr

def held (settings : Fields) : Block → Option Json
  | .page block => settings.lookup block.key
  | .domainChallenge => settings.lookup "domain_challenge"
  | .adapter id => (dictOf (settings.lookup "adapters")).lookup id

def Request.touched (r : Request) : List (Block × Json) :=
  match r.save with
  | .domain _ challenge => if truthy (r.loaded.settings.lookup "domain_challenge") then [] else [(.domainChallenge,.str challenge)]
  | .page block value => [(.page block,value)]
  | .adapter a x => [(.adapter a.id,.obj (x.config a r.loaded.settings))]

def lastOf (initial : Tenant) (saved : List Request) (b : Block) : Option Json :=
  (((saved.flatMap Request.touched).filter (·.1 = b)).getLast?.map Prod.snd).or (held initial.settings b)

def keyOf (path : String) : String := String.ofList (path.toList.drop 1)

def patched (t : Tenant) : PatchOp → Tenant
  | .add path value | .replace path value =>
      if keyOf path = "primary_domain" then {t with primaryDomain := match value with | .str name => name | _ => t.primaryDomain}
      else {t with settings := Dict.set t.settings (keyOf path,some value)}
  | .remove path | .removed path _ => {t with settings := Dict.set t.settings (keyOf path,none)}

-- No save is lost, and the events tell all of them.
structure Kept (initial : Tenant) (s : State) : Prop where
  last : ∀ b, held s.tenant.settings b = lastOf initial s.saved b
  domain : (s.events.flatten.foldl patched initial).primaryDomain = s.tenant.primaryDomain
  folded : ∀ key, (s.events.flatten.foldl patched initial).settings.lookup key = s.tenant.settings.lookup key

def Save.key : Save → Option String
  | .domain _ _ => none
  | .page block _ => some block.key
  | .adapter _ _ => some "adapters"

-- What the save writes back besides its own block is what is committed there, and a
-- domain save has no challenge to draw.
structure Current (row : Tenant) (r : Request) : Prop where
  keys : ∀ key, r.save.key ≠ some key → r.loaded.settings.lookup key = row.settings.lookup key
  adapters : ∀ a x, r.save = .adapter a x → ∀ id ≠ a.id,
    (dictOf (r.loaded.settings.lookup "adapters")).lookup id = (dictOf (row.settings.lookup "adapters")).lookup id
  challenge : ∀ name token, r.save = .domain name token → truthy (r.loaded.settings.lookup "domain_challenge")

def InTurn (s : State) : Action → Prop
  | .commit p => ∀ r, s.requests p = some r → Current s.tenant r
  | _ => True

section saves
variable {initial row : Tenant} {s : State} {r : Request} {settings : Fields} {action : Action}

theorem keyOf_pointer (key : String) : keyOf (pointer key) = key := by
  unfold keyOf pointer
  rw [String.toList_append]
  exact String.ofList_toList

theorem page_key (block : Page) : block.key ≠ "primary_domain" ∧ block.key ≠ "domain_challenge" ∧ block.key ≠ "adapters" := by
  cases block <;> decide

theorem page_key_injective {a b : Page} (same : a.key = b.key) : a = b := by
  cases a <;> cases b <;> first | rfl | exact absurd same (by decide)

theorem update_patched {t : Tenant} {key : String} {value : Json} (named : key ≠ "primary_domain") :
    (updateTenantSettings row key value).2.foldl patched t = {t with settings := Dict.set t.settings (key,some value)} := by
  unfold updateTenantSettings
  dsimp only
  rw [List.foldl_cons,List.foldl_nil]
  split
  all_goals
    unfold patched
    dsimp only
    rw [keyOf_pointer,if_neg named]

theorem domain_patched {t : Tenant} {name token : String} :
    (applyTenantDomain row name token).2.foldl patched t = {t with primaryDomain := name} := by
  unfold applyTenantDomain
  dsimp only
  rw [List.foldl_cons,List.foldl_nil]
  split
  all_goals
    unfold patched
    dsimp only
    rw [keyOf_pointer,if_pos rfl]

theorem held_of_keys {other : Fields} (same : ∀ key, settings.lookup key = other.lookup key) (b : Block) : held settings b = held other b := by
  cases b with
  | page block => exact same _
  | domainChallenge => exact same _
  | adapter id => exact congrArg (fun value => (dictOf value).lookup id) (same _)

theorem lastOf_append (initial : Tenant) (saved : List Request) (r : Request) (b : Block) :
    lastOf initial (saved ++ [r]) b = ((r.touched.filter (·.1 = b)).getLast?.map Prod.snd).or (lastOf initial saved b) := by
  unfold lastOf
  rw [List.flatMap_append,List.filter_append,List.getLast?_append,List.flatMap_cons,List.flatMap_nil,List.append_nil]
  cases (r.touched.filter (·.1 = b)).getLast? <;> rfl

theorem lastOf_other {saved : List Request} {b : Block} (untouched : ∀ item ∈ r.touched, item.1 ≠ b) :
    lastOf initial (saved ++ [r]) b = lastOf initial saved b := by
  rw [lastOf_append,List.filter_eq_nil_iff.mpr fun item there same => untouched item there (of_decide_eq_true same)]
  rfl

theorem lastOf_touched {saved : List Request} {b : Block} {value : Json} (touched : r.touched = [(b,value)]) :
    lastOf initial (saved ++ [r]) b = some value := by
  have only : [(b,value)].filter (·.1 = b) = [(b,value)] := List.filter_cons_of_pos (decide_eq_true rfl)
  rw [lastOf_append,touched,only]
  rfl

theorem update_lookup {loaded : Tenant} {key : String} {value : Json}
    (keys : ∀ other, some key ≠ some other → loaded.settings.lookup other = row.settings.lookup other) (other : String) :
    (updateTenantSettings loaded key value).1.settings.lookup other = if other = key then some value else row.settings.lookup other := by
  unfold updateTenantSettings
  rw [Dict.lookup_set]
  split
  · rfl
  · next apart => exact keys other fun same => apart (Option.some.inj same).symm

theorem domain_lookup {loaded : Tenant} {name token : String} (current : Current row ⟨loaded,.domain name token⟩) (key : String) :
    (Save.write row loaded (.domain name token)).settings.lookup key = row.settings.lookup key := by
  have drawn : truthy (loaded.settings.lookup "domain_challenge") := current.challenge name token rfl
  have same : (Save.write row loaded (.domain name token)).settings = loaded.settings := if_pos drawn
  rw [same]
  exact current.keys key nofun

theorem page_lookup {loaded : Tenant} {block : Page} {value : Json} (current : Current row ⟨loaded,.page block value⟩) (key : String) :
    (Save.write row loaded (.page block value)).settings.lookup key = if key = block.key then some value else row.settings.lookup key :=
  update_lookup current.keys key

def Submission.adapters (x : Submission) (a : Subscriber) (settings : Fields) : Fields :=
  Dict.set (dictOf (settings.lookup "adapters")) (a.id,some (.obj (x.config a settings)))

theorem adapter_lookup {loaded : Tenant} {a : Subscriber} {x : Submission} (current : Current row ⟨loaded,.adapter a x⟩) (key : String) :
    (Save.write row loaded (.adapter a x)).settings.lookup key =
      if key = "adapters" then some (.obj (x.adapters a loaded.settings)) else row.settings.lookup key :=
  update_lookup current.keys key

def Tells (told row : Tenant) : Prop := told.primaryDomain = row.primaryDomain ∧ ∀ key, told.settings.lookup key = row.settings.lookup key

theorem tells_save {told : Tenant} (current : Current row r) (tells : Tells told row) :
    Tells ((r.save.apply r.loaded).2.foldl patched told) (r.save.write row r.loaded) := by
  obtain ⟨loaded,save⟩ := r
  cases save with
  | domain name token =>
      have after : (Save.apply loaded (.domain name token)).2.foldl patched told = _ := domain_patched
      dsimp only
      rw [after]
      exact ⟨rfl,fun key => (tells.2 key).trans (domain_lookup current key).symm⟩
  | page block value =>
      have after : (Save.apply loaded (.page block value)).2.foldl patched told = _ := update_patched (page_key block).1
      dsimp only
      rw [after]
      refine ⟨tells.1,fun key => ?_⟩
      rw [page_lookup current key,Dict.lookup_set,tells.2 key]
  | adapter a x =>
      have after : (Save.apply loaded (.adapter a x)).2.foldl patched told = _ := update_patched (by decide)
      dsimp only
      rw [after]
      refine ⟨tells.1,fun key => ?_⟩
      rw [adapter_lookup current key,Dict.lookup_set,tells.2 key]
      rfl

theorem touched_single {b c : Block} {value : Json} (touched : r.touched = [(b,value)]) (other : c ≠ b) : ∀ item ∈ r.touched, item.1 ≠ c := by
  intro item there same
  rw [touched,List.mem_singleton] at there
  subst there
  exact other same.symm

theorem held_save {saved : List Request} (current : Current row r) (last : ∀ b, held row.settings b = lastOf initial saved b) (b : Block) :
    held (r.save.write row r.loaded).settings b = lastOf initial (saved ++ [r]) b := by
  obtain ⟨loaded,save⟩ := r
  cases save with
  | domain name token =>
      have none_ : Request.touched ⟨loaded,.domain name token⟩ = [] := if_pos (current.challenge name token rfl)
      have untouched : ∀ item ∈ Request.touched ⟨loaded,.domain name token⟩, item.1 ≠ b := by
        rw [none_]
        exact nofun
      rw [lastOf_other untouched,← last b]
      exact held_of_keys (domain_lookup current) b
  | page block value =>
      by_cases mine : b = .page block
      · subst mine
        rw [lastOf_touched (r := ⟨loaded,.page block value⟩) rfl]
        exact (page_lookup current block.key).trans (if_pos rfl)
      · rw [lastOf_other (touched_single (r := ⟨loaded,.page block value⟩) rfl mine),← last b]
        have apart {key : String} (differ : key ≠ block.key) :
            (Save.write row loaded (.page block value)).settings.lookup key = row.settings.lookup key :=
          (page_lookup current key).trans (if_neg differ)
        cases b with
        | page other => exact apart fun same => mine (congrArg Block.page (page_key_injective same))
        | domainChallenge => exact apart (page_key block).2.1.symm
        | adapter id => exact congrArg (fun value => (dictOf value).lookup id) (apart (page_key block).2.2.symm)
  | adapter a x =>
      have whole : (Save.write row loaded (.adapter a x)).settings.lookup "adapters" = some (.obj (x.adapters a loaded.settings)) :=
        (adapter_lookup current "adapters").trans (if_pos rfl)
      have inside (id : String) : held (Save.write row loaded (.adapter a x)).settings (.adapter id) = (x.adapters a loaded.settings).lookup id :=
        congrArg (fun value => (dictOf value).lookup id) whole
      have apart {key : String} (differ : key ≠ "adapters") :
          (Save.write row loaded (.adapter a x)).settings.lookup key = row.settings.lookup key :=
        (adapter_lookup current key).trans (if_neg differ)
      by_cases mine : b = .adapter a.id
      · subst mine
        rw [lastOf_touched (r := ⟨loaded,.adapter a x⟩) rfl]
        exact (inside a.id).trans ((Dict.lookup_set ..).trans (if_pos rfl))
      · rw [lastOf_other (touched_single (r := ⟨loaded,.adapter a x⟩) rfl mine),← last b]
        cases b with
        | page other => exact apart (page_key other).2.2
        | domainChallenge => exact apart (by decide)
        | adapter id =>
            have differ : id ≠ a.id := fun same => mine (congrArg Block.adapter same)
            refine (inside id).trans ((Dict.lookup_set ..).trans ((if_neg differ).trans ?_))
            exact current.adapters a x rfl id differ

theorem step_kept (kept : Kept initial s) (turn : InTurn s action) : Kept initial (step s action) := by
  cases action with
  | load save => exact ⟨kept.last,kept.domain,kept.folded⟩
  | refuse p => exact ⟨kept.last,kept.domain,kept.folded⟩
  | commit p =>
      unfold State.step
      dsimp only
      cases known : s.requests p with
      | none => exact kept
      | some r =>
          have current := turn r known
          have tells := tells_save current (⟨kept.domain,kept.folded⟩ : Tells (s.events.flatten.foldl patched initial) s.tenant)
          have events : (s.finish p r).events.flatten.foldl patched initial =
              (r.save.apply r.loaded).2.foldl patched (s.events.flatten.foldl patched initial) := by
            show (s.events ++ [_]).flatten.foldl patched initial = _
            rw [List.flatten_append,List.foldl_append,List.flatten_singleton]
          refine ⟨held_save current kept.last,?_,?_⟩
          · exact events ▸ tells.1
          · exact events ▸ tells.2

end saves

theorem start_kept (t : Tenant) : Kept t (start t) := ⟨fun _ => rfl,rfl,fun _ => rfl⟩

theorem saves_kept (t : Tenant) (actions : List Action) (turn : Runs.Along step InTurn (start t) actions) :
    Kept t (Runs.run step (start t) actions) :=
  Runs.along_invariant step (fun _ _ => step_kept) (start_kept t) turn

def flag (on : Bool) : Json := .obj [("enabled",.bool on)]

def webhook (id : String) : Subscriber := ⟨id,none,[⟨"host",false,false⟩,⟨"url",true,false⟩],fun _ => []⟩

def submitted (host : String) : Submission := ⟨[("host",.text host),("url",.text "https://hooks.example.org/x")],[],[("pii:contact",true)]⟩

def established : Tenant := ⟨"",[("domain_challenge",.str "Kx3p")]⟩

def inTurn : List Action :=
  [.load (.page .leads (flag true)),.commit 0,.load (.adapter (webhook "webhook") (submitted " hooks.example.org ")),.commit 1,
    .load (.domain "directory.example.org" "q7Tz"),.commit 2,.load (.adapter (webhook "crm") (submitted "crm.example.org")),.refuse 3]

theorem current_self (r : Request) (row : Tenant) (same : r.loaded = row) (drawn : truthy (row.settings.lookup "domain_challenge")) : Current row r :=
  same ▸ ⟨fun _ _ => rfl,fun _ _ _ _ _ => rfl,fun _ _ _ => same ▸ drawn⟩

theorem saves_kept_in_turn : Kept established (Runs.run step (start established) inTurn) := by
  refine saves_kept established inTurn ⟨trivial,?_,trivial,?_,trivial,?_,trivial,trivial,trivial⟩
  all_goals
    intro r known
    cases known
    exact current_self _ _ rfl rfl

-- Two pages loaded before either is saved: the second save writes the first one's block back.
def overlapping : List Action :=
  [.load (.page .leads (flag true)),.load (.page .smtp (.obj [])),.commit 0,.commit 1]

theorem earlier_save_lost : ¬Kept established (Runs.run step (start established) overlapping) := by
  intro kept
  exact nomatch kept.last (.page .leads)

-- The first domain save draws a challenge that no event tells.
theorem challenge_untold : ¬Kept ⟨"",[]⟩ (Runs.run step (start ⟨"",[]⟩) [.load (.domain "directory.example.org" "q7Tz"),.commit 0]) := by
  intro kept
  exact nomatch kept.folded "domain_challenge"

end Osds.Tenants.SettingsSaves

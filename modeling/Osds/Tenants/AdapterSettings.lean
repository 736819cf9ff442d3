import Osds.Tenants.Secrets
import Osds.Tenants.SettingsSaves
import Mathlib.Data.List.Dedup
import Mathlib.Data.List.Forall2
import Mathlib.Data.List.Sort

namespace Osds.Tenants.AdapterSettings
open Directory (PatchOp)
open Secrets (Fernet Table getSecret setSecret hasSecret deleteSecret secretName)
open SettingsSaves (Fields Field Subscriber Submission Tenant dictOf adapterConfig updateTenantSettings applyAdapterSettings)

structure SettingField where
  field : Field
  label : String
  required : Bool
  pattern : Option (String → Bool)

-- A subscriber and its hooks. `validate` may raise; what `generate` gives is random.
structure Adapter where
  id : String
  configKey : Option String
  settingsFields : List SettingField
  scopes : List String
  rotatable : List String
  validate : Fields → List String → Option (List String)
  derive : Fields → Fields
  generate : Option (Nat → String → String)

section adapter

variable (a : Adapter) (x : Submission)

def Adapter.fields : List Field := a.settingsFields.map (·.field)

def Adapter.subscriber : Subscriber := ⟨a.id,a.configKey,a.fields,a.derive⟩

def Adapter.secretFieldKeys : List String := (a.fields.filter (·.secret)).map (·.key)

def storedSecrets (rows : Table) (tenant : Nat) : List String :=
  (a.secretFieldKeys ++ a.rotatable).filter fun key => hasSecret rows (secretName a.id key) tenant

def sorted (names : List String) : List String := names.dedup.mergeSort (· ≤ ·)

def stray : List String := (x.values.map Prod.fst ++ x.clear).filter (· ∉ a.fields.map (·.key))

def unknownScopes : List String := (x.grants.map Prod.fst).filter (· ∉ a.scopes)

def typed (f : Field) : Option String :=
  if f.key ∈ x.clear then none
  else match x.values.lookup f.key with
    | some (.text s) => if Text.strip s = "" then none else some (Text.strip s)
    | _ => none

def newSecrets : List (String × String) :=
  (a.fields.filter (·.secret)).filterMap fun f => (typed x f).map fun value => (f.key,value)

def drop : List String := a.secretFieldKeys.filter (· ∈ x.clear)

-- The secrets there will be, but for those that the save generates.
def after (stored : List String) : List String := (stored ++ (newSecrets a x).map Prod.fst).filter (· ∉ drop a x)

def submitted : Fields := a.fields.filterMap fun f => (x.submitted f).map fun value => (f.key,value)

def shown : Json → String
  | .str text => text
  | .bool true => "True"
  | .bool false => "False"
  | _ => ""

def patternError (f : SettingField) (value : Option Json) : Option String :=
  match f.pattern,value with
  | none,_ => none
  | some _,none => none
  | some matches_,some value =>
      if f.field.flag ∨ value = .null ∨ value = .str "" ∨ matches_ (shown value) then none
      else some (f.label ++ " is not in the expected format.")

def fieldErrors (stored : List String) (f : SettingField) : List String :=
  (if f.required ∧ f.field.secret ∧ f.field.key ∉ after a x stored then [f.label ++ " is required."] else []) ++
    (patternError f (if f.field.secret then (typed x f.field).map .str else x.submitted f.field)).toList

-- Of `_validate_adapters`, the first text it raises with.
def scalar : Json → Bool
  | .null | .bool _ | .num _ | .str _ => true
  | _ => false

def validateAdapters (adapters : Fields) : Option String :=
  adapters.findSome? fun (adapterId,config) =>
    if adapterId = "" then some "an adapter id must be a non-empty string"
    else match config with
      | .obj items => (items.find? fun item => !scalar item.2).map fun item =>
          "adapters." ++ adapterId ++ "." ++ item.1 ++ " must be a string, number, boolean or null"
      | _ => some ("adapters." ++ adapterId ++ " must be an object")

inductive Failure where
  | refused (text : String)
  -- nothing that `settings_command` was told to expect
  | raised
  deriving DecidableEq

def permit (stored : List String) (settings : Fields) : Except Failure Unit :=
  if stray a x ≠ [] then .error (.refused ("Unknown setting(s): " ++ ", ".intercalate (sorted (stray a x))))
  else if unknownScopes a x ≠ [] then .error (.refused ("This adapter does not ask for: " ++ ", ".intercalate (sorted (unknownScopes a x))))
  else match a.validate (submitted a x) (after a x stored ++ a.rotatable) with
    | none => .error .raised
    | some found =>
        let errors := found ++ a.settingsFields.flatMap (fieldErrors a x stored)
        if errors ≠ [] then .error (.refused (" ".intercalate errors))
        else match validateAdapters (x.adapters a.subscriber settings) with
          | some text => .error (.refused text)
          | none => .ok ()

end adapter

inductive Outcome where
  | applied | rejected | blocked
  deriving DecidableEq

inductive Payload where
  | settings (page : String) (fields : List String)
  | rotate (adapterId key : String)
  deriving DecidableEq

structure LogRow where
  actor : String
  payload : Payload
  outcome : Option Outcome
  reason : Option String
  deriving DecidableEq

inductive Answer where
  | saved (generated : List (String × String))
  | failed (failure : Failure)
  | rotated (value : String)
  | rotateRefused (reason : String)
  deriving DecidableEq

-- The tenant with its secrets, events and log. `draws` numbers what is random.
structure Site where
  tenant : Tenant
  secrets : Table
  events : List (List PatchOp)
  log : List LogRow
  answers : List Answer
  draws : Nat

inductive Action where
  | save (a : Adapter) (x : Submission)
  -- the role of the operator's active membership
  | rotate (a : Adapter) (role : Option Nat) (key : String)
  -- a save of another page's key
  | other (key : String) (value : Json) (apart : key ≠ "adapters")

def ADMIN : Nat := 4

section commands

variable (fernet : Fernet) (tenant : Nat)

def SettingsSave.changed (before after : Fields) : List String :=
  (before.map Prod.fst ++ after.map Prod.fst).filter fun key => before.lookup key ≠ after.lookup key

def setAll (adapterId : String) (held : Table × Nat) (given : List (String × String)) : Table × Nat :=
  given.foldl (fun held item => (setSecret fernet held.1 (secretName adapterId item.1) held.2 item.2 (some tenant),held.2+1)) held

def deleteAll (adapterId : String) (rows : Table) (keys : List String) : Table :=
  keys.foldl (fun rows key => deleteSecret rows (secretName adapterId key) tenant) rows

def generated (a : Adapter) (held : List String) (draws : Nat) : List (String × String) :=
  match a.generate with
  | none => []
  | some generate => (a.rotatable.filter (· ∉ held)).map fun key => (key,generate draws key)

def write (s : Site) (a : Adapter) (x : Submission) : Site :=
  let held := after a x (storedSecrets a s.secrets tenant)
  let (row,patch) := applyAdapterSettings s.tenant a.subscriber x
  let (set,draws) := setAll fernet tenant a.id (s.secrets,s.draws) (newSecrets a x)
  let made := generated a held draws
  let (secrets,draws) := setAll fernet tenant a.id (deleteAll tenant a.id set (drop a x),draws) made
  let names := SettingsSave.changed (adapterConfig s.tenant.settings a.subscriber) (x.config a.subscriber s.tenant.settings) ++
    (newSecrets a x).map Prod.fst ++ drop a x ++ made.map Prod.fst
  {tenant := row
   secrets := secrets
   events := s.events ++ [patch]
   log := s.log ++ [⟨"admin",.settings ("adapter." ++ a.id) (sorted names),some .applied,none⟩]
   answers := s.answers ++ [.saved made]
   draws := draws}

def Site.logged (s : Site) (row : LogRow) (answer : Answer) : Site :=
  {s with log := s.log ++ [row],answers := s.answers ++ [answer]}

def updateAdapterSettings (s : Site) (a : Adapter) (x : Submission) : Site :=
  match permit a x (storedSecrets a s.secrets tenant) s.tenant.settings with
  | .error (.refused text) =>
      s.logged ⟨"admin",.settings ("adapter." ++ a.id) [],some .rejected,some "invalid"⟩ (.failed (.refused text))
  | .error .raised => s.logged ⟨"admin",.settings ("adapter." ++ a.id) [],none,none⟩ (.failed .raised)
  | .ok () => write fernet tenant s a x

def rotateSecret (s : Site) (a : Adapter) (role : Option Nat) (key : String) : Site :=
  let actor := if role.any (ADMIN ≤ ·) then "admin" else "staff"
  if ¬role.any (ADMIN ≤ ·) then s.logged ⟨actor,.rotate a.id key,some .blocked,some "forbidden"⟩ (.rotateRefused "forbidden")
  else if key ∉ a.rotatable then
    s.logged ⟨actor,.rotate a.id key,some .rejected,some "not_rotatable"⟩ (.rotateRefused "not_rotatable")
  else match a.generate with
    | none => s.logged ⟨actor,.rotate a.id key,none,none⟩ (.failed .raised)
    | some generate =>
        let value := generate s.draws key
        {s.logged ⟨actor,.rotate a.id key,some .applied,none⟩ (.rotated value) with
          secrets := setSecret fernet s.secrets (secretName a.id key) s.draws value (some tenant)
          draws := s.draws+1}

def step (s : Site) : Action → Site
  | .save a x => updateAdapterSettings fernet tenant s a x
  | .rotate a role key => rotateSecret fernet tenant s a role key
  | .other key value _ =>
      let (row,patch) := updateTenantSettings s.tenant key value
      {s with tenant := row,events := s.events ++ [patch]}

end commands

def blanked (rows : Table) : List (Secrets.Slot × Unit) := Dict.mapValues (fun _ => ()) rows

-- Two submissions that tell secrets apart in nothing but what is typed into their fields,
-- as far as the hooks and the patterns see.
structure Alike (a : Adapter) (x x' : Submission) : Prop where
  clear : x.clear = x'.clear
  grants : x.grants = x'.grants
  names : x.values.map Prod.fst = x'.values.map Prod.fst
  plain : ∀ f ∈ a.fields, f.secret = false → x.values.lookup f.key = x'.values.lookup f.key
  blank : ∀ f ∈ a.fields, f.secret = true → (typed x f).isSome = (typed x' f).isSome
  validate : ∀ stored, a.validate (submitted a x) stored = a.validate (submitted a x') stored
  derive : a.derive (submitted a x) = a.derive (submitted a x')
  pattern : ∀ f ∈ a.settingsFields, f.field.secret = true →
    patternError f ((typed x f.field).map .str) = patternError f ((typed x' f.field).map .str)

inductive AlikeActions : Action → Action → Prop where
  | save (alike : Alike a x x') : AlikeActions (.save a x) (.save a x')
  | same (action : Action) : AlikeActions action action

structure Public (s s' : Site) : Prop where
  tenant : s.tenant = s'.tenant
  events : s.events = s'.events
  log : s.log = s'.log
  answers : s.answers = s'.answers
  draws : s.draws = s'.draws
  secrets : blanked s.secrets = blanked s'.secrets

section alike

variable {a : Adapter} {x x' : Submission} {rows rows' : Table} {s s' : Site} {fernet : Fernet} {tenant : Nat}

theorem has_blanked (same : blanked rows = blanked rows') (key : String) (tenant : Nat) :
    hasSecret rows key tenant = hasSecret rows' key tenant := by
  have read (rows : Table) : hasSecret rows key tenant = ((blanked rows).lookup ⟨some tenant,key⟩).isSome := by
    simp [hasSecret,blanked,Dict.lookup_mapValues]
  rw [read,read,same]

theorem stored_blanked (same : blanked rows = blanked rows') (tenant : Nat) (a : Adapter) :
    storedSecrets a rows tenant = storedSecrets a rows' tenant :=
  List.filter_congr fun _ _ => has_blanked same _ _

theorem set_blanked (same : blanked rows = blanked rows') (key : String) (nonce : Nat) (value value' : String) (tenant : Option Nat) :
    blanked (setSecret fernet rows key nonce value tenant) = blanked (setSecret fernet rows' key nonce value' tenant) := by
  simp only [blanked,setSecret,Dict.mapValues_set,Option.map_some] at same ⊢
  rw [same]

theorem delete_blanked (same : blanked rows = blanked rows') (key : String) (tenant : Nat) :
    blanked (deleteSecret rows key tenant) = blanked (deleteSecret rows' key tenant) := by
  simp only [blanked,deleteSecret,Dict.mapValues_set] at same ⊢
  rw [same]

theorem setAll_blanked (fernet : Fernet) (tenant : Nat) {given given' : List (String × String)} (same : blanked rows = blanked rows') (adapterId : String) (draws : Nat)
    (names : given.map Prod.fst = given'.map Prod.fst) :
    blanked (setAll fernet tenant adapterId (rows,draws) given).1 = blanked (setAll fernet tenant adapterId (rows',draws) given').1 ∧
      (setAll fernet tenant adapterId (rows,draws) given).2 = (setAll fernet tenant adapterId (rows',draws) given').2 := by
  induction given generalizing rows rows' draws given' with
  | nil =>
      rw [List.map_nil,eq_comm,List.map_eq_nil_iff] at names
      subst names
      exact ⟨same,rfl⟩
  | cons item rest ih =>
      cases given' with
      | nil => simp at names
      | cons item' rest' =>
          simp only [List.map_cons,List.cons.injEq] at names
          unfold setAll
          rw [List.foldl_cons,List.foldl_cons,names.1]
          exact ih (set_blanked same _ _ _ _ _) _ names.2

theorem deleteAll_blanked (tenant : Nat) (same : blanked rows = blanked rows') (adapterId : String) (keys : List String) :
    blanked (deleteAll tenant adapterId rows keys) = blanked (deleteAll tenant adapterId rows' keys) := by
  induction keys generalizing rows rows' with
  | nil => exact same
  | cons key rest ih => exact ih (delete_blanked same _ _)

theorem newSecrets_keys (a : Adapter) (x : Submission) :
    (newSecrets a x).map Prod.fst = ((a.fields.filter (·.secret)).filter fun f => (typed x f).isSome).map (·.key) := by
  unfold newSecrets
  induction a.fields.filter (·.secret) with
  | nil => rfl
  | cons f rest ih =>
      rw [List.filterMap_cons,List.filter_cons]
      cases typed x f with
      | none => simpa using ih
      | some value => simpa using ih

theorem newSecrets_names (alike : Alike a x x') : (newSecrets a x).map Prod.fst = (newSecrets a x').map Prod.fst := by
  rw [newSecrets_keys,newSecrets_keys]
  refine congrArg (List.map Field.key) (List.filter_congr fun f there => ?_)
  exact alike.blank f (List.mem_filter.mp there).1 (List.mem_filter.mp there).2

theorem after_alike (alike : Alike a x x') (stored : List String) : after a x stored = after a x' stored := by
  unfold after drop
  rw [newSecrets_names alike,alike.clear]

theorem submitted_plain (alike : Alike a x x') (there : f ∈ a.fields) (plain : f.secret = false) : x.submitted f = x'.submitted f := by
  unfold Submission.submitted
  rw [alike.plain f there plain,plain]
  rfl

theorem changes_alike (alike : Alike a x x') : x.changes a.subscriber = x'.changes a.subscriber := by
  have plain : (a.fields.filter fun f => !f.secret).filterMap (fun f => (x.submitted f).map fun value => (f.key,SettingsSaves.filled value)) =
      (a.fields.filter fun f => !f.secret).filterMap fun f => (x'.submitted f).map fun value => (f.key,SettingsSaves.filled value) := by
    refine List.filterMap_congr fun f there => ?_
    obtain ⟨listed,plain⟩ := List.mem_filter.mp there
    rw [submitted_plain alike listed (by simpa using plain)]
  have derived : a.subscriber.derive (submitted a x) = a.subscriber.derive (submitted a x') := alike.derive
  unfold submitted at derived
  unfold Submission.changes
  rw [alike.grants]
  exact congrArg₂ (fun plain derived => plain ++ derived ++ _) plain (congrArg (List.map _) derived)

theorem config_alike (alike : Alike a x x') (settings : Fields) : x.config a.subscriber settings = x'.config a.subscriber settings := by
  unfold Submission.config
  rw [changes_alike alike]

theorem fieldErrors_alike (alike : Alike a x x') (stored : List String) (there : f ∈ a.settingsFields) :
    fieldErrors a x stored f = fieldErrors a x' stored f := by
  unfold fieldErrors
  rw [after_alike alike]
  cases secret : f.field.secret with
  | true => simp only [if_true,alike.pattern f there secret]
  | false => rw [submitted_plain alike (List.mem_map_of_mem there) secret]; rfl

theorem permit_alike (alike : Alike a x x') (stored : List String) (settings : Fields) : permit a x stored settings = permit a x' stored settings := by
  have errors : a.settingsFields.flatMap (fieldErrors a x stored) = a.settingsFields.flatMap (fieldErrors a x' stored) :=
    List.flatMap_congr fun f there => fieldErrors_alike alike stored there
  have adapters : x.adapters a.subscriber settings = x'.adapters a.subscriber settings := by
    unfold Submission.adapters
    rw [config_alike alike]
  unfold permit stray unknownScopes
  rw [alike.names,alike.clear,alike.grants,alike.validate,after_alike alike,errors,adapters]

theorem write_alike (alike : Alike a x x') (same : Public s s') : Public (write fernet tenant s a x) (write fernet tenant s' a x') := by
  obtain ⟨row,secrets,events,log,answers,draws⟩ := s
  obtain ⟨row',secrets',events',log',answers',draws'⟩ := s'
  obtain ⟨rfl,rfl,rfl,rfl,rfl,blank⟩ := same
  have names := newSecrets_names alike
  have dropped : drop a x = drop a x' := by unfold drop; rw [alike.clear]
  have held : after a x (storedSecrets a secrets tenant) = after a x' (storedSecrets a secrets' tenant) := by
    rw [after_alike alike,stored_blanked blank]
  have saved : applyAdapterSettings row a.subscriber x = applyAdapterSettings row a.subscriber x' := by
    unfold applyAdapterSettings
    rw [config_alike alike]
  obtain ⟨set,drawn⟩ := setAll_blanked fernet tenant blank a.id draws names
  have cleared := deleteAll_blanked tenant set a.id (drop a x')
  constructor
  · simp only [write,saved]
  · simp only [write,saved]
  · simp only [write,names,dropped,held,drawn,config_alike alike]
  · simp only [write,held,drawn]
  · simp only [write,names,dropped,held,drawn]
    exact (setAll_blanked fernet tenant cleared a.id _ rfl).2
  · simp only [write,names,dropped,held,drawn]
    exact (setAll_blanked fernet tenant cleared a.id _ rfl).1

theorem update_alike (alike : Alike a x x') (same : Public s s') :
    Public (updateAdapterSettings fernet tenant s a x) (updateAdapterSettings fernet tenant s' a x') := by
  unfold updateAdapterSettings
  rw [stored_blanked same.secrets tenant a,same.tenant,permit_alike alike]
  split
  · exact ⟨same.tenant,same.events,congrArg (· ++ _) same.log,congrArg (· ++ _) same.answers,same.draws,same.secrets⟩
  · exact ⟨same.tenant,same.events,congrArg (· ++ _) same.log,congrArg (· ++ _) same.answers,same.draws,same.secrets⟩
  · exact write_alike alike same

theorem rotate_same (same : Public s s') (role : Option Nat) (key : String) :
    Public (rotateSecret fernet tenant s a role key) (rotateSecret fernet tenant s' a role key) := by
  obtain ⟨row,secrets,events,log,answers,draws⟩ := s
  obtain ⟨row',secrets',events',log',answers',draws'⟩ := s'
  obtain ⟨rfl,rfl,rfl,rfl,rfl,blank⟩ := same
  unfold rotateSecret
  dsimp only
  split
  · exact ⟨rfl,rfl,rfl,rfl,rfl,blank⟩
  · split
    · exact ⟨rfl,rfl,rfl,rfl,rfl,blank⟩
    · split
      · exact ⟨rfl,rfl,rfl,rfl,rfl,blank⟩
      · exact ⟨rfl,rfl,rfl,rfl,rfl,set_blanked blank _ _ _ _ _⟩

theorem step_alike (alike : AlikeActions action action') (same : Public s s') :
    Public (step fernet tenant s action) (step fernet tenant s' action') := by
  cases alike with
  | save alike => exact update_alike alike same
  | same =>
      cases action with
      | save a x => exact update_alike ⟨rfl,rfl,rfl,fun _ _ _ => rfl,fun _ _ _ => rfl,fun _ => rfl,rfl,fun _ _ _ => rfl⟩ same
      | rotate a role key => exact rotate_same same role key
      | other key value apart =>
          unfold step
          rw [same.tenant]
          exact ⟨rfl,congrArg (· ++ _) same.events,same.log,same.answers,same.draws,same.secrets⟩

end alike

section stores

variable {fernet : Fernet} {tenant : Nat} {adapterId name : String}

theorem own_setAll_other (held : Table × Nat) (given : List (String × String)) (apart : ∀ key, secretName adapterId key ≠ name) :
    Secrets.own fernet (setAll fernet tenant adapterId held given).1 name tenant = Secrets.own fernet held.1 name tenant := by
  induction given generalizing held with
  | nil => rfl
  | cons item rest ih =>
      unfold setAll at ih ⊢
      rw [List.foldl_cons,ih,Secrets.own_set,if_neg (apart item.1).symm]

theorem own_deleteAll_other (rows : Table) (keys : List String) (apart : ∀ key, secretName adapterId key ≠ name) :
    Secrets.own fernet (deleteAll tenant adapterId rows keys) name tenant = Secrets.own fernet rows name tenant := by
  induction keys generalizing rows with
  | nil => rfl
  | cons key rest ih =>
      unfold deleteAll at ih ⊢
      rw [List.foldl_cons,ih,Secrets.own_delete,if_neg (apart key).symm]

theorem own_write_other (s : Site) (a : Adapter) (x : Submission) (apart : ∀ key, secretName a.id key ≠ name) :
    Secrets.own fernet (write fernet tenant s a x).secrets name tenant = Secrets.own fernet s.secrets name tenant := by
  simp only [write]
  rw [own_setAll_other _ _ apart,own_deleteAll_other _ _ apart,own_setAll_other _ _ apart]

end stores

-- What secrets say is nowhere outside the store, over whole runs: not in the settings, the
-- events, the command log or any answer.
theorem secrets_untold (fernet : Fernet) (tenant : Nat) (s s' : Site) (actions actions' : List Action)
    (same : Public s s') (alike : List.Forall₂ AlikeActions actions actions') :
    Public (Runs.run (step fernet tenant) s actions) (Runs.run (step fernet tenant) s' actions') := by
  induction alike generalizing s s' with
  | nil => exact same
  | cons first _ ih => exact ih _ _ (step_alike first same)

def exampleFernet : Fernet := ⟨fun _ plaintext => plaintext,some,fun _ _ => rfl⟩

def exampleAdapter : Adapter where
  id := "feed"
  configKey := none
  settingsFields := [⟨⟨"token",true,false⟩,"Token",true,none⟩,⟨⟨"topics",false,false⟩,"Topics",false,none⟩]
  scopes := []
  rotatable := []
  validate := fun _ _ => some []
  derive := fun _ => []
  generate := none

def exampleSite : Site := ⟨⟨"directory.example.org",[]⟩,[],[],[],[],0⟩

def exampleSubmission (token : String) : Submission := ⟨[("token",.text token),("topics",.text " news ")],[],[]⟩

theorem tokens_untold : Public
    (Runs.run (step exampleFernet 7) exampleSite [.save exampleAdapter (exampleSubmission "k-1")])
    (Runs.run (step exampleFernet 7) exampleSite [.save exampleAdapter (exampleSubmission " k-2")]) := by
  refine secrets_untold exampleFernet 7 exampleSite exampleSite _ _ ⟨rfl,rfl,rfl,rfl,rfl,rfl⟩ (.cons (.save ?_) .nil)
  refine ⟨rfl,rfl,rfl,?_,?_,fun _ => rfl,rfl,?_⟩
  · simp [exampleAdapter,Adapter.fields,exampleSubmission,List.lookup_cons]
  · simp only [exampleAdapter,Adapter.fields,exampleSubmission,typed]
    decide
  · intro f there _
    have plain : f.pattern = none := by
      simp only [exampleAdapter,List.mem_cons,List.not_mem_nil,or_false] at there
      rcases there with rfl | rfl <;> rfl
    simp [patternError,plain]

end Osds.Tenants.AdapterSettings

import Osds.Adapters.Webhook
import Osds.Audit.Deliveries
import Osds.Network.Egress
import Osds.Tenants.AdapterSettings

namespace Osds.Adapters.WebhookEndpoint
open Audit (Result ResultStatus)
open Network.Egress (Library Parts Request Failure given hostOf allowed)
open Tenants.AdapterSettings hiding Failure
open Tenants.Secrets (Fernet getSecret setSecret hasSecret deleteSecret secretName)
open Tenants.SettingsSaves (Fields Submission adapterConfig applyAdapterSettings updateTenantSettings dictOf scopeSetting filled)
open Webhook (header)

def ADAPTER_ID : String := "webhook"
def MAX_BODY_BYTES : Nat := 1024*1024
def HTTP_TIMEOUT : Rat := 25

def rawText : Option Json → String
  | some (.str text) => text
  | some (.bool true) => "True"
  | _ => ""

def separates (c : Char) : Bool := Text.isBlank c || c = ','

section hooks

variable (lib : Library) (repr : String → String)

def parsePatterns (raw : Option Json) : List String :=
  (((lib.lower (Text.strip (rawText raw))).toList.splitOnP separates).filter (· ≠ [])).map String.ofList

def isPattern (pattern : String) : Bool :=
  pattern ≠ "" && pattern.toList.all fun c => c.isLower || c.isDigit || c = '_' || c = '.' || c = '*'

def ofTenant (type : String) : Bool := "tenant.".toList.isPrefixOf type.toList

def patternErrors (values : Fields) : List String :=
  ((parsePatterns lib (values.lookup "events")).filter fun pattern => !isPattern pattern || ofTenant pattern).map
    fun pattern => repr pattern ++ " is not an event pattern you can subscribe to."

def urlOf (values : Fields) : String := Text.strip (rawText (values.lookup "url"))

def urlErrors (url : String) : Option (List String) :=
  if url = "" then some []
  else (lib.urlsplit url).map fun parts =>
    if parts.scheme ∉ ["https","http"] ∨ parts.hostname.getD "" = "" then ["The endpoint URL must start with https:// and name a host."]
    else if given parts.username ∨ given parts.password then ["Put credentials in the signing secret or the path, not before the host."]
    else []

def validateSettings (values : Fields) (stored : List String) : Option (List String) :=
  (urlErrors lib (urlOf values)).map fun errors => patternErrors lib repr values ++ errors ++
    if values.lookup "enabled" = some (.bool true) ∧ ¬(urlOf values ≠ "" ∨ "url" ∈ stored) then
      ["Enter an endpoint URL before turning the endpoint on."] else []

def deriveConfig (values : Fields) : Fields :=
  if values.lookup "url" = none then []
  else [("host",.str (if urlOf values = "" then "" else ((lib.urlsplit (urlOf values)).map (hostOf lib)).getD ""))]

def webhook (generate : Nat → String → String) : Adapter where
  id := ADAPTER_ID
  configKey := none
  settingsFields :=
    [⟨⟨"enabled",false,true⟩,"Send events to the endpoint",false,none⟩,
      ⟨⟨"url",true,false⟩,"Endpoint URL",false,none⟩,
      ⟨⟨"events",false,false⟩,"Event types",false,none⟩]
  scopes := ["pii:contact","pii:message"]
  rotatable := ["signing_secret"]
  validate := validateSettings lib repr
  derive := deriveConfig lib
  generate := some generate

-- fnmatch.fnmatchcase, of a pattern with no bracket in it
def fnmatch : List Char → List Char → Bool
  | [] => fun text => text.isEmpty
  | '*' :: pattern => fun text => text.tails.any (fnmatch pattern)
  | '?' :: pattern => fun text => match text with
      | [] => false
      | _ :: rest => fnmatch pattern rest
  | c :: pattern => fun text => match text with
      | [] => false
      | d :: rest => c = d && fnmatch pattern rest

def matches_ (patterns : List String) (type : String) : Bool := patterns.any fun pattern => fnmatch pattern.toList type.toList

def enabled (config : Fields) : Bool := config.lookup "enabled" = some (.bool true)

def wants (type : String) (config : Fields) : Bool :=
  !config.isEmpty && !ofTenant type && enabled config && matches_ (parsePatterns lib (config.lookup "events")) type

def egressAllowlistFor (config : Fields) : List String :=
  let host := lib.lower (Text.strip (rawText (config.lookup "host")))
  if host = "" then [] else [host]

end hooks

structure Context where
  config : Fields
  secret : String → Option String

-- An envelope, with the bytes its JSON is.
structure Envelope where
  id : String
  type : String
  origin : Option String
  wire : List UInt8

structure HttpResponse where
  status : Int
  headers : List (String × String)

-- What `handle` comes to before it calls anyone.
inductive Prepared where
  | done (result : Result)
  | raised (name : String)
  | post (request : Request)

section handle

variable (lib : Library) (mac : Mac.Digest) (other : Char → Option (Fin 10))

def requestOf (url : String) (envelope : Envelope) (stamp signed : String) : Request where
  method := "POST"
  url := url
  headers := [("Content-Type","application/json"),("User-Agent","OSDS-Webhook/1"),("X-OSDS-Event-Id",envelope.id),
    ("X-OSDS-Event-Type",envelope.type),("X-OSDS-Timestamp",stamp),("X-OSDS-Signature",signed)]
  body := some envelope.wire
  timeout := HTTP_TIMEOUT

def prepare (url key : String) (envelope : Envelope) (timestamp : Int) : Prepared :=
  if MAX_BODY_BYTES < envelope.wire.length then .done {status := .failed,reason := "PayloadTooLarge",permanent := true}
  else match Numerals.shown timestamp,header mac key timestamp envelope.wire with
    | some stamp,.ok signed => .post (requestOf url envelope stamp signed)
    | _,_ => .raised "ValueError"

def skipped (reason : String) : Prepared := .done {status := .skipped,reason := reason}

def retryAfterMs (headers : List (String × String)) : Int :=
  match Numerals.integer other ((headers.lookup "retry-after").getD "") with
  | some seconds => max 0 seconds * 1000
  | none => 0

def http (status : Int) : String := "http " ++ toString status

def classify (response : HttpResponse) : Result :=
  let status := response.status
  if 200 ≤ status ∧ status < 300 then {status := .ok,reason := http status}
  else if status = 409 then {status := .ok,reason := "http 409 duplicate"}
  else if status = 429 then {status := .retry,reason := "http 429",retryAfterMs := some (retryAfterMs other response.headers)}
  else if status = 410 then {status := .failed,reason := "http 410",permanent := true}
  else if 300 ≤ status ∧ status < 400 then {status := .failed,reason := http status ++ " (redirects are not followed)"}
  else {status := .failed,reason := http status}

def asked (ctx : Option Context) (envelope : Envelope) (timestamp : Int) : Prepared :=
  match ctx with
  | none => skipped "no tenant"
  | some ctx =>
      if ¬enabled ctx.config then skipped "the endpoint is turned off"
      else if envelope.origin = some ADAPTER_ID then skipped "originated here"
      else if ¬matches_ (parsePatterns lib (ctx.config.lookup "events")) envelope.type then skipped "filtered out"
      else match ctx.secret "url",ctx.secret "signing_secret" with
        | some url,some key => prepare mac url key envelope timestamp
        | _,_ => skipped "not configured"

def handle (call : Request → Except Failure HttpResponse) (ctx : Option Context) (envelope : Envelope) (timestamp : Int) :
    Except String Result :=
  match asked lib mac ctx envelope timestamp with
  | .done result => .ok result
  | .raised name => .error name
  | .post request => .ok (match call request with
      | .ok response => classify other response
      | .error (.egressDenied _) => {status := .failed,reason := "EgressDenied",permanent := true}
      | .error .valueError => {status := .failed,reason := "ValueError"}
      | .error (.raised name) => {status := .failed,reason := name})

end handle

def config (s : Site) : Fields := dictOf ((dictOf (s.tenant.settings.lookup "adapters")).lookup ADAPTER_ID)

def secret (fernet : Fernet) (tenant : Nat) (s : Site) (key : String) : Option String :=
  getSecret fernet s.secrets (secretName ADAPTER_ID key) (some tenant)

def context (fernet : Fernet) (tenant : Nat) (s : Site) : Context := ⟨config s,secret fernet tenant s⟩

section submission

variable {lib : Library} {repr : String → String} {generate : Nat → String → String} {x : Submission}

def urlValue (x : Submission) : Option String :=
  if "url" ∈ x.clear then some "" else typed x ⟨"url",true,false⟩

def hostFor (lib : Library) (url : String) : String :=
  if url = "" then "" else ((lib.urlsplit url).map (hostOf lib)).getD ""

theorem typed_stripped (there : typed x f = some value) : value ≠ "" ∧ Text.strip value = value := by
  unfold typed at there
  split at there
  · cases there
  · split at there
    · split at there
      · cases there
      · next some_ =>
          cases there
          exact ⟨some_,Text.strip_strip _⟩
    · cases there

theorem urlValue_stripped (there : urlValue x = some url) : Text.strip url = url := by
  unfold urlValue at there
  split at there
  · cases there
    decide
  · exact (typed_stripped there).2

theorem submitted_url (x : Submission) : x.submitted ⟨"url",true,false⟩ = (urlValue x).map .str := by
  unfold Submission.submitted urlValue typed
  dsimp only
  simp only [if_true]
  split
  · rfl
  · cases x.values.lookup "url" with
    | none => rfl
    | some value =>
        cases value with
        | flag b => rfl
        | text s =>
            dsimp only
            split <;> rfl

theorem submitted_plain_fields (x : Submission) : ∃ on events,
    x.submitted ⟨"enabled",false,true⟩ = some (.bool on) ∧ x.submitted ⟨"events",false,false⟩ = some events := by
  obtain ⟨on,flagged⟩ : ∃ on, x.submitted ⟨"enabled",false,true⟩ = some (.bool on) := by
    unfold Submission.submitted
    cases x.values.lookup "enabled" with
    | none => exact ⟨false,rfl⟩
    | some value => cases value <;> exact ⟨_,rfl⟩
  refine ⟨on,?_⟩
  unfold Submission.submitted
  cases x.values.lookup "events" with
  | none => exact ⟨.null,by simpa [Submission.submitted] using flagged,rfl⟩
  | some value => cases value <;> exact ⟨_,by simpa [Submission.submitted] using flagged,rfl⟩

def seen (x : Submission) (on : Bool) (events : Json) : Fields :=
  ("enabled",.bool on) :: (((urlValue x).map fun url => ("url",Json.str url)).toList ++ [("events",events)])

theorem submitted_webhook (lib : Library) (repr : String → String) (generate : Nat → String → String)
    (flagged : x.submitted ⟨"enabled",false,true⟩ = some (.bool on)) (listed : x.submitted ⟨"events",false,false⟩ = some events) :
    submitted (webhook lib repr generate) x = seen x on events := by
  cases url : urlValue x <;> simp [submitted,seen,webhook,Adapter.fields,flagged,listed,submitted_url,url]

theorem urlOf_seen (x : Submission) (on : Bool) (events : Json) : urlOf (seen x on events) = (urlValue x).getD "" := by
  cases url : urlValue x with
  | none => simp [seen,urlOf,rawText,List.lookup_cons,url,show Text.strip "" = "" by decide]
  | some url' => simp [seen,urlOf,rawText,List.lookup_cons,url,urlValue_stripped url]

theorem derive_webhook (lib : Library) (x : Submission) (on : Bool) (events : Json) :
    deriveConfig lib (seen x on events) = ((urlValue x).map fun url => ("host",Json.str (hostFor lib url))).toList := by
  unfold deriveConfig
  rw [urlOf_seen]
  cases url : urlValue x <;> simp [seen,hostFor,List.lookup_cons,url]

theorem scope_apart (admitted : unknownScopes (webhook lib repr generate) x = []) {key : String} (apart : key ∈ ["enabled","host","events"]) :
    key ∉ (x.grants.map fun grant => (scopeSetting grant.1,some (Json.bool grant.2))).map Prod.fst := by
  rw [List.map_map]
  intro there
  obtain ⟨grant,listed,rfl⟩ := List.mem_map.mp there
  have asked : grant.1 = "pii:contact" ∨ grant.1 = "pii:message" := by
    have kept := List.filter_eq_nil_iff.mp admitted grant.1 (List.mem_map_of_mem listed)
    simpa [webhook,Classical.or_iff_not_imp_left] using kept
  dsimp only [Function.comp] at apart
  rcases asked with same | same <;> rw [same] at apart <;> revert apart <;> decide

theorem config_saved (lib : Library) (repr : String → String) (generate : Nat → String → String)
    (flagged : x.submitted ⟨"enabled",false,true⟩ = some (.bool on))
    (listed : x.submitted ⟨"events",false,false⟩ = some events) (admitted : unknownScopes (webhook lib repr generate) x = []) (settings : Fields) :
    (x.config (webhook lib repr generate).subscriber settings).lookup "enabled" = some (.bool on) ∧
      (x.config (webhook lib repr generate).subscriber settings).lookup "host" = match urlValue x with
        | none => (adapterConfig settings (webhook lib repr generate).subscriber).lookup "host"
        | some url => filled (.str (hostFor lib url)) := by
  have derived : (webhook lib repr generate).derive (submitted (webhook lib repr generate) x) = _ :=
    (congrArg (deriveConfig lib) (submitted_webhook lib repr generate flagged listed)).trans (derive_webhook lib x on events)
  have changes : x.changes (webhook lib repr generate).subscriber =
      (("enabled",some (.bool on)) :: ("events",filled events) ::
        (((urlValue x).map fun url => ("host",filled (Json.str (hostFor lib url)))).toList)) ++
          x.grants.map fun grant => (scopeSetting grant.1,some (.bool grant.2)) := by
    unfold submitted at derived
    unfold Submission.changes
    dsimp only [Adapter.subscriber]
    rw [derived]
    cases urlValue x <;> simp [webhook,Adapter.fields,flagged,listed,filled]
  unfold Submission.config
  rw [changes,List.foldl_append,Dict.lookup_fold _ _ (scope_apart admitted (by simp)),Dict.lookup_fold _ _ (scope_apart admitted (by simp))]
  cases urlValue x <;> simp [Dict.lookup_set]

theorem newSecrets_webhook (lib : Library) (repr : String → String) (generate : Nat → String → String) (x : Submission) :
    newSecrets (webhook lib repr generate) x = (((urlValue x).filter (· ≠ "")).map fun url => ("url",url)).toList := by
  have read : newSecrets (webhook lib repr generate) x = ((typed x ⟨"url",true,false⟩).map fun url => ("url",url)).toList := by
    cases found : typed x ⟨"url",true,false⟩ <;> simp [newSecrets,webhook,Adapter.fields,found]
  rw [read]
  unfold urlValue
  split
  · next cleared => simp [typed,cleared]
  · cases found : typed x ⟨"url",true,false⟩ with
    | none => rfl
    | some url => simp [Option.filter,(typed_stripped found).1]

theorem drop_webhook (lib : Library) (repr : String → String) (generate : Nat → String → String) (x : Submission) :
    drop (webhook lib repr generate) x = if urlValue x = some "" then ["url"] else [] := by
  unfold urlValue
  by_cases cleared : "url" ∈ x.clear
  · simp [drop,webhook,Adapter.secretFieldKeys,Adapter.fields,cleared]
  · rw [if_neg cleared,if_neg fun empty => (typed_stripped empty).1 rfl]
    simp [drop,webhook,Adapter.secretFieldKeys,Adapter.fields,cleared]

end submission

section saved

variable {fernet : Fernet} {tenant : Nat} {lib : Library} {repr : String → String} {generate : Nat → String → String}

def ownUrl (fernet : Fernet) (tenant : Nat) (s : Site) : Option (Option String) :=
  Tenants.Secrets.own fernet s.secrets (secretName ADAPTER_ID "url") tenant

def ownKey (fernet : Fernet) (tenant : Nat) (s : Site) : Option (Option String) :=
  Tenants.Secrets.own fernet s.secrets (secretName ADAPTER_ID "signing_secret") tenant

theorem after_url (fernet : Fernet) (tenant : Nat) (lib : Library) (repr : String → String) (generate : Nat → String → String) (s : Site)
    (x : Submission) :
    "url" ∈ after (webhook lib repr generate) x (storedSecrets (webhook lib repr generate) s.secrets tenant) ↔
      match urlValue x with
      | none => (ownUrl fernet tenant s).isSome = true
      | some url => url ≠ "" := by
  unfold after storedSecrets ownUrl
  rw [← Tenants.Secrets.has_own,newSecrets_webhook,drop_webhook]
  cases value : urlValue x with
  | none => simp [webhook,Adapter.secretFieldKeys,Adapter.fields]
  | some url =>
      by_cases empty : url = ""
      · simp [webhook,Adapter.secretFieldKeys,Adapter.fields,empty]
      · simp [webhook,Adapter.secretFieldKeys,Adapter.fields,empty]

theorem after_key (fernet : Fernet) (tenant : Nat) (lib : Library) (repr : String → String) (generate : Nat → String → String) (s : Site)
    (x : Submission) :
    "signing_secret" ∈ after (webhook lib repr generate) x (storedSecrets (webhook lib repr generate) s.secrets tenant) ↔
      (ownKey fernet tenant s).isSome = true := by
  unfold after storedSecrets ownKey
  rw [← Tenants.Secrets.has_own,newSecrets_webhook,drop_webhook]
  cases value : urlValue x with
  | none => simp [webhook,Adapter.secretFieldKeys,Adapter.fields]
  | some url =>
      by_cases empty : url = ""
      · simp [webhook,Adapter.secretFieldKeys,Adapter.fields,empty]
      · simp [webhook,Adapter.secretFieldKeys,Adapter.fields,empty]

theorem names_apart : secretName ADAPTER_ID "url" ≠ secretName ADAPTER_ID "signing_secret" := by decide

section stores

variable (fernet : Fernet) (tenant : Nat) (lib : Library) (repr : String → String) (generate : Nat → String → String) (x : Submission)
  (rows : Tenants.Secrets.Table) (draws : Nat) (held : List String)

def keptUrl : Tenants.Secrets.Table :=
  deleteAll tenant ADAPTER_ID (setAll fernet tenant ADAPTER_ID (rows,draws) (newSecrets (webhook lib repr generate) x)).1
    (drop (webhook lib repr generate) x)

theorem keptUrl_url : Tenants.Secrets.own fernet (keptUrl fernet tenant lib repr generate x rows draws) (secretName ADAPTER_ID "url") tenant =
    match urlValue x with
    | none => Tenants.Secrets.own fernet rows (secretName ADAPTER_ID "url") tenant
    | some url => if url = "" then none else some (some url) := by
  unfold keptUrl
  rw [newSecrets_webhook,drop_webhook]
  cases urlValue x with
  | none => rfl
  | some url =>
      by_cases empty : url = ""
      · simp [empty,Option.filter,deleteAll,setAll,Tenants.Secrets.own_delete]
      · simp [empty,Option.filter,deleteAll,setAll,Tenants.Secrets.own_set]

theorem keptUrl_key :
    Tenants.Secrets.own fernet (keptUrl fernet tenant lib repr generate x rows draws) (secretName ADAPTER_ID "signing_secret") tenant =
      Tenants.Secrets.own fernet rows (secretName ADAPTER_ID "signing_secret") tenant := by
  unfold keptUrl
  rw [newSecrets_webhook,drop_webhook]
  cases urlValue x with
  | none => rfl
  | some url =>
      by_cases empty : url = ""
      · simp [empty,Option.filter,deleteAll,setAll,Tenants.Secrets.own_delete,names_apart.symm]
      · simp [empty,Option.filter,deleteAll,setAll,Tenants.Secrets.own_set,names_apart.symm]

theorem generated_webhook : generated (webhook lib repr generate) held draws =
    if "signing_secret" ∈ held then [] else [("signing_secret",generate draws "signing_secret")] := by
  by_cases there : "signing_secret" ∈ held <;> simp [generated,webhook,there]

theorem made_url :
    Tenants.Secrets.own fernet (setAll fernet tenant ADAPTER_ID (rows,draws) (generated (webhook lib repr generate) held draws)).1
      (secretName ADAPTER_ID "url") tenant = Tenants.Secrets.own fernet rows (secretName ADAPTER_ID "url") tenant := by
  rw [generated_webhook]
  split
  · rfl
  · simp [setAll,Tenants.Secrets.own_set,names_apart]

theorem made_key :
    Tenants.Secrets.own fernet (setAll fernet tenant ADAPTER_ID (rows,draws) (generated (webhook lib repr generate) held draws)).1
      (secretName ADAPTER_ID "signing_secret") tenant =
        if "signing_secret" ∈ held then Tenants.Secrets.own fernet rows (secretName ADAPTER_ID "signing_secret") tenant
        else some (some (generate draws "signing_secret")) := by
  rw [generated_webhook]
  split
  · rfl
  · simp [setAll,Tenants.Secrets.own_set]

end stores

theorem url_saved (s : Site) (x : Submission) : ownUrl fernet tenant (write fernet tenant s (webhook lib repr generate) x) =
    match urlValue x with
    | none => ownUrl fernet tenant s
    | some url => if url = "" then none else some (some url) :=
  (made_url ..).trans (keptUrl_url ..)

theorem key_saved (fernet : Fernet) (tenant : Nat) (lib : Library) (repr : String → String) (generate : Nat → String → String) (s : Site)
    (x : Submission) : ∃ drawn, ownKey fernet tenant (write fernet tenant s (webhook lib repr generate) x) =
    some ((ownKey fernet tenant s).getD (some (generate drawn "signing_secret"))) := by
  have held := after_key fernet tenant lib repr generate s x
  obtain ⟨drawn,read⟩ : ∃ drawn, ownKey fernet tenant (write fernet tenant s (webhook lib repr generate) x) =
      if "signing_secret" ∈ after (webhook lib repr generate) x (storedSecrets (webhook lib repr generate) s.secrets tenant) then
        Tenants.Secrets.own fernet (keptUrl fernet tenant lib repr generate x s.secrets s.draws) (secretName ADAPTER_ID "signing_secret") tenant
      else some (some (generate drawn "signing_secret")) := ⟨_,made_key ..⟩
  refine ⟨drawn,read.trans ?_⟩
  rw [keptUrl_key]
  cases own : ownKey fernet tenant s with
  | none => rw [if_neg (by simp [held,own])]; rfl
  | some opened => rw [if_pos (by simp [held,own])]; exact own

end saved

structure Lowers (lower : String → String) : Prop where
  again : ∀ text, lower (lower text) = lower text
  some_ : ∀ text, lower text = "" → text = ""

-- A stored URL is one that can be called, and its host is the one that is configured.
inductive Located (lib : Library) (config : Fields) : Option (Option String) → Prop
  | nowhere (unset : config.lookup "host" = none) : Located lib config none
  | host {url : String} {parts : Parts} (read : lib.urlsplit url = some parts) (scheme : parts.scheme ∈ ["https","http"])
      (named : parts.hostname.getD "" ≠ "") (bare : ¬(given parts.username ∨ given parts.password))
      (shown : config.lookup "host" = some (.str (hostOf lib parts))) : Located lib config (some (some url))

structure Sound (lib : Library) (fernet : Fernet) (tenant : Nat) (s : Site) : Prop where
  located : Located lib (config s) (ownUrl fernet tenant s)
  key : ∀ opened, ownKey fernet tenant s = some opened → ∃ key, opened = some key
  ready : enabled (config s) = true → (ownUrl fernet tenant s).isSome = true ∧ (ownKey fernet tenant s).isSome = true

structure Apart (a : Adapter) : Prop where
  id : a.id ≠ ADAPTER_ID
  url : ∀ key, secretName a.id key ≠ secretName ADAPTER_ID "url"
  key : ∀ key, secretName a.id key ≠ secretName ADAPTER_ID "signing_secret"

section invariant

variable {fernet : Fernet} {tenant : Nat} {lib : Library} {repr : String → String} {generate : Nat → String → String} {s : Site}
  {a : Adapter} {x : Submission}

theorem config_write (fernet : Fernet) (tenant : Nat) (lib : Library) (repr : String → String) (generate : Nat → String → String) (s : Site)
    (x : Submission) :
    config (write fernet tenant s (webhook lib repr generate) x) = x.config (webhook lib repr generate).subscriber s.tenant.settings := by
  simp only [config,write,applyAdapterSettings,updateTenantSettings,Dict.lookup_set,if_true]
  simp only [dictOf,Adapter.subscriber,webhook,Dict.lookup_set,if_true]

theorem config_write_other (s : Site) (x : Submission) (apart : a.id ≠ ADAPTER_ID) : config (write fernet tenant s a x) = config s := by
  simp only [config,write,applyAdapterSettings,updateTenantSettings,Dict.lookup_set,if_true]
  simp only [dictOf,Adapter.subscriber,Dict.lookup_set,if_neg apart.symm]

theorem permit_webhook {stored : List String} {settings : Fields} (ok : permit (webhook lib repr generate) x stored settings = .ok u) :
    unknownScopes (webhook lib repr generate) x = [] ∧
      validateSettings lib repr (submitted (webhook lib repr generate) x) (after (webhook lib repr generate) x stored ++ ["signing_secret"]) = some [] := by
  unfold permit at ok
  split at ok
  · cases ok
  · split at ok
    · cases ok
    · next scopes =>
        refine ⟨not_not.mp scopes,?_⟩
        split at ok
        · cases ok
        · next found valid =>
            dsimp only at ok
            split at ok
            · cases ok
            · next none_ =>
                have empty := (List.append_eq_nil_iff.mp (not_not.mp none_)).1
                have hook : (webhook lib repr generate).validate = validateSettings lib repr := rfl
                have rotatable : (webhook lib repr generate).rotatable = ["signing_secret"] := rfl
                rw [empty,hook,rotatable] at valid
                exact valid

theorem urlErrors_none {url : String} (none_ : urlErrors lib url = some []) (some_ : url ≠ "") :
    ∃ parts, lib.urlsplit url = some parts ∧ parts.scheme ∈ ["https","http"] ∧ parts.hostname.getD "" ≠ "" ∧
      ¬(given parts.username ∨ given parts.password) := by
  unfold urlErrors at none_
  rw [if_neg some_] at none_
  obtain ⟨parts,read,errors⟩ := Option.map_eq_some_iff.mp none_
  split at errors
  · cases errors
  · next place =>
      split at errors
      · cases errors
      · next bare => exact ⟨parts,read,not_not.mp fun out => place (Or.inl out),fun empty => place (Or.inr empty),bare⟩

theorem validate_none {stored : List String} (valid : validateSettings lib repr (seen x on events) stored = some []) :
    urlErrors lib ((urlValue x).getD "") = some [] ∧ (on = true → (urlValue x).getD "" ≠ "" ∨ "url" ∈ stored) := by
  unfold validateSettings at valid
  rw [urlOf_seen] at valid
  obtain ⟨errors,url,empty⟩ := Option.map_eq_some_iff.mp valid
  obtain ⟨both,ready⟩ := List.append_eq_nil_iff.mp empty
  rw [url,(List.append_eq_nil_iff.mp both).2]
  refine ⟨rfl,fun on_ => ?_⟩
  by_contra none_
  rw [if_pos ⟨by simp [seen,on_],none_⟩] at ready
  cases ready

theorem filled_some {text : String} (some_ : text ≠ "") : filled (.str text) = some (.str text) := by
  unfold filled
  split
  · next same => cases same
  · next same => exact absurd (Json.str.inj same) some_
  · rfl

theorem save_sound (lowers : Lowers lib.lower) (sound : Sound lib fernet tenant s)
    (ok : permit (webhook lib repr generate) x (storedSecrets (webhook lib repr generate) s.secrets tenant) s.tenant.settings = .ok u) :
    Sound lib fernet tenant (write fernet tenant s (webhook lib repr generate) x) := by
  obtain ⟨scopes,valid⟩ := permit_webhook ok
  obtain ⟨on,events,flagged,listed⟩ := submitted_plain_fields x
  rw [submitted_webhook lib repr generate flagged listed] at valid
  obtain ⟨url,ready⟩ := validate_none valid
  obtain ⟨switch,host⟩ := config_saved lib repr generate flagged listed scopes s.tenant.settings
  have left := after_url fernet tenant lib repr generate s x
  obtain ⟨drawn,key⟩ := key_saved fernet tenant lib repr generate s x
  have config_ := config_write fernet tenant lib repr generate s x
  refine ⟨?_,?_,?_⟩
  · rw [url_saved,config_]
    cases value : urlValue x with
    | none =>
        rw [value] at host
        cases own : ownUrl fernet tenant s with
        | none =>
            have located := sound.located
            rw [own] at located
            cases located with
            | nowhere unset => exact .nowhere (host.trans unset)
        | some opened =>
            have located := sound.located
            rw [own] at located
            cases located with
            | host read scheme named bare shown => exact .host read scheme named bare (host.trans shown)
    | some new =>
        rw [value] at host url
        dsimp only at host ⊢
        by_cases empty : new = ""
        · subst empty
          exact .nowhere host
        · obtain ⟨parts,read,scheme,named,bare⟩ := urlErrors_none url empty
          rw [if_neg empty]
          refine .host read scheme named bare ?_
          have lowered : hostOf lib parts ≠ "" := fun none_ => named (lowers.some_ _ none_)
          have found : hostFor lib new = hostOf lib parts := by
            rw [hostFor,if_neg empty,show lib.urlsplit new = some parts from read]
            rfl
          rw [host,found,filled_some lowered]
  · intro opened there
    rw [key] at there
    cases own : ownKey fernet tenant s with
    | none => exact ⟨_,by simpa [own] using there.symm⟩
    | some before =>
        obtain ⟨value,rfl⟩ := sound.key before own
        exact ⟨value,by simpa [own] using there.symm⟩
  · intro on_
    rw [config_] at on_
    have switched : on = true := by simpa [enabled,switch] using on_
    refine ⟨?_,by rw [key]; rfl⟩
    rw [url_saved]
    have there : "url" ∈ after (webhook lib repr generate) x (storedSecrets (webhook lib repr generate) s.secrets tenant) := by
      rcases ready switched with some_ | member
      · cases value : urlValue x with
        | none => simp [value] at some_
        | some new => rw [value] at left some_; exact left.mpr some_
      · simpa using member
    have set := left.mp there
    cases value : urlValue x with
    | none => simpa [value] using set
    | some new =>
        rw [value] at set
        simp [if_neg set]

theorem sound_same {s' : Site} (sound : Sound lib fernet tenant s) (same : config s' = config s)
    (url : ownUrl fernet tenant s' = ownUrl fernet tenant s) (key : ownKey fernet tenant s' = ownKey fernet tenant s) :
    Sound lib fernet tenant s' := by
  refine ⟨?_,?_,?_⟩
  · rw [url,same]; exact sound.located
  · rw [key]; exact sound.key
  · rw [same,url,key]; exact sound.ready

theorem sound_keyed {s' : Site} (sound : Sound lib fernet tenant s) (same : config s' = config s)
    (url : ownUrl fernet tenant s' = ownUrl fernet tenant s) (key : ownKey fernet tenant s' = some (some value)) :
    Sound lib fernet tenant s' := by
  refine ⟨?_,?_,?_⟩
  · rw [url,same]; exact sound.located
  · rw [key]; exact fun opened there => ⟨value,(Option.some.inj there).symm⟩
  · rw [same,url,key]; exact fun on => ⟨(sound.ready on).1,rfl⟩

theorem update_sound (lowers : Lowers lib.lower) (sound : Sound lib fernet tenant s) (known : a = webhook lib repr generate ∨ Apart a) :
    Sound lib fernet tenant (updateAdapterSettings fernet tenant s a x) := by
  unfold updateAdapterSettings
  split
  · exact sound_same sound rfl rfl rfl
  · exact sound_same sound rfl rfl rfl
  · next ok =>
      rcases known with rfl | apart
      · exact save_sound lowers sound ok
      · exact sound_same sound (config_write_other s x apart.id) (own_write_other s a x apart.url) (own_write_other s a x apart.key)

theorem rotate_sound (sound : Sound lib fernet tenant s) (known : a = webhook lib repr generate ∨ Apart a) (role : Option Nat) (key : String) :
    Sound lib fernet tenant (rotateSecret fernet tenant s a role key) := by
  unfold rotateSecret
  dsimp only
  split
  · exact sound_same sound rfl rfl rfl
  · split
    · exact sound_same sound rfl rfl rfl
    · next listed =>
        split
        · exact sound_same sound rfl rfl rfl
        · next made _ =>
            rcases known with rfl | apart
            · have named : key = "signing_secret" := by simpa [webhook] using listed
              subst named
              exact sound_keyed sound rfl ((Tenants.Secrets.own_set ..).trans (if_neg names_apart))
                ((Tenants.Secrets.own_set ..).trans (if_pos rfl))
            · refine sound_same sound rfl ?_ ?_
              · exact (Tenants.Secrets.own_set ..).trans (if_neg (apart.url key).symm)
              · exact (Tenants.Secrets.own_set ..).trans (if_neg (apart.key key).symm)

def Known (lib : Library) (repr : String → String) (generate : Nat → String → String) : Action → Prop
  | .save a _ | .rotate a _ _ => a = webhook lib repr generate ∨ Apart a
  | .other _ _ _ => True

theorem step_sound (lowers : Lowers lib.lower) (sound : Sound lib fernet tenant s) (known : Known lib repr generate action) :
    Sound lib fernet tenant (step fernet tenant s action) := by
  cases action with
  | save a x => exact update_sound lowers sound known
  | rotate a role key => exact rotate_sound sound known role key
  | other key value apart =>
      refine sound_same sound ?_ rfl rfl
      simp only [config,step,updateTenantSettings,Dict.lookup_set,if_neg apart.symm]

structure Fresh (fernet : Fernet) (tenant : Nat) (s : Site) : Prop where
  config : config s = []
  url : ownUrl fernet tenant s = none
  key : ownKey fernet tenant s = none

theorem fresh_sound (fresh : Fresh fernet tenant s) : Sound lib fernet tenant s := by
  refine ⟨?_,?_,?_⟩
  · rw [fresh.url,fresh.config]
    exact .nowhere rfl
  · rw [fresh.key]
    exact nofun
  · rw [fresh.config]
    exact nofun

theorem run_sound (lowers : Lowers lib.lower) (sound : Sound lib fernet tenant s) (actions : List Action)
    (known : ∀ action ∈ actions, Known lib repr generate action) : Sound lib fernet tenant (Runs.run (step fernet tenant) s actions) := by
  induction actions generalizing s with
  | nil => exact sound
  | cons action rest ih =>
      exact ih (step_sound lowers sound (known action List.mem_cons_self)) fun other there => known other (List.mem_cons_of_mem _ there)

end invariant

section delivery

variable (lib : Library) (mac : Mac.Digest) (other : Char → Option (Fin 10)) (fernet : Fernet) (tenant : Nat) (s : Site)

-- The one call an event makes: the stored URL is asked for, under the stored key, and
-- nothing of the egress check is against the URL itself.
def Called (envelope : Envelope) (timestamp : Int) : Prop :=
  ∃ url key parts request signed, ownUrl fernet tenant s = some (some url) ∧ ownKey fernet tenant s = some (some key) ∧
    asked lib mac (some (context fernet tenant s)) envelope timestamp = .post request ∧ request.url = url ∧
    request.body = some envelope.wire ∧ request.headers.lookup "X-OSDS-Signature" = some signed ∧
    (∀ now tolerance, Webhook.verify mac other key signed envelope.wire now tolerance =
      .ok (decide (Webhook.Timely now tolerance timestamp))) ∧
    lib.urlsplit url = some parts ∧ parts.scheme ∈ ["https","http"] ∧ hostOf lib parts ≠ "" ∧
    ¬(given parts.username ∨ given parts.password) ∧
    (∀ host ∈ allowed lib (egressAllowlistFor lib (config s)), host = lib.lower (Text.strip (hostOf lib parts))) ∧
    (Text.strip (hostOf lib parts) = hostOf lib parts → hostOf lib parts ∈ allowed lib (egressAllowlistFor lib (config s)))

theorem allowed_of (lowers : Lowers lib.lower) {config : Fields} (shown : config.lookup "host" = some (.str host)) :
    allowed lib (egressAllowlistFor lib config) = if lib.lower (Text.strip host) = "" then [] else [lib.lower (Text.strip host)] := by
  have read : rawText (config.lookup "host") = host := by rw [shown]; rfl
  unfold egressAllowlistFor allowed
  rw [read]
  dsimp only
  split
  · rfl
  · next some_ => simp [some_,lowers.again]

theorem sound_called (lowers : Lowers lib.lower) (sound : Sound lib fernet tenant s) (envelope : Envelope) (timestamp : Int)
    (wanted : wants lib envelope.type (config s) = true) (foreign : envelope.origin ≠ some ADAPTER_ID)
    (short : envelope.wire.length ≤ MAX_BODY_BYTES) (dated : (Numerals.shown timestamp).isSome = true) :
    Called lib mac other fernet tenant s envelope timestamp := by
  simp only [wants,Bool.and_eq_true] at wanted
  obtain ⟨⟨_,on⟩,matched⟩ := wanted
  obtain ⟨hasUrl,hasKey⟩ := sound.ready on
  obtain ⟨opened,key_⟩ := Option.isSome_iff_exists.mp hasKey
  obtain ⟨key,rfl⟩ := sound.key opened key_
  obtain ⟨stamp,dated⟩ := Option.isSome_iff_exists.mp dated
  have located := sound.located
  cases own : ownUrl fernet tenant s with
  | none => rw [own] at hasUrl; cases hasUrl
  | some opened =>
      rw [own] at located
      cases located with
      | @host url parts read scheme named bare shown =>
          obtain ⟨signed,headed⟩ : ∃ signed, header mac key timestamp envelope.wire = .ok signed := by
            simp only [header,Webhook.signature,dated]
            exact ⟨_,rfl⟩
          have some_ : hostOf lib parts ≠ "" := fun none_ => named (lowers.some_ _ none_)
          have answered : asked lib mac (some (context fernet tenant s)) envelope timestamp = prepare mac url key envelope timestamp := by
            have first : (context fernet tenant s).secret "url" = some url := Tenants.Secrets.get_own own
            have second : (context fernet tenant s).secret "signing_secret" = some key := Tenants.Secrets.get_own key_
            simp only [asked,first,second]
            rw [if_neg fun off => off on,if_neg foreign,if_neg fun out => out matched]
          have posted : prepare mac url key envelope timestamp = .post (requestOf url envelope stamp signed) := by
            unfold prepare
            rw [if_neg (Nat.not_lt.mpr short),dated,headed]
          refine ⟨url,key,parts,_,signed,own,key_,answered.trans posted,rfl,rfl,rfl,fun now tolerance => Webhook.verify_header headed,
            read,scheme,some_,bare,?_,?_⟩
          · intro host there
            rw [allowed_of lib lowers shown] at there
            split at there
            · cases there
            · exact List.mem_singleton.mp there
          · intro plain
            rw [allowed_of lib lowers shown,plain]
            have same : lib.lower (hostOf lib parts) = hostOf lib parts := lowers.again _
            rw [same,if_neg some_]
            exact List.mem_singleton_self _

-- Over any run of the settings pages a wanted event is posted to the URL that was
-- stored, at the host that is shown, with a signature under the stored key.
theorem endpoint_kept (lowers : Lowers lib.lower) (repr : String → String) (generate : Nat → String → String) (fresh : Fresh fernet tenant s)
    (actions : List Action) (known : ∀ action ∈ actions, Known lib repr generate action) :
    let left := Runs.run (step fernet tenant) s actions
    Sound lib fernet tenant left ∧ ∀ envelope timestamp, wants lib envelope.type (config left) = true → envelope.origin ≠ some ADAPTER_ID →
      envelope.wire.length ≤ MAX_BODY_BYTES → (Numerals.shown timestamp).isSome = true →
        Called lib mac other fernet tenant left envelope timestamp := by
  intro left
  have sound : Sound lib fernet tenant left := run_sound lowers (fresh_sound fresh) actions known
  exact ⟨sound,fun envelope timestamp => sound_called lib mac other fernet tenant left lowers sound envelope timestamp⟩

end delivery

section example_endpoint

open Network.Egress (exampleLibrary)

def exampleWebhook : Adapter := webhook exampleLibrary (fun pattern => pattern) fun draw key => key ++ toString draw

def freshSite : Site := ⟨⟨"directory.example.org",[]⟩,[],[],[],[],0⟩

def exampleActions : List Action :=
  [.save exampleWebhook ⟨[("enabled",.flag true),("url",.text " http://Hooks.internal/in?x=1"),("events",.text "claim.*, lead.captured")],[],
      [("pii:contact",true)]⟩,
    .rotate exampleWebhook (some ADMIN) "signing_secret"]

def exampleEnvelope : Envelope := ⟨"01J","claim.approved",some "smtp",[0x7B,0x7D]⟩

theorem exampleLibrary_lowers : Lowers exampleLibrary.lower := by
  constructor
  · intro text
    by_cases given_ : text = "Hooks.Internal" <;> simp [exampleLibrary,given_]
  · intro text lowered
    by_cases given_ : text = "Hooks.Internal"
    · simp [exampleLibrary,given_] at lowered
    · simpa [exampleLibrary,given_] using lowered

theorem internal_hook_called : Called exampleLibrary Webhook.exampleMac (fun _ => none) exampleFernet 7
    (Runs.run (step exampleFernet 7) freshSite exampleActions) exampleEnvelope 1000 := by
  refine (endpoint_kept exampleLibrary Webhook.exampleMac (fun _ => none) exampleFernet 7 freshSite exampleLibrary_lowers
    (fun pattern => pattern) (fun draw key => key ++ toString draw) ⟨rfl,rfl,rfl⟩ exampleActions ?_).2 exampleEnvelope 1000 ?_ ?_ ?_ ?_
  · intro action there
    simp only [exampleActions,List.mem_cons,List.not_mem_nil,or_false] at there
    rcases there with rfl | rfl <;> exact Or.inl rfl
  · decide +kernel
  · decide
  · decide
  · decide +kernel

end example_endpoint

end Osds.Adapters.WebhookEndpoint

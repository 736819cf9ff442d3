import Osds.Lib.Fallible
import Osds.Lib.Ip
import Mathlib.Algebra.Order.Ring.Unbundled.Rat
import Mathlib.Logic.Basic

namespace Osds.Network.Egress
open Ip

def CONNECT_TIMEOUT : Rat := 10
def TOTAL_DEADLINE : Rat := 25

-- `urlsplit` of a URL; reading a port that is none fails.
structure Parts where
  scheme : String
  hostname : Option String
  username : Option String
  password : Option String
  port : Option (Option Nat)
  path : String
  query : String

structure Library where
  urlsplit : String → Option Parts
  lower : String → String
  ipAddress : String → Option Address
  isGlobal : Address → Bool

inductive Failure where
  | egressDenied (message : String)
  | valueError
  | raised (name : String)
  deriving DecidableEq

def ALWAYS_DENIED : List Network :=
  [.v4 (Block.around 0x00000000#32 8 (by decide)),
    .v4 (Block.around 0x7F000000#32 8 (by decide)),
    .v4 (Block.around 0xA9FE0000#32 16 (by decide)),
    .v4 (Block.around 0xE0000000#32 4 (by decide)),
    .v4 (Block.around 0xF0000000#32 4 (by decide)),
    .v6 (Block.around 0#128 128 (by decide)),
    .v6 (Block.around 1#128 128 (by decide)),
    .v6 (Block.around 0xFE800000000000000000000000000000#128 10 (by decide)),
    .v6 (Block.around 0xFF000000000000000000000000000000#128 8 (by decide)),
    .v6 (Block.around 0xFD000EC2000000000000000000000254#128 128 (by decide))]

inductive Kind where
  | denied | private_ | public_
  deriving DecidableEq

structure Request where
  method : String
  url : String
  headers : List (String × String)
  body : Option (List UInt8)
  timeout : Rat

structure Call where
  scheme : String
  host : String
  port : Nat
  ip : String
  method : String
  target : String
  headers : List (String × String)
  body : Option (List UInt8)
  timeout : Rat
  deadline : Rat
  deriving DecidableEq

section fetch

variable (lib : Library)

def kindOf (addr : Address) : Kind :=
  if listed ALWAYS_DENIED addr then .denied
  else if lib.isGlobal addr then .public_
  else .private_

def classifyAddress (raw : String) : Except Failure Kind :=
  match lib.ipAddress raw with
  | none => .error .valueError
  | some addr => .ok (kindOf lib addr.unmapped)

def denyIf (refused : Prop) [Decidable refused] (message : String) : Except Failure Unit :=
  if refused then .error (.egressDenied message) else .ok ()

def checkDestination (scheme : String) (addresses : List String) (allowPrivate : Bool) : Except Failure Unit := do
  denyIf (addresses = []) "the host did not resolve"
  let kinds ← addresses.mapM (classifyAddress lib)
  denyIf (.denied ∈ kinds) "the host resolves to a blocked address"
  denyIf (.private_ ∈ kinds ∧ ¬allowPrivate) "the host resolves to a private address"
  denyIf (scheme = "http" ∧ ∃ kind ∈ kinds, kind ≠ .private_) "plain HTTP is only allowed to private addresses"

def isIp (host : String) : Bool := (lib.ipAddress host).isSome

def hostOf (parts : Parts) : String := lib.lower (parts.hostname.getD "")

def allowed (allowedHosts : List String) : List String := (allowedHosts.filter (· ≠ "")).map lib.lower

def given (value : Option String) : Prop := value.getD "" ≠ ""

instance (value : Option String) : Decidable (given value) := inferInstanceAs (Decidable (_ ≠ _))

def portOf (parts : Parts) : Except Failure Nat :=
  match parts.port with
  | none => .error (.egressDenied "the destination has an invalid port")
  | some port => .ok (if port.getD 0 = 0 then (if parts.scheme = "https" then 443 else 80) else port.getD 0)

def addressesOf (resolver : String → Except Failure (List String)) (host : String) : Except Failure (List String) :=
  if isIp lib host then .ok [host] else resolver host

def fetch (allowedHosts : List String) (allowPrivate : Bool) (resolver : String → Except Failure (List String)) (now : Rat)
    (r : Request) : Except Failure Call :=
  match lib.urlsplit r.url with
  | none => .error .valueError
  | some parts => do
      let host := hostOf lib parts
      denyIf (parts.scheme ∉ ["https","http"] ∨ host = "" ∨ host ∉ allowed lib allowedHosts)
        "the destination is not the configured host"
      denyIf (given parts.username ∨ given parts.password) "credentials in a URL are not accepted"
      let port ← portOf parts
      let addresses ← addressesOf lib resolver host
      checkDestination lib parts.scheme addresses allowPrivate
      match addresses with
      | [] => .error (.raised "IndexError")
      | ip :: _ => pure {
          scheme := parts.scheme
          host := host
          port := port
          ip := ip
          method := r.method
          target := (if parts.path = "" then "/" else parts.path) ++ (if parts.query = "" then "" else "?" ++ parts.query)
          headers := r.headers
          body := r.body
          timeout := min r.timeout CONNECT_TIMEOUT
          deadline := now + TOTAL_DEADLINE}

end fetch

section guarded

variable {lib : Library}

theorem denyIf_exact {refused : Prop} [Decidable refused] {message : String} {u : Unit} :
    denyIf refused message = .ok u ↔ ¬refused := by
  unfold denyIf
  split
  · next refuse => exact iff_of_false nofun (not_not.mpr refuse)
  · next passes => exact iff_of_true rfl passes

structure Accepted (lib : Library) (scheme : String) (allowPrivate : Bool) (addr : Address) : Prop where
  safe : listed ALWAYS_DENIED addr = false
  opted : lib.isGlobal addr = false → allowPrivate = true
  plain : scheme = "http" → lib.isGlobal addr = false

theorem classify_mapped {raw : String} {zone : Option String} (read : lib.ipAddress raw = some (.v6 (mapped bits) zone)) :
    classifyAddress lib raw = .ok (kindOf lib (.v4 bits)) := by
  unfold classifyAddress
  rw [read]
  dsimp only
  rw [unmapped_mapped]

theorem accepted_of_kind {addr : Address} (safe : kindOf lib addr ≠ .denied)
    (opted : kindOf lib addr = .private_ → allowPrivate = true) (plain : scheme = "http" → kindOf lib addr = .private_) :
    Accepted lib scheme allowPrivate addr := by
  unfold kindOf at safe opted plain
  split at safe
  · exact absurd rfl safe
  · next outside =>
      rw [if_neg outside] at opted plain
      refine ⟨Bool.eq_false_iff.mpr outside,?_,?_⟩
      · intro local_
        rw [local_] at opted
        exact opted rfl
      · intro http
        have private_ := plain http
        cases world : lib.isGlobal addr with
        | false => rfl
        | true =>
            rw [world] at private_
            cases private_

theorem checkDestination_accepts {addresses : List String} (checked : checkDestination lib scheme addresses allowPrivate = .ok u) :
    addresses ≠ [] ∧ ∀ raw ∈ addresses, ∃ addr, lib.ipAddress raw = some addr ∧
      Accepted lib scheme allowPrivate addr.unmapped := by
  obtain ⟨_,resolved,rest⟩ := Fallible.bind_exact.mp checked
  obtain ⟨kinds,classified,rest⟩ := Fallible.bind_exact.mp rest
  obtain ⟨_,noneDenied,rest⟩ := Fallible.bind_exact.mp rest
  obtain ⟨_,nonePrivate,plain⟩ := Fallible.bind_exact.mp rest
  refine ⟨denyIf_exact.mp resolved,?_⟩
  intro raw there
  obtain ⟨kind,present,judged⟩ := Fallible.mapM_each classified raw there
  unfold classifyAddress at judged
  split at judged
  · cases judged
  · next addr read =>
      refine ⟨addr,read,accepted_of_kind ?_ ?_ ?_⟩
      · intro denied
        exact denyIf_exact.mp noneDenied (denied ▸ Except.ok.inj judged ▸ present)
      · intro private_
        refine Decidable.byContradiction fun closed => ?_
        exact denyIf_exact.mp nonePrivate ⟨private_ ▸ Except.ok.inj judged ▸ present,closed⟩
      · intro http
        refine Decidable.byContradiction fun other => ?_
        exact denyIf_exact.mp plain ⟨http,kind,present,Except.ok.inj judged ▸ other⟩

end guarded

-- The transport is called with an address of the list that was checked, whole, and
-- under the configured host's name; a mapped address is judged as the one it embeds.
theorem operator_http_guarded (lib : Library) (allowedHosts : List String) (allowPrivate : Bool)
    (resolver : String → Except Failure (List String)) (now : Rat) (r : Request) (call : Call)
    (called : fetch lib allowedHosts allowPrivate resolver now r = .ok call) :
    (∃ parts addresses, lib.urlsplit r.url = some parts ∧ call.scheme = parts.scheme ∧ call.scheme ∈ ["https","http"] ∧
      call.host = hostOf lib parts ∧ call.host ∈ allowed lib allowedHosts ∧
      ¬given parts.username ∧ ¬given parts.password ∧
      addressesOf lib resolver call.host = .ok addresses ∧ call.ip ∈ addresses ∧
      ∀ raw ∈ addresses, ∃ addr, lib.ipAddress raw = some addr ∧ Accepted lib call.scheme allowPrivate addr.unmapped) ∧
    ∀ raw bits zone, lib.ipAddress raw = some (.v6 (mapped bits) zone) →
      classifyAddress lib raw = .ok (kindOf lib (.v4 bits)) := by
  refine ⟨?_,fun _ _ _ read => classify_mapped read⟩
  unfold fetch at called
  split at called
  · cases called
  · next parts split_ =>
      obtain ⟨_,named,rest⟩ := Fallible.bind_exact.mp called
      obtain ⟨_,anonymous,rest⟩ := Fallible.bind_exact.mp rest
      obtain ⟨port,_,rest⟩ := Fallible.bind_exact.mp rest
      obtain ⟨addresses,resolved,rest⟩ := Fallible.bind_exact.mp rest
      obtain ⟨_,checked,sent⟩ := Fallible.bind_exact.mp rest
      obtain ⟨scheme,_,host⟩ := not_or.mp (denyIf_exact.mp named) |>.imp not_not.mp not_or.mp
      obtain ⟨user,password⟩ := not_or.mp (denyIf_exact.mp anonymous)
      obtain ⟨_,each⟩ := checkDestination_accepts checked
      cases addresses with
      | nil => cases sent
      | cons ip later =>
          cases sent
          exact ⟨parts,ip :: later,split_,rfl,scheme,rfl,not_not.mp host,user,password,resolved,List.mem_cons_self ..,each⟩

section example_hook

def exampleLibrary : Library where
  urlsplit := fun url =>
    if url = "http://Hooks.internal/in?x=1" then some ⟨"http",some "hooks.internal",none,none,some none,"/in","x=1"⟩ else none
  lower := fun text => if text = "Hooks.Internal" then "hooks.internal" else text
  ipAddress := fun text =>
    if text = "10.0.0.7" then some (.v4 0x0A000007#32)
    else if text = "::ffff:192.168.0.9" then some (.v6 (mapped 0xC0A80009#32) none)
    else none
  isGlobal := fun addr => addr ∉ [.v4 0x0A000007#32,.v4 0xC0A80009#32]

def exampleRequest : Request := ⟨"POST","http://Hooks.internal/in?x=1",[],none,30⟩

def exampleCall : Call :=
  ⟨"http","hooks.internal",80,"10.0.0.7","POST","/in?x=1",[],none,10,25⟩

theorem example_called : fetch exampleLibrary ["Hooks.Internal"] true (fun _ => .ok ["10.0.0.7","::ffff:192.168.0.9"]) 0 exampleRequest =
    .ok exampleCall := by
  have sent : (fetch exampleLibrary ["Hooks.Internal"] true (fun _ => .ok ["10.0.0.7","::ffff:192.168.0.9"]) 0
      exampleRequest).toOption = some exampleCall := by decide +kernel
  revert sent
  cases fetch exampleLibrary ["Hooks.Internal"] true (fun _ => .ok ["10.0.0.7","::ffff:192.168.0.9"]) 0 exampleRequest with
  | error _ => exact fun absurd_ => by cases absurd_
  | ok call => exact fun same => congrArg Except.ok (Option.some.inj same)

theorem internal_hook_guarded : ∃ parts addresses, exampleLibrary.urlsplit exampleRequest.url = some parts ∧
    exampleCall.scheme = parts.scheme ∧ exampleCall.scheme ∈ ["https","http"] ∧ exampleCall.host = hostOf exampleLibrary parts ∧
    exampleCall.host ∈ allowed exampleLibrary ["Hooks.Internal"] ∧ ¬given parts.username ∧ ¬given parts.password ∧
    addressesOf exampleLibrary (fun _ => .ok ["10.0.0.7","::ffff:192.168.0.9"]) exampleCall.host = .ok addresses ∧
    exampleCall.ip ∈ addresses ∧ ∀ raw ∈ addresses, ∃ addr, exampleLibrary.ipAddress raw = some addr ∧
      Accepted exampleLibrary exampleCall.scheme true addr.unmapped :=
  (operator_http_guarded exampleLibrary ["Hooks.Internal"] true _ 0 exampleRequest exampleCall example_called).1

end example_hook

end Osds.Network.Egress

import Osds.Lib.Substitution
import Osds.Tenants.Secrets
import Mathlib.Data.List.Sort

namespace Osds.Logging
open Substitution
open Tenants.Secrets (Fernet Table getSecret secretName)

def REDACTED : List Char := ['[','r','e','d','a','c','t','e','d',']']

def occurs (secret text : List Char) : Option (Match Char) :=
  if secret.isPrefixOf text then some ⟨REDACTED,secret.length⟩ else none

def replace (secret text : List Char) : List Char := sub (occurs secret) 0 text

-- The order a set is walked in.
structure Walk where
  of : List (List Char) → List (List Char)
  perm : ∀ secrets, (of secrets).Perm secrets

def longestFirst (walk : Walk) (secrets : List (List Char)) : List (List Char) :=
  (walk.of secrets).mergeSort fun a b => b.length ≤ a.length

def scrubOne (text secret : List Char) : List Char := if secret = [] then text else replace secret text

def scrub (walk : Walk) (secrets : List (List Char)) (text : List Char) : List Char :=
  (longestFirst walk secrets).foldl scrubOne text

-- How messages are rendered: `msg % args`, and `repr(args)` where that raises.
structure Rendering (Args : Type) where
  interpolate : List Char → Args → Option (List Char)
  repr : Args → List Char

inductive Call (Args : Type)
  | secret (rows : Table) (key : String)
  | log (level : Nat) (msg : List Char) (args : Option Args)

-- What comes of it.
inductive Event
  | resolved (value : List Char)
  | notFound (key : String)
  | record (level : Nat) (text : List Char)
  deriving DecidableEq

section context

variable {Args : Type}

structure Built (Args : Type) where
  fernet : Fernet
  tenant : Nat
  adapterId : String
  walk : Walk
  rendering : Rendering Args
  -- isEnabledFor
  enabled : Nat → Bool

variable (built : Built Args)

def message (msg : List Char) : Option Args → List Char
  | none => msg
  | some args => (built.rendering.interpolate msg args).getD (msg ++ ' ' :: built.rendering.repr args)

def call (resolved : List (List Char)) : Call Args → List (List Char) × List Event
  | .secret rows key =>
      match getSecret built.fernet rows (secretName built.adapterId key) (some built.tenant) with
      | some value => (resolved.insert value.toList,[.resolved value.toList])
      | none => (resolved,[.notFound key])
  | .log level msg args =>
      (resolved,if built.enabled level then [.record level (scrub built.walk resolved (message built msg args))] else [])

def run (resolved : List (List Char)) : List (Call Args) → List Event
  | [] => []
  | first :: rest => (call built resolved first).2 ++ run (call built resolved first).1 rest

end context

-- A secret that the replacement does not bring back.
def Maskable (secret : List Char) : Prop := '[' ∉ secret ∧ ']' ∉ secret ∧ ¬secret <:+: REDACTED

section scrubbed

variable {secret other text : List Char}

theorem occurs_starts (here : occurs secret text = some m) : secret <+: text ∧ m = ⟨REDACTED,secret.length⟩ := by
  unfold occurs at here
  split at here
  · next starts => exact ⟨List.isPrefixOf_iff_prefix.mp starts,(Option.some.inj here).symm⟩
  · cases here

theorem occurs_none (none_ : occurs secret text = none) : ¬secret <+: text := by
  intro starts
  simp [occurs,List.isPrefixOf_iff_prefix.mpr starts] at none_

theorem occurs_fits (some_ : secret ≠ []) : Fits (occurs secret) := by
  intro text m here
  obtain ⟨starts,rfl⟩ := occurs_starts here
  exact ⟨List.length_pos_iff.mpr some_,starts.length_le⟩

theorem occurs_fenced (secret : List Char) : Fenced (occurs secret) '[' ']' := by
  constructor
  · intro text m here
    obtain ⟨_,rfl⟩ := occurs_starts here
    exact ⟨[],REDACTED.tail,rfl,List.nil_prefix⟩
  · intro text m here
    obtain ⟨_,rfl⟩ := occurs_starts here
    exact ⟨REDACTED.dropLast,rfl⟩

theorem maskable_some (maskable : Maskable secret) : secret ≠ [] := by
  rintro rfl
  exact maskable.2.2 List.nil_infix

theorem replace_keeps_out (some_ : secret ≠ []) (maskable : Maskable other) (out : ¬other <:+: text) :
    ¬other <:+: replace secret text := by
  intro there
  rcases sub_occurs (occurs_fits some_) (occurs_fenced secret) (maskable_some maskable) maskable.1 maskable.2.1 there with
    ⟨place,within,_,starts⟩ | ⟨place,m,_,here,inside⟩
  · exact out (starts.isInfix.trans within.isInfix)
  · obtain ⟨_,rfl⟩ := occurs_starts here
    exact maskable.2.2 inside

theorem replace_takes_out (maskable : Maskable secret) (text : List Char) : ¬secret <:+: replace secret text := by
  intro there
  have some_ := maskable_some maskable
  rcases sub_occurs (occurs_fits some_) (occurs_fenced secret) some_ maskable.1 maskable.2.1 there with
    ⟨place,_,none_,starts⟩ | ⟨place,m,_,here,inside⟩
  · exact occurs_none none_ starts
  · obtain ⟨_,rfl⟩ := occurs_starts here
    exact maskable.2.2 inside

theorem replace_absent (out : ¬secret <:+: text) : replace secret text = text := by
  refine sub_none fun place within _ => ?_
  cases here : occurs secret place with
  | none => rfl
  | some m => exact absurd ((occurs_starts here).1.isInfix.trans within.isInfix) out

theorem fold_out {secrets : List (List Char)} (maskable : Maskable secret) (out : secret ∈ secrets ∨ ¬secret <:+: text) :
    ¬secret <:+: secrets.foldl scrubOne text := by
  induction secrets generalizing text with
  | nil => simpa using out
  | cons first rest ih =>
      refine ih ?_
      by_cases mine : first = secret
      · subst mine
        rw [scrubOne,if_neg (maskable_some maskable)]
        exact Or.inr (replace_takes_out maskable text)
      · rcases out with there | out
        · exact Or.inl ((List.mem_cons.mp there).resolve_left (Ne.symm mine))
        · right
          unfold scrubOne
          split
          · exact out
          · next some_ => exact replace_keeps_out some_ maskable out

theorem mem_longestFirst (walk : Walk) (secrets : List (List Char)) : secret ∈ longestFirst walk secrets ↔ secret ∈ secrets := by
  rw [longestFirst,List.mem_mergeSort,(walk.perm secrets).mem_iff]

theorem scrub_out (walk : Walk) {secrets : List (List Char)} (maskable : Maskable secret) (there : secret ∈ secrets) (text : List Char) :
    ¬secret <:+: scrub walk secrets text :=
  fold_out maskable (Or.inl ((mem_longestFirst walk secrets).mpr there))

theorem scrub_absent (walk : Walk) {secrets : List (List Char)} (out : ∀ secret ∈ secrets, secret ≠ [] → ¬secret <:+: text) :
    scrub walk secrets text = text := by
  have listed : ∀ secret ∈ longestFirst walk secrets, secret ≠ [] → ¬secret <:+: text :=
    fun secret there => out secret ((mem_longestFirst walk secrets).mp there)
  unfold scrub
  generalize longestFirst walk secrets = listed' at listed
  induction listed' with
  | nil => rfl
  | cons first rest ih =>
      rw [List.foldl_cons]
      have same : scrubOne text first = text := by
        unfold scrubOne
        split
        · rfl
        · next some_ => exact replace_absent (listed first List.mem_cons_self some_)
      rw [same]
      exact ih fun secret there => listed secret (List.mem_cons_of_mem _ there)

end scrubbed

section runs

variable {Args : Type} {built : Built Args}

theorem call_keeps (there : secret ∈ resolved) (next : Call Args) : secret ∈ (call built resolved next).1 := by
  cases next with
  | log level msg args => exact there
  | secret rows key =>
      unfold call
      dsimp only
      split
      · exact List.mem_insert_of_mem there
      · exact there

theorem call_resolves (next : Call Args) (known : Event.resolved secret ∈ (call built resolved next).2) :
    secret ∈ (call built resolved next).1 := by
  cases next with
  | log level msg args =>
      unfold call at known
      dsimp only at known
      split at known <;> simp at known
  | secret rows key =>
      unfold call at known ⊢
      dsimp only at known ⊢
      split at known
      · simp only [List.mem_singleton,Event.resolved.injEq] at known
        exact known ▸ List.mem_insert_self
      · simp at known

theorem call_out (maskable : Maskable secret) (there : secret ∈ resolved) (next : Call Args)
    (logged : Event.record level text ∈ (call built resolved next).2) : ¬secret <:+: text := by
  cases next with
  | secret rows key =>
      unfold call at logged
      dsimp only at logged
      split at logged <;> simp at logged
  | log level msg args =>
      unfold call at logged
      dsimp only at logged
      split at logged
      · simp only [List.mem_singleton,Event.record.injEq] at logged
        exact logged.2 ▸ scrub_out built.walk maskable there _
      · simp at logged

theorem run_out (maskable : Maskable secret) (there : secret ∈ resolved) (calls : List (Call Args))
    (logged : Event.record level text ∈ run built resolved calls) : ¬secret <:+: text := by
  induction calls generalizing resolved with
  | nil => cases logged
  | cons next rest ih =>
      rcases List.mem_append.mp logged with now | later
      · exact call_out maskable there next now
      · exact ih (call_keeps there next) later

theorem call_single (resolved : List (List Char)) (next : Call Args) :
    (call built resolved next).2 = [] ∨ ∃ event, (call built resolved next).2 = [event] := by
  cases next with
  | secret rows key =>
      unfold call
      dsimp only
      split <;> exact Or.inr ⟨_,rfl⟩
  | log level msg args =>
      unfold call
      dsimp only
      split
      · exact Or.inr ⟨_,rfl⟩
      · exact Or.inl rfl

def left (built : Built Args) (resolved : List (List Char)) (calls : List (Call Args)) : List (List Char) :=
  calls.foldl (fun resolved next => (call built resolved next).1) resolved

theorem run_append (resolved : List (List Char)) (before after : List (Call Args)) :
    run built resolved (before ++ after) = run built resolved before ++ run built (left built resolved before) after := by
  induction before generalizing resolved with
  | nil => rfl
  | cons next rest ih =>
      simp only [List.cons_append,run,ih,List.append_assoc]
      rfl

theorem call_left (next : Call Args) (there : secret ∈ (call built resolved next).1) :
    secret ∈ resolved ∨ Event.resolved secret ∈ (call built resolved next).2 := by
  cases next with
  | log level msg args => exact Or.inl there
  | secret rows key =>
      unfold call at there ⊢
      dsimp only at there ⊢
      split
      · next value known =>
          rw [known] at there
          rcases List.mem_insert_iff.mp there with same | old
          · exact Or.inr (by simp [same])
          · exact Or.inl old
      · next none_ =>
          rw [none_] at there
          exact Or.inl there

theorem mem_left (calls : List (Call Args)) (there : secret ∈ left built resolved calls) :
    secret ∈ resolved ∨ Event.resolved secret ∈ run built resolved calls := by
  induction calls generalizing resolved with
  | nil => exact Or.inl there
  | cons next rest ih =>
      rcases ih there with now | later
      · exact (call_left next now).imp id (List.mem_append_left _)
      · exact Or.inr (List.mem_append_right _ later)

end runs

-- What an adapter resolved is in nothing that it logs from then on.
def Unlogged (events : List Event) : Prop :=
  ∀ earlier value later, events = earlier ++ .resolved value :: later → Maskable value →
    ∀ level text, Event.record level text ∈ later → ¬value <:+: text

-- What names no secret resolved before it is logged as it was rendered.
def Verbatim (built : Built Args) (calls : List (Call Args)) : Prop :=
  ∀ before level msg args after, calls = before ++ .log level msg args :: after → built.enabled level = true →
    (∀ value, Event.resolved value ∈ run built [] before → value ≠ [] → ¬value <:+: message built msg args) →
      ∃ later, run built [] calls = run built [] before ++ .record level (message built msg args) :: later

theorem run_unlogged (built : Built Args) (resolved : List (List Char)) (calls : List (Call Args)) :
    Unlogged (run built resolved calls) := by
  induction calls generalizing resolved with
  | nil => intro earlier value later split; simp [run] at split
  | cons next rest ih =>
      intro earlier value later split maskable level text logged
      unfold run at split
      rcases call_single resolved next with none_ | ⟨event,one⟩
      · rw [none_,List.nil_append] at split
        exact ih _ earlier value later split maskable level text logged
      · have known : Event.resolved value ∈ (call built resolved next).2 → value ∈ (call built resolved next).1 := call_resolves next
        rw [one] at split known
        cases earlier with
        | nil =>
            obtain ⟨rfl,rfl⟩ := List.cons.inj split
            exact run_out maskable (known List.mem_cons_self) rest logged
        | cons head earlier => exact ih _ earlier value later (List.cons.inj split).2 maskable level text logged

theorem adapter_log_scrubbed (built : Built Args) (calls : List (Call Args)) :
    Unlogged (run built [] calls) ∧ Verbatim built calls := by
  refine ⟨run_unlogged built [] calls,?_⟩
  rintro before level msg args after rfl enabled out
  have plain : scrub built.walk (left built [] before) (message built msg args) = message built msg args := by
    refine scrub_absent built.walk fun secret there some_ => out secret ?_ some_
    exact (mem_left before there).resolve_left (List.not_mem_nil)
  rw [run_append]
  exact ⟨_,by simp only [run,call,enabled,if_true,plain,List.singleton_append]; rfl⟩

end Osds.Logging

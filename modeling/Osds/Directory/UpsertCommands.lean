import Osds.Audit.CommandLog
import Osds.Directory.Reapplied

-- `upsert_listing` with the command log around its transaction.
namespace Osds.Directory.UpsertCommands
open Audit.CommandLog Fallible
open Audit (TenantId)
open Payloads (Fields Store Request Doc Failure)
open Directory (ListingId)

structure Upsert where
  type : Payloads.ListingType
  -- what `jsonable` makes of the payload, or what it says of a value without a JSON form
  payload : Except String Fields
  source : String
  enforceRequired : Bool
  mustCreate : Bool
  suppressionCheck : Bool
  -- the public id a new listing draws
  newId : ListingId

def requestOf (call : Call Upsert) (payload : Fields) : Request :=
  ⟨call.tenant,call.command.type,payload,call.actor,call.command.source,call.origin,call.traceId,call.command.enforceRequired,
    call.command.mustCreate,call.command.suppressionCheck⟩

def problemOf : Failure → Option Json
  | .suppressed keyHash => some (.obj [("suppressed",.str keyHash)])
  | .rejectedField field => some (.obj [("field",.str field)])
  | .schema errors => some (.obj [("errors",.arr (errors.map .str))])
  | .raised _ => none

def storedPayload (u : Upsert) : Receipt :=
  match u.payload with
  | .error message => .refused (.obj [("payload",.str message)])
  | .ok payload => if (Doc.obj payload).storable then .stored (Doc.obj payload).json else .raised

section upsert
variable (env : Payloads.Environment)

def applyUpsert (call : Call Upsert) (s : Store) : Verdict Store :=
  match call.command.payload with
  | .error _ => .raised
  | .ok payload => match Payloads.applyUpsert env s (requestOf call payload) call.command.newId with
      | .ok (written,outcome) => .applied written (if outcome = .unchanged then none else some s.outbox.length)
      | .error failure => match problemOf failure with
          | some problem => .rejected problem
          | none => .raised

def upsert : Handler Store Upsert := ⟨storedPayload,applyUpsert env⟩

end upsert

def Told (call : Call Upsert) (event : Payloads.Event) : Prop :=
  event.tenant = call.tenant ∧ event.actor = call.actor ∧ event.origin = call.origin ∧ event.traceId = call.traceId

-- The events that were added since are those of the commits, one for each commit that
-- has one and in their order.
structure Eventful (before : Store) (commits : List (Commit Upsert)) (s : Store) : Prop where
  kept : before.outbox <+: s.outbox
  numbered : commits.filterMap (·.event) = List.range' before.outbox.length (s.outbox.length - before.outbox.length)
  told : ∀ c ∈ commits, ∀ n, c.event = some n → ∃ event, s.outbox[n]? = some event ∧ Told c.call event

section events
variable {env : Payloads.Environment} {before s s' : Store} {call : Call Upsert} {event : Option Nat} {commits : List (Commit Upsert)}

theorem write_outbox {r : Request} {creating : Bool} {o after : Payloads.Object} {written : Store}
    (wrote : Payloads.write env s r creating o = .ok (written,after)) : written.outbox = s.outbox := by
  obtain ⟨applied,categories,_,_,_,_,kept,_,_⟩ := Payloads.write_exact.mp wrote
  obtain ⟨_,rfl⟩ := Payloads.keep_exact.mp kept
  rfl

theorem upsert_outbox {r : Request} {newId : ListingId} {outcome : Payloads.Outcome}
    (applied : Payloads.applyUpsert env s r newId = .ok (s',outcome)) :
    (outcome = .unchanged ∧ s'.outbox = s.outbox) ∨
      (outcome ≠ .unchanged ∧ ∃ subject data, s'.outbox = s.outbox ++ [⟨r.tenant,subject,r.actor,r.origin,r.traceId,data⟩]) := by
  obtain ⟨_,_,rest⟩ := bind_exact.mp applied
  obtain ⟨found,_,rest⟩ := bind_exact.mp rest
  cases found with
  | none =>
      obtain ⟨_,_,rest⟩ := bind_exact.mp rest
      obtain ⟨⟨written,after⟩,wrote,rest⟩ := bind_exact.mp rest
      cases rest
      exact .inr ⟨nofun,newId,_,congrArg (· ++ _) (write_outbox wrote)⟩
  | some row =>
      dsimp only [Payloads.update] at rest
      split at rest
      · cases rest
      · obtain ⟨⟨written,after⟩,wrote,rest⟩ := bind_exact.mp rest
        dsimp only at rest
        split at rest
        · cases rest
          exact .inl ⟨rfl,write_outbox wrote⟩
        · cases rest
          exact .inr ⟨nofun,row.publicId,_,congrArg (· ++ _) (write_outbox wrote)⟩

theorem apply_outbox (applied : applyUpsert env call s = .applied s' event) :
    (event = none ∧ s'.outbox = s.outbox) ∨
      (event = some s.outbox.length ∧ ∃ told, Told call told ∧ s'.outbox = s.outbox ++ [told]) := by
  unfold applyUpsert at applied
  split at applied
  · cases applied
  · next payload _ =>
      split at applied
      · next written outcome done =>
          cases applied
          rcases upsert_outbox done with ⟨same,outbox⟩ | ⟨other,subject,data,outbox⟩
          · exact .inl ⟨if_pos same,outbox⟩
          · exact .inr ⟨if_neg other,_,⟨rfl,rfl,rfl,rfl⟩,outbox⟩
      · split at applied <;> cases applied

theorem chain_eventful (chain : Chain (upsert env) before commits s) : Eventful before commits s := by
  induction chain with
  | nil => exact ⟨List.prefix_rfl,by simp,by simp⟩
  | @snoc commits between c after _ applied ih =>
      rcases apply_outbox applied with ⟨none_,same⟩ | ⟨some_,told,own,added⟩
      · refine ⟨same ▸ ih.kept,?_,?_⟩
        · simp [none_,same,ih.numbered]
        · intro d there n event
          rcases List.mem_append.mp there with old | new
          · exact same ▸ ih.told d old n event
          · cases List.mem_singleton.mp new
            rw [none_] at event
            cases event
      · have long := ih.kept.length_le
        refine ⟨added ▸ ih.kept.trans (List.prefix_append _ _),?_,?_⟩
        · have more : (between.outbox ++ [told]).length - before.outbox.length = between.outbox.length - before.outbox.length + 1 := by
            simp only [List.length_append,List.length_singleton]
            omega
          have last : before.outbox.length + (between.outbox.length - before.outbox.length) = between.outbox.length := by omega
          rw [added,more,List.range'_concat,Nat.one_mul,last,← ih.numbered]
          simp [some_]
        · intro d there n event
          rw [added]
          rcases List.mem_append.mp there with old | new
          · obtain ⟨told',here,own'⟩ := ih.told d old n event
            exact ⟨told',List.getElem?_append_left (List.getElem?_eq_some_iff.mp here).1 ▸ here,own'⟩
          · cases List.mem_singleton.mp new
            rw [some_] at event
            cases event
            exact ⟨told,List.getElem?_concat_length,own⟩

end events

section journal
variable (env : Payloads.Environment) (store : Store)

def step (s : State Store Upsert) (action : Action Upsert) : State Store Upsert := s.step (upsert env) action

def after (actions : List (Action Upsert)) : State Store Upsert := Runs.run (step env) (.start store) actions

-- Over any interleaving of calls that may die at each statement the log tells the truth
-- about the commands: a row and an answer that say applied name the event of a commit, one
-- that says rejected left nothing, and a concluded row stays as it is. Of the commands with
-- one key, one at most is committed if none looks for it while another is underway, and
-- then each answer names the same event.
theorem upserts_journaled (actions : List (Action Upsert)) :
    Journal (upsert env) store (after env store actions) ∧
    Eventful store (after env store actions).commits (after env store actions).world ∧
    (∀ further, ∀ row ∈ (after env store actions).log, row.outcome ≠ none → row ∈ (after env store (actions ++ further)).log) ∧
    (Runs.Along (step env) (fun s action => alone s action = true) (.start store) actions → ∀ name,
      ((after env store actions).commits.filter (·.call.named = some name)).length ≤ 1 ∧
      ∀ told ∈ (after env store actions).answers, ∀ other ∈ (after env store actions).answers,
        told.1.named = some name → other.1.named = some name →
          ∀ event event', told.2.told = some event → other.2.told = some event' → event = event') := by
  have started : Sound (upsert env) store (State.start store : State Store Upsert) := start_sound store
  have preserved : ∀ s action, Sound (upsert env) store s → Sound (upsert env) store (step env s action) :=
    fun _ action sound => sound_step sound action
  have sound : Sound (upsert env) store (after env store actions) := Runs.run_invariant (step env) preserved started actions
  refine ⟨sound.toJournal,chain_eventful sound.world,?_,?_⟩
  · intro further row listed ended
    unfold after
    rw [Runs.run_append]
    exact kept_run sound further listed ended
  · intro serial name
    have once : Once name (after env store actions) := once_run started (start_once store name) actions serial
    refine ⟨once.most,?_⟩
    intro told answered other answered' named named' event event' first second
    exact once_told sound.toJournal once answered answered' named named' first second

end journal

section calls
open Payloads (asRead cafes texts)

def sent (newId : ListingId) : Call Upsert :=
  ⟨1,some "k",⟨"operator",none⟩,"","",⟨cafes,.ok texts.payload,"manual",true,false,false,newId⟩⟩

def twice : List (Action Upsert) := [.call (sent "lst_1"),.next 0,.next 0,.next 0,.next 0,.call (sent "lst_2"),.next 1,.next 1]

theorem upserts_journaled_twice : Runs.Along (step asRead) (fun s action => alone s action = true) (.start Payloads.empty) twice ∧
    ((after asRead Payloads.empty twice).commits.filter (·.call.named = some (1,"k"))).length ≤ 1 := by
  have serial : Runs.Along (step asRead) (fun s action => alone s action = true) (.start Payloads.empty) twice := by decide +kernel
  exact ⟨serial,((upserts_journaled asRead Payloads.empty twice).2.2.2 serial (1,"k")).1⟩

-- Two calls that look for the key before either has concluded are both committed.
def together : List (Action Upsert) :=
  [.call (sent "lst_1"),.call (sent "lst_2"),.next 0,.next 1,.next 0,.next 1,.next 0,.next 0,.next 1,.next 1]

example : ((after asRead Payloads.empty together).commits.filter (·.call.named = some (1,"k"))).length = 2 := by
  decide +kernel

end calls

end Osds.Directory.UpsertCommands

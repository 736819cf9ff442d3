import Osds.Billing.Commands

namespace Osds.Billing.Cancellation
open Directory Audit Commands

inductive By where
  | owner (user : DirectoryUser)
  | operator (op : Operator)
  deriving DecidableEq, Repr

def By.name : By → String
  | .owner _ => "owner"
  | .operator _ => "operator"

def By.actor : By → Actor
  | .owner user => ⟨"owner",some user.id⟩
  | .operator op => op.actor

structure Command where
  tenant : TenantId
  publicId : ListingId
  by_ : By
  reason : String
  now : Time
  deriving DecidableEq, Repr

inductive Refused where
  | owned (refused : PaymentRefused)
  | forbidden | notCancelable | unavailable | providerError
  deriving DecidableEq, Repr

def Refused.reason : Refused → String
  | .owned refused => refused.reason
  | .forbidden => "forbidden"
  | .notCancelable => "not_cancelable"
  | .unavailable => "unavailable"
  | .providerError => "provider_error"

def Refused.outcome (refused : Refused) : LogOutcome :=
  if refused.reason = "forbidden" ∨ refused.reason = "not_owner" then .blocked else .rejected

structure CancelRequest where
  paymentRef : PaymentRef
  atPeriodEnd : Bool
  deriving DecidableEq, Repr

inductive ProviderAnswer where
  | canceled | refused | noSecret | raised
  deriving DecidableEq, Repr

-- Where the command stands. `ready` has nothing left to ask for the row it read.
inductive Stage where
  | received
  | permitted
  | seen (row : EntitlementRow)
  | ready (row : EntitlementRow)
  | applied
  | refused (reason : Refused)
  | raised
  deriving DecidableEq

-- The committed tables, the command, and every request that reached the provider.
structure State where
  store : Store
  stage : Stage
  asked : List CancelRequest

inductive Move where
  -- one transaction of anything else
  | other (action : Action)
  -- the command's next statement, with the provider's answer if it asks
  | command (answer : ProviderAnswer)

def cancelable : List Status := [.trialing,.active,.pastDue,.grace]

def permit (s : Store) (cmd : Command) : Except Refused Unit :=
  match cmd.by_ with
  | .owner user =>
      match ownedListing s cmd.tenant cmd.publicId user with
      | .ok _ => .ok ()
      | .error refused => .error (.owned refused)
  | .operator op => if op.manages then .ok () else .error .forbidden

def readCancelable (s : Store) (publicId : ListingId) : Except Refused EntitlementRow :=
  match s.entitlements publicId with
  | none => .error .notCancelable
  | some row => if row.status ∈ cancelable then .ok row else .error .notCancelable

def cancelRequest (seen : EntitlementRow) : CancelRequest := ⟨seen.paymentRef,seen.status ≠ .grace⟩

def cancelParams (cmd : Command) : Params := {canceledBy := some cmd.by_.name,reason := some (clip 200 cmd.reason)}

def applyCancel (cfg : Config) (s : Store) (cmd : Command) : Except Failure Store := do
  let (s',m) ← applyTrigger cfg s cmd.publicId .cancel cmd.now cmd.by_.actor "" (cancelParams cmd)
  pure {s' with outbox := s'.outbox ++ [⟨cmd.tenant,cmd.publicId,cmd.by_.actor,"",
    .billingSubscriptionCanceled cmd.publicId (m.outcome.toStatus = .canceled) (clip 200 cmd.reason) cmd.by_.name⟩]}

def logConclude (s : Store) (cmd : Command) (outcome : Option LogOutcome) : Store :=
  {s with log := s.log ++ [⟨"entitlement.cancel",cmd.tenant,none,outcome,false⟩]}

section machine

variable (cfg : Config) (site : Site) (cmd : Command)

def State.refuse (r : State) (reason : Refused) : State :=
  {r with store := logConclude r.store cmd (some reason.outcome),stage := .refused reason}

def State.raise (r : State) : State := {r with store := logConclude r.store cmd none,stage := .raised}

def ask (r : State) (seen : EntitlementRow) (answer : ProviderAnswer) : State :=
  if seen.paymentRef = [] then {r with stage := .ready seen}
  else match site.provider with
    | none => r.refuse cmd .unavailable
    | some _ =>
        let asked : State := {r with asked := r.asked ++ [cancelRequest seen]}
        match answer with
        | .canceled => {asked with stage := .ready seen}
        | .refused => asked.refuse cmd .providerError
        | .noSecret => r.refuse cmd .providerError
        | .raised => asked.raise cmd

def conclude (r : State) : State :=
  match applyCancel cfg r.store cmd with
  | .ok s' => {r with store := logConclude s' cmd (some .applied),stage := .applied}
  | .error (.invalidTransition _ _) => r.refuse cmd .notCancelable
  | .error _ => r.raise cmd

def step (r : State) : Move → State
  | .other action => {r with store := Billing.step cfg site r.store action}
  | .command answer =>
      match r.stage with
      | .received =>
          match permit r.store cmd with
          | .ok _ => {r with stage := .permitted}
          | .error reason => r.refuse cmd reason
      | .permitted =>
          match readCancelable r.store cmd.publicId with
          | .ok row => {r with stage := .seen row}
          | .error reason => r.refuse cmd reason
      | .seen row => ask site cmd r row answer
      | .ready _ => conclude cfg cmd r
      | _ => r

def begin (s : Store) : State := ⟨s,.received,[]⟩

def Agrees (r : State) (move : Move) : Prop :=
  ∀ seen, r.stage = .ready seen → (step cfg site cmd r move).stage = .applied →
    ∀ row, r.store.entitlements cmd.publicId = some row → row.paymentRef ≠ [] →
      ∃ row', (step cfg site cmd r move).store.entitlements cmd.publicId = some row' ∧
        (row'.status = .canceled ∧ r.asked = [⟨row.paymentRef,true⟩] ∨
          row'.status = .expired ∧ r.asked = [⟨row.paymentRef,false⟩])

def Untouched (r : State) : Move → Prop
  | .other _ => True
  | .command answer => ∀ reason, (step cfg site cmd r (.command answer)).stage = .refused reason →
      (step cfg site cmd r (.command answer)).store.entitlements = r.store.entitlements ∧
      (step cfg site cmd r (.command answer)).store.listings = r.store.listings

end machine

def NoticeFits (l : Listing) : Prop := address l = none ∨ ("Subscription cancelled for " ++ l.name).length ≤ 200

instance (l : Listing) : Decidable (NoticeFits l) := inferInstanceAs (Decidable (_ ∨ _))

-- A row that can be cancelled under the lock bears the reference that was read
-- and is in grace exactly if the row that was read was.
def Undisturbed (cmd : Command) (r : State) : Move → Prop
  | .other _ => True
  | .command _ => ∀ seen l row, r.stage = .ready seen → r.store.listings cmd.publicId = some l →
      r.store.entitlements cmd.publicId = some row → row.status ∈ cancelable → NoticeFits l →
      row.paymentRef ≠ [] → row.paymentRef = seen.paymentRef ∧ (row.status = .grace ↔ seen.status = .grace)

section rows

theorem cancel_rule (legal : ruleFor status .cancel = .ok r) : status ∈ cancelable ∧
    (status ≠ .grace ∧ r = rule (.status .canceled) [.canceled] ∨
      status = .grace ∧ r = rule (.status .expired) [.canceled,.expired] .canceled .expiry) := by
  rw [ruleFor_cancel] at legal
  cases status <;> cases legal <;> simp [cancelable]

theorem cancel_legal (open_ : status ∈ cancelable) : ∃ r, ruleFor status .cancel = .ok r := by
  rw [ruleFor_cancel]
  cases status <;> first | exact ⟨_,rfl⟩ | exact absurd open_ (by decide)

theorem cancel_deliverable (legal : ruleFor status .cancel = .ok r) : Deliverable e l r now ↔ NoticeFits l := by
  obtain ⟨_,⟨_,equal⟩ | ⟨_,equal⟩⟩ := cancel_rule legal <;> subst equal <;> unfold Deliverable NoticeFits notices <;>
    cases e.dunningEndsAt <;> cases e.graceEndsAt <;> simp [rule]

theorem By.name_fits (by_ : By) : by_.name.length ≤ 20 := by
  cases by_ with
  | owner user => exact (by decide : "owner".length ≤ 20)
  | operator op => exact (by decide : "operator".length ≤ 20)

theorem cancel_fits (row : EntitlementRow) (r : Rule) (now : Time) (by_ : By) :
    ∃ saved : EntitlementRow, saved.toEntitlement = cancelEntitlement row.toEntitlement r now by_.name := by
  obtain ⟨attempts,term,code,_⟩ := row.representable
  have representable : (cancelEntitlement row.toEntitlement r now by_.name).Representable := by
    unfold cancelEntitlement
    split <;> exact ⟨attempts,term,code,by_.name_fits⟩
  have nonNegative : (cancelEntitlement row.toEntitlement r now by_.name).NonNegative := by
    unfold cancelEntitlement
    split <;> exact row.nonNegative
  exact ⟨⟨_,representable,nonNegative⟩,rfl⟩

theorem cancelEntitlement_status (legal : ruleFor status .cancel = .ok r) :
    (cancelEntitlement e r now by_).status = if status = .grace then .expired else .canceled := by
  obtain ⟨_,⟨plan,equal⟩ | ⟨grace,equal⟩⟩ := cancel_rule legal
  · subst equal
    rw [if_neg plan]
    rfl
  · subst equal
    rw [if_pos grace]
    rfl

theorem mutate_cancel (cmd : Command) : mutate tiers e .cancel r now (cancelParams cmd) =
    .ok (cancelEntitlement e r now cmd.by_.name,
      {fromTier := (tiers.row e.tier).key,canceledBy := cmd.by_.name,reason := clip 200 cmd.reason,
       atPeriodEnd := r.to_ = .status .canceled}) := by
  unfold mutate cancelParams
  cases cmd.by_ <;> rfl

theorem applyTrigger_cancel {cmd : Command} : applyTrigger cfg s cmd.publicId .cancel now actor "" (cancelParams cmd) =
      .ok (s',m) → ∃ l row, s.listings cmd.publicId = some l ∧ s.entitlements cmd.publicId = some row ∧
        row.status ∈ cancelable ∧ NoticeFits l ∧ s' = s.commit cmd.publicId m ∧
        m.row.status = if row.status = .grace then .expired else .canceled := by
  intro applied
  obtain ⟨l,row,listed,opened,advanced,committed⟩ := applyTrigger_exact.mp applied
  have present : s.entitlements cmd.publicId = some row := by
    rcases openRow_exact.mp opened with present | ⟨_,creates,_⟩
    · exact present
    · exact absurd creates (by decide)
  obtain ⟨r,facts,saved,mail,legal,_,mutated,queued,equal⟩ := advance_exact.mp advanced
  have drafted := (Prod.mk.inj (Except.ok.inj ((mutate_cancel cmd).symm.trans mutated))).1
  have landed : m.row.status = saved.status := by
    obtain ⟨_,row⟩ := settle_row
    rw [equal,row]
  refine ⟨l,row,listed,present,(cancel_rule legal).1,?_,committed,?_⟩
  · exact (cancel_deliverable legal).mp (afterTransition_exact.mp ⟨mail,queued⟩)
  · rw [landed,← drafted]
    exact cancelEntitlement_status legal

theorem applyTrigger_cancels (cfg : Config) (cmd : Command) (listed : s.listings cmd.publicId = some l)
    (present : s.entitlements cmd.publicId = some row) (open_ : row.status ∈ cancelable) (fits : NoticeFits l) :
    ∃ m, applyTrigger cfg s cmd.publicId .cancel now actor "" (cancelParams cmd) = .ok (s.commit cmd.publicId m,m) := by
  obtain ⟨r,legal⟩ := cancel_legal open_
  obtain ⟨saved,drafted⟩ := cancel_fits row r now cmd.by_
  obtain ⟨mail,queued⟩ : ∃ mail, afterTransition saved.toEntitlement l r now = .ok mail :=
    afterTransition_exact.mpr ((cancel_deliverable legal).mpr fits)
  have opened : openRow (s.entitlements cmd.publicId) false .cancel (cancelParams cmd) = .ok row := by
    rw [present]
    rfl
  have mutated : ∃ facts, mutate (cfg.tiers l.tenant) row.toEntitlement .cancel r now (cancelParams cmd) =
      .ok (saved.toEntitlement,facts) := by
    rw [mutate_cancel,drafted]
    exact ⟨_,rfl⟩
  obtain ⟨facts,mutated⟩ := mutated
  have anytime : Trigger.cancel ∈ clockTriggers → isDue row.toEntitlement .cancel now = true := fun _ => rfl
  have advanced : ∃ m, advance (cfg.tiers l.tenant) (cfg.entitlementId cmd.publicId) cmd.publicId row l .cancel now
      actor "" (cancelParams cmd) = .ok m :=
    ⟨_,advance_exact.mpr ⟨r,facts,saved,mail,legal,anytime,mutated,queued,rfl⟩⟩
  obtain ⟨m,advanced⟩ := advanced
  exact ⟨m,applyTrigger_exact.mpr ⟨l,row,listed,opened,advanced,rfl⟩⟩

end rows

section machine

variable {cfg : Config} {site : Site} {cmd : Command}

theorem applyCancel_exact : applyCancel cfg s cmd = .ok s' ↔ ∃ s₁ m, applyTrigger cfg s cmd.publicId .cancel cmd.now
      cmd.by_.actor "" (cancelParams cmd) = .ok (s₁,m) ∧
    s' = {s₁ with outbox := s₁.outbox ++ [⟨cmd.tenant,cmd.publicId,cmd.by_.actor,"",.billingSubscriptionCanceled
      cmd.publicId (m.outcome.toStatus = .canceled) (clip 200 cmd.reason) cmd.by_.name⟩]} := by
  unfold applyCancel
  simp only [Fallible.bind_exact,Fallible.pure_exact]
  constructor
  · intro done
    obtain ⟨⟨s₁,m⟩,applied,equal⟩ := done
    exact ⟨s₁,m,applied,equal.symm⟩
  · intro done
    obtain ⟨s₁,m,applied,equal⟩ := done
    exact ⟨(s₁,m),applied,equal.symm⟩

theorem conclude_cases (cfg : Config) (cmd : Command) (r : State) :
    (∃ l row m, r.store.listings cmd.publicId = some l ∧ r.store.entitlements cmd.publicId = some row ∧
      row.status ∈ cancelable ∧ NoticeFits l ∧ (conclude cfg cmd r).stage = .applied ∧
      (conclude cfg cmd r).store.entitlements cmd.publicId = some m ∧
      m.status = if row.status = .grace then .expired else .canceled) ∨
    ((conclude cfg cmd r).stage ≠ .applied ∧
      (conclude cfg cmd r).store.entitlements = r.store.entitlements ∧
      (conclude cfg cmd r).store.listings = r.store.listings ∧
      ∀ l row, r.store.listings cmd.publicId = some l → r.store.entitlements cmd.publicId = some row →
        row.status ∈ cancelable → ¬NoticeFits l) := by
  cases done : applyCancel cfg r.store cmd with
  | ok s' =>
      obtain ⟨s₁,m,applied,equal⟩ := applyCancel_exact.mp done
      obtain ⟨l,row,listed,present,open_,fits,committed,status⟩ := applyTrigger_cancel applied
      subst committed
      refine .inl ⟨l,row,m.row,listed,present,open_,fits,?_,?_,status⟩
      · unfold conclude
        rw [done]
      · unfold conclude
        rw [done,equal]
        exact Function.update_self ..
  | error f =>
      right
      have refused : ∀ l row, r.store.listings cmd.publicId = some l → r.store.entitlements cmd.publicId = some row →
          row.status ∈ cancelable → ¬NoticeFits l := by
        intro l row listed present open_ fits
        obtain ⟨m,applied⟩ := applyTrigger_cancels cfg cmd listed present open_ fits
        have accepted := applyCancel_exact.mpr ⟨_,m,applied,rfl⟩
        rw [done] at accepted
        cases accepted
      unfold conclude
      rw [done]
      cases f <;> exact ⟨fun applied => (by cases applied),rfl,rfl,refused⟩

structure Asked (r : State) : Prop where
  received : r.stage = .received → r.asked = []
  permitted : r.stage = .permitted → r.asked = []
  seen : ∀ row, r.stage = .seen row → r.asked = []
  ready : ∀ row, r.stage = .ready row → r.asked = if row.paymentRef = [] then [] else [cancelRequest row]

def Stage.over : Stage → Bool
  | .applied | .refused _ | .raised => true
  | _ => false

theorem Asked.over {r : State} (past : r.stage.over) : Asked r := by
  constructor
  · intro open_
    rw [open_] at past
    cases past
  · intro open_
    rw [open_] at past
    cases past
  · intro row open_
    rw [open_] at past
    cases past
  · intro row open_
    rw [open_] at past
    cases past

theorem conclude_over (r : State) : (conclude cfg cmd r).stage.over := by
  unfold conclude
  split <;> rfl

theorem Asked.before {r : State} (none : r.asked = []) (unready : ∀ row, r.stage ≠ .ready row) : Asked r :=
  ⟨fun _ => none,fun _ => none,fun _ _ => none,fun row open_ => (unready row open_).elim⟩

theorem ask_asked {answer : ProviderAnswer} {r : State} (none : r.asked = []) : Asked (ask site cmd r row answer) := by
  unfold ask
  split
  · next unbilled =>
      refine ⟨fun _ => none,fun _ => none,fun _ _ => none,?_⟩
      intro seen open_
      cases open_
      rw [if_pos unbilled]
      exact none
  · next billed =>
      split
      · exact .over rfl
      · cases answer with
        | canceled =>
            refine ⟨fun open_ => (by cases open_),fun open_ => (by cases open_),fun _ open_ => (by cases open_),?_⟩
            intro seen open_
            cases open_
            rw [if_neg billed]
            change r.asked ++ [cancelRequest row] = _
            rw [none]
            rfl
        | refused => exact .over rfl
        | noSecret => exact .over rfl
        | raised => exact .over rfl

theorem step_asked (r : State) (move : Move) (asked : Asked r) : Asked (step cfg site cmd r move) := by
  cases move with
  | other action => exact ⟨asked.received,asked.permitted,asked.seen,asked.ready⟩
  | command answer =>
      unfold step
      cases stage : r.stage with
      | received =>
          dsimp only
          split
          · exact .before (asked.received stage) (fun _ open_ => by cases open_)
          · exact .over rfl
      | permitted =>
          dsimp only
          split
          · exact .before (asked.permitted stage) (fun _ open_ => by cases open_)
          · exact .over rfl
      | seen row => exact ask_asked (asked.seen row stage)
      | ready row => exact .over (conclude_over r)
      | applied => exact .over (by rw [stage]; rfl)
      | refused reason => exact .over (by rw [stage]; rfl)
      | raised => exact .over (by rw [stage]; rfl)

theorem untouched (r : State) (move : Move) : Untouched cfg site cmd r move := by
  cases move with
  | other action => trivial
  | command answer =>
      intro reason refused
      unfold step at refused ⊢
      cases stage : r.stage with
      | received =>
          dsimp only
          split <;> exact ⟨rfl,rfl⟩
      | permitted =>
          dsimp only
          split <;> exact ⟨rfl,rfl⟩
      | seen row =>
          dsimp only
          unfold ask
          split
          · exact ⟨rfl,rfl⟩
          · split
            · exact ⟨rfl,rfl⟩
            · cases answer <;> exact ⟨rfl,rfl⟩
      | ready row =>
          simp only [stage] at refused ⊢
          rcases conclude_cases cfg cmd r with ⟨_,_,_,_,_,_,_,applied,_⟩ | ⟨_,entitlements,listings,_⟩
          · rw [applied] at refused
            cases refused
          · exact ⟨entitlements,listings⟩
      | applied => exact ⟨rfl,rfl⟩
      | refused reason => exact ⟨rfl,rfl⟩
      | raised => exact ⟨rfl,rfl⟩

theorem cancelRequest_eq {seen : EntitlementRow} : [cancelRequest seen] = [⟨ref,atPeriodEnd⟩] ↔
    seen.paymentRef = ref ∧ decide (seen.status ≠ .grace) = atPeriodEnd := by
  rw [List.singleton_inj]
  unfold cancelRequest
  rw [CancelRequest.mk.injEq]

theorem cancelRequest_exact {row seen m : EntitlementRow} (billed : row.paymentRef ≠ [])
    (status : m.status = if row.status = .grace then .expired else .canceled) :
    (m.status = .canceled ∧ (if seen.paymentRef = [] then [] else [cancelRequest seen]) = [⟨row.paymentRef,true⟩] ∨
      m.status = .expired ∧ (if seen.paymentRef = [] then [] else [cancelRequest seen]) = [⟨row.paymentRef,false⟩]) ↔
    row.paymentRef = seen.paymentRef ∧ (row.status = .grace ↔ seen.status = .grace) := by
  by_cases empty : seen.paymentRef = []
  · rw [if_pos empty]
    constructor
    · intro asked
      rcases asked with ⟨_,none⟩ | ⟨_,none⟩ <;> cases none
    · intro same
      exact (billed (same.1.trans empty)).elim
  · rw [if_neg empty,cancelRequest_eq,cancelRequest_eq]
    by_cases grace : row.status = .grace
    · rw [if_pos grace] at status
      rw [status]
      simp only [reduceCtorEq,false_and,false_or,true_and,decide_eq_false_iff_not,not_not,grace,true_iff]
      exact and_congr_left' eq_comm
    · rw [if_neg grace] at status
      rw [status]
      simp only [reduceCtorEq,false_and,or_false,true_and,decide_eq_true_eq,grace,false_iff]
      exact and_congr_left' eq_comm

theorem agrees_exact {r : State} (asked : Asked r) (move : Move) :
    Agrees cfg site cmd r move ↔ Undisturbed cmd r move := by
  cases move with
  | other action =>
      refine iff_of_true ?_ trivial
      intro seen ready applied
      change r.stage = .applied at applied
      rw [ready] at applied
      cases applied
  | command answer =>
      have concludes : ∀ seen, r.stage = .ready seen → step cfg site cmd r (.command answer) = conclude cfg cmd r := by
        intro seen ready
        unfold step
        simp only [ready]
      rcases conclude_cases cfg cmd r with canceled | kept
      · obtain ⟨l,row,m,listed,present,open_,fits,applied,stored,status⟩ := canceled
        constructor
        · intro agrees seen l' row' ready listed' present' _ _ billed
          cases present.symm.trans present'
          rw [Agrees] at agrees
          rw [concludes seen ready] at agrees
          obtain ⟨m',stored',asks⟩ := agrees seen ready applied row present billed
          cases stored.symm.trans stored'
          rw [asked.ready seen ready] at asks
          exact (cancelRequest_exact billed status).mp asks
        · intro undisturbed seen ready _ row' present' billed
          cases present.symm.trans present'
          rw [concludes seen ready]
          refine ⟨m,stored,?_⟩
          rw [asked.ready seen ready]
          exact (cancelRequest_exact billed status).mpr (undisturbed seen l row ready listed present open_ fits billed)
      · obtain ⟨unapplied,_,_,refused⟩ := kept
        constructor
        · intro _ seen l row _ listed present open_ fits _
          exact (refused l row listed present open_ fits).elim
        · intro _ seen ready applied
          rw [concludes seen ready] at applied
          exact (unapplied applied).elim


-- Over every interleaving of the command with anything else: a cancellation that
-- is applied asked for what it does, and a refused one changes no entitlement, if
-- and only if the row read and the row under the lock agree so far.
theorem cancel_agrees (cfg : Config) (site : Site) (cmd : Command) (s : Store) (moves : List Move) :
    Runs.Along (step cfg site cmd) (fun r move => Agrees cfg site cmd r move ∧ Untouched cfg site cmd r move)
      (begin s) moves ↔ Runs.Along (step cfg site cmd) (Undisturbed cmd) (begin s) moves := by
  have start : Asked (begin s) := .before rfl (fun _ open_ => by cases open_)
  have preserved : ∀ r move, Asked r → Asked (step cfg site cmd r move) := step_asked
  refine Runs.along_congr (step cfg site cmd) preserved moves ?_ start
  intro r move _ asked
  exact (and_iff_left (untouched r move)).trans (agrees_exact asked move)

end machine

section counterexample

def activeStore : Store := exampleRun [exampleCheckout "gold",.report 1 exampleAdapter completionReport 0]

def exampleCommand : Command := ⟨1,"lst",.owner exampleOwner,"",day⟩

-- While the owner's request waits the subscription ends, and the owner's second
-- checkout is paid.
def meanwhile : List Move :=
  [.other (.trigger "lst" .subscriptionEnded day (reportActor exampleAdapter) "stripe" {}),
    .other (.prepare 1 "lst" exampleOwner "basic" "chk2" day),
    .other (.report 1 exampleAdapter {completionReport with
      externalEventId := "evt_second"
      checkoutAttemptId := "chk2"
      paymentRef := [("external_id","sub_2")]} day)]

def boughtAgain : List Move :=
  [.command .canceled,.command .canceled] ++ meanwhile ++ [.command .canceled,.command .canceled]

-- The provider stops the subscription that had ended; the one that is cancelled
-- here goes on being charged.
theorem canceled_another :
    let r := Runs.run (step exampleConfig exampleSite exampleCommand) (begin activeStore) boughtAgain
    Reached exampleConfig exampleSite activeStore ∧ r.stage = .applied ∧
      r.asked = [⟨[("external_id","sub_1")],true⟩] ∧
      (r.store.entitlements "lst").map (fun row => (row.status,row.paymentRef)) =
        some (.canceled,[("external_id","sub_2")]) ∧
      ¬Runs.Along (step exampleConfig exampleSite exampleCommand) (fun r move =>
        Agrees exampleConfig exampleSite exampleCommand r move ∧
          Untouched exampleConfig exampleSite exampleCommand r move) (begin activeStore) boughtAgain := by
  intro r
  refine ⟨run_reached exampleConfig exampleSite _,rfl,rfl,rfl,?_⟩
  intro agrees
  obtain ⟨_,_,_,_,_,_,⟨last,_⟩,_⟩ := agrees
  obtain ⟨_,stored,asks⟩ := last _ rfl rfl _ rfl nofun
  have another : [("external_id","sub_1")] ≠ [("external_id","sub_2")] := by decide
  rcases asks with ⟨_,asked⟩ | ⟨_,asked⟩
  · exact another (congrArg CancelRequest.paymentRef (List.cons.inj asked).1)
  · exact another (congrArg CancelRequest.paymentRef (List.cons.inj asked).1)

end counterexample

end Osds.Billing.Cancellation

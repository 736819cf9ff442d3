import Osds.Adapters.StripeEvents
import Osds.Billing.Delivery

namespace Osds.Billing.Inbound
open Adapters.StripeEvents
open Adapters.Stripe (Raised verify)
open Directory (Time ListingId)
open Audit (TenantId)

def MAX_BODY : Int := 256*1024

structure Library where
  mac : Mac.Digest
  other : Char → Option (Fin 10)
  upper : String → String
  loads : List UInt8 → Option Json

-- A request as the route gets it, with what the tenant's settings and Stripe say then.
-- A length that is none is 0, and `limited` is the rate limiter's verdict.
structure Request where
  tenant : Option TenantId
  adapterId : String
  method : String
  limited : Bool
  contentLength : Int
  signature : String
  body : List UInt8
  now : Time
  clock : Binary64.Double
  webhookSecret : Option String
  priceIds : String
  client : Client

structure InboundResult where
  status : Nat
  body : String
  reports : List PaymentReport := []

section provider

variable (lib : Library)

def eventOf (document : Json) : Reading (Option StripeEvent) :=
  match document with
  | .obj fields =>
      if ¬Tenants.SettingsSaves.truthy (fields.lookup "id") ∨ ¬Tenants.SettingsSaves.truthy (fields.lookup "type") then .ok none
      else do
        let data ← orDict (fields.lookup "data")
        match data.lookup "object" with
        | some (.obj object) => do
            let id ← orText (fields.lookup "id")
            let type ← orText (fields.lookup "type")
            pure (some ⟨id,type,object,data.lookup "previous_attributes"⟩)
        | _ => pure none
  | _ => .ok none

def mapped : Reading (List PaymentReport) → Reading InboundResult
  | .ok reports => .ok ⟨200,"ok",reports⟩
  | .error .notFound | .error .paymentError => .ok {status := 503,body := "lookup failed"}
  | .error trouble => .error trouble

def inbound (r : Request) : Reading InboundResult :=
  if r.method ≠ "POST" then .ok {status := 405,body := "method not allowed"}
  else match r.webhookSecret with
    | none => .error .secretNotFound
    | some secret => match verify lib.mac lib.other r.signature r.body secret r.clock with
        | .error (.signatureError _) => .ok {status := 400,body := "invalid signature"}
        | .error _ => .error .raised
        | .ok _ => match lib.loads r.body with
            | none => .ok {status := 400,body := "malformed body"}
            | some document => match eventOf document with
                | .error trouble => .error trouble
                | .ok none => .ok {status := 400,body := "malformed event"}
                | .ok (some event) => mapped (mapEvent lib.other lib.upper r.client r.priceIds event)

end provider

inductive Response where
  | plain (status : Nat) (body : String)
  -- what became of the reports
  | received (answers : List Answer)
  -- an error that the server answers for
  | crashed
  deriving DecidableEq

def stripe : AdapterId := ⟨ADAPTER_ID,by decide,by decide⟩

section route

variable (lib : Library) (cfg : Config)

def apply (s : Store) (answers : List Answer) : List Delivery → Store × Response
  | [] => (s,.received answers)
  | d :: rest => match deliver cfg s d with
      | (s,.raised _) => (s,.crashed)
      | (s,answer) => apply s (answers ++ [answer]) rest

def adapterInbound (s : Store) (r : Request) : Store × Response :=
  if r.method ≠ "POST" then (s,.plain 405 "")
  else match r.tenant with
    | none => (s,.plain 404 "")
    | some tenant =>
        if r.adapterId ≠ stripe.name then (s,.plain 404 "")
        else if r.limited then (s,.plain 429 "rate limited")
        else if MAX_BODY < r.contentLength ∨ MAX_BODY < r.body.length then (s,.plain 413 "")
        else match inbound lib r with
          | .error .secretNotFound => (s,.plain 503 "not configured")
          | .error _ => (s,.crashed)
          | .ok result =>
              if result.status ≠ 200 then (s,.plain result.status result.body)
              else apply cfg s [] (result.reports.map fun report => ⟨tenant,stripe,report,r.now⟩)

end route

-- Whether the route hands a request to the provider.
structure Admitted (r : Request) (tenant : TenantId) : Prop where
  method : r.method = "POST"
  tenant : r.tenant = some tenant
  adapter : r.adapterId = stripe.name
  unlimited : r.limited = false
  small : ¬(MAX_BODY < r.contentLength ∨ MAX_BODY < r.body.length)

instance (r : Request) (tenant : TenantId) : Decidable (Admitted r tenant) :=
  decidable_of_iff (r.method = "POST" ∧ r.tenant = some tenant ∧ r.adapterId = stripe.name ∧ r.limited = false ∧
      ¬(MAX_BODY < r.contentLength ∨ MAX_BODY < r.body.length))
    ⟨fun ⟨a,b,c,d,e⟩ => ⟨a,b,c,d,e⟩,fun ⟨a,b,c,d,e⟩ => ⟨a,b,c,d,e⟩⟩

def deliveriesOf (lib : Library) (r : Request) : List Delivery :=
  match r.tenant with
  | none => []
  | some tenant =>
      if Admitted r tenant then match inbound lib r with
        | .ok result => if result.status = 200 then result.reports.map fun report => ⟨tenant,stripe,report,r.now⟩ else []
        | .error _ => []
      else []

-- A report and the request it came with: signed by Stripe for this tenant, about the
-- event in its body.
structure Genuine (lib : Library) (r : Request) (d : Delivery) : Prop where
  admitted : Admitted r d.tenant
  adapter : d.adapter = stripe
  now : d.now = r.now
  signed : ∃ secret timestamp, r.webhookSecret = some secret ∧ verify lib.mac lib.other r.signature r.body secret r.clock = .ok timestamp
  event : ∃ document event, lib.loads r.body = some document ∧ eventOf document = .ok (some event) ∧ event.id ≠ "" ∧ Formed event d.report

section provider

open Fallible

variable {lib : Library} {r : Request}

theorem orText_truthy {value : Option Json} (some_ : Tenants.SettingsSaves.truthy value = true) (read : orText value = .ok text) : text ≠ "" := by
  unfold orText at read
  rw [if_pos some_] at read
  split at read
  · next found =>
      cases read
      simpa [Tenants.SettingsSaves.truthy] using some_
  · cases read

theorem eventOf_id (read : eventOf document = .ok (some event)) : event.id ≠ "" := by
  unfold eventOf at read
  split at read
  · split at read
    · cases read
    · next named =>
        rw [not_or,not_not,not_not] at named
        obtain ⟨data,_,read⟩ := bind_exact.mp read
        split at read
        · obtain ⟨id,idRead,read⟩ := bind_exact.mp read
          obtain ⟨type,_,read⟩ := bind_exact.mp read
          cases pure_exact.mp read
          exact orText_truthy named.1 idRead
        · cases pure_exact.mp read
  · cases read

theorem inbound_ok (done : inbound lib r = .ok result) (ok : result.status = 200) :
    (∃ secret timestamp, r.webhookSecret = some secret ∧ verify lib.mac lib.other r.signature r.body secret r.clock = .ok timestamp) ∧
      ∃ document event, lib.loads r.body = some document ∧ eventOf document = .ok (some event) ∧
        mapEvent lib.other lib.upper r.client r.priceIds event = .ok result.reports := by
  unfold inbound at done
  split at done
  · cases done; cases ok
  · split at done
    · cases done
    · next secret known =>
        split at done
        · cases done; cases ok
        · cases done
        · next timestamp verified =>
            split at done
            · cases done; cases ok
            · next document loaded =>
                split at done
                · cases done
                · cases done; cases ok
                · next event read =>
                    refine ⟨⟨secret,timestamp,known,verified⟩,document,event,loaded,read,?_⟩
                    unfold mapped at done
                    split at done
                    · next reports mapped_ => cases done; exact mapped_
                    · cases done; cases ok
                    · cases done; cases ok
                    · cases done

theorem deliveriesOf_single (lib : Library) (r : Request) : deliveriesOf lib r = [] ∨ ∃ d, deliveriesOf lib r = [d] ∧ Genuine lib r d := by
  unfold deliveriesOf
  split
  · exact Or.inl rfl
  · next tenant host =>
      split
      · next admitted =>
          split
          · next result done =>
              split
              · next ok =>
                  obtain ⟨signed,document,event,loaded,read,made⟩ := inbound_ok done ok
                  rcases mapEvent_single lib.other lib.upper r.client r.priceIds event result.reports made with none_ | ⟨report,one,formed⟩
                  · rw [none_]; exact Or.inl rfl
                  · rw [one]
                    exact Or.inr ⟨_,rfl,admitted,rfl,rfl,signed,document,event,loaded,read,eventOf_id read,formed⟩
              · exact Or.inl rfl
          · exact Or.inl rfl
      · exact Or.inl rfl

end provider

section route

variable {lib : Library} {cfg : Config} {s : Store} {r : Request}

theorem apply_single (deliveries : List Delivery) (single : deliveries = [] ∨ ∃ d, deliveries = [d]) :
    (apply cfg s answers deliveries).1 = Idempotent.receiveAll (deliver cfg) s deliveries := by
  rcases single with rfl | ⟨d,rfl⟩
  · rfl
  · unfold apply
    split
    · next s' _ done => simp [Idempotent.receiveAll,Runs.run,done]
    · next s' answer _ done => simp [apply,Idempotent.receiveAll,Runs.run,done]

theorem deliveriesOf_none (lib : Library) (out : ∀ tenant, ¬Admitted r tenant) : deliveriesOf lib r = [] := by
  unfold deliveriesOf
  split
  · rfl
  · next tenant _ => rw [if_neg (out tenant)]

theorem deliveriesOf_admitted (lib : Library) (admitted : Admitted r tenant) : deliveriesOf lib r = match inbound lib r with
    | .ok result => if result.status = 200 then result.reports.map fun report => ⟨tenant,stripe,report,r.now⟩ else []
    | .error _ => [] := by
  unfold deliveriesOf
  rw [admitted.tenant]
  dsimp only
  rw [if_pos admitted]

theorem adapterInbound_store (lib : Library) (cfg : Config) (s : Store) (r : Request) :
    (adapterInbound lib cfg s r).1 = Idempotent.receiveAll (deliver cfg) s (deliveriesOf lib r) := by
  have single : deliveriesOf lib r = [] ∨ ∃ d, deliveriesOf lib r = [d] :=
    (deliveriesOf_single lib r).imp id fun ⟨d,one,_⟩ => ⟨d,one⟩
  have refused (out : ∀ tenant, ¬Admitted r tenant) : s = Idempotent.receiveAll (deliver cfg) s (deliveriesOf lib r) := by
    rw [deliveriesOf_none lib out]
    rfl
  unfold adapterInbound
  split
  · next method => exact refused fun _ admitted => method admitted.method
  · next method =>
      split
      · next host => exact refused fun _ admitted => nomatch host.symm.trans admitted.tenant
      · next tenant host =>
          split
          · next adapter => exact refused fun _ admitted => adapter admitted.adapter
          · next adapter =>
              split
              · next limited => exact refused fun _ admitted => Bool.false_ne_true (admitted.unlimited.symm.trans limited)
              · next unlimited =>
                  split
                  · next large => exact refused fun _ admitted => admitted.small large
                  · next small =>
                      have admitted : Admitted r tenant :=
                        ⟨not_not.mp method,host,not_not.mp adapter,Bool.eq_false_iff.mpr unlimited,small⟩
                      rw [deliveriesOf_admitted lib admitted] at single ⊢
                      cases answer : inbound lib r with
                      | error trouble => cases trouble <;> rfl
                      | ok result =>
                          rw [answer] at single
                          dsimp only at single ⊢
                          split
                          · rfl
                          · next ok =>
                              rw [if_pos (not_not.mp ok)] at single ⊢
                              exact apply_single _ single

theorem receiveAll_append (first second : List Delivery) : Idempotent.receiveAll (deliver cfg) s (first ++ second) =
    Idempotent.receiveAll (deliver cfg) (Idempotent.receiveAll (deliver cfg) s first) second := Runs.run_append _ _ _ _

theorem inbound_run (lib : Library) (cfg : Config) (s : Store) (requests : List Request) :
    Runs.run (fun s r => (adapterInbound lib cfg s r).1) s requests =
      Idempotent.receiveAll (deliver cfg) s (requests.flatMap (deliveriesOf lib)) := by
  induction requests generalizing s with
  | nil => rfl
  | cons r rest ih =>
      rw [List.flatMap_cons,receiveAll_append,← adapterInbound_store]
      exact ih _

end route

section report

theorem reportTier_error {tiers : Tiers} (refused : reportTier tiers key = .error reason) : reason = .unknownTier := by
  unfold reportTier at refused
  by_cases empty : key = ""
  · rw [if_pos empty] at refused
    cases refused
  · rw [if_neg empty] at refused
    cases found : tiers.byKey key with
    | some tier => rw [found] at refused; cases refused
    | none => rw [found] at refused; exact (Except.error.inj refused).symm

-- Core never calls a report of the adapter's malformed or of an unknown kind.
theorem formed_trigger (formed : Formed event report) (tiers : Tiers) (publicId : ListingId) (ent : Option Entitlement)
    (attempt : Option CheckoutAttempt) : reportTrigger tiers publicId ent attempt report ≠ .error .badReport ∧
      reportTrigger tiers publicId ent attempt report ≠ .error .unknownKind := by
  obtain ⟨kind,id,attemptId,listingId,tierKey,periodEnd,trialEndsAt⟩ := report
  have dated := formed.dated
  unfold reportTrigger
  cases kind with
  | checkoutCompleted =>
      dsimp only at dated ⊢
      cases attempt with
      | none => exact ⟨nofun,nofun⟩
      | some a =>
          dsimp only
          split
          · exact ⟨nofun,nofun⟩
          · cases trialEndsAt with
            | some trial => exact ⟨nofun,nofun⟩
            | none =>
                cases periodEnd with
                | some end_ => exact ⟨nofun,nofun⟩
                | none => simp at dated
  | paymentSucceeded =>
      obtain ⟨end_,rfl⟩ := Option.isSome_iff_exists.mp dated
      dsimp only
      split
      · cases attempt with
        | none => exact ⟨nofun,nofun⟩
        | some a =>
            dsimp only
            split <;> exact ⟨nofun,nofun⟩
      · cases read : reportTier tiers tierKey with
        | error reason => cases reportTier_error read; exact ⟨nofun,nofun⟩
        | ok tier => exact ⟨nofun,nofun⟩
  | subscriptionChanged =>
      obtain ⟨dated,named⟩ := dated
      obtain ⟨end_,rfl⟩ := Option.isSome_iff_exists.mp dated
      dsimp only
      rw [if_neg named]
      cases read : reportTier tiers tierKey with
      | error reason => cases reportTier_error read; exact ⟨nofun,nofun⟩
      | ok tier => cases tier <;> exact ⟨nofun,nofun⟩
  | subscriptionCanceled =>
      dsimp only
      split <;> exact ⟨nofun,nofun⟩
  | paymentFailed => exact ⟨nofun,nofun⟩
  | refunded => exact ⟨nofun,nofun⟩
  | unknown name unlisted => exact dated.elim

def Given : Trigger → Params → Prop
  | .start,p => p.tier.isSome ∧ p.periodEnd.isSome
  | .startTrial,p => p.tier.isSome ∧ p.trialEndsAt.isSome
  | .paymentSucceeded,p => p.periodEnd.isSome
  | .paymentFailed,_ | .refund,_ | .cancel,_ | .subscriptionEnded,_ => True
  | _,_ => False

theorem reportTrigger_given {tiers : Tiers} {ent : Option Entitlement} {attempt : Option CheckoutAttempt}
    (made : reportTrigger tiers publicId ent attempt report = .ok (trigger,params,data)) : Given trigger params := by
  unfold reportTrigger at made
  dsimp only at made
  split at made
  · split at made
    · cases made
    · split at made
      · cases made
      · split at made
        · cases made
          exact ⟨rfl,rfl⟩
        · cases made
          exact ⟨rfl,rfl⟩
        · cases made
  · split at made
    · cases made
    · split at made
      · split at made
        · cases made
        · split at made
          · cases made
          · cases made
            exact ⟨rfl,rfl⟩
      · obtain ⟨_,_,made⟩ := Fallible.bind_exact.mp made
        cases made
        exact rfl
  · cases made
    trivial
  · cases made
    trivial
  · split at made
    · cases made
    · split at made
      · cases made
      · obtain ⟨tier,_,made⟩ := Fallible.bind_exact.mp made
        split at made
        · cases made
        · cases made
          exact rfl
  · split at made
    · cases made
      trivial
    · cases made
      trivial
  · cases made

theorem mutate_given {tiers : Tiers} {e : Entitlement} {r : Rule} {now : Time} (given : Given trigger params) :
    ∃ moved, mutate tiers e trigger r now params = .ok moved := by
  cases trigger with
  | start =>
      obtain ⟨tier,ends⟩ := given
      obtain ⟨tier,named⟩ := Option.isSome_iff_exists.mp tier
      obtain ⟨ends,dated⟩ := Option.isSome_iff_exists.mp ends
      unfold mutate
      rw [named,dated]
      exact ⟨_,rfl⟩
  | startTrial =>
      obtain ⟨tier,ends⟩ := given
      obtain ⟨tier,named⟩ := Option.isSome_iff_exists.mp tier
      obtain ⟨ends,dated⟩ := Option.isSome_iff_exists.mp ends
      unfold mutate
      rw [named,dated]
      exact ⟨_,rfl⟩
  | paymentSucceeded =>
      obtain ⟨ends,dated⟩ := Option.isSome_iff_exists.mp given
      unfold mutate
      rw [dated]
      exact ⟨_,rfl⟩
  | paymentFailed | refund | cancel | subscriptionEnded => exact ⟨_,rfl⟩
  | _ => exact given.elim

theorem openRow_given (given : Given trigger params) (message : String) :
    openRow seen false trigger params ≠ .error (.entitlementError message) := by
  intro refused
  unfold openRow at refused
  split at refused
  · cases refused
  · split at refused
    next creates =>
      have named : params.tier.isSome := by
        cases trigger with
        | start | startTrial => exact given.1
        | grant | override => exact given.elim
        | _ => simp [creators] at creates
      obtain ⟨tier,named⟩ := Option.isSome_iff_exists.mp named
      rw [named] at refused
      cases refused
    next => cases refused

theorem applyTrigger_given {cfg : Config} {s : Store} {now : Time} {actor : Audit.Actor} {origin message : String} (given : Given trigger params) :
    applyTrigger cfg s publicId trigger now actor origin params ≠ .error (.entitlementError message) := by
  intro refused
  unfold applyTrigger at refused
  split at refused
  · cases refused
  · rcases Fallible.bind_error.mp refused with opened | ⟨row,_,refused⟩
    · exact openRow_given given message opened
    rcases Fallible.bind_error.mp refused with refused | ⟨_,_,absurd⟩
    · unfold advance at refused
      rcases Fallible.bind_error.mp refused with illegal | ⟨r,_,refused⟩
      · unfold ruleFor at illegal
        split at illegal <;> cases illegal
      rcases Fallible.bind_error.mp refused with early | ⟨_,_,refused⟩
      · unfold clockGuard at early
        split at early <;> cases early
      rcases Fallible.bind_error.mp refused with unfit | ⟨⟨draft,facts⟩,_,refused⟩
      · obtain ⟨moved,fits⟩ := mutate_given given
        cases unfit.symm.trans fits
      rcases Fallible.bind_error.mp refused with unsaved | ⟨saved,_,refused⟩
      · unfold save at unsaved
        split at unsaved
        · split at unsaved <;> cases unsaved
        · cases unsaved
      rcases Fallible.bind_error.mp refused with unsent | ⟨_,_,absurd⟩
      · cases afterTransition_error unsent
      · cases absurd
    · cases absurd

theorem resolve_error (refused : resolve s tenant report = .error reason) : reason ≠ .badReport ∧ reason ≠ .unknownKind := by
  unfold resolve at refused
  rcases Fallible.bind_error.mp refused with attempt | ⟨_,_,refused⟩
  · unfold reportAttempt at attempt
    split at attempt
    · cases attempt
    · split at attempt
      · split at attempt <;> cases attempt
        exact ⟨nofun,nofun⟩
      · cases attempt
        exact ⟨nofun,nofun⟩
  rcases Fallible.bind_error.mp refused with listing | ⟨_,_,refused⟩
  · unfold reportListing at listing
    split at listing
    · cases listing
    · split at listing
      · split at listing <;> cases listing
        exact ⟨nofun,nofun⟩
      · cases listing
        exact ⟨nofun,nofun⟩
  rcases Fallible.bind_error.mp refused with both | ⟨_,_,refused⟩
  · unfold listingOf at both
    split at both
    · split at both <;> cases both
      exact ⟨nofun,nofun⟩
    · cases both
    · cases both
    · cases both
      exact ⟨nofun,nofun⟩
  · split at refused
    · cases refused
    · cases refused
      exact ⟨nofun,nofun⟩

theorem formed_answer (formed : Formed event d.report) (named : event.id ≠ "") (cfg : Config) (s : Store) :
    (deliver cfg s d).2 ≠ .ignored .badReport ∧ (deliver cfg s d).2 ≠ .ignored .unknownKind := by
  have known : d.report.kind.value ∈ reportKinds := by
    have dated := formed.dated
    cases kind : d.report.kind with
    | unknown name unlisted =>
        rw [kind] at dated
        exact dated.elim
    | _ => decide
  have identified : d.report.externalEventId ≠ "" := formed.id ▸ named
  have wellTaken : ∀ reason attempt, applyReport cfg s d.tenant d.adapter d.report d.now = .error (.refused reason attempt) →
      reason ≠ .badReport ∧ reason ≠ .unknownKind := by
    intro reason attempt refused
    unfold applyReport at refused
    rw [if_neg (not_not.mpr known),if_neg identified] at refused
    split at refused
    · cases refused
    · split at refused
      next unresolved =>
        cases refused
        exact resolve_error unresolved
      next publicId l attempt _ =>
        unfold applyResolved at refused
        dsimp only at refused
        obtain ⟨wellMade,listed⟩ := formed_trigger formed (cfg.tiers d.tenant) publicId
          ((s.entitlements publicId).map (·.toEntitlement)) (attempt.map (·.2))
        split at refused
        next untold =>
          cases refused
          exact ⟨fun bad => wellMade (bad ▸ untold),fun bad => listed (bad ▸ untold)⟩
        next trigger params data made =>
          split at refused
          next f failed =>
            cases f with
            | entitlementError message => exact absurd failed (applyTrigger_given (reportTrigger_given made))
            | invalidTransition _ _ =>
                cases refused
                exact ⟨nofun,nofun⟩
            | _ => cases refused
          next => cases refused
  unfold deliver reportPayment
  dsimp only
  split
  · exact ⟨nofun,nofun⟩
  · split
    · exact ⟨nofun,nofun⟩
    · split
      · exact ⟨nofun,nofun⟩
      · unfold concludeCommand
        split
        · exact ⟨nofun,nofun⟩
        · exact ⟨nofun,nofun⟩
        · exact ⟨nofun,nofun⟩
        next reason attempt refused =>
          obtain ⟨bad,unknown⟩ := wellTaken reason attempt refused
          exact ⟨fun same => bad (Answer.ignored.inj same),fun same => unknown (Answer.ignored.inj same)⟩

end report

-- Over any run of requests the tables are as if each of Stripe's events had come once; a
-- request that is not Stripe's, or has nothing to report, changes nothing.
theorem stripe_counts_once (lib : Library) (cfg : Config) (s : Store) :
    (∀ requests, SameTables (Runs.run (fun s r => (adapterInbound lib cfg s r).1) s requests)
      (Idempotent.receiveAll (deliver cfg) s (counted cfg s (requests.flatMap (deliveriesOf lib))))) ∧
    ∀ r, (deliveriesOf lib r = [] ∧ ∀ s, (adapterInbound lib cfg s r).1 = s) ∨
      ∃ d, deliveriesOf lib r = [d] ∧ Genuine lib r d ∧ (∀ s, (adapterInbound lib cfg s r).1 = (deliver cfg s d).1) ∧
        (∀ s, (deliver cfg s d).2 ≠ .ignored .badReport ∧ (deliver cfg s d).2 ≠ .ignored .unknownKind) ∧
        ∀ tiers publicId ent attempt, reportTrigger tiers publicId ent attempt d.report ≠ .error .badReport ∧
          reportTrigger tiers publicId ent attempt d.report ≠ .error .unknownKind := by
  refine ⟨?_,?_⟩
  · intro requests
    rw [inbound_run]
    exact Idempotent.receiveAll_unanswered (deliver cfg) Delivery.event Answer.final (report_consumer cfg)
      (List.forall_mem_nil _) (sameTables_equivalence.refl s) _
  · intro r
    rcases deliveriesOf_single lib r with none_ | ⟨d,one,genuine⟩
    · exact Or.inl ⟨none_,fun s => by rw [adapterInbound_store,none_]; rfl⟩
    · obtain ⟨document,event,_,_,named,formed⟩ := genuine.event
      exact Or.inr ⟨d,one,genuine,fun s => by rw [adapterInbound_store,one]; rfl,formed_answer formed named cfg,formed_trigger formed⟩

end Osds.Billing.Inbound

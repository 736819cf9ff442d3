import Osds.Lib.Blocks
import Osds.Billing.Transitions

namespace Osds.Billing.TriggerBlock
open Directory Audit Blocks

-- `apply_trigger` statement by statement over the tables, each write where the
-- source makes it. The transaction around it is `apply`.
abbrev Block := Blocks.Block Store Failure

section statements

variable (publicId : ListingId)

def createRow (row : EntitlementRow) : Block Unit :=
  writes (fun s => {s with
    entitlements := Function.update s.entitlements publicId (some row)
    created := s.created ++ [publicId]})

def saveRow (row : EntitlementRow) : Block Unit :=
  writes (fun s => {s with entitlements := Function.update s.entitlements publicId (some row)})

def saveListing (l : Listing) : Block Unit :=
  writes (fun s => {s with listings := Function.update s.listings publicId (some l)})

def emit (e : OutboxEvent) : Block Unit := writes (fun s => {s with outbox := s.outbox ++ [e]})

def emitAll : List OutboxEvent → Block Unit
  | [] => pure ()
  | e :: rest => do
      emit e
      emitAll rest

def queue (m : OutboundMessage) : Block Unit := writes (fun s => {s with mail := s.mail ++ [m]})

def lockListing : Block Listing := do
  match ← reads (·.listings publicId) with
  | some l => pure l
  | none => lift (.error .doesNotExist)

def ensureRow (seen : Option EntitlementRow) (trigger : Trigger) (p : Params) : Block EntitlementRow :=
  match seen with
  | some row => pure row
  | none =>
      if trigger ∈ creators then do
        let tier ← lift (need "tier" p.tier)
        createRow publicId (newRow tier)
        pure (newRow tier)
      else lift (.error (.invalidTransition .none trigger))

def writeTier (tiers : Tiers) (l : Listing) (tier : Option TierId) (cause : TierCause) (now : Time) (actor : Actor)
    (origin : String) : Block (Listing × Bool) :=
  if l.currentTier = tier then pure (l,false)
  else do
    let tiered := {l with currentTier := tier}
    saveListing publicId tiered
    emit ⟨l.tenant,publicId,actor,origin,.listingTierChanged (l.currentTier.map (tiers.row · |>.key))
      (tier.map (tiers.row · |>.key)) now cause.value⟩
    pure (tiered,true)

def writeVisibility (l : Listing) (to_ : Visibility) (actor : Actor) (reason : String) : Block Listing :=
  if l.visibility = to_ then pure l
  else do
    let (moved,events) := setListingVisibility publicId l to_ actor reason
    saveListing publicId moved
    emitAll events
    pure moved

def settleVisibility (tiers : Tiers) (row : EntitlementRow) (l : Listing) (actor : Actor) :
    Block (EntitlementRow × Listing × Bool × Bool) :=
  if row.status = .expired ∧ tiers.rank0 = none then
    if l.visibility = .published then do
      let hidden ← writeVisibility publicId l .hidden actor "entitlement_expired"
      let marked : EntitlementRow := {row with hiddenByExpiry := true}
      saveRow publicId marked
      pure (marked,hidden,true,false)
    else pure (row,l,false,false)
  else if row.hiddenByExpiry ∧ row.status.perks then do
    let cleared : EntitlementRow := {row with hiddenByExpiry := false}
    if l.visibility = .hidden then
      let shown ← writeVisibility publicId l .published actor "entitlement_restored"
      saveRow publicId cleared
      pure (cleared,shown,false,true)
    else
      saveRow publicId cleared
      pure (cleared,l,false,false)
  else pure (row,l,false,false)

def queueAll (tenant : TenantId) (to_ : String) : List Notice → Block Unit
  | [] => pure ()
  | n :: rest => do
      let m ← lift (enqueue tenant to_ n)
      queue m
      queueAll tenant to_ rest

def tellOwner (e : Entitlement) (l : Listing) (r : Rule) (now : Time) : Block Unit :=
  match address l with
  | none => pure ()
  | some to_ => queueAll l.tenant to_ (notices e l.name r now)

end statements

section body

variable (cfg : Config) (publicId : ListingId) (trigger : Trigger) (now : Time) (actor : Actor) (origin : String)
  (p : Params)

def settleBlock (tiers : Tiers) (prior : Status) (saved : EntitlementRow) (l : Listing) (r : Rule) (facts : Facts) :
    Block Outcome := do
  let entitlementId := cfg.entitlementId publicId
  let target := effectiveTier tiers saved.toEntitlement
  emitAll (r.events.map (fun name => ⟨l.tenant,entitlementId,actor,origin,
    eventData tiers entitlementId publicId saved.toEntitlement name r facts target p prior⟩))
  let (tiered,changed) ← writeTier publicId tiers l target (tierCause tiers r l.currentTier target) now actor origin
  let (settled,shown,hid,unhid) ← settleVisibility publicId tiers saved tiered actor
  tellOwner settled.toEntitlement shown r now
  pure ⟨prior,saved.status,r.events,changed,hid,unhid⟩

def advanceBlock (tiers : Tiers) (row : EntitlementRow) (l : Listing) : Block Outcome := do
  let r ← lift (ruleFor row.status trigger)
  lift (clockGuard row.toEntitlement trigger now)
  let (draft,facts) ← lift (mutate tiers row.toEntitlement trigger r now p)
  let saved ← lift (save draft)
  saveRow publicId saved
  settleBlock cfg publicId now actor origin p tiers row.status saved l r facts

def body : Block Outcome := do
  let seen ← reads (·.entitlements publicId)
  let l ← lockListing publicId
  let row ← ensureRow publicId seen trigger p
  advanceBlock cfg publicId trigger now actor origin p (cfg.tiers l.tenant) row l

def apply : Block Outcome := atomic (body cfg publicId trigger now actor origin p)

end body

section writes

variable {publicId : ListingId} {s : Store}

theorem emitAll_exact (es : List OutboxEvent) (s : Store) :
    (emitAll es).run s = (.ok (),{s with outbox := s.outbox ++ es}) := by
  induction es generalizing s with
  | nil =>
      rw [List.append_nil]
      rfl
  | cons e rest ih =>
      have first : (emit e).run s = (.ok (),{s with outbox := s.outbox ++ [e]}) := rfl
      unfold emitAll
      rw [bind_ok first,ih]
      simp only [List.append_assoc,List.singleton_append]

theorem relisted (listed : s.listings publicId = some l) : Function.update s.listings publicId (some l) = s.listings := by
  rw [← listed]
  exact Function.update_eq_self ..

theorem restored (stored : s.entitlements publicId = some row) :
    Function.update s.entitlements publicId (some row) = s.entitlements := by
  rw [← stored]
  exact Function.update_eq_self ..

def filed (s : Store) (publicId : ListingId) (written : Listing × List OutboxEvent) : Store :=
  {s with
    listings := Function.update s.listings publicId (some written.1)
    outbox := s.outbox ++ written.2}

theorem filed_listed (s : Store) (publicId : ListingId) (written : Listing × List OutboxEvent) :
    (filed s publicId written).listings publicId = some written.1 := Function.update_self ..

theorem listed_same (listed : s.listings publicId = some l) : filed s publicId (l,[]) = s := by
  unfold filed
  dsimp only
  rw [relisted listed,List.append_nil]

theorem writeTier_exact (listed : s.listings publicId = some l) :
    (writeTier publicId tiers l tier cause now actor origin).run s =
      (.ok ((setTier tiers publicId l tier cause now actor origin).1,decide (l.currentTier ≠ tier)),
        filed s publicId (setTier tiers publicId l tier cause now actor origin)) := by
  unfold writeTier setTier
  by_cases same : l.currentTier = tier
  · rw [if_pos same,if_pos same,listed_same listed,decide_eq_false (not_not_intro same)]
    rfl
  · rw [if_neg same,if_neg same,decide_eq_true same]
    rfl

theorem writeVisibility_exact (listed : s.listings publicId = some l) :
    (writeVisibility publicId l to_ actor reason).run s =
      (.ok (setListingVisibility publicId l to_ actor reason).1,
        filed s publicId (setListingVisibility publicId l to_ actor reason)) := by
  unfold writeVisibility
  by_cases same : l.visibility = to_
  · have quiet : setListingVisibility publicId l to_ actor reason = (l,[]) := by
      unfold setListingVisibility
      rw [if_pos same]
    rw [if_pos same,quiet,listed_same listed]
    rfl
  · rw [if_neg same]
    generalize setListingVisibility publicId l to_ actor reason = written
    have first : (saveListing publicId written.1).run s =
        (.ok (),{s with listings := Function.update s.listings publicId (some written.1)}) := rfl
    dsimp only
    rw [bind_ok first,bind_ok (emitAll_exact _ _)]
    rfl

theorem settleVisibility_exact {row : EntitlementRow} (listed : s.listings publicId = some l)
    (stored : s.entitlements publicId = some row) : (settleVisibility publicId tiers row l actor).run s =
      (.ok ((visibilityAfter tiers publicId row l actor).1,(visibilityAfter tiers publicId row l actor).2.1,
          (visibilityAfter tiers publicId row l actor).2.2.2),
        {filed s publicId ((visibilityAfter tiers publicId row l actor).2.1,
            (visibilityAfter tiers publicId row l actor).2.2.1) with
          entitlements := Function.update s.entitlements publicId (some (visibilityAfter tiers publicId row l actor).1)}) := by
  have kept : {filed s publicId (l,[]) with
      entitlements := Function.update s.entitlements publicId (some row)} = s := by
    rw [listed_same listed,restored stored]
  unfold settleVisibility visibilityAfter
  split
  · split
    · rw [bind_ok (writeVisibility_exact listed)]
      rfl
    · rw [kept]
      rfl
  · split
    · dsimp only
      split
      · rw [bind_ok (writeVisibility_exact listed)]
        rfl
      · rw [listed_same listed]
        rfl
    · rw [kept]
      rfl

end writes

section mail

variable {l shown : Listing}

theorem queueAll_performs (items : List Notice) (s : Store) : Performs (queueAll tenant to_ items) s
    ((items.mapM (enqueue tenant to_)).map (fun mail => ((),{s with mail := s.mail ++ mail}))) := by
  induction items generalizing s with
  | nil =>
      change _ = (Except.ok (),{s with mail := s.mail ++ []})
      rw [List.append_nil]
      rfl
  | cons n rest ih =>
      rw [List.mapM_cons,Fallible.map_bind]
      apply performs_lift
      intro m _
      have first : (queue m).run s = (.ok (),{s with mail := s.mail ++ [m]}) := rfl
      refine performs_bind first ?_
      have later := ih {s with mail := s.mail ++ [m]}
      rw [Fallible.map_bind]
      cases queued : rest.mapM (enqueue tenant to_) with
      | error f =>
          rw [queued] at later
          exact later
      | ok mail =>
          rw [queued] at later
          change Performs _ _ (.ok ((),{s with mail := s.mail ++ [m] ++ mail})) at later
          rw [← List.append_cons] at later
          exact later

theorem tellOwner_performs (e : Entitlement) (l : Listing) (r : Rule) (now : Time) (s : Store) :
    Performs (tellOwner e l r now) s
      ((afterTransition e l r now).map (fun mail => ((),{s with mail := s.mail ++ mail}))) := by
  unfold tellOwner afterTransition
  cases address l with
  | none =>
      change _ = (Except.ok (),{s with mail := s.mail ++ []})
      rw [List.append_nil]
      rfl
  | some to_ => exact queueAll_performs _ s

theorem afterTransition_settled (tenant : shown.tenant = l.tenant) (owner : shown.owner = l.owner)
    (projection : shown.projection = l.projection) (flag : Bool) :
    afterTransition {e with hiddenByExpiry := flag} shown r now = afterTransition e l r now := by
  have same : address shown = address l := by
    unfold address
    rw [owner]
  have named : shown.name = l.name := by
    unfold Listing.name
    rw [projection]
  unfold afterTransition
  rw [same,named,tenant]
  rfl

theorem setListingVisibility_kept : (setListingVisibility publicId l to_ actor reason).1.owner = l.owner ∧
    (setListingVisibility publicId l to_ actor reason).1.projection = l.projection := by
  unfold setListingVisibility
  split <;> exact ⟨rfl,rfl⟩

theorem setTier_kept : (setTier tiers publicId l tier cause now actor origin).1.owner = l.owner ∧
    (setTier tiers publicId l tier cause now actor origin).1.projection = l.projection := by
  unfold setTier
  split <;> exact ⟨rfl,rfl⟩

theorem visibilityAfter_kept : (visibilityAfter tiers publicId row l actor).2.1.owner = l.owner ∧
    (visibilityAfter tiers publicId row l actor).2.1.projection = l.projection := by
  unfold visibilityAfter
  split
  · split
    · exact setListingVisibility_kept
    · exact ⟨rfl,rfl⟩
  · split
    · split
      · exact setListingVisibility_kept
      · exact ⟨rfl,rfl⟩
    · exact ⟨rfl,rfl⟩

end mail

section triggers

variable {cfg : Config} {publicId : ListingId} {s : Store}

def wrote (s : Store) (publicId : ListingId) (m : Moved) : Store :=
  {s with
    listings := Function.update s.listings publicId (some m.listing)
    entitlements := Function.update s.entitlements publicId (some m.row)
    outbox := s.outbox ++ m.events
    mail := s.mail ++ m.mail}

theorem shown_performs {tiers : Tiers} {saved : EntitlementRow} {tiered l : Listing}
    (out : EntitlementRow × Listing × Bool × Bool → Outcome) (tenant : tiered.tenant = l.tenant)
    (owner : tiered.owner = l.owner) (projection : tiered.projection = l.projection)
    (listed : s.listings publicId = some tiered) (stored : s.entitlements publicId = some saved) :
    Performs (settleVisibility publicId tiers saved tiered actor >>= fun v =>
        tellOwner v.1.toEntitlement v.2.1 r now >>= fun _ => pure (out v)) s
      ((afterTransition saved.toEntitlement l r now).map (fun mail =>
        (out ((visibilityAfter tiers publicId saved tiered actor).1,(visibilityAfter tiers publicId saved tiered actor).2.1,
            (visibilityAfter tiers publicId saved tiered actor).2.2.2),
          {filed s publicId ((visibilityAfter tiers publicId saved tiered actor).2.1,
              (visibilityAfter tiers publicId saved tiered actor).2.2.1) with
            entitlements := Function.update s.entitlements publicId
              (some (visibilityAfter tiers publicId saved tiered actor).1)
            mail := s.mail ++ mail}))) := by
  refine performs_bind (settleVisibility_exact listed stored) ?_
  have kept : (visibilityAfter tiers publicId saved tiered actor).2.1.owner = tiered.owner ∧
      (visibilityAfter tiers publicId saved tiered actor).2.1.projection = tiered.projection := visibilityAfter_kept
  have moved : (visibilityAfter tiers publicId saved tiered actor).2.1.tenant = tiered.tenant := visibilityAfter_tenant
  obtain ⟨flag,row⟩ : ∃ flag, (visibilityAfter tiers publicId saved tiered actor).1.toEntitlement =
    {saved.toEntitlement with hiddenByExpiry := flag} := visibilityAfter_row
  generalize visibilityAfter tiers publicId saved tiered actor = v at kept moved row ⊢
  dsimp only
  have told := performs_map (fun _ => out (v.1,v.2.1,v.2.2.2)) (tellOwner_performs v.1.toEntitlement v.2.1 r now
    {filed s publicId (v.2.1,v.2.2.1) with entitlements := Function.update s.entitlements publicId (some v.1)})
  rw [row] at told ⊢
  rw [afterTransition_settled (moved.trans tenant) (kept.1.trans owner) (kept.2.trans projection)] at told
  cases sent : afterTransition saved.toEntitlement l r now with
  | error f =>
      rw [sent] at told
      exact told
  | ok mail =>
      rw [sent] at told
      exact told

theorem settleBlock_performs {tiers : Tiers} {saved : EntitlementRow} {l : Listing}
    (listed : s.listings publicId = some l) (stored : s.entitlements publicId = some saved) :
    Performs (settleBlock cfg publicId now actor origin p tiers prior saved l r facts) s
      ((afterTransition saved.toEntitlement l r now).map (fun mail =>
        let m := settle tiers (cfg.entitlementId publicId) publicId prior saved l r facts now actor origin p mail
        (m.outcome,wrote s publicId m))) := by
  unfold settleBlock
  refine performs_bind (emitAll_exact _ s) ?_
  refine performs_bind (writeTier_exact listed) ?_
  let out : EntitlementRow × Listing × Bool × Bool → Outcome := fun v =>
    ⟨prior,saved.status,r.events,decide (l.currentTier ≠ effectiveTier tiers saved.toEntitlement),v.2.2.1,v.2.2.2⟩
  refine performs_as (shown_performs out setTier_tenant setTier_kept.1 setTier_kept.2 (filed_listed _ _ _) stored) ?_
  cases afterTransition saved.toEntitlement l r now with
  | error f => rfl
  | ok mail =>
      simp only [Except.map,settle,wrote,filed,Function.update_idem,List.append_assoc,out]

theorem advanceBlock_performs {tiers : Tiers} {row : EntitlementRow} {l : Listing}
    (listed : s.listings publicId = some l) :
    Performs (advanceBlock cfg publicId trigger now actor origin p tiers row l) s
      ((advance tiers (cfg.entitlementId publicId) publicId row l trigger now actor origin p).map
        (fun m => (m.outcome,wrote s publicId m))) := by
  unfold advanceBlock advance
  rw [Fallible.map_bind]
  apply performs_lift
  intro r _
  rw [Fallible.map_bind]
  apply performs_lift
  intro _ _
  rw [Fallible.map_bind]
  apply performs_lift
  intro mutated _
  rw [Fallible.map_bind]
  apply performs_lift
  intro saved _
  have saves : (saveRow publicId saved).run s =
      (.ok (),{s with entitlements := Function.update s.entitlements publicId (some saved)}) := rfl
  refine performs_bind saves ?_
  refine performs_as (settleBlock_performs listed (Function.update_self ..)) ?_
  rw [Fallible.map_bind]
  cases afterTransition saved.toEntitlement l r now with
  | error f => rfl
  | ok mail =>
      simp only [Except.map,wrote,Function.update_idem,pure,Except.pure,bind,Except.bind]

theorem ensureRow_new (publicId : ListingId) (trigger : Trigger) (s : Store) (p : Params) :
    Performs (ensureRow publicId none trigger p) s
    ((openRow none false trigger p).map (fun row => (row,{s with
      entitlements := Function.update s.entitlements publicId (some row)
      created := s.created ++ [publicId]}))) := by
  unfold ensureRow openRow
  dsimp only
  split
  · cases p.tier with
    | none => exact ⟨s,rfl⟩
    | some tier => rfl
  · exact ⟨s,rfl⟩

theorem body_performs (s : Store) : Performs (body cfg publicId trigger now actor origin p) s
    ((applyTrigger cfg s publicId trigger now actor origin p).map (fun done => (done.2.outcome,done.1))) := by
  have reading : (reads (·.entitlements publicId) : Block (Option EntitlementRow)).run s =
      (.ok (s.entitlements publicId),s) := rfl
  unfold body applyTrigger
  refine performs_bind reading ?_
  cases listed : s.listings publicId with
  | none =>
      have gone : (lockListing publicId).run s = (.error .doesNotExist,s) := by
        unfold lockListing
        have looked : (reads (·.listings publicId) : Block (Option Listing)).run s = (.ok none,s) := by
          rw [← listed]
          rfl
        rw [bind_ok looked]
        rfl
      exact ⟨s,bind_raised gone⟩
  | some l =>
      have locked : (lockListing publicId).run s = (.ok l,s) := by
        unfold lockListing
        have looked : (reads (·.listings publicId) : Block (Option Listing)).run s = (.ok (some l),s) := by
          rw [← listed]
          rfl
        rw [bind_ok looked]
        rfl
      refine performs_bind locked ?_
      dsimp only
      cases stored : s.entitlements publicId with
      | some row =>
          have found : (ensureRow publicId (some row) trigger p).run s = (.ok row,s) := rfl
          refine performs_bind found (performs_as (advanceBlock_performs listed) ?_)
          change _ = (Except.map _ (advance _ _ _ row l trigger now actor origin p >>= _))
          rw [Fallible.map_bind]
          cases advance (cfg.tiers l.tenant) (cfg.entitlementId publicId) publicId row l trigger now actor origin p with
          | error f => rfl
          | ok m =>
              simp only [Except.map,wrote,Store.commit,pure,Except.pure,bind,Except.bind,stored,Option.isSome_some,if_true]
      | none =>
          have created := ensureRow_new publicId trigger s p
          cases opened : openRow none false trigger p with
          | error f =>
              rw [opened] at created
              obtain ⟨left,ran⟩ := created
              exact ⟨left,bind_raised ran⟩
          | ok row =>
              rw [opened] at created
              refine performs_bind created (performs_as (advanceBlock_performs listed) ?_)
              change _ = (Except.map _ (advance _ _ _ row l trigger now actor origin p >>= _))
              rw [Fallible.map_bind]
              cases advance (cfg.tiers l.tenant) (cfg.entitlementId publicId) publicId row l trigger now actor origin p with
              | error f => rfl
              | ok m =>
                  simp only [Except.map,wrote,Store.commit,pure,Except.pure,bind,Except.bind,stored,Option.isSome_none,
                    Bool.false_eq_true,if_false,Function.update_idem]

end triggers

def Lands (r : Rule) (p : Params) (status : Status) : Prop :=
  match r.to_ with
  | .status to_ => status = to_
  | .any => p.toStatus = some status.value

theorem ofValue_value (named : Status.ofValue text = some status) : status.value = text := by
  unfold Status.ofValue at named
  have found := List.find?_some named
  exact of_decide_eq_true found

theorem failPayment_status : (failPayment e now code attempt).status =
    if e.status = .pastDue ∨ e.status = .grace then e.status else .pastDue := by
  unfold failPayment
  split <;> rfl

theorem mutate_lands (legal : ruleFor e.status trigger = .ok r)
    (mutated : mutate tiers e trigger r now p = .ok (draft,facts)) : Lands r p draft.status := by
  cases trigger with
  | start =>
      obtain ⟨tier,_,rest⟩ := Fallible.bind_exact.mp mutated
      obtain ⟨ends,_,rest⟩ := Fallible.bind_exact.mp rest
      cases rest
      cases status : e.status <;> rw [status] at legal <;> cases legal <;> rfl
  | startTrial =>
      obtain ⟨tier,_,rest⟩ := Fallible.bind_exact.mp mutated
      obtain ⟨ends,_,rest⟩ := Fallible.bind_exact.mp rest
      cases rest
      cases status : e.status <;> rw [status] at legal <;> cases legal <;> rfl
  | paymentSucceeded =>
      obtain ⟨ends,_,rest⟩ := Fallible.bind_exact.mp mutated
      cases rest
      rw [pay_status]
      cases status : e.status <;> rw [status] at legal <;> cases legal <;> rfl
  | paymentFailed =>
      cases mutated
      rw [failPayment_status]
      cases status : e.status <;> rw [status] at legal <;> cases legal <;> rfl
  | trialOverdue =>
      cases mutated
      rw [failPayment_status]
      cases status : e.status <;> rw [status] at legal <;> cases legal <;> rfl
  | cancel =>
      cases mutated
      unfold cancelEntitlement
      cases status : e.status <;> rw [status] at legal <;> cases legal <;> rfl
  | grant =>
      obtain ⟨_,_,_,_,rfl,_⟩ := granted_exact.mp mutated
      cases status : e.status <;> rw [status] at legal <;> cases legal <;> rfl
  | revoke =>
      obtain ⟨_,rfl,_⟩ := revoked_exact.mp mutated
      cases status : e.status <;> rw [status] at legal <;> cases legal <;> rfl
  | override =>
      obtain ⟨to_,named,_,_,overridden,_⟩ := overridden_exact.mp mutated
      obtain ⟨text,given,known⟩ := Option.bind_eq_some_iff.mp named
      have asked : p.toStatus = some draft.status.value := by
        rw [override_status overridden,ofValue_value known]
        exact given
      cases status : e.status <;> rw [status] at legal <;> cases legal <;> exact asked
  | _ =>
      cases mutated
      cases status : e.status <;> rw [status] at legal <;> cases legal <;> rfl

theorem ruleFor_listed (legal : ruleFor status trigger = .ok r) : build.lookup (status,trigger) = some r := by
  unfold ruleFor at legal
  cases found : build.lookup (status,trigger) with
  | none => rw [found] at legal; cases legal
  | some other => rw [found] at legal; cases legal; rfl

section events

theorem setTier_once : (setTier tiers publicId l tier cause now actor origin).2.length ≤ 1 := by
  unfold setTier
  split
  · exact Nat.zero_le _
  · exact Nat.le_refl _

theorem setListingVisibility_once : (setListingVisibility publicId l to_ actor reason).2.length ≤ 1 := by
  unfold setListingVisibility
  split
  · exact Nat.zero_le _
  · dsimp only
    split
    · exact Nat.le_refl _
    · split
      · exact Nat.le_refl _
      · exact Nat.zero_le _

theorem visibilityAfter_once : (visibilityAfter tiers publicId row l actor).2.2.1.length ≤ 1 := by
  unfold visibilityAfter
  split
  · split
    · exact setListingVisibility_once
    · exact Nat.zero_le _
  · split
    · split
      · exact setListingVisibility_once
      · exact Nat.zero_le _
    · exact Nat.zero_le _

-- The events a rule names in its order, then at most one about the listing's tier
-- and at most one about its publication.
structure Announced (r : Rule) (named tiered shown : List OutboxEvent) : Prop where
  inOrder : named.map (·.type) = r.events.map (·.type)
  aboutTier : ∀ e ∈ tiered, e.type = .listingTierChanged
  oneTier : tiered.length ≤ 1
  aboutPublication : ∀ e ∈ shown, e.type = .listingPublished ∨ e.type = .listingUnpublished
  onePublication : shown.length ≤ 1

theorem settle_announced (settled : m = settle tiers entitlementId publicId prior saved l r facts now actor origin p
    mail) : ∃ named tiered shown, m.events = named ++ tiered ++ shown ∧ Announced r named tiered shown := by
  subst settled
  refine ⟨_,_,_,rfl,?_,fun _ present => setTier_events present,setTier_once,
    fun _ present => visibilityAfter_events present,visibilityAfter_once⟩
  rw [List.map_map]
  apply List.map_congr_left
  intro name _
  exact eventData_type name

theorem settle_outcome (settled : m = settle tiers entitlementId publicId prior saved l r facts now actor origin p mail) :
    m.row.status = saved.status ∧ m.outcome.fromStatus = prior ∧ m.outcome.toStatus = saved.status ∧
      m.outcome.events = r.events := by
  subst settled
  refine ⟨?_,rfl,rfl,rfl⟩
  exact settle_landed.status

end events

theorem apply_exact (cfg : Config) (publicId : ListingId) (trigger : Trigger) (now : Time) (actor : Actor)
    (origin : String) (p : Params) (s : Store) : (apply cfg publicId trigger now actor origin p).run s =
      committed s ((applyTrigger cfg s publicId trigger now actor origin p).map (fun done => (done.2.outcome,done.1))) :=
  atomic_performs (body_performs s)

structure Applied (s s' : Store) (publicId : ListingId) (trigger : Trigger) (p : Params) (out : Outcome) (r : Rule)
    (row : EntitlementRow) : Prop where
  listed : build.lookup (statusOf (s.entitlements publicId),trigger) = some r
  stored : s'.entitlements publicId = some row
  lands : Lands r p row.status
  outcome : out.fromStatus = statusOf (s.entitlements publicId) ∧ out.toStatus = row.status ∧ out.events = r.events
  events : ∃ named tiered shown, s'.outbox = s.outbox ++ (named ++ tiered ++ shown) ∧ Announced r named tiered shown

-- For every state, trigger and parameters: one that raises leaves the tables as
-- they were, and one that does not follows the table.
theorem apply_trigger_closed (cfg : Config) (s : Store) (publicId : ListingId) (trigger : Trigger) (now : Time)
    (actor : Actor) (origin : String) (p : Params) :
    match (apply cfg publicId trigger now actor origin p).run s with
    | (.error _,s') => s' = s
    | (.ok out,s') => ∃ r row, Applied s s' publicId trigger p out r row := by
  rw [apply_exact]
  cases moved : applyTrigger cfg s publicId trigger now actor origin p with
  | error f => rfl
  | ok done =>
      obtain ⟨s',m⟩ := done
      obtain ⟨l,row,listed,opened,advanced,committed⟩ := applyTrigger_exact.mp moved
      obtain ⟨r,facts,saved,mail,legal,_,mutated,_,settled⟩ := advance_exact.mp advanced
      have prior : statusOf (s.entitlements publicId) = row.status := by
        rcases openRow_exact.mp opened with present | ⟨absent,_,tier,_,new⟩
        · rw [present]
          rfl
        · rw [absent,new]
          rfl
      obtain ⟨named,tiered,shown,events,announced⟩ := settle_announced settled
      obtain ⟨status,from_,to_,named_⟩ := settle_outcome settled
      have lands := mutate_lands legal mutated
      rw [← status] at lands to_
      rw [← prior] at legal from_
      subst committed
      refine ⟨r,m.row,ruleFor_listed legal,Function.update_self ..,lands,⟨from_,to_,named_⟩,named,tiered,shown,?_,announced⟩
      rw [← events]
      rfl

end Osds.Billing.TriggerBlock

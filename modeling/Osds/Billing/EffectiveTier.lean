import Osds.Billing.System

namespace Osds.Billing
open Directory Audit

def Effective (cfg : Config) (s : Store) : Prop :=
  ∀ publicId row, s.entitlements publicId = some row → ∃ l, s.listings publicId = some l ∧
    l.currentTier = effectiveTier (cfg.tiers l.tenant) row.toEntitlement

theorem advance_tier (advanced : advance tiers entitlementId publicId row l trigger now actor origin p = .ok m) :
    m.listing.tenant = l.tenant ∧ m.listing.currentTier = effectiveTier tiers m.row.toEntitlement := by
  obtain ⟨r,facts,saved,mail,_,_,_,_,rfl⟩ := advance_exact.mp advanced
  refine ⟨settle_tenant,?_⟩
  rw [settle_tier]
  exact (effectiveTier_settle).symm

theorem effect_effective (effect : Effect cfg s s') (valid : Effective cfg s) : Effective cfg s' := by
  intro other found present
  cases effect with
  | applied publicId l row trigger now actor origin p m extra listed opened advanced listings entitlements _ _ =>
      rw [entitlements] at present
      rw [listings]
      by_cases equal : other = publicId
      · subst equal
        rw [Function.update_self] at present
        cases present
        obtain ⟨tenant,tier⟩ := advance_tier advanced
        exact ⟨m.listing,Function.update_self ..,by rw [tier,tenant]⟩
      · rw [Function.update_of_ne equal] at present ⊢
        exact valid other found present
  | noticed publicId row now extra stored listings entitlements _ _ =>
      rw [entitlements] at present
      rw [listings]
      by_cases equal : other = publicId
      · subst equal
        rw [Function.update_self] at present
        cases present
        exact valid other row stored
      · rw [Function.update_of_ne equal] at present
        exact valid other found present
  | listed publicId l absent _ listings entitlements _ =>
      rw [entitlements] at present
      rw [listings]
      obtain ⟨old,listed,tier⟩ := valid other found present
      have differ : other ≠ publicId := by
        intro equal
        rw [equal,absent] at listed
        cases listed
      rw [Function.update_of_ne differ]
      exact ⟨old,listed,tier⟩
  | edited publicId old l stored tenant tier listings entitlements _ =>
      rw [entitlements] at present
      rw [listings]
      obtain ⟨kept,listed,shows⟩ := valid other found present
      by_cases equal : other = publicId
      · subst equal
        rw [stored] at listed
        cases listed
        exact ⟨l,Function.update_self ..,by rw [tier,tenant,shows]⟩
      · rw [Function.update_of_ne equal]
        exact ⟨kept,listed,shows⟩
  | quiet extra listings entitlements _ _ =>
      rw [entitlements] at present
      rw [listings]
      exact valid other found present

theorem reached_effective (path : Reached cfg site s) : Effective cfg s :=
  Runs.reached_invariant (step cfg site) (by rintro _ rfl _ _ absurd; cases absurd)
    (fun s action valid => effect_effective (step_effect cfg site s action) valid) path

-- One `listing.tier_changed` event: the key before and the key after.
structure TierMove where
  frm : Option String
  to_ : Option String
  deriving DecidableEq, Repr

def tierMove (publicId : ListingId) (e : OutboxEvent) : Option TierMove :=
  match e.payload with
  | .listingTierChanged frm to_ _ _ => if e.subject = publicId then some ⟨frm,to_⟩ else none
  | _ => none

def tierMoves (publicId : ListingId) (events : List OutboxEvent) : List TierMove :=
  events.filterMap (tierMove publicId)

def Linked : Option String → List TierMove → Option String → Prop
  | frm,[],to_ => frm = to_
  | frm,move :: rest,to_ => move.frm = frm ∧ Linked move.to_ rest to_

theorem linked_append (first : Linked a moves b) (second : Linked b more c) : Linked a (moves ++ more) c := by
  induction moves generalizing a with
  | nil => cases first; exact second
  | cons move rest ih => exact ⟨first.1,ih first.2⟩

def shownTier (s : Store) (publicId : ListingId) : Option TierId :=
  (s.listings publicId).bind (·.currentTier)

def shownKey (cfg : Config) (s : Store) (publicId : ListingId) : Option String :=
  (s.listings publicId).bind (fun l => l.currentTier.map (fun tier => ((cfg.tiers l.tenant).row tier).key))

def moved (cfg : Config) (s s' : Store) (publicId : ListingId) : List TierMove :=
  if shownTier s publicId = shownTier s' publicId then []
  else [⟨shownKey cfg s publicId,shownKey cfg s' publicId⟩]

def movedAlong (cfg : Config) (site : Site) (publicId : ListingId) : Store → List Action → List TierMove
  | _,[] => []
  | s,action :: rest =>
      moved cfg s (step cfg site s action) publicId ++ movedAlong cfg site publicId (step cfg site s action) rest

theorem tierMove_of_type (other : e.type ≠ .listingTierChanged) : tierMove publicId e = none := by
  unfold tierMove
  split
  · rename_i shape
    exact (other (by rw [OutboxEvent.type,shape]; rfl)).elim
  · rfl

theorem tierMoves_of_type (other : ∀ e ∈ events, e.type ≠ .listingTierChanged) :
    tierMoves publicId events = [] :=
  List.filterMap_eq_nil_iff.mpr (fun e present => tierMove_of_type (other e present))

theorem visibilityAfter_moves : tierMoves other (visibilityAfter tiers publicId row l actor).2.2.1 = [] :=
  tierMoves_of_type (fun e present absurd => by
    rcases visibilityAfter_events present with published | unpublished
    · rw [published] at absurd; cases absurd
    · rw [unpublished] at absurd; cases absurd)

theorem setTier_moves : tierMoves other (setTier tiers publicId l tier cause now actor origin).2 =
    if l.currentTier = tier ∨ other ≠ publicId then []
    else [⟨l.currentTier.map (tiers.row · |>.key),tier.map (tiers.row · |>.key)⟩] := by
  unfold setTier
  by_cases same : l.currentTier = tier
  · rw [if_pos same,if_pos (.inl same)]
    rfl
  · rw [if_neg same]
    by_cases equal : other = publicId
    · subst equal
      rw [if_neg (by simp [same])]
      simp [tierMoves,tierMove]
    · rw [if_pos (.inr equal)]
      simp [tierMoves,tierMove,Ne.symm equal]

theorem settle_moves : tierMoves other (settle tiers entitlementId publicId prior saved l r facts now actor
    origin p mail).events =
    if l.currentTier = effectiveTier tiers saved.toEntitlement ∨ other ≠ publicId then []
    else [⟨l.currentTier.map (tiers.row · |>.key),
      (effectiveTier tiers saved.toEntitlement).map (tiers.row · |>.key)⟩] := by
  unfold settle
  dsimp only
  rw [tierMoves,List.filterMap_append,List.filterMap_append,← tierMoves,← tierMoves,← tierMoves,setTier_moves]
  have named : tierMoves other (r.events.map (fun name => (⟨l.tenant,entitlementId,actor,origin,
      eventData tiers entitlementId publicId saved.toEntitlement name r facts
        (effectiveTier tiers saved.toEntitlement) p prior⟩ : OutboxEvent))) = [] := by
    apply tierMoves_of_type
    intro e present
    obtain ⟨name,_,rfl⟩ := List.mem_map.mp present
    change (eventData _ _ _ _ name _ _ _ _ _).type ≠ _
    rw [eventData_type]
    cases name <;> nofun
  rw [named,visibilityAfter_moves,List.append_nil,List.nil_append]

theorem advance_moves (advanced : advance tiers entitlementId publicId row l trigger now actor origin p = .ok m) :
    tierMoves other m.events = if l.currentTier = m.listing.currentTier ∨ other ≠ publicId then []
      else [⟨l.currentTier.map (tiers.row · |>.key),m.listing.currentTier.map (tiers.row · |>.key)⟩] := by
  obtain ⟨r,facts,saved,mail,_,_,_,_,rfl⟩ := advance_exact.mp advanced
  rw [settle_moves,settle_tier]

theorem tierMoves_append {first second : List OutboxEvent} : tierMoves publicId (first ++ second) = tierMoves publicId first ++ tierMoves publicId second :=
  List.filterMap_append ..

theorem shownTier_update_of_ne (differ : other ≠ publicId)
    (listings : s'.listings = Function.update s.listings publicId l) : shownTier s other = shownTier s' other := by
  unfold shownTier
  rw [listings,Function.update_of_ne differ]

theorem effect_moved (effect : Effect cfg s s') (publicId : ListingId) :
    tierMoves publicId s'.outbox = tierMoves publicId s.outbox ++ moved cfg s s' publicId := by
  cases effect with
  | applied changed l row trigger now actor origin p m extra listed opened advanced listings entitlements outbox money =>
      rw [outbox,tierMoves_append,tierMoves_append,tierMoves_of_type money,List.append_nil,advance_moves advanced]
      congr 1
      unfold moved
      by_cases equal : publicId = changed
      · subst equal
        have before : shownTier s publicId = l.currentTier := by rw [shownTier,listed]; rfl
        have after : shownTier s' publicId = m.listing.currentTier := by
          rw [shownTier,listings,Function.update_self]; rfl
        rw [before,after]
        by_cases same : l.currentTier = m.listing.currentTier
        · rw [if_pos same,if_pos (.inl same)]
        · rw [if_neg same,if_neg (by simp [same]),shownKey,shownKey,listed,listings,Function.update_self]
          simp only [Option.bind_some,(advance_tier advanced).1]
      · rw [if_pos (.inr equal),if_pos (shownTier_update_of_ne equal listings)]
  | noticed changed row now extra present listings entitlements outbox money =>
      rw [outbox,tierMoves_append,tierMoves_of_type money,moved,shownTier,shownTier,listings,if_pos rfl]
  | listed changed l absent untiered listings entitlements outbox =>
      rw [outbox,moved]
      by_cases equal : publicId = changed
      · subst equal
        have before : shownTier s publicId = none := by rw [shownTier,absent]; rfl
        have after : shownTier s' publicId = none := by
          rw [shownTier,listings,Function.update_self]; exact untiered
        rw [before,after,if_pos rfl,List.append_nil]
      · rw [if_pos (shownTier_update_of_ne equal listings),List.append_nil]
  | edited changed old l present tenant tier listings entitlements outbox =>
      rw [outbox,moved]
      by_cases equal : publicId = changed
      · subst equal
        have before : shownTier s publicId = old.currentTier := by rw [shownTier,present]; rfl
        have after : shownTier s' publicId = old.currentTier := by
          rw [shownTier,listings,Function.update_self]; exact tier
        rw [before,after,if_pos rfl,List.append_nil]
      · rw [if_pos (shownTier_update_of_ne equal listings),List.append_nil]
  | quiet extra listings entitlements outbox money =>
      rw [outbox,tierMoves_append,tierMoves_of_type money,moved,shownTier,shownTier,listings,if_pos rfl]

theorem effect_key (effect : Effect cfg s s') (same : shownTier s publicId = shownTier s' publicId) :
    shownKey cfg s publicId = shownKey cfg s' publicId := by
  have keyed : ∀ {l l' : Listing}, l'.tenant = l.tenant → l.currentTier = l'.currentTier →
      l.currentTier.map (fun tier => ((cfg.tiers l.tenant).row tier).key) =
        l'.currentTier.map (fun tier => ((cfg.tiers l'.tenant).row tier).key) := by
    intro l l' tenant tier
    rw [tenant,tier]
  unfold shownTier at same
  unfold shownKey
  cases effect with
  | applied changed l row trigger now actor origin p m extra listed opened advanced listings entitlements outbox money =>
      by_cases equal : publicId = changed
      · subst equal
        rw [listed,listings,Function.update_self] at same
        rw [listed,listings,Function.update_self]
        exact keyed (advance_tier advanced).1 same
      · rw [listings,Function.update_of_ne equal]
  | noticed changed row now extra present listings entitlements outbox money => rw [listings]
  | listed changed l absent untiered listings entitlements outbox =>
      by_cases equal : publicId = changed
      · subst equal
        rw [absent,listings,Function.update_self,Option.bind_some,untiered]
        rfl
      · rw [listings,Function.update_of_ne equal]
  | edited changed old l present tenant tier listings entitlements outbox =>
      by_cases equal : publicId = changed
      · subst equal
        rw [present,listings,Function.update_self]
        exact keyed tenant tier.symm
      · rw [listings,Function.update_of_ne equal]
  | quiet extra listings entitlements outbox money => rw [listings]

theorem effect_linked (effect : Effect cfg s s') (publicId : ListingId) :
    Linked (shownKey cfg s publicId) (moved cfg s s' publicId) (shownKey cfg s' publicId) := by
  unfold moved
  split
  · rename_i same
    exact effect_key effect same
  · exact ⟨rfl,rfl⟩

theorem run_moved (cfg : Config) (site : Site) (publicId : ListingId) (s : Store) (actions : List Action) :
    tierMoves publicId (Runs.run (step cfg site) s actions).outbox =
      tierMoves publicId s.outbox ++ movedAlong cfg site publicId s actions := by
  induction actions generalizing s with
  | nil => exact (List.append_nil _).symm
  | cons action rest ih =>
      rw [Runs.run,ih,effect_moved (step_effect cfg site s action),List.append_assoc,movedAlong]

theorem run_linked (cfg : Config) (site : Site) (publicId : ListingId) (s : Store) (actions : List Action) :
    Linked (shownKey cfg s publicId) (movedAlong cfg site publicId s actions)
      (shownKey cfg (Runs.run (step cfg site) s actions) publicId) := by
  induction actions generalizing s with
  | nil => rfl
  | cons action rest ih => exact linked_append (effect_linked (step_effect cfg site s action) publicId) (ih _)

-- The listing's tier is the row's tier while the status carries perks and the
-- free tier, or none, otherwise; its tier events are the moves it made, one
-- each, and they form one chain from no tier to the tier shown.
theorem tier_follows_entitlement (cfg : Config) (site : Site) (actions : List Action) :
    let s := Runs.run (step cfg site) Store.empty actions
    (∀ publicId row, s.entitlements publicId = some row → ∃ l, s.listings publicId = some l ∧
      l.currentTier = if row.status.perks then some row.tier else (cfg.tiers l.tenant).rank0) ∧
    ∀ publicId, tierMoves publicId s.outbox = movedAlong cfg site publicId Store.empty actions ∧
      Linked none (tierMoves publicId s.outbox) (shownKey cfg s publicId) := by
  intro s
  refine ⟨reached_effective (run_reached cfg site actions),?_⟩
  intro publicId
  have emitted := run_moved cfg site publicId Store.empty actions
  refine ⟨emitted,?_⟩
  rw [emitted]
  exact run_linked cfg site publicId Store.empty actions

end Osds.Billing

import Osds.Lib.Json
import Osds.Lib.Text
import Osds.Billing.Transactions

namespace Osds.Billing.TierChanges
open Directory Audit

structure TierFields where
  key : String
  name : String
  rank : Option Int
  purchasable : Bool
  usesSlot : Bool
  priceMinor : Option Int
  currency : String
  interval : String
  trialDays : Option Int
  badgeLabel : String
  perks : Json

def Interval.ofValue : String → Option Interval
  | "month" => some .month
  | "year" => some .year
  | _ => none

-- Where `$` ends a text: before its last newline too.
def line (text : String) : List Char :=
  match text.toList.reverse with
  | '\n' :: rest => rest.reverse
  | _ => text.toList

def isKeyChar (c : Char) : Bool := ('a' ≤ c && c ≤ 'z') || ('0' ≤ c && c ≤ '9')

def isKey (text : String) : Bool :=
  match line text with
  | [] => false
  | first :: rest => isKeyChar first && rest.all (fun c => isKeyChar c || c = '-') && rest.length ≤ 48

def isCurrency (text : String) : Bool :=
  (line text).length = 3 && (line text).all (fun c => 'A' ≤ c && c ≤ 'Z')

def given (n : Option Int) : Bool := n.isSome && n ≠ some 0

def positive (n : Option Int) : Bool := n.any (0 < ·)

def refuse (wrong : Bool) (message : String) : List String := if wrong then [message] else []

def validate (v : TierFields) : List String :=
  refuse (!isKey v.key) "The key is lowercase letters, digits and hyphens." ++
  refuse (Text.strip v.name = "") "A name is required." ++
  refuse (!v.rank.any (0 ≤ ·)) "The rank is zero or more." ++
  refuse v.usesSlot "Slot-backed tiers are not available yet." ++
  refuse (!v.perks.isObj) "Perks must be an object." ++
  if v.purchasable then
    refuse (v.rank = some 0) "The rank-0 tier is the free fallback and cannot be purchasable." ++
    refuse (!positive v.priceMinor) "A purchasable tier needs a price above zero." ++
    refuse (!isCurrency v.currency) "The currency is a three-letter ISO 4217 code, such as USD." ++
    refuse (Interval.ofValue v.interval).isNone "Choose how often it bills." ++
    refuse (!v.trialDays.all (fun n => 1 ≤ n && n ≤ 90)) "A trial is 1 to 90 days."
  else
    refuse (given v.priceMinor || v.currency ≠ "" || v.interval ≠ "" || given v.trialDays)
      "Only a purchasable tier has a price, interval or trial."

def fits (v : TierFields) : Bool :=
  v.key.length ≤ 50 && (Text.strip v.name).length ≤ 100 && v.rank.all (· ≤ 32767) &&
    v.priceMinor.all (· ≤ 2147483647) && v.currency.length ≤ 3 && v.badgeLabel.length ≤ 50

inductive TierFailure where
  | tierError (message : String)
  | dataError
  deriving DecidableEq, Repr

theorem refuse_nil (none_ : refuse wrong message = []) : wrong = false := by
  cases wrong with
  | false => rfl
  | true => cases none_

theorem isCurrency_ne (code : isCurrency text = true) : text ≠ "" := by
  intro empty
  subst empty
  exact absurd code (by decide)

theorem validate_rank (valid : validate v = []) : ∃ rank : Nat, v.rank = some rank := by
  unfold validate at valid
  simp only [List.append_eq_nil_iff] at valid
  obtain ⟨⟨⟨⟨⟨_,_⟩,ranked⟩,_⟩,_⟩,_⟩ := valid
  have present := refuse_nil ranked
  cases known : v.rank with
  | none => rw [known] at present; cases present
  | some rank =>
      rw [known] at present
      have above : 0 ≤ rank := by simpa using present
      exact ⟨rank.toNat,congrArg some (Int.toNat_of_nonneg above).symm⟩

theorem validate_free (valid : validate v = []) (zero : v.rank = some 0) : v.purchasable = false := by
  unfold validate at valid
  cases sold : v.purchasable with
  | false => rfl
  | true =>
      rw [sold,if_pos rfl] at valid
      simp only [List.append_eq_nil_iff] at valid
      obtain ⟨_,⟨⟨⟨above,_⟩,_⟩,_⟩,_⟩ := valid
      have other := refuse_nil above
      rw [zero] at other
      cases other

theorem validate_priced (valid : validate v = []) (sold : v.purchasable = true) :
    positive v.priceMinor = true ∧ isCurrency v.currency = true ∧ (Interval.ofValue v.interval).isSome = true := by
  unfold validate at valid
  rw [sold,if_pos rfl] at valid
  simp only [List.append_eq_nil_iff] at valid
  obtain ⟨_,⟨⟨⟨_,price⟩,currency⟩,interval⟩,_⟩ := valid
  have price := refuse_nil price
  have currency := refuse_nil currency
  have interval := refuse_nil interval
  refine ⟨by simpa using price,by simpa using currency,?_⟩
  cases known : Interval.ofValue v.interval with
  | none => rw [known] at interval; cases interval
  | some _ => rfl

def tierOf (v : TierFields) (valid : validate v = []) : Tier :=
  {key := v.key
   name := Text.strip v.name
   rank := (v.rank.getD 0).toNat
   purchasable := v.purchasable
   usesSlot := false
   priceMinor := v.priceMinor.map Int.toNat
   currency := v.currency
   interval := Interval.ofValue v.interval
   trialDays := v.trialDays.map Int.toNat
   free := by
     intro zero
     obtain ⟨rank,known⟩ := validate_rank valid
     rw [known] at zero
     change (rank : Int).toNat = 0 at zero
     rw [Int.toNat_natCast] at zero
     rw [zero] at known
     exact validate_free valid known
   priced := by
     intro sold
     obtain ⟨costs,currency,interval⟩ := validate_priced valid sold
     refine ⟨?_,isCurrency_ne currency,interval⟩
     cases known : v.priceMinor with
     | none => rw [known] at costs; cases costs
     | some price =>
         rw [known] at costs
         have above : 0 < price := of_decide_eq_true costs
         have counted : 0 < price.toNat := Int.lt_toNat.mpr above
         exact ⟨price.toNat,rfl,counted⟩}

theorem put_unique {α : Type} {tiers : Tiers} {target : TierId} (value : Tier → α) {tier : Tier}
    (unique : ∀ a ∈ tiers.ids, ∀ b ∈ tiers.ids, value (tiers.row a) = value (tiers.row b) → a = b)
    (free : ∀ other ∈ tiers.ids, other ≠ target → value (tiers.row other) ≠ value tier)
    (there : a = target ∨ a ∈ tiers.ids) (beside : b = target ∨ b ∈ tiers.ids)
    (equal : value (Function.update tiers.row target tier a) = value (Function.update tiers.row target tier b)) : a = b := by
  by_cases first : a = target
  · by_cases second : b = target
    · rw [first,second]
    · rw [first,Function.update_self,Function.update_of_ne second] at equal
      exact (free b (beside.resolve_left second) second equal.symm).elim
  · rw [Function.update_of_ne first] at equal
    by_cases second : b = target
    · rw [second,Function.update_self] at equal
      exact (free a (there.resolve_left first) first equal).elim
    · rw [Function.update_of_ne second] at equal
      exact unique a (there.resolve_left first) b (beside.resolve_left second) equal

def Taken (tiers : Tiers) (target : TierId) (tier : Tier) : Prop :=
  ∃ other ∈ tiers.ids, other ≠ target ∧ ((tiers.row other).key = tier.key ∨ (tiers.row other).rank = tier.rank)

instance (tiers : Tiers) (target : TierId) (tier : Tier) : Decidable (Taken tiers target tier) :=
  inferInstanceAs (Decidable (∃ other ∈ tiers.ids,_))

def placed (tiers : Tiers) (target : TierId) : List TierId := if target ∈ tiers.ids then tiers.ids else tiers.ids ++ [target]

theorem mem_placed {target : TierId} : a ∈ placed tiers target ↔ a = target ∨ a ∈ tiers.ids := by
  unfold placed
  split
  · next present =>
      constructor
      · exact .inr
      · intro either
        rcases either with equal | there
        · rw [equal]; exact present
        · exact there
  · rw [List.mem_append,List.mem_singleton,or_comm]

def put (tiers : Tiers) (target : TierId) (tier : Tier) (free : ¬Taken tiers target tier) : Tiers :=
  {ids := placed tiers target
   row := Function.update tiers.row target tier
   keyUnique := fun _ there _ beside equal => put_unique Tier.key tiers.keyUnique
     (fun other listed apart same => free ⟨other,listed,apart,.inl same⟩) (mem_placed.mp there) (mem_placed.mp beside)
     equal
   rankUnique := fun _ there _ beside equal => put_unique Tier.rank tiers.rankUnique
     (fun other listed apart same => free ⟨other,listed,apart,.inr same⟩) (mem_placed.mp there) (mem_placed.mp beside)
     equal}

def drop (tiers : Tiers) (target : TierId) : Tiers :=
  {tiers with
   ids := tiers.ids.filter (· ≠ target)
   keyUnique := fun a there b beside => tiers.keyUnique a (List.mem_of_mem_filter there) b (List.mem_of_mem_filter beside)
   rankUnique := fun a there b beside => tiers.rankUnique a (List.mem_of_mem_filter there) b (List.mem_of_mem_filter beside)}

def store (tiers : Tiers) (target : TierId) (v : TierFields) (taken : String) : Except TierFailure Tiers :=
  if valid : validate v = [] then
    if fits v = false then .error .dataError
    else if free : ¬Taken tiers target (tierOf v valid) then .ok (put tiers target (tierOf v valid) free)
    else .error (.tierError taken)
  else .error (.tierError (" ".intercalate (validate v)))

def createTier (upper : String → String) (tiers : Tiers) (target : TierId) (v : TierFields) : Except TierFailure Tiers :=
  store tiers target {v with currency := upper v.currency} "A tier with that key or rank already exists."

def updateTier (upper : String → String) (tiers : Tiers) (target : TierId) (v : TierFields) : Except TierFailure Tiers :=
  if target ∈ tiers.ids ∧ (tiers.row target).key ≠ v.key then .error (.tierError "A tier's key cannot be changed.")
  else store tiers target {v with currency := upper v.currency} "A tier with that rank already exists."

-- A call of `apply_trigger` under the locks of both rows, with its row saved. The
-- tiers are read for the effective tier, and again for the visibility.
structure Held where
  call : Call
  listing : Listing
  prior : Status
  rule : Rule
  facts : Facts
  saved : EntitlementRow
  resolved : Option Tiers
  watched : Option Tiers

-- The committed tables with the tiers beside them, the listings there are, the
-- calls under way, each under its listing's lock, and the deletions that have
-- passed their checks.
structure World where
  tiers : TenantId → Tiers
  nextTier : TierId
  store : Store
  listed : List ListingId
  held : ListingId → Option Held
  checked : List TierId

-- A call that saw no row another has created since raises, and leaves nothing.
def begin_ (w : World) (c : Call) : Except Failure Held :=
  match w.store.listings c.publicId with
  | none => .error .doesNotExist
  | some l => do
      let row ← openRow (w.store.entitlements c.publicId) false c.trigger c.params
      let r ← ruleFor row.status c.trigger
      clockGuard row.toEntitlement c.trigger c.now
      let (draft,facts) ← mutate (w.tiers l.tenant) row.toEntitlement c.trigger r c.now c.params
      let saved ← save draft
      pure ⟨c,l,row.status,r,facts,saved,none,none⟩

def settleSeen (seen watched : Tiers) (entitlementId : String) (h : Held) (mail : List OutboundMessage) : Moved :=
  let publicId := h.call.publicId
  let target := effectiveTier seen h.saved.toEntitlement
  let events := h.rule.events.map (fun name =>
    {tenant := h.listing.tenant,subject := entitlementId,actor := h.call.actor,origin := h.call.origin,
      payload := eventData seen entitlementId publicId h.saved.toEntitlement name h.rule h.facts target h.call.params
        h.prior})
  let (tiered,tierEvents) := setTier seen publicId h.listing target (tierCause seen h.rule h.listing.currentTier target)
    h.call.now h.call.actor h.call.origin
  let (settled,shown,visibilityEvents,hid,unhid) := visibilityAfter watched publicId h.saved tiered h.call.actor
  {row := settled
   listing := shown
   events := events ++ tierEvents ++ visibilityEvents
   mail := mail
   outcome := ⟨h.prior,h.saved.status,h.rule.events,h.listing.currentTier ≠ target,hid,unhid⟩}

def conclude (tiers seen watched : Tiers) (entitlementId : String) (h : Held) : Except Failure Moved := do
  let mail ← afterTransition h.saved.toEntitlement h.listing h.rule h.call.now
  let m := settleSeen seen watched entitlementId h mail
  if m.row.tier ∈ tiers.ids ∧ ∀ tier ∈ m.listing.currentTier, tier ∈ tiers.ids then pure m else .error .integrityError

theorem applyTrigger_begin (w : World) (entitlementId : ListingId → String) (c : Call) :
    applyTrigger ⟨w.tiers,entitlementId⟩ w.store c.publicId c.trigger c.now c.actor c.origin c.params = (do
      let h ← begin_ w c
      let mail ← afterTransition h.saved.toEntitlement h.listing h.rule h.call.now
      let tiers := w.tiers h.listing.tenant
      let m := settleSeen tiers tiers (entitlementId c.publicId) h mail
      pure (w.store.commit c.publicId m,m)) := by
  unfold applyTrigger begin_ advance
  cases w.store.listings c.publicId with
  | none => rfl
  | some l =>
      simp only [bind_assoc,pure_bind]
      rfl

inductive Action where
  | list (publicId : ListingId) (l : Listing)
  | edit (publicId : ListingId) (l : Listing)
  | begin_ (c : Call)
  | resolve (publicId : ListingId)
  | watch (publicId : ListingId)
  | finish (publicId : ListingId)
  | abort (publicId : ListingId)
  | createTier (tenant : TenantId) (v : TierFields)
  | updateTier (tenant : TenantId) (target : TierId) (v : TierFields)
  | checkDelete (target : TierId)
  | deleteTier (tenant : TenantId) (target : TierId)

def World.holds (w : World) (target : TierId) (publicId : ListingId) : Bool :=
  (w.store.entitlements publicId).any (·.tier = target)

def World.shows (w : World) (target : TierId) (publicId : ListingId) : Bool :=
  (w.store.listings publicId).any (·.currentTier = some target)

def World.configure (w : World) (tenant : TenantId) (tiers : Tiers) : World :=
  {w with tiers := Function.update w.tiers tenant tiers}

def World.hold (w : World) (publicId : ListingId) (h : Option Held) : World :=
  {w with held := Function.update w.held publicId h}

def blank (target : TierId) (l : Listing) : Listing :=
  if l.currentTier = some target then {l with currentTier := none} else l

def blanked (s : Store) (target : TierId) : Store :=
  {s with listings := fun publicId => (s.listings publicId).map (blank target)}

structure Setup where
  upper : String → String
  entitlementId : ListingId → String

def step (setup : Setup) (w : World) : Action → World
  | .list publicId l =>
      match w.store.listings publicId with
      | some _ => w
      | none => {w with
          listed := w.listed ++ [publicId]
          store := {w.store with listings := Function.update w.store.listings publicId (some {l with currentTier := none})}}
  | .edit publicId l =>
      match w.store.listings publicId,w.held publicId with
      | some old,none =>
          let edited := {l with tenant := old.tenant,currentTier := old.currentTier}
          {w with store := {w.store with listings := Function.update w.store.listings publicId (some edited)}}
      | _,_ => w
  | .begin_ c =>
      match w.held c.publicId,begin_ w c with
      | none,.ok h => w.hold c.publicId (some h)
      | _,_ => w
  | .resolve publicId =>
      match w.held publicId with
      | some h =>
          if h.resolved.isSome then w
          else w.hold publicId (some {h with resolved := some (w.tiers h.listing.tenant)})
      | none => w
  | .watch publicId =>
      match w.held publicId with
      | some h =>
          if h.resolved.isNone ∨ h.watched.isSome then w
          else w.hold publicId (some {h with watched := some (w.tiers h.listing.tenant)})
      | none => w
  | .finish publicId =>
      match w.held publicId with
      | none => w
      | some h =>
          match h.resolved,h.watched with
          | some seen,some watched =>
              match conclude (w.tiers h.listing.tenant) seen watched (setup.entitlementId publicId) h with
              | .ok m => {w.hold publicId none with store := w.store.commit publicId m}
              | .error _ => w.hold publicId none
          | _,_ => w
  | .abort publicId => w.hold publicId none
  | .createTier tenant v =>
      match createTier setup.upper (w.tiers tenant) w.nextTier v with
      | .ok tiers => {w.configure tenant tiers with nextTier := w.nextTier+1}
      | .error _ => w
  | .updateTier tenant target v =>
      if w.nextTier ≤ target then w
      else match updateTier setup.upper (w.tiers tenant) target v with
        | .ok tiers => w.configure tenant tiers
        | .error _ => w
  | .checkDelete target =>
      if w.listed.any (fun publicId => w.holds target publicId || w.shows target publicId) then w
      else {w with checked := target :: w.checked}
  -- waits for a listing it has to blank
  | .deleteTier tenant target =>
      if target ∉ w.checked ∨ target ∉ (w.tiers tenant).ids ∨ w.listed.any (w.holds target) ∨
          w.listed.any (fun publicId => w.shows target publicId && (w.held publicId).isSome) then w
      else {w.configure tenant (drop (w.tiers tenant) target) with
        checked := w.checked.erase target
        store := blanked w.store target}

def noTiers : Tiers := ⟨[],fun _ => freeTier,nofun,nofun⟩

def World.empty : World := ⟨fun _ => noTiers,0,Store.empty,[],fun _ => none,[]⟩

theorem hold_held (w : World) (publicId : ListingId) (next : Option Held) :
    (w.hold publicId next).held publicId = next := Function.update_self ..

theorem hold_hold (w : World) (publicId : ListingId) (first second : Option Held) :
    (w.hold publicId first).hold publicId second = w.hold publicId second := by
  unfold World.hold
  dsimp only
  rw [Function.update_idem]

theorem hold_none {w : World} (free : w.held publicId = none) : w.hold publicId none = w := by
  unfold World.hold
  rw [← free,Function.update_eq_self]

theorem call_in_turn (setup : Setup) (w : World) (c : Call) (free : w.held c.publicId = none)
    (applied : applyTrigger ⟨w.tiers,setup.entitlementId⟩ w.store c.publicId c.trigger c.now c.actor c.origin c.params =
      .ok (s,m))
    (listed : w.store.listings c.publicId = some l)
    (there : m.row.tier ∈ (w.tiers l.tenant).ids ∧ ∀ tier ∈ m.listing.currentTier, tier ∈ (w.tiers l.tenant).ids) :
    Runs.run (step setup) w [.begin_ c,.resolve c.publicId,.watch c.publicId,.finish c.publicId] =
      {w with store := s} := by
  rw [applyTrigger_begin] at applied
  obtain ⟨h,opened,rest⟩ := Fallible.bind_exact.mp applied
  obtain ⟨mail,queued,rest⟩ := Fallible.bind_exact.mp rest
  cases rest
  obtain ⟨own,unresolved,unwatched⟩ : h.listing = l ∧ h.resolved = none ∧ h.watched = none := by
    unfold begin_ at opened
    rw [listed] at opened
    simp only [Fallible.bind_exact,Fallible.pure_exact] at opened
    obtain ⟨_,_,_,_,_,_,⟨_,_⟩,_,_,_,equal⟩ := opened
    subst equal
    exact ⟨rfl,rfl,rfl⟩
  subst own
  let tiers := w.tiers h.listing.tenant
  have begun : step setup w (.begin_ c) = w.hold c.publicId (some h) := by
    unfold step
    dsimp only
    rw [free,opened]
  have resolved : step setup (w.hold c.publicId (some h)) (.resolve c.publicId) =
      w.hold c.publicId (some {h with resolved := some tiers}) := by
    unfold step
    dsimp only
    rw [hold_held]
    dsimp only
    rw [unresolved,if_neg (by decide),hold_hold]
    rfl
  have watched : step setup (w.hold c.publicId (some {h with resolved := some tiers})) (.watch c.publicId) =
      w.hold c.publicId (some {h with resolved := some tiers,watched := some tiers}) := by
    unfold step
    dsimp only
    rw [hold_held]
    dsimp only
    rw [unwatched,if_neg (by simp),hold_hold]
    rfl
  have concluded : conclude tiers tiers tiers (setup.entitlementId c.publicId)
      {h with resolved := some tiers,watched := some tiers} =
        .ok (settleSeen tiers tiers (setup.entitlementId c.publicId) h mail) :=
    Fallible.bind_exact.mpr ⟨mail,queued,if_pos there⟩
  have finished : step setup (w.hold c.publicId (some {h with resolved := some tiers,watched := some tiers}))
      (.finish c.publicId) = {w with store := w.store.commit c.publicId (settleSeen tiers tiers
        (setup.entitlementId c.publicId) h mail)} := by
    unfold step
    dsimp only
    rw [hold_held]
    dsimp only
    change (match conclude tiers tiers tiers (setup.entitlementId c.publicId)
      {h with resolved := some tiers,watched := some tiers} with | .ok _ => _ | .error _ => _) = _
    rw [concluded]
    dsimp only
    rw [hold_hold,hold_none free]
    rfl
  rw [Runs.run,begun,Runs.run,resolved,Runs.run,watched,Runs.run,finished,Runs.run]

def ShowsEffective (tiers : Tiers) (l : Listing) (seen : Option EntitlementRow) : Prop :=
  (∀ row, seen = some row → row.status.perks → l.currentTier = some row.tier) ∧
    ((statusOf seen).perks = false → l.currentTier = none ∨ l.currentTier = tiers.rank0)

def Shown (w : World) : Prop :=
  ∀ publicId l, w.store.listings publicId = some l →
    ShowsEffective (w.tiers l.tenant) l (w.store.entitlements publicId)

def World.falls (w : World) (tenant : TenantId) (target : TierId) (publicId : ListingId) : Bool :=
  (w.store.listings publicId).any fun l =>
    l.tenant = tenant && l.currentTier = some target && !(statusOf (w.store.entitlements publicId)).perks

def World.awaits (w : World) (tenant : TenantId) (target : TierId) (publicId : ListingId) : Bool :=
  (w.held publicId).any fun h =>
    h.listing.tenant = tenant && !h.saved.status.perks && h.resolved.any (·.rank0 = some target)

-- No accepted update gives a rank other than 0 to a tier that a listing without
-- perks shows, or is about to show.
def Careful (setup : Setup) (w : World) : Action → Prop
  | .updateTier tenant target v =>
      (updateTier setup.upper (w.tiers tenant) target v).isOk → v.rank ≠ some 0 →
        w.listed.any (fun publicId => w.falls tenant target publicId || w.awaits tenant target publicId) = false
  | _ => True

instance (setup : Setup) (w : World) (action : Action) : Decidable (Careful setup w action) := by
  cases action <;> unfold Careful <;> infer_instance

section tiers

variable {tiers : Tiers} {target : TierId} {row : Tier} {tier : Option TierId}

theorem rank0_exact : tiers.rank0 = some target ↔ target ∈ tiers.ids ∧ (tiers.row target).rank = 0 := by
  unfold Tiers.rank0
  constructor
  · intro found
    have zero := List.find?_some found
    exact ⟨List.mem_of_find?_eq_some found,of_decide_eq_true zero⟩
  · intro fallback
    obtain ⟨there,zero⟩ := fallback
    cases found : tiers.ids.find? (fun id => (tiers.row id).rank = 0) with
    | none =>
        have absent := List.find?_eq_none.mp found target there
        simp [zero] at absent
    | some other =>
        have equal := List.find?_some found
        have listed := List.mem_of_find?_eq_some found
        rw [tiers.rankUnique other listed target there ((of_decide_eq_true equal).trans zero.symm)]

def Fallback (tiers : Tiers) (tier : Option TierId) : Prop :=
  ∀ target, tier = some target → target ∈ tiers.ids ∧ (tiers.row target).rank = 0

theorem fallback_exact : Fallback tiers tier ↔ tier = none ∨ tier = tiers.rank0 := by
  cases tier with
  | none => exact iff_of_true nofun (.inl rfl)
  | some target =>
      constructor
      · intro fallback
        exact .inr (rank0_exact.mpr (fallback target rfl)).symm
      · intro either other equal
        rcases either with absurd | zero
        · cases absurd
        · exact rank0_exact.mp (zero.symm.trans equal)

-- The same of a tier read earlier, which may be gone by now, but not another's.
def Pending (tiers : Tiers) (next : TierId) (tier : Option TierId) : Prop :=
  ∀ target, tier = some target → target < next ∧ (target ∈ tiers.ids → (tiers.row target).rank = 0)

theorem Fallback.pending (fallback : Fallback tiers tier) (below : ∀ target ∈ tiers.ids, target < next) :
    Pending tiers next tier := by
  intro target equal
  obtain ⟨there,zero⟩ := fallback target equal
  exact ⟨below target there,fun _ => zero⟩

theorem Pending.fallback (pending : Pending tiers next tier) (there : ∀ target ∈ tier, target ∈ tiers.ids) :
    Fallback tiers tier := by
  intro target equal
  have listed := there target equal
  exact ⟨listed,(pending target equal).2 listed⟩

theorem put_fallback {free : ¬Taken tiers target row} (fallback : Fallback tiers tier)
    (keeps : tier = some target → row.rank = 0) : Fallback (put tiers target row free) tier := by
  intro other equal
  obtain ⟨there,zero⟩ := fallback other equal
  refine ⟨mem_placed.mpr (.inr there),?_⟩
  change (Function.update tiers.row target row other).rank = 0
  by_cases same : other = target
  · subst same
    rw [Function.update_self]
    exact keeps equal
  · rw [Function.update_of_ne same]
    exact zero

theorem put_pending {free : ¬Taken tiers target row} (pending : Pending tiers next tier)
    (keeps : tier = some target → row.rank = 0) : Pending (put tiers target row free) next tier := by
  intro other equal
  obtain ⟨below,zero⟩ := pending other equal
  refine ⟨below,fun there => ?_⟩
  change (Function.update tiers.row target row other).rank = 0
  by_cases same : other = target
  · subst same
    rw [Function.update_self]
    exact keeps equal
  · rw [Function.update_of_ne same]
    exact zero ((mem_placed.mp there).resolve_left same)

theorem Pending.later (pending : Pending tiers next tier) : Pending tiers (next+1) tier := by
  intro target equal
  obtain ⟨below,zero⟩ := pending target equal
  exact ⟨Nat.lt_succ_of_lt below,zero⟩

theorem drop_fallback (fallback : Fallback tiers tier) (apart : tier ≠ some target) : Fallback (drop tiers target) tier := by
  intro other equal
  obtain ⟨there,zero⟩ := fallback other equal
  have kept : other ≠ target := by
    intro same
    subst same
    exact apart equal
  exact ⟨List.mem_filter.mpr ⟨there,decide_eq_true kept⟩,zero⟩

theorem drop_pending (pending : Pending tiers next tier) : Pending (drop tiers target) next tier := by
  intro other equal
  obtain ⟨below,zero⟩ := pending other equal
  exact ⟨below,fun there => zero (List.mem_of_mem_filter there)⟩

theorem store_exact : store tiers target v taken = .ok changed ↔ ∃ valid free, fits v = true ∧
    changed = put tiers target (tierOf v valid) free := by
  unfold store
  by_cases valid : validate v = []
  · rw [dif_pos valid]
    by_cases narrow : fits v = false
    · rw [if_pos narrow]
      exact iff_of_false nofun (by simp [narrow])
    · rw [if_neg narrow]
      by_cases free : ¬Taken tiers target (tierOf v valid)
      · rw [dif_pos free]
        constructor
        · intro equal
          exact ⟨valid,free,by simpa using narrow,(Except.ok.inj equal).symm⟩
        · intro stored
          obtain ⟨_,_,_,rfl⟩ := stored
          rfl
      · rw [dif_neg free]
        refine iff_of_false nofun ?_
        intro stored
        obtain ⟨_,untaken,_⟩ := stored
        exact free untaken
  · rw [dif_neg valid]
    refine iff_of_false nofun ?_
    intro stored
    exact valid stored.1

end tiers

theorem showsEffective_exact : ShowsEffective tiers l seen ↔
    (∀ row, seen = some row → row.status.perks → l.currentTier = some row.tier) ∧
      ((statusOf seen).perks = false → Fallback tiers l.currentTier) := by
  unfold ShowsEffective
  rw [fallback_exact]

theorem settleSeen_row (seen watched : Tiers) (entitlementId : String) (h : Held) (mail : List OutboundMessage) :
    (settleSeen seen watched entitlementId h mail).row.status = h.saved.status ∧
      (settleSeen seen watched entitlementId h mail).row.tier = h.saved.tier := by
  obtain ⟨hidden,equal⟩ : ∃ hidden, (settleSeen seen watched entitlementId h mail).row.toEntitlement =
      {h.saved.toEntitlement with hiddenByExpiry := hidden} := visibilityAfter_row
  rw [equal]
  exact ⟨rfl,rfl⟩

theorem conclude_exact (concluded : conclude tiers seen watched entitlementId h = .ok m) :
    m.listing.tenant = h.listing.tenant ∧ m.listing.currentTier = effectiveTier seen h.saved.toEntitlement ∧
      m.row.status = h.saved.status ∧ m.row.tier = h.saved.tier ∧
      ∀ tier ∈ m.listing.currentTier, tier ∈ tiers.ids := by
  obtain ⟨mail,_,checked⟩ := Fallible.bind_exact.mp concluded
  dsimp only at checked
  split at checked
  · next there =>
      cases checked
      obtain ⟨status,tier⟩ := settleSeen_row seen watched entitlementId h mail
      exact ⟨visibilityAfter_tenant.trans setTier_tenant,visibilityAfter_tier.trans setTier_tier,status,tier,there.2⟩
  · cases checked

def Fresh (w : World) (publicId : ListingId) (h : Held) : Prop :=
  publicId ∈ w.listed ∧ ∀ seen, h.resolved = some seen → h.saved.status.perks = false →
    Pending (w.tiers h.listing.tenant) w.nextTier seen.rank0

structure Sound (w : World) : Prop where
  shown : Shown w
  listings : ∀ publicId l, w.store.listings publicId = some l → publicId ∈ w.listed
  rows : ∀ publicId row, w.store.entitlements publicId = some row → ∃ l, w.store.listings publicId = some l
  below : ∀ tenant, ∀ target ∈ (w.tiers tenant).ids, target < w.nextTier
  held : ∀ publicId h, w.held publicId = some h → Fresh w publicId h

theorem sound_hold (sound : Sound w) (fresh : ∀ h, next = some h → Fresh w publicId h) :
    Sound (w.hold publicId next) := by
  refine ⟨sound.shown,sound.listings,sound.rows,sound.below,?_⟩
  intro other h present
  change Function.update w.held publicId next other = some h at present
  by_cases equal : other = publicId
  · subst equal
    rw [Function.update_self] at present
    exact fresh h present
  · rw [Function.update_of_ne equal] at present
    exact sound.held other h present

theorem sound_configure (tenant : TenantId) (tiers : Tiers) (sound : Sound w) (later : w.nextTier ≤ next) (below : ∀ target ∈ tiers.ids, target < next)
    (fallback : ∀ publicId l, w.store.listings publicId = some l → l.tenant = tenant →
      (statusOf (w.store.entitlements publicId)).perks = false → Fallback (w.tiers tenant) l.currentTier →
      Fallback tiers l.currentTier)
    (pending : ∀ publicId h seen, w.held publicId = some h → h.listing.tenant = tenant →
      h.saved.status.perks = false → h.resolved = some seen → Pending (w.tiers tenant) w.nextTier seen.rank0 →
      Pending tiers next seen.rank0) :
    Sound {w.configure tenant tiers with nextTier := next} := by
  refine ⟨?_,sound.listings,sound.rows,?_,?_⟩
  · intro publicId l present
    obtain ⟨perks,lapsed⟩ := showsEffective_exact.mp (sound.shown publicId l present)
    refine showsEffective_exact.mpr ⟨perks,fun none_ => ?_⟩
    change Fallback (Function.update w.tiers tenant tiers l.tenant) l.currentTier
    by_cases own : l.tenant = tenant
    · have before := lapsed none_
      rw [own] at before ⊢
      rw [Function.update_self]
      exact fallback publicId l present own none_ before
    · rw [Function.update_of_ne own]
      exact lapsed none_
  · intro other target there
    change target ∈ (Function.update w.tiers tenant tiers other).ids at there
    by_cases own : other = tenant
    · rw [own,Function.update_self] at there
      exact below target there
    · rw [Function.update_of_ne own] at there
      exact Nat.lt_of_lt_of_le (sound.below other target there) later
  · intro publicId h present
    obtain ⟨listed,read⟩ := sound.held publicId h present
    refine ⟨listed,fun seen known none_ => ?_⟩
    change Pending (Function.update w.tiers tenant tiers h.listing.tenant) next seen.rank0
    have before := read seen known none_
    by_cases own : h.listing.tenant = tenant
    · rw [own] at before ⊢
      rw [Function.update_self]
      exact pending publicId h seen present own none_ known before
    · rw [Function.update_of_ne own]
      intro target equal
      obtain ⟨under,zero⟩ := before target equal
      exact ⟨Nat.lt_of_lt_of_le under later,zero⟩

theorem sound_listing (sound : Sound w) (there : publicId ∈ listed) (kept : ∀ other ∈ w.listed, other ∈ listed)
    (effective : ShowsEffective (w.tiers l.tenant) l (entitlements publicId))
    (others : ∀ other, other ≠ publicId → entitlements other = w.store.entitlements other) (s : Store)
    (listings : s.listings = Function.update w.store.listings publicId (some l)) (rows : s.entitlements = entitlements) :
    Sound {w with store := s,listed := listed} := by
  refine ⟨?_,?_,?_,sound.below,?_⟩
  · intro other l' present
    change s.listings other = some l' at present
    change ShowsEffective (w.tiers l'.tenant) l' (s.entitlements other)
    rw [listings] at present
    rw [rows]
    by_cases equal : other = publicId
    · subst equal
      rw [Function.update_self] at present
      cases present
      exact effective
    · rw [Function.update_of_ne equal] at present
      rw [others other equal]
      exact sound.shown other l' present
  · intro other l' present
    change s.listings other = some l' at present
    rw [listings] at present
    by_cases equal : other = publicId
    · rw [equal]; exact there
    · rw [Function.update_of_ne equal] at present
      exact kept other (sound.listings other l' present)
  · intro other row present
    change s.entitlements other = some row at present
    change ∃ l', s.listings other = some l'
    rw [rows] at present
    rw [listings]
    by_cases equal : other = publicId
    · rw [equal,Function.update_self]
      exact ⟨l,rfl⟩
    · rw [others other equal] at present
      rw [Function.update_of_ne equal]
      exact sound.rows other row present
  · intro other h present
    obtain ⟨listed,read⟩ := sound.held other h present
    exact ⟨kept other listed,read⟩

theorem statusOf_some (row : EntitlementRow) : statusOf (some row) = row.status := rfl

theorem sound_begin (sound : Sound w) (opened : begin_ w c = .ok h) : Sound (w.hold c.publicId (some h)) := by
  refine sound_hold sound ?_
  intro held equal
  cases equal
  unfold begin_ at opened
  cases listed : w.store.listings c.publicId with
  | none => rw [listed] at opened; cases opened
  | some l =>
      rw [listed] at opened
      simp only [Fallible.bind_exact,Fallible.pure_exact] at opened
      obtain ⟨_,_,_,_,_,_,⟨_,_⟩,_,_,_,equal⟩ := opened
      subst equal
      exact ⟨sound.listings c.publicId l listed,nofun⟩

theorem sound_resolve (sound : Sound w) (present : w.held publicId = some h) :
    Sound (w.hold publicId (some {h with resolved := some (w.tiers h.listing.tenant)})) := by
  refine sound_hold sound ?_
  intro held equal
  cases equal
  refine ⟨(sound.held publicId h present).1,?_⟩
  intro seen known _
  cases known
  exact (fallback_exact.mpr (.inr rfl)).pending (sound.below h.listing.tenant)

theorem sound_finish (sound : Sound w) (present : w.held publicId = some h) (resolved : h.resolved = some seen)
    (concluded : conclude (w.tiers h.listing.tenant) seen watched entitlementId h = .ok m) :
    Sound {w.hold publicId none with store := w.store.commit publicId m} := by
  obtain ⟨listed,read⟩ := sound.held publicId h present
  obtain ⟨tenant,tier,status,rowTier,there⟩ := conclude_exact concluded
  have released : Sound (w.hold publicId none) := sound_hold sound (fun _ absurd => nomatch absurd)
  have row : (w.store.commit publicId m).entitlements publicId = some m.row := Function.update_self ..
  refine sound_listing released listed (fun _ there => there) ?_ (fun other apart => Function.update_of_ne apart ..)
    (w.store.commit publicId m) rfl rfl
  change ShowsEffective (w.tiers m.listing.tenant) m.listing ((w.store.commit publicId m).entitlements publicId)
  rw [row,tenant]
  refine showsEffective_exact.mpr ⟨?_,?_⟩
  · intro row same perks
    cases same
    rw [status] at perks
    rw [tier,effectiveTier,if_pos perks,rowTier]
  · intro none_
    rw [statusOf_some,status] at none_
    have shown : m.listing.currentTier = seen.rank0 := by
      rw [tier,effectiveTier,if_neg (by rw [none_]; decide)]
    rw [shown] at there ⊢
    exact (read seen resolved none_).fallback there

theorem sound_create (sound : Sound w) (created : createTier upper (w.tiers tenant) w.nextTier v = .ok tiers) :
    Sound {w.configure tenant tiers with nextTier := w.nextTier+1} := by
  obtain ⟨valid,free,_,rfl⟩ := store_exact.mp created
  refine sound_configure tenant _ sound (Nat.le_succ _) ?_ ?_ ?_
  · intro target there
    rcases mem_placed.mp there with new | old
    · rw [new]; exact Nat.lt_succ_self _
    · exact Nat.lt_succ_of_lt (sound.below tenant target old)
  · intro publicId l _ _ _ fallback
    refine put_fallback fallback (fun equal => ?_)
    have old := sound.below tenant w.nextTier (fallback w.nextTier equal).1
    exact absurd old (Nat.lt_irrefl _)
  · intro publicId h seen _ _ _ _ pending
    refine (put_pending pending (fun equal => ?_)).later
    exact absurd (pending w.nextTier equal).1 (Nat.lt_irrefl _)

theorem any_false {p : α → Bool} {l : List α} (none_ : l.any p = false) (present : x ∈ l) : p x = false := by
  simpa using List.any_eq_false.mp none_ x present

theorem sound_update (sound : Sound w) (known : target < w.nextTier)
    (updated : updateTier setup.upper (w.tiers tenant) target v = .ok tiers)
    (careful : Careful setup w (.updateTier tenant target v)) : Sound (w.configure tenant tiers) := by
  have accepted : (updateTier setup.upper (w.tiers tenant) target v).isOk := by rw [updated]; rfl
  unfold updateTier at updated
  split at updated
  · cases updated
  obtain ⟨valid,free,_,rfl⟩ := store_exact.mp updated
  -- the row is given rank 0, or no listing without perks shows it or will
  have keeps : v.rank = some 0 → (tierOf {v with currency := setup.upper v.currency} valid).rank = 0 := by
    intro zero
    change (v.rank.getD 0).toNat = 0
    rw [zero]
    rfl
  have settled : v.rank ≠ some 0 → ∀ publicId ∈ w.listed,
      w.falls tenant target publicId = false ∧ w.awaits tenant target publicId = false := by
    intro moved publicId listed
    have apart := any_false (careful accepted moved) listed
    exact Bool.or_eq_false_iff.mp apart
  refine sound_configure tenant _ sound (Nat.le_refl _) ?_ ?_ ?_
  · intro other there
    rcases mem_placed.mp there with new | old
    · rw [new]; exact known
    · exact sound.below tenant other old
  · intro publicId l present own none_ fallback
    refine put_fallback fallback (fun shows => ?_)
    by_cases zero : v.rank = some 0
    · exact keeps zero
    · have apart := (settled zero publicId (sound.listings publicId l present)).1
      simp [World.falls,present,own,shows,none_] at apart
  · intro publicId h seen present own none_ resolved pending
    refine put_pending pending (fun found => ?_)
    by_cases zero : v.rank = some 0
    · exact keeps zero
    · have apart := (settled zero publicId (sound.held publicId h present).1).2
      simp [World.awaits,present,own,none_,resolved,found] at apart

theorem blank_tenant (target : TierId) (l : Listing) : (blank target l).tenant = l.tenant := by
  unfold blank
  split <;> rfl

theorem sound_delete (sound : Sound w) (unheld : w.listed.any (w.holds target) = false) :
    Sound {w.configure tenant (drop (w.tiers tenant) target) with
      checked := w.checked.erase target
      store := blanked w.store target} := by
  have emptied : Sound {w with store := blanked w.store target} := by
    refine ⟨?_,?_,?_,sound.below,sound.held⟩
    · intro publicId l present
      obtain ⟨old,was,equal⟩ := Option.map_eq_some_iff.mp present
      obtain ⟨perks,lapsed⟩ := showsEffective_exact.mp (sound.shown publicId old was)
      subst equal
      refine showsEffective_exact.mpr ⟨?_,?_⟩
      · intro row there carries
        have tier := perks row there carries
        have apart := any_false unheld (sound.listings publicId old was)
        change w.store.entitlements publicId = some row at there
        simp only [World.holds,there,Option.any_some,decide_eq_false_iff_not] at apart
        have kept : blank target old = old := if_neg (fun equal => apart (Option.some.inj (tier.symm.trans equal)))
        rw [kept]
        exact tier
      · intro none_
        rw [blank_tenant]
        unfold blank
        split
        · exact nofun
        · exact lapsed none_
    · intro publicId l present
      obtain ⟨old,was,_⟩ := Option.map_eq_some_iff.mp present
      exact sound.listings publicId old was
    · intro publicId row present
      obtain ⟨old,was⟩ := sound.rows publicId row present
      exact ⟨blank target old,congrArg (Option.map (blank target)) was⟩
  have dropped := sound_configure tenant (drop (w.tiers tenant) target) emptied (Nat.le_refl _)
    (fun other there => sound.below tenant other (List.mem_of_mem_filter there)) ?_
    (fun _ _ _ _ _ _ _ pending => drop_pending pending)
  · exact ⟨dropped.shown,dropped.listings,dropped.rows,dropped.below,dropped.held⟩
  · intro publicId l present _ _ fallback
    refine drop_fallback fallback ?_
    obtain ⟨old,_,equal⟩ := Option.map_eq_some_iff.mp present
    subst equal
    unfold blank
    split
    · nofun
    · next apart => exact apart

theorem step_sound (setup : Setup) (w : World) (action : Action) (sound : Sound w) (careful : Careful setup w action) :
    Sound (step setup w action) := by
  cases action with
  | list publicId l =>
      unfold step
      dsimp only
      cases present : w.store.listings publicId with
      | some old => exact sound
      | none =>
          have bare : w.store.entitlements publicId = none := by
            cases row : w.store.entitlements publicId with
            | none => rfl
            | some row' =>
                obtain ⟨l',there⟩ := sound.rows publicId row' row
                rw [present] at there
                cases there
          refine sound_listing sound (List.mem_append_right _ (List.mem_singleton_self _))
            (fun _ there => List.mem_append_left _ there) ?_ (fun _ _ => rfl) _ rfl rfl
          refine ⟨?_,fun _ => .inl rfl⟩
          intro row there
          rw [bare] at there
          cases there
  | edit publicId l =>
      unfold step
      dsimp only
      split
      · next old present _ =>
          refine sound_listing sound (sound.listings publicId old present) (fun _ there => there) ?_ (fun _ _ => rfl) _
            rfl rfl
          exact sound.shown publicId old present
      · exact sound
  | begin_ c =>
      unfold step
      dsimp only
      split
      · next opened => exact sound_begin sound opened
      · exact sound
  | resolve publicId =>
      unfold step
      dsimp only
      split
      · next h present =>
          split
          · exact sound
          · exact sound_resolve sound present
      · exact sound
  | watch publicId =>
      unfold step
      dsimp only
      split
      · next h present =>
          split
          · exact sound
          · refine sound_hold sound ?_
            intro held equal
            cases equal
            exact sound.held publicId h present
      · exact sound
  | finish publicId =>
      unfold step
      dsimp only
      split
      · exact sound
      · next h present =>
          split
          · next seen watched resolved _ =>
              split
              · next m concluded => exact sound_finish sound present resolved concluded
              · exact sound_hold sound (fun _ absurd => nomatch absurd)
          · exact sound
  | abort publicId => exact sound_hold sound (fun _ absurd => nomatch absurd)
  | createTier tenant v =>
      unfold step
      dsimp only
      split
      · next tiers created => exact sound_create sound created
      · exact sound
  | updateTier tenant target v =>
      unfold step
      dsimp only
      split
      · exact sound
      · next known =>
          split
          · next tiers updated => exact sound_update sound (Nat.lt_of_not_le known) updated careful
          · exact sound
  | checkDelete target =>
      unfold step
      dsimp only
      split
      · exact sound
      · exact ⟨sound.shown,sound.listings,sound.rows,sound.below,sound.held⟩
  | deleteTier tenant target =>
      unfold step
      dsimp only
      split
      · exact sound
      · next passed =>
          refine sound_delete sound ?_
          simp only [not_or] at passed
          simpa using passed.2.2.1

theorem empty_sound : Sound World.empty := by
  refine ⟨?_,?_,?_,?_,?_⟩
  · intro publicId l present
    cases present
  · intro publicId l present
    cases present
  · intro publicId row present
    cases present
  · intro tenant target there
    cases there
  · intro publicId h present
    cases present

-- Over every interleaving of calls and changes of the tiers: as long as no update
-- moves a tier off rank 0 under a listing without perks, every listing shows its
-- effective tier.
theorem tiers_show_effective (setup : Setup) (actions : List Action)
    (careful : Runs.Along (step setup) (Careful setup) World.empty actions) :
    Shown (Runs.run (step setup) World.empty actions) :=
  (Runs.along_invariant (step setup) (step_sound setup) empty_sound careful).shown

section example_tiers

def exampleSetup : Setup := ⟨fun text => text,fun publicId => "ent_" ++ publicId⟩

def freeFields : TierFields :=
  {key := "free"
   name := "Free"
   rank := some 0
   purchasable := false
   usesSlot := false
   priceMinor := none
   currency := ""
   interval := ""
   trialDays := none
   badgeLabel := ""
   perks := .obj []}

def goldFields : TierFields := {freeFields with key := "gold",name := "Gold",rank := some 2}

def exampleCall (trigger : Trigger) (p : Params) : List Action :=
  [.begin_ ⟨"lst",trigger,0,systemActor,"",p⟩,.resolve "lst",.watch "lst",.finish "lst"]

def lapsedRun : List Action :=
  [.createTier 1 freeFields,.createTier 1 goldFields,.list "lst" exampleListing] ++
    exampleCall .grant {tier := some 1,operator := some "adm",reason := some "launch"} ++
    exampleCall .revoke {operator := some "adm",reason := some "over"}

def movedFree : Action := .updateTier 1 0 {freeFields with rank := some 5}

end example_tiers

theorem tiers_show_effective_lapsed : Shown (Runs.run (step exampleSetup) World.empty (lapsedRun ++
    [.updateTier 1 0 {freeFields with name := "Basic"},.createTier 1 {goldFields with key := "top",rank := some 3},
      .checkDelete 2,.deleteTier 1 2])) :=
  tiers_show_effective exampleSetup _ (by decide +kernel)

-- The free tier gets another rank while a listing without perks shows it.
theorem lapsed_shows_moved : ¬Shown (Runs.run (step exampleSetup) World.empty (lapsedRun ++ [movedFree])) := by
  intro shown
  have here := (shown "lst" _ rfl).2
  revert here
  decide +kernel

end Osds.Billing.TierChanges

import Osds.Billing.System

namespace Osds.Billing.HiddenByExpiry
open Directory Audit

inductive Author where
  | expiry | purchase | operator
  deriving DecidableEq, Repr

-- The tables, and the author of the last change of one listing's visibility.
structure State where
  store : Store
  last : Option Author

inductive Move where
  | trigger (trigger : Trigger) (now : Time) (actor : Actor) (origin : String) (p : Params)
  -- an operator's call on a copy of the listing, read earlier with this visibility
  | setVisibility (seen to_ : Visibility) (actor : Actor)

def noted (before after : Visibility) (author : Author) (last : Option Author) : Option Author :=
  if before = after then last else some author

section machine

variable (cfg : Config) (publicId : ListingId)

def step (r : State) : Move → State
  | .trigger trigger now actor origin p =>
      match r.store.listings publicId,applyTrigger cfg r.store publicId trigger now actor origin p with
      | some l,.ok (s',m) =>
          let author := if m.outcome.hidListing then .expiry else .purchase
          ⟨s',noted l.visibility m.listing.visibility author r.last⟩
      | _,_ => r
  | .setVisibility seen to_ actor =>
      match r.store.listings publicId with
      | none => r
      | some l =>
          -- by the copy nothing is to be changed, and nothing is saved
          if seen = to_ then r
          else
            let (saved,events) := setListingVisibility publicId {l with visibility := seen} to_ actor "request"
            ⟨{r.store with
                listings := Function.update r.store.listings publicId (some saved)
                outbox := r.store.outbox ++ events},
              noted l.visibility to_ .operator r.last⟩

def begin (s : Store) : State := ⟨s,none⟩

-- A trigger publishes the listing only to undo expiry's own hiding, and where the
-- plan is on it leaves the visibility an operator set.
def UndoesOwn (r : State) : Move → Prop
  | .trigger trigger now actor origin p =>
      let r' := step cfg publicId r (.trigger trigger now actor origin p)
      ∀ l l' row, r.store.listings publicId = some l → r'.store.listings publicId = some l' →
        r'.store.entitlements publicId = some row →
        (l.visibility ≠ .published → l'.visibility = .published → r.last = some .expiry) ∧
        (r.last = some .operator → row.status.perks → l'.visibility = l.visibility)
  | .setVisibility .. => True

-- No operator hides a listing whose entitlement still says that expiry hid it.
def Unflagged (r : State) : Move → Prop
  | .trigger .. => True
  | .setVisibility seen to_ _ => seen ≠ to_ → to_ = .hidden → ∀ l row, r.store.listings publicId = some l →
      r.store.entitlements publicId = some row → row.hiddenByExpiry → l.visibility = .hidden

def Flagged (r : State) : Prop := ∀ l row, r.store.listings publicId = some l →
  r.store.entitlements publicId = some row → row.hiddenByExpiry → l.visibility = .hidden → r.last = some .expiry

end machine

section flag

variable {tiers : Tiers} {e draft : Entitlement} {p : Params}

theorem land_flag (landed : land e now p status = .ok draft) : draft.hiddenByExpiry = e.hiddenByExpiry := by
  cases status with
  | trialing =>
      obtain ⟨ends,_,rest⟩ := Fallible.bind_exact.mp landed
      cases rest
      rfl
  | canceled =>
      obtain ⟨ends,_,rest⟩ := Fallible.bind_exact.mp landed
      cases rest
      rfl
  | _ =>
      cases landed
      rfl

theorem override_flag (overridden : override e now p status = .ok draft) : draft.hiddenByExpiry = e.hiddenByExpiry := by
  obtain ⟨landed,lands,kept⟩ := Fallible.bind_exact.mp overridden
  have same := land_flag lands
  change landed.hiddenByExpiry = e.hiddenByExpiry at same
  rw [← same,← Except.ok.inj kept]
  split <;> rfl

theorem mutate_flag (mutated : mutate tiers e trigger r now p = .ok (draft,facts)) :
    draft.hiddenByExpiry = e.hiddenByExpiry := by
  cases trigger with
  | start =>
      obtain ⟨tier,_,rest⟩ := Fallible.bind_exact.mp mutated
      obtain ⟨ends,_,rest⟩ := Fallible.bind_exact.mp rest
      cases rest
      rfl
  | startTrial =>
      obtain ⟨tier,_,rest⟩ := Fallible.bind_exact.mp mutated
      obtain ⟨ends,_,rest⟩ := Fallible.bind_exact.mp rest
      cases rest
      rfl
  | paymentSucceeded =>
      obtain ⟨ends,_,rest⟩ := Fallible.bind_exact.mp mutated
      cases rest
      exact pay_hidden
  | paymentFailed =>
      cases mutated
      unfold failPayment
      split <;> rfl
  | trialOverdue =>
      cases mutated
      unfold failPayment
      split <;> rfl
  | cancel =>
      cases mutated
      unfold cancelEntitlement
      dsimp only
      split <;> rfl
  | grant =>
      obtain ⟨_,_,_,_,rfl,_⟩ := granted_exact.mp mutated
      rfl
  | revoke =>
      obtain ⟨_,rfl,_⟩ := revoked_exact.mp mutated
      rfl
  | override =>
      obtain ⟨_,_,_,_,overridden,_⟩ := overridden_exact.mp mutated
      exact override_flag overridden
  | _ =>
      cases mutated
      rfl

end flag

inductive Settled (flag : Bool) (before : Visibility) (m : Moved) : Prop where
  | kept (same : m.listing.visibility = before) (unset : m.row.hiddenByExpiry → flag)
  | hid (published : before = .published) (now : m.listing.visibility = .hidden) (status : m.row.status = .expired)
      (author : m.outcome.hidListing)
  | shown (set_ : flag) (hidden : before = .hidden) (cleared : m.row.hiddenByExpiry = false)

theorem setTier_visibility : (setTier tiers publicId l tier cause now actor origin).1.visibility = l.visibility := by
  unfold setTier
  split <;> rfl

theorem setListingVisibility_visibility : (setListingVisibility publicId l to_ actor reason).1.visibility = to_ := by
  unfold setListingVisibility
  split
  · next same => exact same
  · rfl

theorem visibilityAfter_cases (tiers : Tiers) (publicId : ListingId) (saved : EntitlementRow) (l : Listing)
    (actor : Actor) :
    let settled := visibilityAfter tiers publicId saved l actor
    settled.2.1.visibility = l.visibility ∧ (settled.1.hiddenByExpiry → saved.hiddenByExpiry) ∨
      l.visibility = .published ∧ settled.2.1.visibility = .hidden ∧ settled.1.status = .expired ∧ settled.2.2.2.1 ∨
      saved.hiddenByExpiry ∧ l.visibility = .hidden ∧ settled.1.hiddenByExpiry = false := by
  intro settled
  unfold settled visibilityAfter
  split
  · next expired =>
      split
      · next published => exact .inr (.inl ⟨published,setListingVisibility_visibility,expired.1,rfl⟩)
      · exact .inl ⟨rfl,fun set_ => set_⟩
  · split
    · next flagged =>
        split
        · next hidden => exact .inr (.inr ⟨flagged.1,hidden,rfl⟩)
        · exact .inl ⟨rfl,fun set_ => absurd set_ Bool.false_ne_true⟩
    · exact .inl ⟨rfl,fun set_ => set_⟩

theorem settle_settled {saved : EntitlementRow} : Settled saved.hiddenByExpiry l.visibility
    (settle tiers entitlementId publicId prior saved l r facts now actor origin p mail) := by
  have cases_ := visibilityAfter_cases tiers publicId saved (setTier tiers publicId l
    (effectiveTier tiers saved.toEntitlement) (tierCause tiers r l.currentTier (effectiveTier tiers saved.toEntitlement))
    now actor origin).1 actor
  dsimp only at cases_
  rw [setTier_visibility] at cases_
  rcases cases_ with ⟨same,unset⟩ | ⟨published,hidden,status,author⟩ | ⟨set_,hidden,cleared⟩
  · exact .kept same unset
  · exact .hid published hidden status author
  · exact .shown set_ hidden cleared

theorem applyTrigger_settled (applied : applyTrigger cfg s publicId trigger now actor origin p = .ok (s',m))
    (listed : s.listings publicId = some l) : s' = s.commit publicId m ∧
      ∃ flag, Settled flag l.visibility m ∧
        (flag → ∃ row, s.entitlements publicId = some row ∧ row.hiddenByExpiry) := by
  obtain ⟨l',row,listed',opened,advanced,committed⟩ := applyTrigger_exact.mp applied
  cases listed.symm.trans listed'
  obtain ⟨r,facts,saved,mail,_,_,mutated,_,equal⟩ := advance_exact.mp advanced
  have flag : saved.hiddenByExpiry = row.hiddenByExpiry := mutate_flag mutated
  refine ⟨committed,saved.hiddenByExpiry,?_,?_⟩
  · rw [equal]
    exact settle_settled
  · intro set_
    rw [flag] at set_
    rcases openRow_exact.mp opened with present | ⟨_,_,_,_,new⟩
    · exact ⟨row,present,set_⟩
    · rw [new] at set_
      cases set_

section runs

variable {cfg : Config} {publicId : ListingId}

theorem step_trigger (listed : r.store.listings publicId = some l)
    (applied : applyTrigger cfg r.store publicId trigger now actor origin p = .ok (s',m)) :
    step cfg publicId r (.trigger trigger now actor origin p) =
      ⟨s',noted l.visibility m.listing.visibility (if m.outcome.hidListing then .expiry else .purchase) r.last⟩ := by
  unfold step
  simp only [listed,applied]

theorem trigger_cases (cfg : Config) (publicId : ListingId) (r : State) (trigger : Trigger) (now : Time) (actor : Actor)
    (origin : String) (p : Params) :
    step cfg publicId r (.trigger trigger now actor origin p) = r ∨
    ∃ l s' m, r.store.listings publicId = some l ∧
      applyTrigger cfg r.store publicId trigger now actor origin p = .ok (s',m) := by
  unfold step
  dsimp only
  split
  · next l s' m listed applied => exact .inr ⟨l,s',m,listed,applied⟩
  · exact .inl rfl

theorem step_flagged (r : State) (move : Move) (flagged : Flagged publicId r) (kept : Unflagged publicId r move) :
    Flagged publicId (step cfg publicId r move) := by
  cases move with
  | trigger trigger now actor origin p =>
      rcases trigger_cases cfg publicId r trigger now actor origin p with same | ⟨l,s',m,listed,applied⟩
      · rw [same]
        exact flagged
      · obtain ⟨committed,flag,settled,found⟩ := applyTrigger_settled applied listed
        rw [step_trigger listed applied]
        subst committed
        intro l' row listed' present set_ hidden
        cases (Function.update_self ..).symm.trans listed'
        cases (Function.update_self ..).symm.trans present
        dsimp only
        cases settled with
        | kept same unset =>
            obtain ⟨before,stored,marked⟩ := found (unset set_)
            rw [noted,if_pos same.symm]
            exact flagged l before listed stored marked (same.symm.trans hidden)
        | hid published now _ author =>
            rw [noted,published,now,if_neg (by decide),if_pos author]
        | shown _ _ cleared =>
            rw [cleared] at set_
            cases set_
  | setVisibility seen to_ actor =>
      unfold step
      dsimp only
      split
      · exact flagged
      · next l listed =>
          split
          · exact flagged
          · next differ =>
              intro l' row listed' present set_ hidden
              cases (Function.update_self ..).symm.trans listed'
              rw [setListingVisibility_visibility] at hidden
              have before := kept differ hidden l row listed present set_
              dsimp only
              rw [noted,if_pos (before.trans hidden.symm)]
              exact flagged l row listed present set_ before

theorem flagged_undoes (r : State) (move : Move) (flagged : Flagged publicId r) : UndoesOwn cfg publicId r move := by
  cases move with
  | setVisibility seen to_ actor => trivial
  | trigger trigger now actor origin p =>
      intro l l' row listed listed' present
      rcases trigger_cases cfg publicId r trigger now actor origin p with same | ⟨found,s',m,stored,applied⟩
      · rw [same,listed] at listed'
        cases listed'
        exact ⟨fun before after => (before after).elim,fun _ _ => rfl⟩
      · cases listed.symm.trans stored
        obtain ⟨committed,flag,settled,marked⟩ := applyTrigger_settled applied listed
        subst committed
        rw [step_trigger listed applied] at listed' present
        cases (Function.update_self ..).symm.trans listed'
        cases (Function.update_self ..).symm.trans present
        cases settled with
        | kept same _ =>
            refine ⟨?_,fun _ _ => same⟩
            intro before after
            exact (before (same.symm.trans after)).elim
        | hid published now status _ =>
            refine ⟨?_,?_⟩
            · intro before _
              exact (before published).elim
            · intro _ perks
              rw [status] at perks
              cases perks
        | shown set_ hidden _ =>
            obtain ⟨before,found,flag⟩ := marked set_
            have last := flagged l before listed found flag hidden
            refine ⟨fun _ _ => last,?_⟩
            intro operator
            rw [last] at operator
            cases operator

theorem expiry_undoes_own (cfg : Config) (publicId : ListingId) (s : Store) (moves : List Move)
    (unsold : s.entitlements publicId = none)
    (kept : Runs.Along (step cfg publicId) (Unflagged publicId) (begin s) moves) :
    Runs.Along (step cfg publicId) (UndoesOwn cfg publicId) (begin s) moves := by
  have start : Flagged publicId (begin s) := by
    intro l row _ present
    change s.entitlements publicId = some row at present
    rw [unsold] at present
    cases present
  have preserved : ∀ r move, Flagged publicId r → Unflagged publicId r move → Flagged publicId (step cfg publicId r move) :=
    step_flagged
  exact Runs.along_keeps (step cfg publicId) preserved (fun r move flagged _ => flagged_undoes r move flagged) start kept

end runs

section example_moves

def paidTiers : Tiers := {exampleTiers with ids := [1,2,3],keyUnique := by decide,rankUnique := by decide}

def paidConfig : Config := ⟨fun _ => paidTiers,fun publicId => "ent_" ++ publicId⟩

def buys : Move := .trigger .start 0 systemActor "" {tier := some 2,periodEnd := some day}

def refunded : Move := .trigger .refund 0 systemActor "" {}

theorem expiry_undoes_own_draft : Runs.Along (step paidConfig "lst") (UndoesOwn paidConfig "lst") (begin (exampleRun []))
    [buys,refunded,.setVisibility .hidden .draft systemActor,buys] := by
  refine expiry_undoes_own paidConfig "lst" (exampleRun []) _ rfl ⟨trivial,trivial,?_,trivial,trivial⟩
  exact fun _ hides => by cases hides

-- Expiry hides; the operator publishes the listing, and then hides it. The next
-- purchase publishes it again.
def hiddenByOperator : List Move :=
  [buys,refunded,.setVisibility .hidden .published systemActor,.setVisibility .published .hidden systemActor]

theorem published_over_operator :
    let r := Runs.run (step paidConfig "lst") (begin (exampleRun [])) hiddenByOperator
    r.last = some .operator ∧ (r.store.listings "lst").map (·.visibility) = some .hidden ∧
      ((step paidConfig "lst" r buys).store.listings "lst").map (·.visibility) = some .published ∧
      ¬Runs.Along (step paidConfig "lst") (UndoesOwn paidConfig "lst") (begin (exampleRun []))
        (hiddenByOperator ++ [buys]) := by
  intro r
  refine ⟨rfl,rfl,rfl,?_⟩
  intro undoes
  obtain ⟨_,⟨last,_⟩⟩ := (Runs.along_append (step paidConfig "lst") _ _ _).mp undoes
  have own := (last _ _ _ rfl rfl rfl).1 (by decide) rfl
  cases own

end example_moves

end Osds.Billing.HiddenByExpiry

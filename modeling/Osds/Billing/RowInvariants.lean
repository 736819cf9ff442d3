import Osds.Billing.System

namespace Osds.Billing
open Directory Audit

inductive Applies (cfg : Config) (s : Store) : Action → ListingId → Trigger → Time → Params → Prop where
  | called : Applies cfg s (.trigger publicId trigger now actor origin p) publicId trigger now p
  | reported {attempt : Option (AttemptId × CheckoutAttempt)} (unseen : Unseen s tenant adapter report) (named : report.externalEventId ≠ "")
      (resolved : resolve s tenant report = .ok (publicId,l,attempt))
      (mapped : reportTrigger (cfg.tiers tenant) publicId ((s.entitlements publicId).map (·.toEntitlement))
        (attempt.map (·.2)) report = .ok (trigger,p,data)) :
      Applies cfg s (.report tenant adapter report now) publicId trigger now p

def Unannounced (s s' : Store) : Prop :=
  ∃ new, s'.outbox = s.outbox ++ new ∧ ∀ e ∈ new, e.type ≠ .entitlementRenewalDue

def ListingsStay (s s' : Store) : Prop := ∀ publicId l, s.listings publicId = some l → ∃ l', s'.listings publicId = some l'

-- What an action does to the rows: nothing, the stamp of a renewal notice, or the
-- mutation of the row that its trigger applies to.
inductive Touch (cfg : Config) (s s' : Store) (action : Action) : Prop where
  | kept (entitlements : s'.entitlements = s.entitlements) (created : s'.created = s.created)
      (listings : ListingsStay s s') (told : Unannounced s s')
  | noticed (publicId : ListingId) (now : Time) (row : EntitlementRow)
      (check : action = .renewal publicId now)
      (present : s.entitlements publicId = some row)
      (entitlements : s'.entitlements = Function.update s.entitlements publicId
        (some {row with renewalNotifiedAt := some now}))
      (created : s'.created = s.created)
      (listings : s'.listings = s.listings)
  | moved (publicId : ListingId) (trigger : Trigger) (now : Time) (p : Params) (row : EntitlementRow) (r : Rule)
      (tiers : Tiers) (l : Listing) (draft : Entitlement) (facts : Facts) (m : Moved)
      (applies : Applies cfg s action publicId trigger now p)
      (opened : openRow (s.entitlements publicId) false trigger p = .ok row)
      (legal : ruleFor row.status trigger = .ok r)
      (mutated : mutate tiers row.toEntitlement trigger r now p = .ok (draft,facts))
      (landed : Landed tiers l draft m)
      (entitlements : s'.entitlements = Function.update s.entitlements publicId (some m.row))
      (created : s'.created = (s.commit publicId m).created)
      (listings : s'.listings = (s.commit publicId m).listings)
      (told : Unannounced s s')

section actions

variable {cfg : Config} {s s' after : Store} {action : Action}

theorem Unannounced.quiet (same : s'.outbox = s.outbox) : Unannounced s s' :=
  ⟨[],same.trans (List.append_nil _).symm,List.forall_mem_nil _⟩

theorem ListingsStay.same (listings : s'.listings = s.listings) : ListingsStay s s' :=
  fun publicId l there => ⟨l,(congrFun listings publicId).trans there⟩

theorem ListingsStay.updated (l : Listing) (listings : s'.listings = Function.update s.listings publicId (some l)) :
    ListingsStay s s' := by
  intro other held there
  rw [listings]
  by_cases same : other = publicId
  · subst same
    exact ⟨l,Function.update_self ..⟩
  · exact ⟨held,(Function.update_of_ne same ..).trans there⟩

theorem Touch.quiet (entitlements : s'.entitlements = s.entitlements) (created : s'.created = s.created)
    (listings : s'.listings = s.listings) (outbox : s'.outbox = s.outbox) : Touch cfg s s' action :=
  .kept entitlements created (.same listings) (.quiet outbox)

theorem Touch.applied (applies : Applies cfg s action publicId trigger now p)
    (moved : applyTrigger cfg s publicId trigger now actor origin p = .ok (s',m))
    (entitlements : after.entitlements = s'.entitlements) (created : after.created = s'.created)
    (listings : after.listings = s'.listings) (outbox : after.outbox = s'.outbox ++ extra)
    (money : ∀ e ∈ extra, e.type ≠ .entitlementRenewalDue) : Touch cfg s after action := by
  obtain ⟨l,row,_,opened,advanced,committed⟩ := applyTrigger_exact.mp moved
  subst committed
  obtain ⟨r,draft,facts,legal,_,mutated,landed,named⟩ := advance_landed advanced
  refine .moved publicId trigger now p row r _ l draft facts m applies opened legal mutated landed entitlements created
    listings ⟨m.events ++ extra,outbox.trans (List.append_assoc ..),?_⟩
  intro e present due
  rcases List.mem_append.mp present with own | added
  · rcases named e own with ⟨name,_,type⟩ | listed
    · rw [type] at due
      cases name <;> cases due
    · rw [due] at listed
      exact absurd listed (by decide)
  · exact money e added due

theorem report_touch (cfg : Config) (s : Store) (tenant : TenantId) (adapter : AdapterId) (report : PaymentReport)
    (now : Time) : Touch cfg s (reportPayment cfg s tenant adapter report now).1 (.report tenant adapter report now) := by
  rcases reportPayment_cases cfg s tenant adapter report now with applied | unmoved
  · obtain ⟨s',unseen,accepted,answer⟩ := applied
    obtain ⟨_,named,_,publicId,l,attempt,trigger,params,data,s₁,m,resolved,mapped,moved,equal⟩ :=
      applyReport_exact.mp accepted
    have fact_ := (reportTrigger_asks mapped).2
    have only : ∀ e ∈ [(⟨tenant,publicId,reportActor adapter,adapter.name,data⟩ : OutboxEvent)],
        e.type ≠ .entitlementRenewalDue := by
      intro e present due
      rw [List.mem_singleton.mp present] at due
      change data.type = _ at due
      rw [due] at fact_
      exact absurd fact_ (by decide)
    have entitlements := congrArg Store.entitlements equal
    have created := congrArg Store.created equal
    have listings := congrArg Store.listings equal
    have outbox := congrArg Store.outbox equal
    rw [concludeReport_entitlements] at entitlements
    rw [concludeReport_created] at created
    rw [concludeReport_listings] at listings
    rw [concludeReport_outbox] at outbox
    rw [answer]
    exact .applied (.reported unseen named resolved mapped) moved entitlements created listings outbox only
  · exact .quiet unmoved.1.entitlements unmoved.1.created unmoved.1.listings unmoved.1.outbox

theorem step_touch (cfg : Config) (site : Site) (s : Store) (action : Action) :
    Touch cfg s (step cfg site s action) action := by
  cases action with
  | list publicId l =>
      unfold step
      dsimp only
      split
      · exact .kept rfl rfl (.updated _ rfl) (.quiet rfl)
      · exact .quiet rfl rfl rfl rfl
  | edit publicId l =>
      unfold step
      dsimp only
      split
      · exact .quiet rfl rfl rfl rfl
      · exact .kept rfl rfl (.updated _ rfl) (.quiet rfl)
  | trigger publicId trigger now actor origin p =>
      unfold step
      dsimp only
      split
      · next s' m moved =>
          exact .applied .called moved rfl rfl rfl (List.append_nil _).symm (List.forall_mem_nil _)
      · exact .quiet rfl rfl rfl rfl
  | report tenant adapter report now => exact report_touch cfg s tenant adapter report now
  | prepare tenant publicId user tierKey attempt now =>
      unfold step
      dsimp only
      split
      · exact .quiet rfl rfl rfl rfl
      · split
        · next s' rest prepared =>
            obtain ⟨_,_,_,_,_,_,rfl,_⟩ := prepare_exact.mp prepared
            exact .quiet rfl rfl rfl rfl
        · exact .quiet rfl rfl rfl rfl
  | recordStarted attempt externalRef actor =>
      unfold step recordStarted
      dsimp only
      split
      · exact .quiet rfl rfl rfl rfl
      · refine .kept rfl rfl (.same rfl) ⟨_,rfl,?_⟩
        intro e only
        rw [List.mem_singleton.mp only]
        nofun
  | failAttempt attempt =>
      unfold step failAttempt
      dsimp only
      split <;> exact .quiet rfl rfl rfl rfl
  | renewal publicId now =>
      unfold step notifyRenewal
      dsimp only
      split
      · next l row listed present =>
          split
          · exact .quiet rfl rfl rfl rfl
          · split
            · exact .quiet rfl rfl rfl rfl
            · exact .noticed publicId now row rfl present rfl rfl rfl
      · exact .quiet rfl rfl rfl rfl

theorem step_unannounced (site : Site) (other : ∀ publicId now, action ≠ .renewal publicId now) :
    Unannounced s (step cfg site s action) := by
  cases step_touch cfg site s action with
  | kept _ _ _ told => exact told
  | noticed publicId now _ check => exact (other publicId now check).elim
  | moved _ _ _ _ _ _ _ _ _ _ _ _ _ _ _ _ _ _ _ told => exact told

end actions

structure Stored (s : Store) : Prop where
  once : s.created.Nodup
  keyed : ∀ publicId, publicId ∈ s.created ↔ ∃ row, s.entitlements publicId = some row
  owned : ∀ publicId row, s.entitlements publicId = some row → ∃ l, s.listings publicId = some l

theorem Stored.key {row : EntitlementRow} (stored : Stored s) (present : s.entitlements publicId = some row) :
    publicId ∈ s.created :=
  (stored.keyed publicId).mpr ⟨row,present⟩

section stored

variable {cfg : Config} {s s' : Store}

theorem Stored.kept (stored : Stored s) (created : s'.created = s.created) (entitlements : s'.entitlements = s.entitlements)
    (listings : ListingsStay s s') : Stored s' := by
  refine ⟨by rw [created]; exact stored.once,?_,?_⟩
  · intro publicId
    rw [created,entitlements]
    exact stored.keyed publicId
  · intro publicId row present
    rw [entitlements] at present
    obtain ⟨l,owned⟩ := stored.owned publicId row present
    exact listings publicId l owned

theorem commit_stored (m : Moved) (stored : Stored s) : Stored (s.commit publicId m) := by
  refine ⟨?_,?_,?_⟩
  · unfold Store.commit
    dsimp only
    split
    · exact stored.once
    · next missing =>
        refine List.nodup_append.mpr ⟨stored.once,List.nodup_singleton _,?_⟩
        intro key listed new mine same
        obtain ⟨row,present⟩ := (stored.keyed key).mp listed
        rw [same,List.mem_singleton.mp mine] at present
        rw [present] at missing
        exact missing rfl
  · intro other
    unfold Store.commit
    dsimp only
    by_cases same : other = publicId
    · subst same
      refine iff_of_true ?_ ⟨m.row,Function.update_self ..⟩
      split
      · next there => exact (stored.keyed other).mpr (Option.isSome_iff_exists.mp there)
      · exact List.mem_append_right _ (List.mem_singleton_self _)
    · rw [Function.update_of_ne same,← stored.keyed other]
      split
      · exact Iff.rfl
      · simp [same]
  · intro other row present
    unfold Store.commit at present ⊢
    dsimp only at present ⊢
    by_cases same : other = publicId
    · subst same
      exact ⟨m.listing,Function.update_self ..⟩
    · rw [Function.update_of_ne same] at present ⊢
      exact stored.owned other row present

theorem step_stored (cfg : Config) (site : Site) (s : Store) (action : Action) (stored : Stored s) :
    Stored (step cfg site s action) := by
  cases step_touch cfg site s action with
  | kept entitlements created listings _ => exact stored.kept created entitlements listings
  | noticed publicId now row _ present entitlements created listings =>
      refine ⟨by rw [created]; exact stored.once,?_,?_⟩
      · intro other
        rw [created,entitlements]
        by_cases same : other = publicId
        · subst same
          exact iff_of_true (stored.key present) ⟨_,Function.update_self ..⟩
        · rw [Function.update_of_ne same]
          exact stored.keyed other
      · intro other found there
        rw [listings]
        rw [entitlements] at there
        by_cases same : other = publicId
        · subst same
          exact stored.owned other row present
        · rw [Function.update_of_ne same] at there
          exact stored.owned other found there
  | moved publicId trigger now p row r tiers l draft facts m _ _ _ _ _ entitlements created listings _ =>
      exact (commit_stored m stored).kept created entitlements (.same listings)

theorem reached_stored (reached : Reached cfg site s) : Stored s := by
  refine Runs.reached_invariant (step cfg site) ?_ (step_stored cfg site) reached
  intro start empty
  subst empty
  refine ⟨List.nodup_nil,?_,fun _ _ present => nomatch present⟩
  intro publicId
  exact iff_of_false List.not_mem_nil (fun present => nomatch present.choose_spec)

end stored

def EachRow (P : Entitlement → Prop) (s : Store) : Prop :=
  ∀ publicId row, s.entitlements publicId = some row → P row.toEntitlement

-- Neither the flag expiry sets nor the stamp of a renewal notice is part of `P`.
structure Unstamped (P : Entitlement → Prop) : Prop where
  hidden : ∀ e flag, P e → P {e with hiddenByExpiry := flag}
  notified : ∀ e stamp, P e → P {e with renewalNotifiedAt := stamp}

section rows

variable {P : Entitlement → Prop} {cfg : Config} {s s' : Store} {action : Action}

theorem EachRow.kept (all : EachRow P s) (same : s'.entitlements = s.entitlements) : EachRow P s' := by
  intro publicId row present
  rw [same] at present
  exact all publicId row present

theorem EachRow.updated {row : EntitlementRow} (all : EachRow P s) (moved : P row.toEntitlement)
    (entitlements : s'.entitlements = Function.update s.entitlements publicId (some row)) : EachRow P s' := by
  intro other found present
  rw [entitlements] at present
  by_cases equal : other = publicId
  · subst equal
    rw [Function.update_self] at present
    rw [← Option.some.inj present]
    exact moved
  · rw [Function.update_of_ne equal] at present
    exact all other found present

theorem Landed.unstamped (unstamped : Unstamped P) (landed : Landed tiers l draft m) (holds : P draft) :
    P m.row.toEntitlement := by
  obtain ⟨flag,equal⟩ := landed.row
  rw [equal]
  exact unstamped.hidden draft flag holds

def Kept (P : Entitlement → Prop) (cfg : Config) (s : Store) (action : Action) : Prop :=
  ∀ publicId trigger now p row r tiers draft facts, Applies cfg s action publicId trigger now p →
    openRow (s.entitlements publicId) false trigger p = .ok row → ruleFor row.status trigger = .ok r →
    mutate tiers row.toEntitlement trigger r now p = .ok (draft,facts) → draft.Representable →
    P row.toEntitlement → P draft

theorem Landed.representable (landed : Landed tiers l draft m) : draft.Representable := by
  obtain ⟨flag,equal⟩ := landed.row
  have stored := m.row.representable
  rw [equal] at stored
  exact stored

theorem step_rows (site : Site) (unstamped : Unstamped P) (fresh : ∀ tier, P (newRow tier).toEntitlement)
    (kept : Kept P cfg s action) (all : EachRow P s) : EachRow P (step cfg site s action) := by
  cases step_touch cfg site s action with
  | kept same _ _ _ => exact all.kept same
  | noticed publicId now row _ present entitlements _ _ =>
      have noticed : P ({row with renewalNotifiedAt := some now} : EntitlementRow).toEntitlement :=
        unstamped.notified _ (some now) (all publicId row present)
      exact all.updated noticed entitlements
  | moved publicId trigger now p row r tiers l draft facts m applies opened legal mutated landed entitlements _ _ _ =>
      have before : P row.toEntitlement := by
        rcases openRow_exact.mp opened with present | ⟨_,_,tier,_,new⟩
        · exact all publicId row present
        · rw [new]
          exact fresh tier
      have after := kept publicId trigger now p row r tiers draft facts applies opened legal mutated
        landed.representable before
      exact all.updated (landed.unstamped unstamped after) entitlements

end rows

end Osds.Billing

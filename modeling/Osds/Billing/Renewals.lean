import Osds.Billing.Superseded
import Osds.Billing.Delivery
import Osds.Lib.Lists
import Mathlib.Data.List.Pairwise

namespace Osds.Billing
open Directory Audit

-- A payment for the plan a listing has, as no delivery brought it before.
structure Renewal (s : Store) (publicId : ListingId) (ref : PaymentRef) (d : Delivery) : Prop where
  kind : d.report.kind = .paymentSucceeded
  named : d.report.externalEventId ≠ ""
  unseen : Unseen s d.tenant d.adapter d.report
  about : About s d.tenant d.report publicId
  plain : d.report.tierKey = ""
  billed : d.report.paymentRef = ref
  dated : d.report.periodEnd.isSome

def delivered (cfg : Config) (s : Store) (ds : List Delivery) : Store :=
  Runs.run (fun s d => (deliver cfg s d).1) s ds

def ends (ds : List Delivery) : List Time := ds.filterMap (·.report.periodEnd)

-- The period ends in the order they come to the row, the one it has first.
def endsFrom (row : EntitlementRow) (ds : List Delivery) : List Time := row.currentPeriodEnd.toList ++ ends ds

def Forward (cfg : Config) (publicId : ListingId) (s : Store) (d : Delivery) : Prop :=
  ∀ row row', s.entitlements publicId = some row → (deliver cfg s d).1.entitlements publicId = some row' →
    ∀ before ∈ row.currentPeriodEnd, ∀ after ∈ row'.currentPeriodEnd, before ≤ after

def billTo (ref : PaymentRef) (row : EntitlementRow) (ds : List Delivery) : PaymentRef :=
  if ds = [] ∨ ref = [] then row.paymentRef else ref

structure Renewed (cfg : Config) (s : Store) (publicId : ListingId) (row : EntitlementRow) (ref : PaymentRef)
    (ds order : List Delivery) : Prop where
  plan : ((delivered cfg s order).entitlements publicId).map planOf =
    some (.active,row.tier,(endsFrom row ds).max?,billTo ref row ds)
  forward : Runs.Along (fun s d => (deliver cfg s d).1) (Forward cfg publicId) s order

def OneEnd (row : EntitlementRow) (ds : List Delivery) : Prop :=
  (∀ before ∈ row.currentPeriodEnd, ∀ e ∈ ends ds, before ≤ e) ∧ ∀ e ∈ ends ds, ∀ e' ∈ ends ds, e = e'

section resolving

variable {s s' : Store} {tenant : TenantId} {report : PaymentReport}

theorem reportListing_kept (tenants : ∀ publicId, (s'.listings publicId).map (·.tenant) = (s.listings publicId).map (·.tenant)) :
    reportListing s' tenant key = reportListing s tenant key := by
  unfold reportListing
  have same := tenants key
  cases before : s.listings key with
  | none =>
      rw [before] at same
      rw [Option.map_eq_none_iff.mp same]
  | some l =>
      rw [before] at same
      obtain ⟨l',after,equal⟩ := Option.map_eq_some_iff.mp same
      rw [after]
      dsimp only
      rw [equal]

theorem resolve_kept (attempts : s'.attempts = s.attempts)
    (tenants : ∀ publicId, (s'.listings publicId).map (·.tenant) = (s.listings publicId).map (·.tenant))
    (about : About s tenant report publicId) : About s' tenant report publicId := by
  obtain ⟨l,attempt,resolved⟩ := about
  unfold resolve at resolved
  obtain ⟨found,attempted,rest⟩ := Fallible.bind_exact.mp resolved
  obtain ⟨named,listed,rest⟩ := Fallible.bind_exact.mp rest
  obtain ⟨key,chosen,rest⟩ := Fallible.bind_exact.mp rest
  split at rest
  · next l₀ present =>
      cases rest
      have same := tenants publicId
      rw [present] at same
      obtain ⟨l',after,_⟩ := Option.map_eq_some_iff.mp same
      refine ⟨l',attempt,Fallible.bind_exact.mpr ⟨attempt,?_,Fallible.bind_exact.mpr ⟨named,?_,
        Fallible.bind_exact.mpr ⟨publicId,chosen,?_⟩⟩⟩⟩
      · unfold reportAttempt at attempted ⊢
        rw [attempts]
        exact attempted
      · rw [reportListing_kept tenants]
        exact listed
      · rw [after]
  · cases rest

end resolving

section renewals

variable (cfg : Config) {s : Store} {publicId : ListingId} {row : EntitlementRow} {ref : PaymentRef}

theorem renewal_applied (renewal : Renewal s publicId ref d) (present : s.entitlements publicId = some row)
    (active : row.status = .active) : ∃ row', (deliver cfg s d).1.entitlements publicId = some row' ∧
      planOf row' = (.active,row.tier,d.report.periodEnd,billTo ref row [d]) ∧
      ∀ other, other.report.externalEventId ≠ d.report.externalEventId → Renewal s publicId ref other →
        Renewal (deliver cfg s d).1 publicId ref other := by
  obtain ⟨l,attempt,resolved⟩ := renewal.about
  obtain ⟨periodEnd,dated⟩ := Option.isSome_iff_exists.mp renewal.dated
  have listed := resolve_listed resolved
  have later : ¬((((s.entitlements publicId).map (·.toEntitlement)).map (·.status)).getD .none = .none ∨
      (((s.entitlements publicId).map (·.toEntitlement)).map (·.status)).getD .none = .expired) := by
    rw [present]
    intro closed
    change row.status = .none ∨ row.status = .expired at closed
    rw [active] at closed
    exact absurd closed (by decide)
  obtain ⟨data,mapped⟩ := reportTrigger_renewal (cfg.tiers d.tenant) publicId _ (attempt.map (·.2)) renewal.kind dated
    renewal.plain later
  have known : d.report.kind.value ∈ reportKinds := by rw [renewal.kind]; decide
  have reached : row.status ∈ payable := by rw [active]; decide
  obtain ⟨m,applied,landed⟩ := applyTrigger_pay cfg
    {tier := none,periodEnd := some periodEnd,paymentRef := d.report.paymentRef} listed present reached rfl
  obtain ⟨_,entitlements,listings,attempts⟩ :=
    reportPayment_commits renewal.unseen renewal.named known resolved mapped applied
  have kept : (deliver cfg s d).1.attempts = s.attempts := by
    refine attempts.trans ?_
    cases attempt <;> rfl
  refine ⟨m.row,(congrFun entitlements publicId).trans (Function.update_self ..),?_,?_⟩
  · rw [landed.plan,pay_status,pay_tier,pay_period,pay_ref,dated]
    unfold billTo
    rw [renewal.billed]
    simp
  · intro other differs renewal'
    refine ⟨renewal'.kind,renewal'.named,renewal'.unseen.other (.inr fun same => differs same.symm),?_,renewal'.plain,
      renewal'.billed,renewal'.dated⟩
    refine resolve_kept kept ?_ renewal'.about
    intro key
    refine (congrArg (Option.map _) (congrFun listings key)).trans ?_
    by_cases same : key = publicId
    · subst same
      rw [Function.update_self,listed,Option.map_some,Option.map_some,landed.tenant]
    · rw [Function.update_of_ne same]

theorem endsFrom_cons (dated : d.report.periodEnd = some periodEnd) :
    endsFrom row (d :: ds) = row.currentPeriodEnd.toList ++ periodEnd :: ends ds := by
  unfold endsFrom ends
  exact congrArg _ (List.filterMap_cons_some dated)

theorem delivered_plan (ds : List Delivery) (renewals : ∀ d ∈ ds, Renewal s publicId ref d)
    (distinct : (ds.map (·.report.externalEventId)).Nodup) (present : s.entitlements publicId = some row)
    (active : row.status = .active) :
    ((delivered cfg s ds).entitlements publicId).map planOf =
      some (.active,row.tier,(endsFrom row ds).getLast?,billTo ref row ds) ∧
    (Runs.Along (fun s d => (deliver cfg s d).1) (Forward cfg publicId) s ds ↔
      (endsFrom row ds).Pairwise (· ≤ ·)) := by
  induction ds generalizing s row with
  | nil =>
      refine ⟨?_,fun _ => ?_,fun _ => trivial⟩
      · unfold delivered Runs.run planOf
        rw [present,Option.map_some,active]
        unfold endsFrom ends billTo
        cases row.currentPeriodEnd <;> rfl
      · unfold endsFrom ends
        cases row.currentPeriodEnd <;> simp
  | cons d rest ih =>
      have renewal := renewals d (List.mem_cons_self ..)
      obtain ⟨unlike,distinct⟩ := List.nodup_cons.mp distinct
      obtain ⟨row',present',plan,others⟩ := renewal_applied cfg renewal present active
      obtain ⟨periodEnd,dated⟩ := Option.isSome_iff_exists.mp renewal.dated
      have status' : row'.status = .active := congrArg (·.1) plan
      have tier' : row'.tier = row.tier := congrArg (·.2.1) plan
      have ends' : row'.currentPeriodEnd = some periodEnd := (congrArg (·.2.2.1) plan).trans dated
      have bill' : row'.paymentRef = billTo ref row [d] := congrArg (·.2.2.2) plan
      have later : ∀ other ∈ rest, Renewal (deliver cfg s d).1 publicId ref other := by
        intro other there
        refine others other (fun same => unlike ?_) (renewals other (List.mem_cons_of_mem _ there))
        exact List.mem_map.mpr ⟨other,there,same⟩
      obtain ⟨final,steps⟩ := ih later distinct present' status'
      have from' : endsFrom row' rest = periodEnd :: ends rest := by
        unfold endsFrom
        rw [ends']
        rfl
      have forward : Forward cfg publicId s d ↔ ∀ before ∈ row.currentPeriodEnd, before ≤ periodEnd := by
        constructor
        · intro kept before had
          exact kept row row' present present' before had periodEnd ends'
        · intro kept r r' first second before had after got
          cases present.symm.trans first
          cases present'.symm.trans second
          cases ends'.symm.trans got
          exact kept before had
      refine ⟨final.trans ?_,?_⟩
      · rw [tier',from',endsFrom_cons dated,List.getLast?_append_of_ne_nil _ (List.cons_ne_nil _ _)]
        have paid : billTo ref row' rest = billTo ref row (d :: rest) := by
          unfold billTo at bill' ⊢
          rw [bill']
          by_cases unset : ref = [] <;> simp [unset]
        rw [paid]
      · rw [from'] at steps
        rw [endsFrom_cons dated]
        refine (and_congr forward steps).trans ?_
        cases row.currentPeriodEnd with
        | none => simp
        | some before =>
            rw [Option.toList_some,List.singleton_append,← List.isChain_iff_pairwise,← List.isChain_iff_pairwise,
              List.isChain_cons_cons]
            refine and_congr_left fun _ => ?_
            exact ⟨fun first => first before rfl,fun first y had => Option.some.inj had ▸ first⟩

theorem endsFrom_perm (same : order.Perm ds) : (endsFrom row order).Perm (endsFrom row ds) :=
  (same.filterMap _).append_left _

theorem renewed_exact (renewals : ∀ d ∈ ds, Renewal s publicId ref d)
    (distinct : (ds.map (·.report.externalEventId)).Nodup) (present : s.entitlements publicId = some row)
    (active : row.status = .active) (same : order.Perm ds) :
    Renewed cfg s publicId row ref ds order ↔ (endsFrom row order).Pairwise (· ≤ ·) := by
  have all : ∀ d ∈ order, Renewal s publicId ref d := fun d there => renewals d (same.mem_iff.mp there)
  obtain ⟨final,steps⟩ := delivered_plan cfg order all ((same.map _).nodup_iff.mpr distinct) present active
  constructor
  · intro renewed
    exact steps.mp renewed.forward
  · intro sorted
    refine ⟨?_,steps.mpr sorted⟩
    have bill : billTo ref row order = billTo ref row ds := by
      have none_ : order = [] ↔ ds = [] := by rw [← List.length_eq_zero_iff,← List.length_eq_zero_iff,same.length_eq]
      exact if_congr (or_congr_left none_) rfl rfl
    rw [final,Lists.max_of_sorted sorted (endsFrom_perm same),bill]

theorem oneEnd_of_sorted (forwards : (endsFrom row ds).Pairwise (· ≤ ·))
    (backwards : (endsFrom row ds.reverse).Pairwise (· ≤ ·)) : OneEnd row ds := by
  obtain ⟨_,rising,after⟩ := List.pairwise_append.mp forwards
  obtain ⟨_,falling,_⟩ := List.pairwise_append.mp backwards
  have reversed : ends ds.reverse = (ends ds).reverse := List.filterMap_reverse
  rw [reversed,List.pairwise_reverse] at falling
  have equal : (ends ds).Pairwise (· = ·) := (rising.and falling).imp fun both => Int.le_antisymm both.1 both.2
  refine ⟨?_,fun e there e' there' => equal.forall_of_forall (fun _ _ => rfl) there there'⟩
  intro before had
  exact after before (Option.mem_toList.mpr had)

theorem OneEnd.sorted (one : OneEnd row ds) (same : order.Perm ds) : (endsFrom row order).Pairwise (· ≤ ·) := by
  have there : ∀ e ∈ ends order, e ∈ ends ds := fun e present => (same.filterMap _).mem_iff.mp present
  refine List.pairwise_append.mpr ⟨?_,?_,?_⟩
  · cases row.currentPeriodEnd <;> simp
  · exact List.pairwise_of_forall_mem_list fun e first e' second =>
      Int.le_of_eq (one.2 e (there e first) e' (there e' second))
  · intro before had e present
    exact one.1 before (Option.mem_toList.mp had) e (there e present)

-- The period end is the one a report brought last: an order leaves the latest
-- if it brings them in rising order, and all orders do only for one period end.
theorem renewals_exact (ds : List Delivery) (renewals : ∀ d ∈ ds, Renewal s publicId ref d)
    (distinct : (ds.map (·.report.externalEventId)).Nodup) (present : s.entitlements publicId = some row)
    (active : row.status = .active) :
    (∀ order, order.Perm ds → (Renewed cfg s publicId row ref ds order ↔ (endsFrom row order).Pairwise (· ≤ ·))) ∧
      ((∀ order, order.Perm ds → Renewed cfg s publicId row ref ds order) ↔ OneEnd row ds) := by
  have each : ∀ order, order.Perm ds →
      (Renewed cfg s publicId row ref ds order ↔ (endsFrom row order).Pairwise (· ≤ ·)) :=
    fun order same => renewed_exact cfg renewals distinct present active same
  refine ⟨each,?_,?_⟩
  · intro always
    have forwards := (each ds (.refl ds)).mp (always ds (.refl ds))
    have backwards := (each ds.reverse ds.reverse_perm).mp (always ds.reverse ds.reverse_perm)
    exact oneEnd_of_sorted forwards backwards
  · intro one order same
    exact (each order same).mpr (one.sorted same)

end renewals

section late_invoice

def renewing : Store := exampleRun [exampleCheckout "basic",.report 1 exampleAdapter completionReport 5]

def invoiced (externalEventId : String) (periodEnd now : Time) : Delivery :=
  delivery {invoiceReport with externalEventId := externalEventId,periodEnd := some periodEnd} now

def secondInvoice : Delivery := invoiced "evt_second" (2*day) 6
def thirdInvoice : Delivery := invoiced "evt_third" (3*day) 7

theorem renewal_second : Renewal renewing "lst" [("external_id","sub_1")] secondInvoice :=
  ⟨rfl,by decide,⟨rfl,rfl,by decide⟩,⟨_,_,rfl⟩,rfl,rfl,rfl⟩

theorem renewal_third : Renewal renewing "lst" [("external_id","sub_1")] thirdInvoice :=
  ⟨rfl,by decide,⟨rfl,rfl,by decide⟩,⟨_,_,rfl⟩,rfl,rfl,rfl⟩

theorem both_renewals : ∀ d ∈ [secondInvoice,thirdInvoice], Renewal renewing "lst" [("external_id","sub_1")] d :=
  List.forall_mem_cons.mpr ⟨renewal_second,List.forall_mem_singleton.mpr renewal_third⟩

theorem renewals_rising : ∃ row, renewing.entitlements "lst" = some row ∧
    Renewed exampleConfig renewing "lst" row [("external_id","sub_1")] [secondInvoice,thirdInvoice]
      [secondInvoice,thirdInvoice] := by
  refine ⟨_,rfl,?_⟩
  have exact_ := renewals_exact exampleConfig [secondInvoice,thirdInvoice] both_renewals (by decide) rfl rfl
  exact (exact_.1 [secondInvoice,thirdInvoice] (.refl _)).mpr (by decide)

-- The earlier invoice delivered last takes a day off the paid period.
theorem late_invoice_moves_back : ∃ row, renewing.entitlements "lst" = some row ∧
    (∀ d ∈ [secondInvoice,thirdInvoice], Renewal renewing "lst" [("external_id","sub_1")] d) ∧
    ((delivered exampleConfig renewing [secondInvoice,thirdInvoice]).entitlements "lst").map planOf =
      some (.active,1,some (3*day),[("external_id","sub_1")]) ∧
    ((delivered exampleConfig renewing [thirdInvoice,secondInvoice]).entitlements "lst").map planOf =
      some (.active,1,some (2*day),[("external_id","sub_1")]) ∧
    ¬Renewed exampleConfig renewing "lst" row [("external_id","sub_1")] [secondInvoice,thirdInvoice]
      [thirdInvoice,secondInvoice] := by
  refine ⟨_,rfl,both_renewals,rfl,rfl,?_⟩
  intro renewed
  have last := renewed.plan
  exact absurd last (by decide)

end late_invoice

end Osds.Billing

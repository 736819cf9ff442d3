import Osds.Directory.Sitemaps
import Mathlib.Data.List.Pairwise

namespace Osds.Directory.Sitemaps

def Current (t : Tenant) (s : State) (p : Pointer) : Prop := stored s.generations p.generation = some (renderAll t s.data)

-- Wherever the stored fingerprint is that of the data, the stored files are what would be
-- rendered from it; and so they are where a refresh answers that they are current.
structure Keeps (t : Tenant) (s : State) (action : Action) : Prop where
  fresh : ∀ p, (step t s action).pointer = some p → p.fingerprint = fingerprint t (step t s action).data.view →
    Current t (step t s action) p
  current : ∀ r digest, action = .next → s.refresh = some r → r.stage = .planning digest → plan s.pointer digest r.now = .current →
    ∃ p, s.pointer = some p ∧ Current t s p

def Stage.reads : Stage → Bool
  | .saving _ _ | .deleting _ | .pointing _ | .removing => false
  | _ => true

def reading (s : State) : Bool := s.refresh.any (·.stage.reads)

-- Each listing a transaction stamps and leaves published gets a later stamp than any
-- listing has had while published, and nothing the sitemap shows changes under a reader.
def InTurn (s : State) : Action → Prop
  | .commit ws => match applyAll s.data ws with
      | some d => (∀ l ∈ d.view.listings, l.id ∈ stamped ws → ∀ b ∈ s.borne, b < l.updatedAt) ∧ (reading s → d.view = s.data.view)
      | none => True
  | _ => True

structure Valid (d : Data) : Prop where
  ids : d.listings.Pairwise fun l m => l.id ≠ m.id
  refs : ∀ l ∈ d.listings, ∀ c ∈ l.categories, d.holds c
  below : ∀ c ∈ d.categories, c.id < d.nextCategory

def restrict (d : Data) (l : ListingRow) : ListingRow := {l with categories := l.categories.filter d.holds}

structure Kept (p : ListingRow → Bool) (d d' : Data) : Prop where
  rows : (d'.view.listings.filter p).Sublist (d.view.listings.map (restrict d'))
  next : d.nextCategory ≤ d'.nextCategory
  held : ∀ c, d'.holds c → c < d.nextCategory → d.holds c

section kept
variable {d d' d'' : Data} {p q : ListingRow → Bool} {w : Write} {l : ListingRow}

theorem holds_iff {c : Nat} : d.holds c ↔ ∃ k ∈ d.categories, k.id = c := by
  simp [Data.holds]

theorem holds_below (valid : Valid d) {c : Nat} (held : d.holds c) : c < d.nextCategory := by
  obtain ⟨k,there,rfl⟩ := holds_iff.mp held
  exact valid.below k there

theorem restrict_self (valid : Valid d) (there : l ∈ d.listings) : restrict d l = l := by
  have all : l.categories.filter d.holds = l.categories := List.filter_eq_self.mpr (valid.refs l there)
  unfold restrict
  rw [all]

theorem restrict_view (valid : Valid d) : d.view.listings.map (restrict d) = d.view.listings :=
  (List.map_congr_left fun _ shown => restrict_self valid (List.mem_of_mem_filter shown)).trans (List.map_id' _)

theorem filter_map_sublist {α : Type} {xs : List α} {f : α → α} {q : α → Bool} (same : ∀ x, q (f x) → f x = x) :
    ((xs.map f).filter q).Sublist (xs.filter q) := by
  induction xs with
  | nil => exact .slnil
  | cons x xs ih =>
      by_cases kept : q (f x)
      · have equal := same x kept
        rw [List.map_cons,List.filter_cons_of_pos kept,equal]
        rw [equal] at kept
        rw [List.filter_cons_of_pos kept]
        exact ih.cons_cons x
      · rw [List.map_cons,List.filter_cons_of_neg kept]
        exact ih.trans ((List.sublist_cons_self ..).filter q)

theorem kept_rows (valid : Valid d) (categories : d'.categories = d.categories) (next : d'.nextCategory = d.nextCategory)
    (rows : (d'.view.listings.filter p).Sublist d.view.listings) : Kept p d d' := by
  have held : d'.holds = d.holds := by
    funext c
    unfold Data.holds
    rw [categories]
  refine ⟨?_,Nat.le_of_eq next.symm,fun c has _ => held ▸ has⟩
  have same : restrict d' = restrict d := by
    funext l
    unfold restrict
    rw [held]
  rw [same,restrict_view valid]
  exact rows

theorem kept_map (valid : Valid d) (id : Nat) (f : ListingRow → ListingRow) (same : ∀ l, (f l).id = l.id ∨ (f l).id = id)
    (untouched : ∀ l, p l → l.id ≠ id) : Kept p d (d.mapListing id f) := by
  refine kept_rows valid rfl rfl ?_
  have within : ((d.mapListing id f).view.listings.filter p).Sublist ((d.listings.filter published).filter p) := by
    unfold Data.view Data.mapListing
    rw [List.filter_filter,List.filter_filter]
    refine filter_map_sublist ?_
    intro l kept
    by_cases this : l.id = id
    · rw [if_pos this] at kept
      have kept_ := untouched _ (Bool.and_eq_true .. ▸ kept).1
      rcases same l with equal | equal
      · exact absurd (equal.trans this) kept_
      · exact absurd equal kept_
    · exact if_neg this
  exact within.trans List.filter_sublist

theorem kept_refl (valid : Valid d) (p : ListingRow → Bool) : Kept p d d :=
  kept_rows valid rfl rfl List.filter_sublist

theorem kept_categories (valid : Valid d) (listings : d'.listings = d.listings) (next : d.nextCategory ≤ d'.nextCategory)
    (more : ∀ c, d.holds c → d'.holds c) (held : ∀ c, d'.holds c → c < d.nextCategory → d.holds c) : Kept p d d' := by
  refine ⟨?_,next,held⟩
  have same : ∀ l ∈ d.view.listings, restrict d' l = l := by
    intro l shown
    have all : l.categories.filter d'.holds = l.categories :=
      List.filter_eq_self.mpr fun c member => more c (valid.refs l (List.mem_of_mem_filter shown) c member)
    unfold restrict
    rw [all]
  have view : d'.view.listings = d.view.listings := congrArg (List.filter published) listings
  rw [List.map_congr_left same,List.map_id',view]
  exact List.filter_sublist

theorem leave_restrict (valid : Valid d) (ids : List Nat) (there : l ∈ d.listings)
    (categories : d'.categories = d.categories.filter fun c => !ids.contains c.id) : l.leave ids = restrict d' l := by
  unfold ListingRow.leave restrict
  congr 1
  refine List.filter_congr ?_
  intro c member
  obtain ⟨k,kept,rfl⟩ := holds_iff.mp (valid.refs l there c member)
  rw [Bool.eq_iff_iff,holds_iff,categories]
  constructor
  · exact fun stays => ⟨k,List.mem_filter.mpr ⟨kept,stays⟩,rfl⟩
  · intro ⟨k',kept',same⟩
    exact same ▸ (List.mem_filter.mp kept').2

theorem holds_map {f : CategoryRow → CategoryRow} (ids : ∀ k, (f k).id = k.id) (categories : d'.categories = d.categories.map f)
    {c : Nat} : d'.holds c ↔ d.holds c := by
  rw [holds_iff,holds_iff,categories]
  constructor
  · intro ⟨k,there,same⟩
    obtain ⟨old,kept,rfl⟩ := List.mem_map.mp there
    exact ⟨old,kept,(ids old).symm.trans same⟩
  · intro ⟨k,there,same⟩
    exact ⟨_,List.mem_map.mpr ⟨k,there,rfl⟩,(ids k).trans same⟩

theorem kept_update (valid : Valid d) {f : CategoryRow → CategoryRow} (ids : ∀ k, (f k).id = k.id)
    (listings : d'.listings = d.listings) (categories : d'.categories = d.categories.map f)
    (next : d.nextCategory ≤ d'.nextCategory) : Kept p d d' :=
  kept_categories valid listings next (fun _ => (holds_map ids categories).mpr) (fun _ held _ => (holds_map ids categories).mp held)

theorem kept_delete (valid : Valid d) (ids : List Nat) (listings : d'.listings = d.listings.map (·.leave ids))
    (categories : d'.categories = d.categories.filter fun c => !ids.contains c.id) (next : d.nextCategory ≤ d'.nextCategory) :
    Kept p d d' := by
  refine ⟨?_,next,?_⟩
  · have moved : d'.view.listings = d.view.listings.map (·.leave ids) :=
      (congrArg (List.filter published) listings).trans (List.filter_map ..)
    have same : ∀ l ∈ d.view.listings, l.leave ids = restrict d' l :=
      fun l shown => leave_restrict valid ids (List.mem_of_mem_filter shown) categories
    rw [moved,List.map_congr_left same]
    exact List.filter_sublist
  · intro c held _
    obtain ⟨k,there,rfl⟩ := holds_iff.mp held
    rw [categories] at there
    exact holds_iff.mpr ⟨k,List.mem_of_mem_filter there,rfl⟩

theorem kept_write (valid : Valid d) (applied : w.apply d = some d') (untouched : ∀ l, p l → l.id ∉ w.stamped) : Kept p d d' := by
  cases w with
  | saveListing new =>
      have other : ∀ l, p l → l.id ≠ new.id := fun l kept same => untouched l kept (List.mem_singleton.mpr same)
      unfold Write.apply at applied
      dsimp only at applied
      split at applied
      · exact nomatch applied
      · split at applied
        · obtain rfl := Option.some.inj applied
          exact kept_map valid new.id (fun _ => new) (fun _ => .inr rfl) other
        · obtain rfl := Option.some.inj applied
          refine kept_rows valid rfl rfl ?_
          unfold Data.view
          have gone : ([new].filter published).filter p = [] := by
            refine List.filter_eq_nil_iff.mpr ?_
            intro l shown kept
            exact other l kept (List.mem_singleton.mp (List.mem_of_mem_filter shown) ▸ rfl)
          rw [List.filter_append,List.filter_append,gone,List.append_nil]
          exact List.filter_sublist
  | setVisibility id visibility updatedAt =>
      obtain rfl := Option.some.inj applied
      exact kept_map valid id _ (fun _ => .inl rfl) fun l kept same => untouched l kept (List.mem_singleton.mpr same)
  | touch id updatedAt =>
      obtain rfl := Option.some.inj applied
      exact kept_map valid id _ (fun _ => .inl rfl) fun l kept same => untouched l kept (List.mem_singleton.mpr same)
  | deleteListings ids =>
      obtain rfl := Option.some.inj applied
      exact kept_rows valid rfl rfl (List.filter_sublist.trans (List.filter_sublist.filter published))
  | createCategory typeId slug order parent =>
      obtain rfl := Option.some.inj applied
      refine kept_categories valid rfl (Nat.le_succ _) ?_ ?_
      · intro c held
        obtain ⟨k,there,rfl⟩ := holds_iff.mp held
        exact holds_iff.mpr ⟨k,List.mem_append_left _ there,rfl⟩
      · intro c held below
        obtain ⟨k,there,rfl⟩ := holds_iff.mp held
        rcases List.mem_append.mp there with old | new
        · exact holds_iff.mpr ⟨k,old,rfl⟩
        · rw [List.mem_singleton.mp new] at below
          exact absurd below (Nat.lt_irrefl _)
  | updateCategory id slug order parent =>
      obtain rfl := Option.some.inj applied
      refine kept_update valid ?_ rfl rfl (Nat.le_refl _)
      intro k
      split <;> rfl
  | deleteCategories ids =>
      obtain rfl := Option.some.inj applied
      exact kept_delete valid ids rfl rfl (Nat.le_refl _)
  | saveType t =>
      obtain rfl := Option.some.inj applied
      exact kept_rows valid rfl rfl List.filter_sublist
  | deleteType id =>
      unfold Write.apply at applied
      dsimp only at applied
      split at applied
      · exact nomatch applied
      · obtain rfl := Option.some.inj applied
        exact kept_rows valid rfl rfl List.filter_sublist

theorem valid_map (valid : Valid d) (id : Nat) (f : ListingRow → ListingRow) (ids : ∀ l, l.id = id → (f l).id = id)
    (refs : ∀ l ∈ d.listings, ∀ c ∈ (f l).categories, d.holds c) : Valid (d.mapListing id f) := by
  have kept : ∀ l : ListingRow, (if l.id = id then f l else l).id = l.id := by
    intro l
    split
    next this => exact (ids l this).trans this.symm
    next => rfl
  refine ⟨List.pairwise_map.mpr (valid.ids.imp ?_),?_,valid.below⟩
  · intro l m apart
    rw [kept,kept]
    exact apart
  · intro l there c member
    obtain ⟨old,was,rfl⟩ := List.mem_map.mp there
    split at member
    · exact refs old was c member
    · exact valid.refs old was c member

theorem valid_write (valid : Valid d) (applied : w.apply d = some d') : Valid d' := by
  cases w with
  | saveListing new =>
      unfold Write.apply at applied
      dsimp only at applied
      split at applied
      · exact nomatch applied
      · next sound =>
        have refs : ∀ c ∈ new.categories, d.holds c := by
          have both := Bool.not_eq_false _ ▸ (Bool.not_eq_true' _ ▸ sound)
          exact fun c member => List.all_eq_true.mp (Bool.and_eq_true .. ▸ both).1 c member
        split at applied
        · obtain rfl := Option.some.inj applied
          exact valid_map valid new.id _ (fun _ _ => rfl) (fun _ _ => refs)
        · next fresh =>
          obtain rfl := Option.some.inj applied
          refine ⟨List.pairwise_append.mpr ⟨valid.ids,List.pairwise_singleton ..,?_⟩,?_,valid.below⟩
          · intro l there m last
            rw [List.mem_singleton.mp last]
            intro same
            exact fresh (List.any_eq_true.mpr ⟨l,there,decide_eq_true same⟩)
          · intro l there
            rcases List.mem_append.mp there with old | last
            · exact valid.refs l old
            · rw [List.mem_singleton.mp last]
              exact refs
  | setVisibility id visibility updatedAt =>
      obtain rfl := Option.some.inj applied
      exact valid_map valid id _ (fun _ same => same) (fun l there => valid.refs l there)
  | touch id updatedAt =>
      obtain rfl := Option.some.inj applied
      exact valid_map valid id _ (fun _ same => same) (fun l there => valid.refs l there)
  | deleteListings ids =>
      obtain rfl := Option.some.inj applied
      exact ⟨valid.ids.filter _,fun l there => valid.refs l (List.mem_of_mem_filter there),valid.below⟩
  | createCategory typeId slug order parent =>
      obtain rfl := Option.some.inj applied
      refine ⟨valid.ids,?_,?_⟩
      · intro l there c member
        obtain ⟨k,kept,rfl⟩ := holds_iff.mp (valid.refs l there c member)
        exact holds_iff.mpr ⟨k,List.mem_append_left _ kept,rfl⟩
      · intro c there
        rcases List.mem_append.mp there with old | new
        · exact Nat.lt_succ_of_lt (valid.below c old)
        · rw [List.mem_singleton.mp new]
          exact Nat.lt_succ_self _
  | updateCategory id slug order parent =>
      obtain rfl := Option.some.inj applied
      have ids : ∀ k : CategoryRow, (if k.id = id then {k with slug := slug,order := order,parent := parent} else k).id = k.id := by
        intro k
        split <;> rfl
      refine ⟨valid.ids,fun l there c member => (holds_map ids rfl).mpr (valid.refs l there c member),?_⟩
      intro c there
      obtain ⟨old,kept,rfl⟩ := List.mem_map.mp there
      exact Nat.lt_of_le_of_lt (Nat.le_of_eq (ids old)) (valid.below old kept)
  | deleteCategories ids =>
      obtain rfl := Option.some.inj applied
      refine ⟨List.pairwise_map.mpr valid.ids,?_,fun c there => valid.below c (List.mem_of_mem_filter there)⟩
      intro l there c member
      obtain ⟨old,was,rfl⟩ := List.mem_map.mp there
      obtain ⟨member,stays⟩ := List.mem_filter.mp member
      obtain ⟨k,kept,rfl⟩ := holds_iff.mp (valid.refs old was c member)
      exact holds_iff.mpr ⟨k,List.mem_filter.mpr ⟨kept,stays⟩,rfl⟩
  | saveType t =>
      obtain rfl := Option.some.inj applied
      exact ⟨valid.ids,valid.refs,valid.below⟩
  | deleteType id =>
      unfold Write.apply at applied
      dsimp only at applied
      split at applied
      · exact nomatch applied
      · obtain rfl := Option.some.inj applied
        exact ⟨valid.ids,valid.refs,valid.below⟩

theorem restrict_again (valid : Valid d) (held : ∀ c, d''.holds c → c < d.nextCategory → d'.holds c) (there : l ∈ d.listings) :
    restrict d'' (restrict d' l) = restrict d'' l := by
  unfold restrict
  dsimp only
  rw [List.filter_filter]
  congr 1
  refine List.filter_congr ?_
  intro c member
  have below := holds_below valid (valid.refs l there c member)
  rw [Bool.eq_iff_iff,Bool.and_eq_true]
  exact ⟨And.left,fun last => ⟨last,held c last below⟩⟩

theorem kept_trans (valid : Valid d) (first : Kept p d d') (second : Kept q d' d'')
    (stable : ∀ l c, p {l with categories := c} = p l) (others : ∀ l ∈ d''.view.listings, p l → q l) : Kept p d d'' := by
  have next := Nat.le_trans first.next second.next
  refine ⟨?_,next,fun c held below => first.held c (second.held c held (Nat.lt_of_lt_of_le below first.next)) below⟩
  have same : d''.view.listings.filter p = (d''.view.listings.filter q).filter p := by
    rw [List.filter_filter]
    refine List.filter_congr ?_
    intro l shown
    rw [Bool.eq_iff_iff,Bool.and_eq_true]
    exact ⟨fun kept => ⟨kept,others l shown kept⟩,And.left⟩
  have moved : ((d'.view.listings.map (restrict d'')).filter p) = (d'.view.listings.filter p).map (restrict d'') := by
    rw [List.filter_map]
    congr 1
    exact List.filter_congr fun l _ => stable l _
  have twice : (d.view.listings.map (restrict d')).map (restrict d'') = d.view.listings.map (restrict d'') := by
    rw [List.map_map]
    refine List.map_congr_left ?_
    intro l shown
    exact restrict_again valid (fun c held below => second.held c held (Nat.lt_of_lt_of_le below first.next)) (List.mem_of_mem_filter shown)
  rw [same]
  refine (second.rows.filter p).trans ?_
  rw [moved,← twice]
  exact first.rows.map _

theorem kept_all (valid : Valid d) (ws : List Write) (applied : applyAll d ws = some d') (p : ListingRow → Bool)
    (stable : ∀ l c, p {l with categories := c} = p l) (untouched : ∀ l, p l → l.id ∉ stamped ws) : Valid d' ∧ Kept p d d' := by
  induction ws generalizing d with
  | nil =>
      obtain rfl := Option.some.inj applied
      exact ⟨valid,kept_refl valid p⟩
  | cons w ws ih =>
      obtain ⟨d1,once,rest⟩ := Option.bind_eq_some_iff.mp (show (w.apply d).bind (applyAll · ws) = some d' from applied)
      have middle := valid_write valid once
      obtain ⟨ends,later⟩ := ih middle rest fun l kept member => untouched l kept (List.mem_append_right _ member)
      have first := kept_write (p := p) valid once fun l kept member => untouched l kept (List.mem_append_left _ member)
      exact ⟨ends,kept_trans valid first later stable fun _ _ kept => kept⟩

end kept

section views
variable {t : Tenant} {d d' : Data} {v : View} {l : ListingRow}

def shown (v : View) (l : ListingRow) : List CategoryRow := v.categories.filter fun c => l.categories.contains c.id

def entriesOf (t : Tenant) (v : View) : List Entry :=
  home t :: (listingRows v).filterMap fun row => listingEntry t (multi v) (shown v row.1) row

theorem prefetch_shown (valid : Valid d) (there : l ∈ d.listings) : prefetch d l = shown d.view l := by
  refine List.filter_congr ?_
  intro c _
  rw [Bool.eq_iff_iff,List.any_eq_true]
  constructor
  · intro ⟨x,other,both⟩
    obtain ⟨same,member⟩ := Bool.and_eq_true .. ▸ both
    have : Std.Symm fun l m : ListingRow => l.id ≠ m.id := ⟨fun _ _ differ => differ.symm⟩
    by_cases equal : x = l
    · exact equal ▸ member
    · exact absurd (of_decide_eq_true same) (valid.ids.forall other there equal)
  · intro member
    exact ⟨l,there,Bool.and_eq_true .. ▸ ⟨decide_eq_true rfl,member⟩⟩

theorem listingRows_shown {row : ListingRow × TypeRow} (there : row ∈ listingRows v) : row.1 ∈ v.listings := by
  obtain ⟨l,sorted,typed⟩ := List.mem_filterMap.mp there
  obtain ⟨type,_,rfl⟩ := Option.map_eq_some_iff.mp typed
  exact (List.mem_insertionSort _).mp sorted

theorem listingEntries_view (valid : Valid d) (t : Tenant) : listingEntries t d = entriesOf t d.view := by
  unfold listingEntries entriesOf
  congr 1
  refine List.filterMap_congr ?_
  intro row there
  rw [prefetch_shown valid (List.mem_of_mem_filter (listingRows_shown there))]

theorem renderAll_view (valid : Valid d) (t : Tenant) :
    renderAll t d = filesOf t (entriesOf t d.view) (categoryEntries t (multi d.view) d.view) := by
  unfold renderAll
  rw [listingEntries_view valid]

def stale (borne : List Time) (l : ListingRow) : Bool := !borne.all (· < l.updatedAt)

-- A listing stamped since then would be the newest, so none is published; as many as
-- then are, so all of them are; and the categories they are in are the same.
theorem view_of_fingerprint {borne : List Time} (valid : Valid d) (kept : Kept (stale borne) d d')
    (stamps : ∀ l ∈ d.view.listings, l.updatedAt ∈ borne) (same : fingerprint t d'.view = fingerprint t d.view) : d'.view = d.view := by
  have counted : counts d'.view = counts d.view := congrArg Fingerprint.counts same
  have number : d'.view.listings.length = d.view.listings.length := congrArg Counts.n counted
  have newest : (d'.view.listings.map (·.updatedAt)).max? = (d.view.listings.map (·.updatedAt)).max? := congrArg Counts.newest counted
  have categories : d'.categories = d.categories := congrArg Fingerprint.categories same
  have types : d'.types = d.types := congrArg Fingerprint.types same
  have all : d'.view.listings.filter (stale borne) = d'.view.listings := by
    refine List.filter_eq_self.mpr ?_
    intro l there
    cases last : (d'.view.listings.map (·.updatedAt)).max? with
    | none =>
        have empty := List.map_eq_nil_iff.mp (List.max?_eq_none_iff.mp last)
        exact absurd there (empty ▸ List.not_mem_nil)
    | some most =>
        have bound := (List.max?_eq_some_iff.mp last).2 l.updatedAt (List.mem_map.mpr ⟨l,there,rfl⟩)
        obtain ⟨old,was,stamp⟩ := List.mem_map.mp (List.max?_eq_some_iff.mp (newest.symm.trans last)).1
        unfold stale
        rw [Bool.not_eq_true',List.all_eq_false]
        exact ⟨most,stamp ▸ stamps old was,fun later => Int.not_lt.mpr bound (of_decide_eq_true later)⟩
  have rows := kept.rows
  rw [all] at rows
  have held : d'.holds = d.holds := by
    funext c
    unfold Data.holds
    rw [categories]
  have listings : d'.view.listings = d.view.listings := by
    have equal := rows.eq_of_length (number.trans (List.length_map ..).symm)
    have restricted : restrict d' = restrict d := by
      funext l
      unfold restrict
      rw [held]
    rw [equal,restricted,restrict_view valid]
  have parts : ∀ v w : View, v.listings = w.listings → v.categories = w.categories → v.types = w.types → v = w := by
    intro ⟨_,_,_⟩ ⟨_,_,_⟩ rfl rfl rfl
    rfl
  exact parts _ _ listings categories types

end views

def Snapshot (t : Tenant) (s : State) (digest : Fingerprint) (files : Files) : Prop :=
  ∃ d borne, digest = fingerprint t d.view ∧ files = renderAll t d ∧ Valid d ∧ (∀ l ∈ d.view.listings, l.updatedAt ∈ borne) ∧
    (∀ b ∈ borne, b ∈ s.borne) ∧ Kept (stale borne) d s.data

def Read (t : Tenant) (v : View) : Stage → Prop
  | .membering c => c = counts v
  | .categorizing c m => c = counts v ∧ m = members v
  | .typing c m categories => c = counts v ∧ m = members v ∧ categories = v.categories
  | .planning digest | .rendering digest => digest = fingerprint t v
  | .listing digest many => digest = fingerprint t v ∧ many = multi v
  | .walking digest many rest entries => digest = fingerprint t v ∧ many = multi v ∧ (∀ row ∈ rest, row.1 ∈ v.listings) ∧
      entries ++ rest.filterMap (fun row => listingEntry t (multi v) (shown v row.1) row) = entriesOf t v
  | .recounting digest entries => digest = fingerprint t v ∧ entries = entriesOf t v
  | .gathering digest entries many => digest = fingerprint t v ∧ entries = entriesOf t v ∧ many = multi v
  | _ => True

def Written (t : Tenant) (s : State) (name : Int) : Stage → Prop
  | .saving digest files => Snapshot t s digest files
  | .deleting digest | .pointing digest => ∃ files, stored s.generations name = some files ∧ Snapshot t s digest files
  | .removing => ∀ p, s.pointer = some p → p.generation = name
  | _ => True

def Stage.unwritten : Stage → Bool
  | .deleting _ | .pointing _ | .removing => false
  | _ => true

structure Underway (t : Tenant) (s : State) (r : Refresh) : Prop where
  last : generationOf r.now = generationOf s.tick
  read : Read t s.data.view r.stage
  written : Written t s (generationOf r.now) r.stage
  new : r.stage.unwritten → ∀ g ∈ s.generations, g.name < generationOf r.now

structure Sound (t : Tenant) (s : State) : Prop where
  valid : Valid s.data
  borne : ∀ l ∈ s.data.view.listings, l.updatedAt ∈ s.borne
  names : ∀ g ∈ s.generations, g.name ≤ generationOf s.tick
  pointer : ∀ p, s.pointer = some p → ∃ files, stored s.generations p.generation = some files ∧ Snapshot t s p.fingerprint files
  refresh : ∀ r, s.refresh = some r → Underway t s r

section steps
variable {t : Tenant} {s s' : State} {r : Refresh} {digest : Fingerprint} {files : Files} {generations : List Generation} {name other : Int}

theorem stored_save (new : ∀ g ∈ generations, g.name < name) (files : Files) : stored (save generations name files) name = some files := by
  have fresh : ∀ g ∈ generations, ¬decide (g.name = name) := fun g there same => Int.lt_irrefl _ (of_decide_eq_true same ▸ new g there)
  have none_ : ¬generations.any (·.name = name) := fun some_ =>
    have ⟨g,there,same⟩ := List.any_eq_true.mp some_
    fresh g there same
  unfold save stored
  rw [if_neg none_,List.find?_append,List.find?_eq_none.mpr fresh,Option.none_or]
  simp

theorem stored_save_other (new : ∀ g ∈ generations, g.name < name) (known : stored generations other = some files) (more : Files) :
    stored (save generations name more) other = some files := by
  have fresh : ∀ g ∈ generations, ¬decide (g.name = name) := fun g there same => Int.lt_irrefl _ (of_decide_eq_true same ▸ new g there)
  have none_ : ¬generations.any (·.name = name) := fun some_ =>
    have ⟨g,there,same⟩ := List.any_eq_true.mp some_
    fresh g there same
  obtain ⟨g,found,rfl⟩ := Option.map_eq_some_iff.mp known
  unfold save stored
  rw [if_neg none_,List.find?_append,found]
  rfl

theorem save_names (bound : ∀ g ∈ generations, g.name ≤ name) (files : Files) : ∀ g ∈ save generations name files, g.name ≤ name := by
  intro g there
  unfold save at there
  split at there
  · obtain ⟨old,was,rfl⟩ := List.mem_map.mp there
    split
    next same => exact bound old was
    next => exact bound old was
  · rcases List.mem_append.mp there with old | new
    · exact bound g old
    · rw [List.mem_singleton.mp new]

theorem stored_remove (apart : other ≠ name) (known : stored generations other = some files) :
    stored (generations.filter (·.name ≠ name)) other = some files := by
  obtain ⟨g,found,rfl⟩ := Option.map_eq_some_iff.mp known
  have also_ : (generations.filter (·.name ≠ name)).find? (·.name = other) = some g := by
    rw [List.find?_filter,← found]
    congr 1
    funext x
    by_cases same : x.name = other
    · simp [same,apart]
    · simp [same]
  unfold stored
  rw [also_]
  rfl

theorem snapshot_now (sound : Sound t s) : Snapshot t s (fingerprint t s.data.view) (renderAll t s.data) :=
  ⟨s.data,s.borne,rfl,rfl,sound.valid,sound.borne,fun _ => id,kept_refl sound.valid _⟩

theorem snapshot_files (snapshot : Snapshot t s digest files) (valid : Valid s.data) (same : digest = fingerprint t s.data.view) :
    files = renderAll t s.data := by
  obtain ⟨d,borne,was,rfl,before,stamps,_,kept⟩ := snapshot
  have equal := view_of_fingerprint before kept stamps (same.symm.trans was)
  rw [renderAll_view before,renderAll_view valid,equal]

theorem snapshot_commit {ws : List Write} {d : Data} (valid : Valid s.data) (snapshot : Snapshot t s digest files)
    (applied : applyAll s.data ws = some d) (later : ∀ l ∈ d.view.listings, l.id ∈ stamped ws → ∀ b ∈ s.borne, b < l.updatedAt)
    (more : List Time) : Snapshot t {s with data := d,borne := s.borne ++ more} digest files := by
  obtain ⟨d0,borne,was,rendered,before,stamps,known,kept⟩ := snapshot
  refine ⟨d0,borne,was,rendered,before,stamps,fun b there => List.mem_append_left _ (known b there),?_⟩
  have since := (kept_all valid ws applied (fun l => !(stamped ws).contains l.id) (fun _ _ => rfl) (fun l kept member => by
    rw [List.contains_iff_mem.mpr member] at kept
    exact nomatch kept)).2
  refine kept_trans before kept since (fun _ _ => rfl) ?_
  intro l there old
  by_contra touched
  have member : l.id ∈ stamped ws := List.contains_iff_mem.mp (by simpa using touched)
  have young : borne.all (· < l.updatedAt) := List.all_eq_true.mpr fun b among => decide_eq_true (later l there member b (known b among))
  unfold stale at old
  rw [young] at old
  exact nomatch old

theorem sound_commit {ws : List Write} {d : Data} (sound : Sound t s) (applied : applyAll s.data ws = some d)
    (later : ∀ l ∈ d.view.listings, l.id ∈ stamped ws → ∀ b ∈ s.borne, b < l.updatedAt) (quiet : reading s → d.view = s.data.view) :
    Sound t {s with data := d,borne := s.borne ++ d.view.listings.map (·.updatedAt)} := by
  have snapshot {digest : Fingerprint} {files : Files} (was : Snapshot t s digest files) :=
    snapshot_commit sound.valid was applied later (d.view.listings.map (·.updatedAt))
  have valid := (kept_all sound.valid ws applied (fun _ => false) (fun _ _ => rfl) nofun).1
  refine ⟨valid,fun l there => List.mem_append_right _ (List.mem_map.mpr ⟨l,there,rfl⟩),sound.names,?_,?_⟩
  · intro p known
    obtain ⟨files,there,was⟩ := sound.pointer p known
    exact ⟨files,there,snapshot was⟩
  · intro r known
    obtain ⟨last,read,written,new⟩ := sound.refresh r known
    refine ⟨last,?_,?_,new⟩
    · by_cases reads : r.stage.reads
      · have still : reading s := by
          unfold reading
          rw [known]
          exact reads
        rw [quiet still]
        exact read
      · revert reads
        cases r.stage with
        | saving | deleting | pointing | removing => exact fun _ => trivial
        | _ => exact fun no => absurd rfl no
    · revert written
      cases r.stage with
      | saving digest files => exact snapshot
      | deleting digest | pointing digest => exact fun ⟨files,there,was⟩ => ⟨files,there,snapshot was⟩
      | _ => exact id

theorem sound_refresh (sound : Sound t s) {refresh : Option Refresh} (underway : ∀ r, refresh = some r → Underway t s r) :
    Sound t {s with refresh := refresh} where
  valid := sound.valid
  borne := sound.borne
  names := sound.names
  pointer := sound.pointer
  refresh r known := ⟨(underway r known).last,(underway r known).read,(underway r known).written,(underway r known).new⟩

theorem sound_at (sound : Sound t s) (known : s.refresh = some r) {r' : Refresh} (now : r'.now = r.now) {stage : Stage}
    (read : Read t s.data.view stage) (written : Written t s (generationOf r.now) stage)
    (new : stage.unwritten → r.stage.unwritten) : Sound t (s.at_ r' stage) := by
  refine sound_refresh sound ?_
  intro _ equal
  obtain rfl := Option.some.inj equal
  have underway := sound.refresh r known
  exact ⟨now ▸ underway.last,read,now ▸ written,fun unwritten => now ▸ underway.new (new unwritten)⟩

theorem read_walking {many : Bool} {row : ListingRow × TypeRow} {rest : List (ListingRow × TypeRow)} {entries : List Entry}
    (valid : Valid s.data) (read : Read t s.data.view (.walking digest many (row :: rest) entries)) :
    Read t s.data.view (.walking digest many ((row :: rest).drop ITERATOR_CHUNK) (entries ++
      ((row :: rest).take ITERATOR_CHUNK).filterMap fun row => listingEntry t many (prefetch s.data row.1) row)) := by
  obtain ⟨same,rfl,shows,whole⟩ := read
  refine ⟨same,rfl,fun row there => shows row (List.mem_of_mem_drop there),?_⟩
  have chunk : ((row :: rest).take ITERATOR_CHUNK).filterMap (fun row => listingEntry t (multi s.data.view) (prefetch s.data row.1) row) =
      ((row :: rest).take ITERATOR_CHUNK).filterMap (fun row => listingEntry t (multi s.data.view) (shown s.data.view row.1) row) := by
    refine List.filterMap_congr ?_
    intro row there
    rw [prefetch_shown valid (List.mem_of_mem_filter (shows row (List.mem_of_mem_take there)))]
  rw [chunk,List.append_assoc,← List.filterMap_append,List.take_append_drop]
  exact whole

theorem sound_idle (sound : Sound t s) : Sound t {s with refresh := none} := sound_refresh sound fun _ none_ => nomatch none_

theorem sound_saving (sound : Sound t s) (known : s.refresh = some r) (same : r.stage = .saving digest files) :
    Sound t {s.at_ r (.deleting digest) with generations := save s.generations (generationOf r.now) files} := by
  obtain ⟨last,_,written,new⟩ := sound.refresh r known
  rw [same] at written new
  have before := new rfl
  refine ⟨sound.valid,sound.borne,?_,?_,?_⟩
  · have bound : ∀ g ∈ s.generations, g.name ≤ generationOf r.now := fun g there => Int.le_of_lt (before g there)
    exact last ▸ save_names bound files
  · intro p pointed
    obtain ⟨kept,there,snapshot⟩ := sound.pointer p pointed
    exact ⟨kept,stored_save_other before there files,snapshot⟩
  · intro _ equal
    obtain rfl := Option.some.inj equal
    exact ⟨last,trivial,⟨files,stored_save before files,written⟩,fun no => nomatch no⟩

theorem sound_deleting (sound : Sound t s) (known : s.refresh = some r) (same : r.stage = .deleting digest) :
    Sound t {s.at_ r (.pointing digest) with pointer := none} := by
  obtain ⟨last,_,written,_⟩ := sound.refresh r known
  rw [same] at written
  refine ⟨sound.valid,sound.borne,sound.names,(fun _ none_ => nomatch none_),?_⟩
  intro _ equal
  obtain rfl := Option.some.inj equal
  exact ⟨last,trivial,written,fun no => nomatch no⟩

theorem sound_pointing (sound : Sound t s) (known : s.refresh = some r) (same : r.stage = .pointing digest) (base : String) :
    Sound t {s.at_ r .removing with pointer := some ⟨generationOf r.now,digest,base,r.now⟩} := by
  obtain ⟨last,_,written,_⟩ := sound.refresh r known
  rw [same] at written
  refine ⟨sound.valid,sound.borne,sound.names,?_,?_⟩
  · intro _ equal
    obtain rfl := Option.some.inj equal
    exact written
  · intro _ equal
    obtain rfl := Option.some.inj equal
    refine ⟨last,trivial,?_,fun no => nomatch no⟩
    intro _ equal
    obtain rfl := Option.some.inj equal
    rfl

theorem sound_removing (sound : Sound t s) {name : Int} (apart : ∀ p, s.pointer = some p → p.generation ≠ name) :
    Sound t {s with refresh := none,generations := s.generations.filter (·.name ≠ name)} := by
  refine ⟨sound.valid,sound.borne,?_,?_,fun _ none_ => nomatch none_⟩
  · exact fun g there => sound.names g (List.mem_of_mem_filter there)
  · intro p pointed
    obtain ⟨files,there,snapshot⟩ := sound.pointer p pointed
    exact ⟨files,stored_remove (apart p pointed) there,snapshot⟩

theorem sound_next (sound : Sound t s) (known : s.refresh = some r) : Sound t (advance t s r) := by
  have ⟨_,read,written,_⟩ := sound.refresh r known
  unfold advance
  dsimp only
  split
  next same => exact sound_at sound known rfl rfl trivial fun _ => by rw [same]; rfl
  next c same =>
    rw [same] at read
    exact sound_at sound known rfl ⟨read,rfl⟩ trivial fun _ => by rw [same]; rfl
  next c m same =>
    rw [same] at read
    exact sound_at sound known rfl ⟨read.1,read.2,rfl⟩ trivial fun _ => by rw [same]; rfl
  next c m categories same =>
    rw [same] at read
    obtain ⟨rfl,rfl,rfl⟩ := read
    exact sound_at sound known rfl rfl trivial fun _ => by rw [same]; rfl
  next digest same =>
    rw [same] at read
    split
    · have rendering : Read t s.data.view (.rendering digest) := read
      have now : ({r with previous := s.pointer} : Refresh).now = r.now := rfl
      exact sound_at sound known now rendering trivial fun _ => by rw [same]; rfl
    · exact sound_idle sound
  next digest same =>
    rw [same] at read
    exact sound_at sound known rfl ⟨read,rfl⟩ trivial fun _ => by rw [same]; rfl
  next digest many same =>
    rw [same] at read
    obtain ⟨digested,rfl⟩ := read
    exact sound_at sound known rfl ⟨digested,rfl,fun _ => listingRows_shown,rfl⟩ trivial fun _ => by rw [same]; rfl
  next digest many entries same =>
    rw [same] at read
    exact sound_at sound known rfl ⟨read.1,(List.append_nil _).symm.trans read.2.2.2⟩ trivial fun _ => by rw [same]; rfl
  next digest many rest entries some_ same =>
    rw [same] at read
    cases rest with
    | nil => exact absurd rfl some_
    | cons row rest => exact sound_at sound known rfl (read_walking sound.valid read) trivial fun _ => by rw [same]; rfl
  next digest entries same =>
    rw [same] at read
    exact sound_at sound known rfl ⟨read.1,read.2,rfl⟩ trivial fun _ => by rw [same]; rfl
  next digest entries many same =>
    rw [same] at read
    obtain ⟨rfl,rfl,rfl⟩ := read
    refine sound_at sound known rfl trivial ?_ fun _ => by rw [same]; rfl
    rw [← renderAll_view sound.valid]
    exact snapshot_now sound
  next digest files same => exact sound_saving sound known same
  next digest same => exact sound_deleting sound known same
  next digest same => exact sound_pointing sound known same _
  next same =>
    rw [same] at written
    split
    next previous _ =>
      split
      · exact sound_idle sound
      · next other => exact sound_removing sound fun p pointed equal => other (equal.symm.trans (written p pointed))
    next => exact sound_idle sound

theorem sound_tick (sound : Sound t s) {now : Time} (later : generationOf s.tick < generationOf now) :
    Sound t {s with refresh := some ⟨now,none,.counting⟩,tick := now} := by
  have before : ∀ g ∈ s.generations, g.name < generationOf now := fun g there => Int.lt_of_le_of_lt (sound.names g there) later
  refine ⟨sound.valid,sound.borne,fun g there => Int.le_of_lt (before g there),sound.pointer,?_⟩
  intro _ equal
  obtain rfl := Option.some.inj equal
  exact ⟨rfl,trivial,trivial,fun _ => before⟩

theorem sound_crash (sound : Sound t s) (saved : Nat) : Sound t {s with refresh := none,generations := halfSaved s saved} := by
  unfold halfSaved
  split
  next now previous digest files known =>
    obtain ⟨last,_,_,new⟩ := sound.refresh _ known
    have before := new rfl
    refine ⟨sound.valid,sound.borne,?_,?_,fun _ none_ => nomatch none_⟩
    · have bound : ∀ g ∈ s.generations, g.name ≤ generationOf now := fun g there => Int.le_of_lt (before g there)
      exact last ▸ save_names bound _
    · intro p pointed
      obtain ⟨kept,there,snapshot⟩ := sound.pointer p pointed
      exact ⟨kept,stored_save_other before there _,snapshot⟩
  next => exact sound_idle sound

theorem step_sound (sound : Sound t s) (turn : InTurn s action) : Sound t (step t s action) := by
  cases action with
  | commit ws =>
      unfold step InTurn at *
      dsimp only at turn ⊢
      cases applied : applyAll s.data ws with
      | none => exact sound
      | some d =>
          rw [applied] at turn
          exact sound_commit sound applied turn.1 turn.2
  | tick now =>
      unfold step
      dsimp only
      split
      · exact sound
      · next due =>
        obtain ⟨idle,later⟩ : s.refresh = none ∧ generationOf s.tick < generationOf now := by simpa using due
        split
        · exact ⟨sound.valid,sound.borne,nofun,(fun _ none_ => nomatch none_),fun r known => nomatch idle.symm.trans known⟩
        · exact sound_tick sound later
  | next =>
      unfold step
      dsimp only
      split
      next r known => exact sound_next sound known
      next => exact sound
  | crash saved => exact sound_crash sound saved

end steps

theorem current_of_sound {t : Tenant} {s : State} (sound : Sound t s) {p : Pointer} (pointed : s.pointer = some p)
    (same : p.fingerprint = fingerprint t s.data.view) : Current t s p := by
  obtain ⟨files,there,snapshot⟩ := sound.pointer p pointed
  unfold Current
  rw [← snapshot_files snapshot sound.valid same]
  exact there

theorem step_keeps {t : Tenant} {s : State} {action : Action} (sound : Sound t s) (turn : InTurn s action) : Keeps t s action := by
  refine ⟨fun p => current_of_sound (step_sound sound turn),?_⟩
  intro r digest _ known stage answer
  have read := (sound.refresh r known).read
  rw [stage] at read
  cases pointed : s.pointer with
  | none =>
      rw [pointed] at answer
      exact nomatch answer
  | some p =>
      refine ⟨p,rfl,current_of_sound sound pointed ?_⟩
      rw [pointed] at answer
      unfold plan at answer
      dsimp only at answer
      split at answer
      · next same => exact same.trans read
      · split at answer
        · exact nomatch answer
        · exact nomatch answer

theorem start_sound (t : Tenant) (now : Time) : Sound t (start now) where
  valid := ⟨.nil,(fun _ there => nomatch there),fun _ there => nomatch there⟩
  borne _ there := nomatch there
  names _ there := nomatch there
  pointer _ none_ := nomatch none_
  refresh _ none_ := nomatch none_

-- While listings are stamped in the order of the commits, and nothing the sitemap shows
-- changes under a refresh that reads it, no stored sitemap is taken for current that is not.
theorem sitemaps_fresh (t : Tenant) (now : Time) (actions : List Action) (inTurn : Runs.Along (step t) InTurn (start now) actions) :
    Runs.Along (step t) (Keeps t) (start now) actions :=
  Runs.along_keeps (step t) (fun _ _ => step_sound) (fun _ _ => step_keeps) (start_sound t now) inTurn

def organisation : Tenant := ⟨some "example.org",fun time => toString time,fun id => "cat_" ++ toString id⟩

def bakery (slug : String) (updatedAt : Time) : ListingRow := ⟨1,"lst_1",1,slug,.published,updatedAt,[0]⟩

def cafe (slug : String) (updatedAt : Time) : ListingRow := ⟨2,"lst_2",1,slug,.published,updatedAt,[0]⟩

def opened : List Action :=
  [.commit [.saveType ⟨1,"business",1⟩,.createCategory 1 "food" 0 none],.commit [.saveListing (bakery "bakery" 10)],
    .commit [.saveListing (cafe "cafe" 30)]]

def refreshed (now : Time) : List Action := .tick now :: List.replicate 15 .next

instance decidableInTurn (s : State) : (action : Action) → Decidable (InTurn s action)
  | .commit ws => match applied : applyAll s.data ws with
      | some d => decidable_of_iff ((∀ l ∈ d.view.listings, l.id ∈ stamped ws → ∀ b ∈ s.borne, b < l.updatedAt) ∧
          (reading s → d.view = s.data.view)) (by simp only [InTurn,applied])
      | none => .isTrue (by simp only [InTurn,applied])
  | .tick _ | .next | .crash _ => .isTrue trivial

theorem sitemaps_fresh_edited : Runs.Along (step organisation) (Keeps organisation) (start 0)
    (opened ++ refreshed 1000000 ++ [.commit [.saveListing (bakery "bread" 40)]] ++ refreshed 400000000) :=
  sitemaps_fresh organisation 0 _ (by decide +kernel)

-- The bakery's edit is stamped before the cafe's and commits after it, and after a refresh.
theorem late_commit_stale : ¬Runs.Along (step organisation) (Keeps organisation) (start 0)
    (opened ++ refreshed 1000000 ++ [.commit [.saveListing (bakery "bread" 20)]]) := by
  intro all
  obtain ⟨_,keeps,_⟩ := (Runs.along_append ..).mp all
  have fresh := keeps.fresh
  generalize reached : step organisation (Runs.run (step organisation) (start 0) (opened ++ refreshed 1000000))
    (.commit [.saveListing (bakery "bread" 20)]) = s at fresh
  have same : (s.pointer.map fun p => (decide (p.fingerprint = fingerprint organisation s.data.view),
      decide (stored s.generations p.generation = some (renderAll organisation s.data)))) = some (true,false) := by
    rw [← reached]
    decide +kernel
  obtain ⟨p,pointed,both⟩ := Option.map_eq_some_iff.mp same
  obtain ⟨equal,differ⟩ := Prod.mk.inj both
  exact of_decide_eq_false differ (fresh p pointed (of_decide_eq_true equal))

end Osds.Directory.Sitemaps

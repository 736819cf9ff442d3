import Osds.Directory.Upsert

namespace Osds.Directory.Imports
open Audit

inductive RollbackRefused where
  | notRollbackable | pastRollbackWindow
  | createdListingClaimed (names : List String)
  | createdListingHasLeads (names : List String)
  deriving DecidableEq, Repr

-- What leaves every table as it was: a refusal, or an error the command ends with.
inductive RollbackStopped where
  | refused (reason : RollbackRefused)
  | raised (error : DbError)
  | doesNotExist
  deriving DecidableEq, Repr

-- The rows of a query without an order, as the database gives them.
structure RowOrder where
  arrange : List ImportRow → List ImportRow
  perm : ∀ rows, (arrange rows).Perm rows

def rollbackable : List BatchStatus := [.completed,.failed]

-- `_restore_listing`: the pre-image assigned back; the media are not in it.
def restored (type : TypeSetup) (l : Listing) (pre : Projection) : Listing :=
  {l with projection := {pre with
    categories := chosen type pre.categories
    location := {pre.location with
      geoPrecision := if pre.location.geoPrecision = "" then "none" else pre.location.geoPrecision}
    media := l.projection.media
    source := if pre.source = "" then l.projection.source else pre.source}}

def Tables.delete (t : Tables) (publicId : ListingId) : Tables :=
  {t with
    listings := t.listings.erase publicId
    provenance := t.provenance.filter (·.listing ≠ publicId)
    claimed := t.claimed.filter (· ≠ publicId)
    leads := t.leads.filter (· ≠ publicId)}

def named (t : Tables) (rows : List ImportRow) : List String :=
  let names := rows.map fun r => ((t.listings.lookup r.listing).map (·.name)).getD "" ++ " (" ++ r.listing ++ ")"
  names.insertionSort (· ≤ ·)

def refuseIf (rows : List ImportRow) (reason : RollbackRefused) : Except RollbackStopped Unit :=
  if rows = [] then .ok () else .error (.refused reason)

section rollback

variable (setup : Setup)

def restoreRow (t : Tables) (r : ImportRow) : Except RollbackStopped Tables :=
  match r.preImage with
  | none => .ok t
  | some pre =>
      match t.listings.lookup r.listing with
      | none => .error .doesNotExist
      | some l =>
          match t.save r.listing (restored (setup.type l.tenant l.typeKey) l pre) with
          | .ok t' => .ok t'
          | .error e => .error (.raised e)

def restoreAll : Tables → List ImportRow → Except RollbackStopped Tables
  | t,[] => .ok t
  | t,r :: rest => do
      let t' ← restoreRow setup t r
      restoreAll t' rest

def statusGuard (b : ImportBatch) : Except RollbackStopped Unit :=
  if b.status ∈ rollbackable then .ok () else .error (.refused .notRollbackable)

def rollbackGuard (t : Tables) (b : ImportBatch) (rows created : List ImportRow) : Except RollbackStopped Unit := do
  statusGuard b
  refuseIf (rows.filter (·.nulled)) .pastRollbackWindow
  refuseIf (created.filter (·.listing ∈ t.claimed))
    (.createdListingClaimed (named t (created.filter (·.listing ∈ t.claimed))))
  refuseIf (created.filter (·.listing ∈ t.leads))
    (.createdListingHasLeads (named t (created.filter (·.listing ∈ t.leads))))

def nullPreImages (t : Tables) (batch : String) : Tables :=
  {t with provenance := t.provenance.map fun r =>
    if r.batch = batch then {r with preImage := none,nulled := true} else r}

def doRollback (order : RowOrder) (t : Tables) (b : ImportBatch) (operator : String) :
    Except RollbackStopped (Tables × ImportBatch) := do
  let rows := order.arrange (t.provenance.filter (·.batch = b.publicId))
  let created := rows.filter (·.action = .created)
  let updated := rows.filter (·.action = .updated)
  rollbackGuard t b rows created
  let removed := (created.map (·.listing)).foldl Tables.delete t
  let back ← restoreAll setup removed updated
  let t' := nullPreImages back b.publicId
  let event : OutboxEvent := ⟨b.tenant,b.publicId,⟨"admin",some operator⟩,"",.importRolledBack b.publicId created.length
    (updated.filter (·.preImage.isSome)).length operator⟩
  pure ({t' with outbox := t'.outbox ++ [event]},{b with status := .rolledBack})

end rollback

def importRows (setup : Setup) (v : Values) (b : ImportBatch) : Tables → Nat → List (Payload × ListingId) → Tables
  | t,_,[] => t
  | t,n,(payload,newId) :: rest => importRows setup v b (upsertListing setup v t b payload n newId).1 (n+1) rest

-- The listings as they were: the rows with their projection, the media aside, and
-- no others.
structure Restored (t t' : Tables) : Prop where
  kept : ∀ publicId l, t.listings.lookup publicId = some l →
    ∃ q, t'.listings.lookup publicId = some {l with projection := q} ∧ l.projection.Same q
  gone : ∀ publicId, publicId ∉ t.listings → publicId ∉ t'.listings

def updates (order : RowOrder) (t : Tables) (b : ImportBatch) : List ImportRow :=
  (order.arrange (t.provenance.filter (·.batch = b.publicId))).filter (·.action = .updated)

def creations (order : RowOrder) (t : Tables) (b : ImportBatch) : List ImportRow :=
  (order.arrange (t.provenance.filter (·.batch = b.publicId))).filter (·.action = .created)

-- No listing still to be restored holds the slug that one restored before it had.
def SlugsFree (order : RowOrder) (t : Tables) (b : ImportBatch) : Prop :=
  (updates order t b).Pairwise fun r later => ∀ p l, r.preImage = some p →
    t.listings.lookup later.listing = some l → l.projection.slug ≠ p.slug

structure PreImage (setup : Setup) (b : ImportBatch) (l : Listing) (p : Projection) : Prop where
  same : l.projection.Same p
  stored : Stored setup {l with projection := p}
  tenant : l.tenant = b.tenant
  type : l.typeKey = b.typeKey

-- What the batch has done so far to the tables it started from: each listing that
-- was there has its first pre-image recorded or no row and the projection it had;
-- each other one is recorded as created.
structure Tracked (setup : Setup) (b : ImportBatch) (t₀ t : Tables) : Prop where
  valid : t.Valid setup
  kept : ∀ publicId l, t₀.listings.lookup publicId = some l → ∃ q,
    t.listings.lookup publicId = some {l with projection := q} ∧ q.source = l.projection.source ∧
      ((∃ r ∈ t.provenance, r.batch = b.publicId ∧ r.listing = publicId ∧ r.action = .updated ∧
          ∃ p, r.preImage = some p ∧ PreImage setup b l p) ∨
        (∀ r ∈ t.provenance, r.batch = b.publicId → r.listing ≠ publicId) ∧ l.projection.Same q)
  added : ∀ publicId, publicId ∈ t.listings → publicId ∉ t₀.listings →
    ∃ r ∈ t.provenance, r.batch = b.publicId ∧ r.listing = publicId ∧ r.action = .created
  rows : ∀ r ∈ t.provenance, r.batch = b.publicId → r.nulled = false ∧
    (r.action = .created → r.listing ∉ t₀.listings) ∧ (r.action = .updated → r.listing ∈ t₀.listings)
  claimed : t.claimed = t₀.claimed
  leads : t.leads = t₀.leads

section tracked

variable {setup : Setup} {b : ImportBatch} {t₀ t t' : Tables}

theorem Tracked.begin (valid : t₀.Valid setup) (fresh : ∀ r ∈ t₀.provenance, r.batch ≠ b.publicId) :
    Tracked setup b t₀ t₀ := by
  refine ⟨valid,?_,fun _ there away => (away there).elim,fun r present own => (fresh r present own).elim,rfl,rfl⟩
  intro publicId l present
  exact ⟨l.projection,present,rfl,.inr ⟨fun r listed own => (fresh r listed own).elim,.refl _⟩⟩

theorem mem_of_lookup {listings : AList (fun _ : ListingId => Listing)} (present : listings.lookup publicId = some l) :
    publicId ∈ listings :=
  AList.lookup_isSome.mp (by rw [present]; rfl)

theorem lookup_of_mem {listings : AList (fun _ : ListingId => Listing)} (present : publicId ∈ listings) :
    ∃ l, listings.lookup publicId = some l :=
  Option.isSome_iff_exists.mp (AList.lookup_isSome.mpr present)

theorem mem_recordImportRow (t : Tables) (batch : String) (publicId : ListingId) (action : ImportAction)
    (preImage : Option Projection) : ∃ r ∈ (recordImportRow t batch publicId action preImage).provenance,
      r.batch = batch ∧ r.listing = publicId ∧
        (r ∈ t.provenance ∨ r = ⟨batch,publicId,action,preImage,false⟩) := by
  unfold recordImportRow
  split
  · next found =>
      obtain ⟨r,listed,same⟩ := List.any_eq_true.mp found
      have both := of_decide_eq_true same
      exact ⟨r,listed,both.1,both.2,.inl listed⟩
  · exact ⟨_,List.mem_append_right _ (List.mem_singleton.mpr rfl),rfl,rfl,.inr rfl⟩

theorem recordImportRow_sub {r : ImportRow} (present : r ∈ t.provenance) :
    r ∈ (recordImportRow t batch publicId action preImage).provenance := by
  unfold recordImportRow
  split
  · exact present
  · exact List.mem_append_left _ present

theorem Tracked.quiet (tracked : Tracked setup b t₀ t) (valid : t'.Valid setup) (beside : Beside t t')
    (listings : t'.listings = t.listings) (provenance : t'.provenance = t.provenance) : Tracked setup b t₀ t' := by
  refine ⟨valid,?_,?_,?_,beside.claimed.trans tracked.claimed,beside.leads.trans tracked.leads⟩
  · rw [listings,provenance]
    exact tracked.kept
  · rw [listings,provenance]
    exact tracked.added
  · rw [provenance]
    exact tracked.rows

theorem Tracked.created (tracked : Tracked setup b t₀ t) (valid : t'.Valid setup) (beside : Beside t t')
    (fresh : publicId ∉ t.listings) (listings : t'.listings = t.listings.insert publicId l)
    (provenance : t'.provenance = (recordImportRow t b.publicId publicId .created none).provenance) :
    Tracked setup b t₀ t' := by
  have new : publicId ∉ t₀.listings := by
    intro there
    obtain ⟨l,present⟩ := lookup_of_mem there
    obtain ⟨q,now,_⟩ := tracked.kept publicId l present
    exact fresh (mem_of_lookup now)
  refine ⟨valid,?_,?_,?_,beside.claimed.trans tracked.claimed,beside.leads.trans tracked.leads⟩
  · intro other l' present
    have differ : other ≠ publicId := fun same => new (same ▸ mem_of_lookup present)
    obtain ⟨q,now,source,cases_⟩ := tracked.kept other l' present
    refine ⟨q,?_,source,?_⟩
    · rw [listings,AList.lookup_insert_ne differ]
      exact now
    · rw [provenance]
      rcases cases_ with ⟨r,listed,rest⟩ | ⟨none_,same⟩
      · exact .inl ⟨r,recordImportRow_sub listed,rest⟩
      · refine .inr ⟨?_,same⟩
        intro r listed own
        rcases recordImportRow_mem listed with old | added
        · exact none_ r old own
        · rw [added]
          exact differ.symm
  · intro other there away
    rw [provenance]
    by_cases same : other = publicId
    · subst same
      obtain ⟨r,listed,own,named,old | added⟩ := mem_recordImportRow t b.publicId other .created none
      · exact (fresh (named ▸ tracked.valid.recorded r old)).elim
      · exact ⟨r,listed,own,named,by rw [added]⟩
    · rw [listings] at there
      rcases (AList.mem_insert _).mp there with equal | old
      · exact (same equal).elim
      · obtain ⟨r,listed,rest⟩ := tracked.added other old away
        exact ⟨r,recordImportRow_sub listed,rest⟩
  · intro r listed own
    rw [provenance] at listed
    rcases recordImportRow_mem listed with old | added
    · exact tracked.rows r old own
    · subst added
      exact ⟨rfl,fun _ => new,nofun⟩

theorem recordImportRow_first {r : ImportRow} (present : r ∈ (recordImportRow t batch publicId action preImage).provenance)
    (new : r ∉ t.provenance) : ∀ old ∈ t.provenance, old.batch = batch → old.listing ≠ publicId := by
  intro old listed own same
  unfold recordImportRow at present
  have found : t.provenance.any (fun r => r.batch = batch ∧ r.listing = publicId) :=
    List.any_eq_true.mpr ⟨old,listed,decide_eq_true ⟨own,same⟩⟩
  rw [if_pos found] at present
  exact new present

theorem Tracked.wrote (tracked : Tracked setup b t₀ t) (valid : t'.Valid setup) (beside : Beside t t')
    (present : t.listings.lookup publicId = some l) (tenant : l.tenant = b.tenant) (type : l.typeKey = b.typeKey)
    (wrote : Wrote setup t b publicId l false after)
    (listings : t'.listings = t.listings.insert publicId {l with projection := after})
    (provenance : diff l.projection.fields after.fields = [] ∧ t'.provenance = t.provenance ∨
      t'.provenance = (recordImportRow t b.publicId publicId .updated (some l.projection)).provenance) :
    Tracked setup b t₀ t' := by
  have grown : ∀ r ∈ t.provenance, r ∈ t'.provenance := by
    intro r listed
    rcases provenance with ⟨_,same⟩ | recorded
    · rw [same]
      exact listed
    · rw [recorded]
      exact recordImportRow_sub listed
  have own : ∀ r ∈ t'.provenance, r ∈ t.provenance ∨ r = ⟨b.publicId,publicId,.updated,some l.projection,false⟩ ∧
      ∀ old ∈ t.provenance, old.batch = b.publicId → old.listing ≠ publicId := by
    intro r listed
    by_cases old : r ∈ t.provenance
    · exact .inl old
    · rcases provenance with ⟨_,same⟩ | recorded
      · rw [same] at listed
        exact (old listed).elim
      · rw [recorded] at listed
        rcases recordImportRow_mem listed with there | new
        · exact (old there).elim
        · exact .inr ⟨new,recordImportRow_first listed old⟩
  have stored := tracked.valid.stored publicId l present
  have clean : after.Clean := wrote.kept.clean stored.clean
  refine ⟨valid,?_,?_,?_,beside.claimed.trans tracked.claimed,beside.leads.trans tracked.leads⟩
  · intro other l₀ before
    obtain ⟨q,now,source,cases_⟩ := tracked.kept other l₀ before
    by_cases same : other = publicId
    · subst same
      cases present.symm.trans now
      refine ⟨after,?_,wrote.kept.source.trans source,?_⟩
      · rw [listings,AList.lookup_insert]
      · rcases cases_ with ⟨r,listed,rest⟩ | ⟨none_,same⟩
        · exact .inl ⟨r,grown r listed,rest⟩
        · rcases provenance with ⟨empty,unrecorded⟩ | recorded
          · rw [unrecorded]
            have alike : q.Same after := same_of_diff stored.clean clean wrote.kept.social.symm
              wrote.kept.profiles.symm wrote.kept.attributes.symm empty
            exact .inr ⟨none_,same.trans alike⟩
          · obtain ⟨r,listed,batch,named,old | new⟩ := mem_recordImportRow t b.publicId other .updated (some q)
            · exact (none_ r old batch named).elim
            · rw [recorded]
              refine .inl ⟨r,listed,batch,named,by rw [new],q,by rw [new],?_⟩
              exact ⟨same,stored,tenant,type⟩
    · refine ⟨q,?_,source,?_⟩
      · rw [listings,AList.lookup_insert_ne same]
        exact now
      · rcases cases_ with ⟨r,listed,rest⟩ | ⟨none_,alike⟩
        · exact .inl ⟨r,grown r listed,rest⟩
        · refine .inr ⟨?_,alike⟩
          intro r listed batch named
          rcases own r listed with old | ⟨new,_⟩
          · exact none_ r old batch named
          · rw [new] at named
            exact same named.symm
  · intro other there away
    rw [listings] at there
    have before : other ∈ t.listings := by
      rcases (AList.mem_insert _).mp there with equal | old
      · rw [equal]
        exact mem_of_lookup present
      · exact old
    obtain ⟨r,listed,rest⟩ := tracked.added other before away
    exact ⟨r,grown r listed,rest⟩
  · intro r listed batch
    rcases own r listed with old | ⟨new,first⟩
    · exact tracked.rows r old batch
    · subst new
      refine ⟨rfl,nofun,fun _ => ?_⟩
      by_contra away
      obtain ⟨r,old,batch,named,_⟩ := tracked.added publicId (mem_of_lookup present) away
      exact first r old batch named

theorem Tracked.step (tracked : Tracked setup b t₀ t) (v : Values) (payload : Payload) (n : Nat) (newId : ListingId) :
    Tracked setup b t₀ (upsertListing setup v t b payload n newId).1 := by
  obtain ⟨effect,beside⟩ := upsertListing_effect setup v t b payload n newId
  have valid := effect.valid beside tracked.valid
  cases effect with
  | quiet listings provenance => exact tracked.quiet valid beside listings provenance
  | created publicId after wrote listings provenance =>
      exact tracked.created valid beside (wrote.fresh rfl) listings provenance
  | wrote publicId l after present tenant type wrote listings provenance =>
      exact tracked.wrote valid beside present tenant type wrote listings provenance

theorem importRows_tracked (tracked : Tracked setup b t₀ t) (v : Values) (n : Nat) (rows : List (Payload × ListingId)) :
    Tracked setup b t₀ (importRows setup v b t n rows) := by
  induction rows generalizing t n with
  | nil => exact tracked
  | cons row rest ih => exact ih (tracked.step v row.1 n row.2) (n+1)

end tracked

section restoring

variable {setup : Setup} {b : ImportBatch} {t₀ t s s' : Tables}

theorem deleteAll_lookup (t : Tables) (ids : List ListingId) (publicId : ListingId) :
    (ids.foldl Tables.delete t).listings.lookup publicId =
      if publicId ∈ ids then none else t.listings.lookup publicId := by
  induction ids generalizing t with
  | nil => simp
  | cons one rest ih =>
      rw [List.foldl_cons,ih]
      by_cases later : publicId ∈ rest
      · rw [if_pos later,if_pos (List.mem_cons_of_mem _ later)]
      · by_cases same : publicId = one
        · subst same
          rw [if_neg later,if_pos List.mem_cons_self]
          exact AList.lookup_erase ..
        · rw [if_neg later,if_neg (by simp [same,later])]
          exact AList.lookup_erase_ne same

theorem restored_exact {l : Listing} {p q : Projection} (image : PreImage setup b l p)
    (source : q.source = l.projection.source) :
    restored (setup.type l.tenant l.typeKey) {l with projection := q} p =
      {l with projection := {p with media := q.media}} := by
  have categories := image.stored.categories
  have precise := image.stored.precise
  have same : p.source = l.projection.source := by
    have fields := Projection.mk.inj image.same.rest
    exact fields.2.2.2.2.2.2.2.2.2.2.2.1.symm
  dsimp only at categories precise
  unfold restored
  dsimp only
  rw [categories,if_neg precise,source,← same,ite_self]

-- Halfway through the restores: a listing still to be restored is as the batch
-- left it, any other one that was there is as it was, and no others are there.
structure Partway (setup : Setup) (b : ImportBatch) (t₀ t s : Tables) (todo : List ImportRow) : Prop where
  kept : ∀ publicId l, t₀.listings.lookup publicId = some l → ∃ q,
    s.listings.lookup publicId = some {l with projection := q} ∧ q.source = l.projection.source ∧
      ((∀ r ∈ todo, r.listing ≠ publicId) → l.projection.Same q) ∧
      ((∃ r ∈ todo, r.listing = publicId) → t.listings.lookup publicId = some {l with projection := q})
  gone : ∀ publicId, publicId ∉ t₀.listings → publicId ∉ s.listings
  images : ∀ r ∈ todo, ∃ l p, t₀.listings.lookup r.listing = some l ∧ r.preImage = some p ∧ PreImage setup b l p
  once : (todo.map (·.listing)).Nodup

theorem Partway.restored (part : Partway setup b t₀ t s []) : Restored t₀ s := by
  refine ⟨?_,part.gone⟩
  intro publicId l present
  obtain ⟨q,now,_,same,_⟩ := part.kept publicId l present
  exact ⟨q,now,same (List.forall_mem_nil _)⟩

def HeadFree (t : Tables) (r : ImportRow) (rest : List ImportRow) : Prop := ∀ later ∈ rest, ∀ p l,
  r.preImage = some p → t.listings.lookup later.listing = some l → l.projection.slug ≠ p.slug

theorem Partway.free_exact (valid : t₀.Valid setup) (part : Partway setup b t₀ t s (r :: rest))
    (before : t₀.listings.lookup r.listing = some l) (image : PreImage setup b l p) (recorded : r.preImage = some p) :
    (∀ other m, s.listings.lookup other = some m → SameSlot m {l with projection := {p with media := media}} →
      other = r.listing) ↔ HeadFree t r rest := by
  have differ : ∀ later ∈ rest, later.listing ≠ r.listing := by
    intro later listed same
    have once := part.once
    rw [List.map_cons,List.nodup_cons] at once
    exact once.1 (same ▸ List.mem_map_of_mem listed)
  constructor
  · intro free later listed p' m given holds taken
    cases recorded.symm.trans given
    obtain ⟨l',p',there,_,image'⟩ := part.images later (List.mem_cons_of_mem _ listed)
    obtain ⟨q,now,_,_,current⟩ := part.kept later.listing l' there
    cases holds.symm.trans (current ⟨later,List.mem_cons_of_mem _ listed,rfl⟩)
    refine differ later listed (free later.listing _ now ?_)
    exact ⟨image'.tenant.trans image.tenant.symm,image'.type.trans image.type.symm,taken⟩
  · intro free other m now slot
    by_contra away
    have old : other ∈ t₀.listings := by
      by_contra new
      exact part.gone other new (mem_of_lookup now)
    obtain ⟨l',there⟩ := lookup_of_mem old
    obtain ⟨q,now',_,same,current⟩ := part.kept other l' there
    cases now.symm.trans now'
    by_cases later : ∃ later ∈ rest, later.listing = other
    · obtain ⟨row,listed,named⟩ := later
      have holds := current ⟨row,List.mem_cons_of_mem _ listed,named⟩
      rw [← named] at holds
      exact free row listed p _ recorded holds slot.2.2
    · have untouched : l'.projection.Same q := by
        refine same ?_
        intro row listed named
        rcases List.mem_cons.mp listed with equal | later'
        · subst equal
          exact away named.symm
        · exact later ⟨row,later',named⟩
      refine away (valid.unique other r.listing l' l there before ⟨slot.1,slot.2.1,?_⟩)
      exact (untouched.slug.trans slot.2.2).trans image.same.slug.symm

theorem Partway.restore_exact (valid : t₀.Valid setup) (part : Partway setup b t₀ t s (r :: rest)) :
    ∃ (l : Listing) (p q : Projection), t₀.listings.lookup r.listing = some l ∧ l.projection.Same p ∧
      p.source = l.projection.source ∧ ∀ s', restoreRow setup s r = .ok s' ↔ HeadFree t r rest ∧
        s' = {s with listings := s.listings.insert r.listing {l with projection := {p with media := q.media}}} := by
  obtain ⟨l,p,before,recorded,image⟩ := part.images r List.mem_cons_self
  obtain ⟨q,now,source,_⟩ := part.kept r.listing l before
  have sources : l.projection.source = p.source := by
    have fields := Projection.mk.inj image.same.rest
    exact fields.2.2.2.2.2.2.2.2.2.2.2.1
  refine ⟨l,p,q,before,image.same,sources.symm,?_⟩
  intro s'
  have row : restoreRow setup s r = .ok s' ↔
      s.save r.listing {l with projection := {p with media := q.media}} = .ok s' := by
    unfold restoreRow
    rw [recorded]
    dsimp only
    rw [now]
    dsimp only
    rw [restored_exact image source]
    split
    · next saved =>
        rw [saved]
        exact ⟨fun same => congrArg Except.ok (Except.ok.inj same),fun same => congrArg Except.ok (Except.ok.inj same)⟩
    · next refused =>
        rw [refused]
        exact iff_of_false nofun nofun
  have free : (∀ other m, s.listings.lookup other = some m →
      SameSlot m {l with projection := {p with media := q.media}} → other = r.listing) ↔ HeadFree t r rest :=
    part.free_exact valid before image recorded
  rw [row,Tables.save_exact]
  constructor
  · intro saved
    exact ⟨free.mp saved.2.2.1,saved.2.2.2⟩
  · intro both
    exact ⟨image.stored.fits,image.stored.matched,free.mpr both.1,both.2⟩

theorem Partway.next (part : Partway setup b t₀ t s (r :: rest)) (before : t₀.listings.lookup r.listing = some l)
    (same : l.projection.Same p) (source : p.source = l.projection.source)
    (listings : s'.listings = s.listings.insert r.listing {l with projection := p}) : Partway setup b t₀ t s' rest := by
  have once := part.once
  rw [List.map_cons,List.nodup_cons] at once
  refine ⟨?_,?_,fun later listed => part.images later (List.mem_cons_of_mem _ listed),once.2⟩
  · intro publicId l' there
    rw [listings]
    by_cases here : publicId = r.listing
    · subst here
      cases before.symm.trans there
      refine ⟨p,AList.lookup_insert _,source,fun _ => same,?_⟩
      intro later
      obtain ⟨row,listed,named⟩ := later
      exact (once.1 (named ▸ List.mem_map_of_mem listed)).elim
    · obtain ⟨q,now,kept,back,current⟩ := part.kept publicId l' there
      refine ⟨q,(AList.lookup_insert_ne here).trans now,kept,?_,?_⟩
      · intro untouched
        refine back ?_
        intro row listed
        rcases List.mem_cons.mp listed with equal | later
        · rw [equal]
          exact Ne.symm here
        · exact untouched row later
      · intro later
        obtain ⟨row,listed,named⟩ := later
        exact current ⟨row,List.mem_cons_of_mem _ listed,named⟩
  · intro publicId new
    rw [listings,AList.mem_insert,not_or]
    refine ⟨?_,part.gone publicId new⟩
    intro equal
    exact new (equal ▸ mem_of_lookup before)

theorem restoreAll_exact (valid : t₀.Valid setup) (part : Partway setup b t₀ t s todo) :
    ((∃ s', restoreAll setup s todo = .ok s') ↔ todo.Pairwise fun r later => ∀ p l, r.preImage = some p →
      t.listings.lookup later.listing = some l → l.projection.slug ≠ p.slug) ∧
    ∀ s', restoreAll setup s todo = .ok s' → Restored t₀ s' := by
  induction todo generalizing s with
  | nil =>
      refine ⟨⟨fun _ => List.Pairwise.nil,fun _ => ⟨s,rfl⟩⟩,?_⟩
      intro s' done
      cases done
      exact part.restored
  | cons r rest ih =>
      obtain ⟨l,p,q,before,same,source,row⟩ := part.restore_exact valid
      have next : ∀ s', restoreRow setup s r = .ok s' → Partway setup b t₀ t s' rest := by
        intro s' done
        obtain ⟨_,equal⟩ := (row s').mp done
        have alike : l.projection.Same {p with media := q.media} := ⟨same.rest,same.customFields⟩
        refine part.next before alike source ?_
        rw [equal]
      constructor
      · rw [List.pairwise_cons]
        constructor
        · intro done
          obtain ⟨s',done⟩ := done
          obtain ⟨s₁,first,rest_⟩ := Fallible.bind_exact.mp done
          exact ⟨((row s₁).mp first).1,((ih (next s₁ first)).1).mp ⟨s',rest_⟩⟩
        · intro free
          have first := (row _).mpr ⟨free.1,rfl⟩
          obtain ⟨s',rest_⟩ := ((ih (next _ first)).1).mpr free.2
          exact ⟨s',Fallible.bind_exact.mpr ⟨_,first,rest_⟩⟩
      · intro s' done
        obtain ⟨s₁,first,rest_⟩ := Fallible.bind_exact.mp done
        exact (ih (next s₁ first)).2 s' rest_

end restoring

section rollback

variable {setup : Setup} {b : ImportBatch} {t₀ t t' : Tables}

theorem mem_arranged {r : ImportRow} (order : RowOrder) : r ∈ order.arrange (t.provenance.filter (·.batch = b.publicId)) ↔
    r ∈ t.provenance ∧ r.batch = b.publicId := by
  rw [(order.perm _).mem_iff,List.mem_filter,decide_eq_true_eq]

theorem mem_updates {r : ImportRow} (order : RowOrder) : r ∈ updates order t b ↔
    (r ∈ t.provenance ∧ r.batch = b.publicId) ∧ r.action = .updated := by
  unfold updates
  rw [List.mem_filter,mem_arranged,decide_eq_true_eq]

theorem mem_creations {r : ImportRow} (order : RowOrder) : r ∈ creations order t b ↔
    (r ∈ t.provenance ∧ r.batch = b.publicId) ∧ r.action = .created := by
  unfold creations
  rw [List.mem_filter,mem_arranged,decide_eq_true_eq]

theorem updates_once (order : RowOrder) (once : (t.provenance.map (fun r => (r.batch,r.listing))).Nodup) :
    ((updates order t b).map (·.listing)).Nodup := by
  have own : ((t.provenance.filter (·.batch = b.publicId)).map (·.listing)).Nodup := by
    rw [List.Nodup,List.pairwise_map,List.pairwise_filter]
    rw [List.Nodup,List.pairwise_map] at once
    refine once.imp ?_
    intro r later differ first second same
    exact differ (Prod.ext ((of_decide_eq_true first).trans (of_decide_eq_true second).symm) same)
  have arranged := ((order.perm _).map (·.listing)).nodup_iff.mpr own
  exact arranged.sublist (List.filter_sublist.map _)

theorem Tracked.start (tracked : Tracked setup b t₀ t) (order : RowOrder) :
    Partway setup b t₀ t (((creations order t b).map (·.listing)).foldl Tables.delete t) (updates order t b) := by
  have created : ∀ publicId, publicId ∈ (creations order t b).map (·.listing) ↔
      ∃ r ∈ t.provenance, r.batch = b.publicId ∧ r.listing = publicId ∧ r.action = .created := by
    intro publicId
    rw [List.mem_map]
    constructor
    · intro found
      obtain ⟨r,listed,named⟩ := found
      obtain ⟨⟨there,batch⟩,action⟩ := (mem_creations order).mp listed
      exact ⟨r,there,batch,named,action⟩
    · intro found
      obtain ⟨r,listed,batch,named,action⟩ := found
      exact ⟨r,(mem_creations order).mpr ⟨⟨listed,batch⟩,action⟩,named⟩
  refine ⟨?_,?_,?_,updates_once order tracked.valid.once⟩
  · intro publicId l before
    have old : ¬∃ r ∈ t.provenance, r.batch = b.publicId ∧ r.listing = publicId ∧ r.action = .created := by
      intro found
      obtain ⟨r,listed,batch,named,action⟩ := found
      exact (tracked.rows r listed batch).2.1 action (named ▸ mem_of_lookup before)
    obtain ⟨q,now,source,cases_⟩ := tracked.kept publicId l before
    rw [deleteAll_lookup,if_neg (mt (created publicId).mp old)]
    refine ⟨q,now,source,?_,fun _ => now⟩
    intro untouched
    rcases cases_ with ⟨r,listed,batch,named,action,_⟩ | ⟨_,same⟩
    · exact (untouched r ((mem_updates order).mpr ⟨⟨listed,batch⟩,action⟩) named).elim
    · exact same
  · intro publicId new
    rw [← AList.lookup_eq_none,deleteAll_lookup]
    by_cases there : publicId ∈ t.listings
    · rw [if_pos ((created publicId).mpr (tracked.added publicId there new))]
    · rw [AList.lookup_eq_none.mpr there,ite_self]
  · intro r listed
    obtain ⟨⟨there,batch⟩,action⟩ := (mem_updates order).mp listed
    obtain ⟨l,before⟩ := lookup_of_mem ((tracked.rows r there batch).2.2 action)
    obtain ⟨q,_,_,cases_⟩ := tracked.kept r.listing l before
    rcases cases_ with ⟨r',there',batch',named,_,image⟩ | ⟨none_,_⟩
    · have same : r' = r :=
        List.inj_on_of_nodup_map tracked.valid.once there' there (Prod.ext (batch'.trans batch.symm) named)
      subst same
      obtain ⟨p,recorded,image⟩ := image
      exact ⟨l,p,before,recorded,image⟩
    · exact (none_ r there batch rfl).elim

theorem refuseIf_nil (none_ : rows = []) : refuseIf rows reason = .ok () := if_pos none_

theorem Tracked.guard (tracked : Tracked setup b t₀ t) (before : t₀.Valid setup) (order : RowOrder)
    (settled : done.status ∈ rollbackable) :
    rollbackGuard t done (order.arrange (t.provenance.filter (·.batch = b.publicId)))
      (creations order t b) = .ok () := by
  have whole : (order.arrange (t.provenance.filter (·.batch = b.publicId))).filter (·.nulled) = [] := by
    rw [List.filter_eq_nil_iff]
    intro r listed
    obtain ⟨there,batch⟩ := (mem_arranged order).mp listed
    rw [(tracked.rows r there batch).1]
    exact Bool.false_ne_true
  have new : ∀ r ∈ creations order t b, r.listing ∉ t₀.listings := by
    intro r listed
    obtain ⟨⟨there,batch⟩,action⟩ := (mem_creations order).mp listed
    exact (tracked.rows r there batch).2.1 action
  have unclaimed : (creations order t b).filter (·.listing ∈ t.claimed) = [] := by
    rw [List.filter_eq_nil_iff]
    intro r listed claimed
    have there := of_decide_eq_true claimed
    rw [tracked.claimed] at there
    exact new r listed (before.claimed r.listing there)
  have leadless : (creations order t b).filter (·.listing ∈ t.leads) = [] := by
    rw [List.filter_eq_nil_iff]
    intro r listed led
    have there := of_decide_eq_true led
    rw [tracked.leads] at there
    exact new r listed (before.leads r.listing there)
  have status : statusGuard done = .ok () := if_pos settled
  unfold rollbackGuard
  rw [status,refuseIf_nil whole,refuseIf_nil unclaimed,refuseIf_nil leadless]
  rfl

structure Settled (setup : Setup) (t₀ : Tables) (b done : ImportBatch) : Prop where
  before : t₀.Valid setup
  fresh : ∀ r ∈ t₀.provenance, r.batch ≠ b.publicId
  batch : done.publicId = b.publicId
  status : done.status ∈ rollbackable

theorem Restored.of_listings (back : Restored t₀ t) (listings : t'.listings = t.listings) : Restored t₀ t' := by
  refine ⟨?_,?_⟩
  · rw [listings]
    exact back.kept
  · rw [listings]
    exact back.gone

theorem Tracked.doRollback_exact (tracked : Tracked setup b t₀ t) (settled : Settled setup t₀ b done)
    (order : RowOrder) (operator : String) : (∃ t' b', doRollback setup order t done operator = .ok (t',b') ∧ Restored t₀ t') ↔
      ∃ back, restoreAll setup (((creations order t b).map (·.listing)).foldl Tables.delete t) (updates order t b) = .ok back ∧
        Restored t₀ back := by
  have guard := tracked.guard settled.before order settled.status
  unfold doRollback
  rw [settled.batch]
  constructor
  · intro done
    obtain ⟨t',b',done,restored⟩ := done
    obtain ⟨_,_,rest⟩ := Fallible.bind_exact.mp done
    obtain ⟨back,backed,rest⟩ := Fallible.bind_exact.mp rest
    cases rest
    exact ⟨back,backed,restored.of_listings rfl⟩
  · intro done
    obtain ⟨back,backed,restored⟩ := done
    refine ⟨_,_,Fallible.bind_exact.mpr ⟨(),guard,Fallible.bind_exact.mpr ⟨back,backed,rfl⟩⟩,?_⟩
    exact restored.of_listings rfl

variable (setup : Setup) (v : Values) (order : RowOrder) (t₀ : Tables) (b : ImportBatch) (n : Nat)
  (rows : List (Payload × ListingId))

-- Rolled back at once, a batch leaves the directory as it was iff no restore asks
-- for a slug that a listing still to be restored holds.
theorem rollback_exact (settled : Settled setup t₀ b done) (operator : String) :
    (∃ t' b', doRollback setup order (importRows setup v b t₀ n rows) done operator = .ok (t',b') ∧ Restored t₀ t') ↔
      SlugsFree order (importRows setup v b t₀ n rows) done := by
  have tracked := importRows_tracked (Tracked.begin settled.before settled.fresh) v n rows
  have restores := restoreAll_exact settled.before (tracked.start order)
  have same : updates order (importRows setup v b t₀ n rows) done = updates order (importRows setup v b t₀ n rows) b := by
    unfold updates
    rw [settled.batch]
  rw [tracked.doRollback_exact settled,SlugsFree,same,← restores.1]
  constructor
  · intro done
    obtain ⟨back,backed,_⟩ := done
    exact ⟨back,backed⟩
  · intro done
    obtain ⟨back,backed⟩ := done
    exact ⟨back,backed,restores.2 back backed⟩

end rollback

def asStored : RowOrder := ⟨fun rows => rows,fun _ => .refl _⟩

def cafe (slug : String) : Listing :=
  {newListing 0 "cafe" with projection := {(newListing 0 "cafe").projection with slug := slug,name := "Cafe"}}

def twoCafes : Tables := ⟨(AList.singleton "B" (cafe "b")).insert "A" (cafe "a"),[],[],[],[],[]⟩

def renames (status : BatchStatus) : ImportBatch :=
  ⟨"I",0,"cafe","csv",none,status,true,["id","slug"],[("id","id"),("slug","slug")],0,0,0,0,0,0,0,[],[]⟩

def renamed (publicId slug : String) : Payload × ListingId := ({id := some publicId,slug := some slug},"new")

theorem cafe_stored (fits : Fits (cafe name).projection) : Stored plain (cafe name) :=
  ⟨fits,.inl ⟨rfl,rfl,rfl⟩,(by decide : "none" ≠ ""),List.forall_mem_nil _,rfl⟩

theorem twoCafes_settled : Settled plain twoCafes (renames .processing) (renames .completed) := by
  have two : ∀ publicId l, twoCafes.listings.lookup publicId = some l →
      publicId = "A" ∧ l = cafe "a" ∨ publicId = "B" ∧ l = cafe "b" := by
    intro publicId l present
    have entries : twoCafes.listings.entries = [⟨"A",cafe "a"⟩,⟨"B",cafe "b"⟩] := rfl
    have listed : (⟨publicId,l⟩ : (_ : ListingId) × Listing) ∈ twoCafes.listings.entries :=
      mem_entries_exact.mpr present
    rw [entries] at listed
    rcases List.mem_cons.mp listed with same | rest
    · exact .inl ⟨congrArg Sigma.fst same,eq_of_heq (Sigma.mk.inj same).2⟩
    · exact .inr ⟨congrArg Sigma.fst (List.mem_singleton.mp rest),eq_of_heq (Sigma.mk.inj (List.mem_singleton.mp rest)).2⟩
  refine ⟨⟨?_,?_,List.forall_mem_nil _,.nil,List.forall_mem_nil _,List.forall_mem_nil _⟩,List.forall_mem_nil _,rfl,
    (by decide)⟩
  · intro publicId l present
    rcases two publicId l present with ⟨_,same⟩ | ⟨_,same⟩
    · rw [same]
      exact cafe_stored (by decide)
    · rw [same]
      exact cafe_stored (by decide)
  · intro first second l m present present' slot
    have slugs : (cafe "a").projection.slug ≠ (cafe "b").projection.slug := by decide
    rcases two first l present with ⟨here,same⟩ | ⟨here,same⟩ <;> rcases two second m present' with ⟨there,same'⟩ | ⟨there,same'⟩
    · exact here.trans there.symm
    · subst same same'
      exact (slugs slot.2.2).elim
    · subst same same'
      exact (slugs slot.2.2.symm).elim
    · exact here.trans there.symm

theorem both_restored : ∃ t' b', doRollback plain asStored (importRows plain asRead (renames .processing) twoCafes 1
    [renamed "A" "c",renamed "B" "d"]) (renames .completed) "op" = .ok (t',b') ∧ Restored twoCafes t' := by
  refine (rollback_exact plain asRead asStored twoCafes (renames .processing) 1 [renamed "A" "c",renamed "B" "d"] twoCafes_settled
    "op").mpr (List.pairwise_pair.mpr ?_)
  intro p l before there
  cases before
  cases there
  decide

-- The one takes the slug the other left: restored first, that other finds it taken.
theorem chained_not_restored : Settled plain twoCafes (renames .processing) (renames .completed) ∧
    doRollback plain asStored (importRows plain asRead (renames .processing) twoCafes 1
      [renamed "A" "c",renamed "B" "a"]) (renames .completed) "op" = .error (.raised .integrityError) :=
  ⟨twoCafes_settled,rfl⟩

end Osds.Directory.Imports

import Osds.Directory.Site
import Osds.Lib.Fallible

namespace Osds.Directory

namespace Site

-- The commands of the configuration pages. `listings` is what the listing
-- commands leave between two of them.
inductive Action where
  | createType (operator : String) (new : NewListingType)
  | updateType (operator : String) (typeId : Nat) (changes : TypeChanges)
  | deleteType (operator : String) (typeId : Nat)
  | createCategory (operator : String) (typeId : Nat) (new : NewCategory)
  | updateCategory (operator : String) (categoryId : Nat) (changes : CategoryChanges)
  | deleteCategory (operator : String) (categoryId : Nat)
  | listings (rows : List SiteListing)

def command (s : Site) : Action → Except ConfigError Site
  | .createType operator new => createListingType s operator new
  | .updateType operator typeId changes => updateListingType s operator typeId changes
  | .deleteType operator typeId => deleteListingType s operator typeId
  | .createCategory operator typeId new => createCategory s operator typeId new
  | .updateCategory operator categoryId changes => updateCategory s operator categoryId changes
  | .deleteCategory operator categoryId => deleteCategory s operator categoryId
  | .listings rows => if s.acceptsListings rows then .ok {s with listings := rows} else .error .integrityError

def step (s : Site) (action : Action) : Site :=
  match command s action with
  | .ok next => next
  | .error _ => s

end Site
open Site (Action command step)

variable {s next : Site}

section emitted

variable {operator : String} {change : PatchOp}

@[simp] theorem emitSettingsChange_types : (s.emitSettingsChange operator change).types = s.types := rfl

@[simp] theorem emitSettingsChange_categories :
    (s.emitSettingsChange operator change).categories = s.categories := rfl

@[simp] theorem emitSettingsChange_listings : (s.emitSettingsChange operator change).listings = s.listings := rfl

@[simp] theorem emitSettingsChange_redirects :
    (s.emitSettingsChange operator change).redirects = s.redirects := rfl

variable {stale : Bool} {job : ReindexJob}

@[simp] theorem queueReindex_types : (s.queueReindex stale job).types = s.types := by
  cases stale <;> rfl

@[simp] theorem queueReindex_categories : (s.queueReindex stale job).categories = s.categories := by
  cases stale <;> rfl

@[simp] theorem queueReindex_listings : (s.queueReindex stale job).listings = s.listings := by
  cases stale <;> rfl

@[simp] theorem queueReindex_redirects : (s.queueReindex stale job).redirects = s.redirects := by
  cases stale <;> rfl

end emitted

theorem saveListingType_exact (saved : s.saveListingType t = .ok next) :
    next = {s with types := s.types.map fun row => if row.id = t.id then t else row} := by
  unfold Site.saveListingType at saved
  split at saved
  · cases saved
  · split at saved
    · cases saved
    · exact (Except.ok.inj saved).symm

theorem saveCategory_exact (saved : s.saveCategory c = .ok next) : s.categoryTaken c = false ∧
    next = {s with categories := s.categories.map fun row => if row.id = c.id then c else row} := by
  unfold Site.saveCategory at saved
  split at saved
  · cases saved
  · split at saved
    · cases saved
    · next free => exact ⟨by simpa using free,(Except.ok.inj saved).symm⟩

theorem getOrCreateRedirect_exact {row : PathRedirect} (written : s.getOrCreateRedirect row = .ok next) :
    (∃ held ∈ next.redirects, held.oldPrefix = row.oldPrefix) ∧
      (∀ held ∈ next.redirects, held ∈ s.redirects ∨ held = row) ∧ next = {s with redirects := next.redirects} := by
  unfold Site.getOrCreateRedirect at written
  split at written
  · next found =>
      cases written
      obtain ⟨held,member,same⟩ := List.any_eq_true.mp found
      exact ⟨⟨held,member,by simpa using same⟩,fun held member => .inl member,rfl⟩
  · split at written
    · cases written
    · cases written
      exact ⟨⟨row,by simp,rfl⟩,fun held member => by simpa using member,rfl⟩

theorem updateOrCreateRedirect_exact {row : PathRedirect} (written : s.updateOrCreateRedirect row = .ok next)
    (fresh : ∀ held ∈ s.redirects, held.oldPrefix ≠ row.oldPrefix) :
    next = {s with redirects := s.redirects ++ [row]} := by
  unfold Site.updateOrCreateRedirect at written
  split at written
  · cases written
  · split at written
    · next found =>
        obtain ⟨held,member,same⟩ := List.any_eq_true.mp found
        exact absurd (of_decide_eq_true same) (fresh held member)
    · exact (Except.ok.inj written).symm

theorem updateOrCreateRedirect_rows (written : s.updateOrCreateRedirect row = .ok next) :
    next = {s with redirects := next.redirects} := by
  unfold Site.updateOrCreateRedirect at written
  split at written
  · cases written
  · split at written
    · cases written
      rfl
    · cases written
      rfl

theorem refuseIf_exact {cond : Bool} : refuseIf cond e = .ok unit ↔ cond = false := by
  cases cond with
  | false => simp [refuseIf]
  | true => simp [refuseIf]

theorem orMissing_exact {found : Option α} : orMissing found = .ok a ↔ found = some a := by
  cases found with
  | none => simp [orMissing]
  | some b => simp [orMissing]

theorem find_exact {rows : List α} {key : α → Nat} (found : orMissing (rows.find? (key · = k)) = .ok row) :
    row ∈ rows ∧ key row = k := by
  have present := orMissing_exact.mp found
  exact ⟨List.mem_of_find?_eq_some present,by simpa using List.find?_some present⟩

theorem createListingType_exact (created : createListingType s operator new = .ok next) :
    ∃ t, t.pathSegment = new.pathSegment ∧ next.types = s.types ++ [t] ∧ next.categories = s.categories ∧
      next.listings = s.listings ∧ (s.types = [] → next.redirects = s.redirects) ∧
      ∀ first, s.types = [first] → (∃ row ∈ next.redirects, row.oldPrefix = []) ∧
        ∀ row ∈ next.redirects, row ∈ s.redirects ∨ row = ⟨[],'/' :: first.pathSegment.text⟩ := by
  unfold createListingType at created
  obtain ⟨fields,_,rest⟩ := Fallible.bind_exact.mp created
  obtain ⟨_,_,rest⟩ := Fallible.bind_exact.mp rest
  obtain ⟨_,_,rest⟩ := Fallible.bind_exact.mp rest
  obtain ⟨redirected,written,rest⟩ := Fallible.bind_exact.mp rest
  cases rest
  refine ⟨⟨s.nextId,new.key,new.labelSingular,new.labelPlural,new.pathSegment,new.claimable,fields⟩,rfl,?_⟩
  cases types : s.types with
  | nil =>
      rw [types] at written
      cases written
      refine ⟨by simp,rfl,rfl,fun _ => rfl,?_⟩
      intro first absurd
      cases absurd
  | cons first more =>
      cases more with
      | nil =>
          simp only [types] at written
          obtain ⟨root,rows,same⟩ := getOrCreateRedirect_exact written
          refine ⟨by rw [same]; simp,by rw [same]; rfl,by rw [same]; rfl,nofun,?_⟩
          intro first only
          cases only
          exact ⟨root,rows⟩
      | cons second rest =>
          rw [types] at written
          cases written
          exact ⟨by simp,rfl,rfl,nofun,nofun⟩

theorem updateListingType_exact (updated : updateListingType s operator typeId changes = .ok next) :
    ∃ t, (∃ old ∈ s.types, old.id = t.id) ∧
      next.types = s.types.map (fun row => if row.id = t.id then t else row) ∧
      next.categories = s.categories ∧ next.listings = s.listings ∧
      (s.multi = false → next.redirects = s.redirects) := by
  unfold updateListingType at updated
  obtain ⟨old,found,rest⟩ := Fallible.bind_exact.mp updated
  obtain ⟨_,_,rest⟩ := Fallible.bind_exact.mp rest
  obtain ⟨fields,_,rest⟩ := Fallible.bind_exact.mp rest
  obtain ⟨saved,save,rest⟩ := Fallible.bind_exact.mp rest
  obtain ⟨redirected,written,rest⟩ := Fallible.bind_exact.mp rest
  cases rest
  have stored := saveListingType_exact save
  subst stored
  refine ⟨changes.apply fields old,⟨old,(find_exact found).1,rfl⟩,?_⟩
  split at written
  · next crowded =>
      have rows := updateOrCreateRedirect_rows written
      rw [rows]
      refine ⟨by simp,by simp,by simp,?_⟩
      intro alone
      have multi := crowded.2.2
      simp only [Site.multi,queueReindex_types,List.length_map] at multi alone
      rw [alone] at multi
      cases multi
  · cases written
    exact ⟨by simp,by simp,by simp,fun _ => by simp⟩

theorem withChildren_subset (categories : List Category) (n : Nat) {ids : List Nat} (member : i ∈ ids) :
    i ∈ withChildren categories n ids := by
  induction n generalizing ids with
  | zero => exact member
  | succ n ih => exact ih (List.mem_append_left _ member)

theorem deleteListingType_exact (deleted : deleteListingType s operator typeId = .ok next) :
    ∃ t ∈ s.types, ∃ gone : List Nat, (∀ c ∈ s.categories, c.typeId = t.id → c.id ∈ gone) ∧
      next.types = s.types.filter (·.id ≠ t.id) ∧
      next.categories = s.categories.filter (fun c => !gone.contains c.id) ∧
      next.listings = s.listings.map (SiteListing.leave gone) ∧ next.redirects = s.redirects := by
  unfold deleteListingType at deleted
  obtain ⟨t,found,rest⟩ := Fallible.bind_exact.mp deleted
  obtain ⟨_,_,rest⟩ := Fallible.bind_exact.mp rest
  cases rest
  refine ⟨t,(find_exact found).1,_,?_,rfl,rfl,rfl,rfl⟩
  intro c member owned
  have listed : c.id ∈ (s.categories.filter (·.typeId = t.id)).map (·.id) :=
    List.mem_map_of_mem (List.mem_filter.mpr ⟨member,by simpa using owned⟩)
  exact withChildren_subset _ _ listed

theorem createCategory_exact (created : createCategory s operator typeId new = .ok next) :
    ∃ c, c.slug = new.slug ∧ new.slug.text ∉ RESERVED_SLUGS ∧ (∃ t ∈ s.types, t.id = c.typeId) ∧
      s.categoryTaken c = false ∧ next.types = s.types ∧ next.categories = s.categories ++ [c] ∧
      next.listings = s.listings ∧ next.redirects = s.redirects := by
  unfold createCategory at created
  obtain ⟨t,found,rest⟩ := Fallible.bind_exact.mp created
  obtain ⟨_,unreserved,rest⟩ := Fallible.bind_exact.mp rest
  obtain ⟨_,_,rest⟩ := Fallible.bind_exact.mp rest
  obtain ⟨_,free,rest⟩ := Fallible.bind_exact.mp rest
  cases rest
  exact ⟨⟨s.nextId,t.id,new.slug,new.name,new.parent,new.order⟩,rfl,by simpa using refuseIf_exact.mp unreserved,
    ⟨t,(find_exact found).1,rfl⟩,refuseIf_exact.mp free,rfl,rfl,rfl,rfl⟩

theorem updateCategory_exact (updated : updateCategory s operator categoryId changes = .ok next) :
    ∃ old ∈ s.categories, old.id = categoryId ∧
      (changes.slug.isSome → (changes.apply old).slug.text ∉ RESERVED_SLUGS) ∧
      s.categoryTaken (changes.apply old) = false ∧ next.types = s.types ∧
      next.categories = s.categories.map (fun row => if row.id = old.id then changes.apply old else row) ∧
      next.listings = s.listings ∧ ((changes.apply old).slug = old.slug → next.redirects = s.redirects) ∧
      ((changes.apply old).slug ≠ old.slug → s.multi = false →
        (∀ row ∈ s.redirects, row.oldPrefix ≠ '/' :: old.slug.text) →
        next.redirects = s.redirects ++ [⟨'/' :: old.slug.text,'/' :: (changes.apply old).slug.text⟩]) := by
  unfold updateCategory at updated
  obtain ⟨old,found,rest⟩ := Fallible.bind_exact.mp updated
  obtain ⟨t,_,rest⟩ := Fallible.bind_exact.mp rest
  obtain ⟨_,unreserved,rest⟩ := Fallible.bind_exact.mp rest
  obtain ⟨saved,save,rest⟩ := Fallible.bind_exact.mp rest
  obtain ⟨redirected,written,rest⟩ := Fallible.bind_exact.mp rest
  cases rest
  obtain ⟨free,stored⟩ := saveCategory_exact save
  subst stored
  refine ⟨old,(find_exact found).1,(find_exact found).2,?_,free,?_⟩
  · intro given
    have checked := refuseIf_exact.mp unreserved
    simpa [given] using checked
  · split at written
    · next moved =>
        have rows := updateOrCreateRedirect_rows written
        have kept : redirected.types = s.types ∧ redirected.listings = s.listings ∧ redirected.categories =
            s.categories.map fun row => if row.id = old.id then changes.apply old else row := by
          rw [rows]
          exact ⟨rfl,rfl,rfl⟩
        refine ⟨by simp [kept],by simp [kept],by simp [kept],?_,?_⟩
        · intro same
          exact absurd same moved.2
        · intro _ alone fresh
          have above : categoryUrlPrefix {s with categories := s.categories.map fun row =>
              if row.id = (changes.apply old).id then changes.apply old else row} t = [] := by
            have single : s.multi = false := alone
            simp only [Site.multi] at single
            simp [categoryUrlPrefix,Site.multi,single]
          rw [above] at written
          have appended := updateOrCreateRedirect_exact written fresh
          rw [emitSettingsChange_redirects,queueReindex_redirects,appended]
          rfl
    · next stayed =>
        cases written
        refine ⟨queueReindex_types,queueReindex_categories,queueReindex_listings,fun _ => queueReindex_redirects,?_⟩
        intro moved
        have given : changes.slug.isSome = true := by
          cases slug : changes.slug with
          | none => exact absurd (by simp [CategoryChanges.apply,slug]) moved
          | some slug => rfl
        exact absurd ⟨given,moved⟩ stayed

theorem deleteCategory_exact (deleted : deleteCategory s operator categoryId = .ok next) :
    ∃ gone : List Nat, next.types = s.types ∧
      next.categories = s.categories.filter (fun c => !gone.contains c.id) ∧
      next.listings = s.listings.map (SiteListing.leave gone) ∧ next.redirects = s.redirects := by
  unfold deleteCategory at deleted
  obtain ⟨c,_,rest⟩ := Fallible.bind_exact.mp deleted
  obtain ⟨t,_,rest⟩ := Fallible.bind_exact.mp rest
  cases rest
  exact ⟨_,rfl,rfl,rfl,rfl⟩

end Osds.Directory

-- A dict as the list of its items, and batches of changes to it.
namespace Dict

section changes
variable {κ : Type u} {α : Type v} [DecidableEq κ] {current : List (κ × α)} {change other : κ × Option α}
  {changes : List (κ × Option α)}

def set (current : List (κ × α)) (change : κ × Option α) : List (κ × α) :=
  match change.2 with
  | none => current.filter (·.1 ≠ change.1)
  | some value =>
      if current.any (·.1 = change.1) then current.map fun item => if item.1 = change.1 then (change.1,value) else item
      else current ++ [(change.1,value)]

def Settled (current : List (κ × α)) (change : κ × Option α) : Prop :=
  match change.2 with
  | none => ∀ item ∈ current, item.1 ≠ change.1
  | some value => (∃ item ∈ current, item.1 = change.1) ∧ ∀ item ∈ current, item.1 = change.1 → item.2 = value

theorem set_of_settled (settled : Settled current change) : set current change = current := by
  obtain ⟨key,value⟩ := change
  cases value with
  | none => exact List.filter_eq_self.mpr fun item there => decide_eq_true (settled item there)
  | some value =>
      obtain ⟨⟨held,there,same⟩,only⟩ := settled
      have listed : current.any (·.1 = key) = true := List.any_eq_true.mpr ⟨held,there,decide_eq_true same⟩
      unfold set
      dsimp only
      rw [if_pos listed]
      have alike : ∀ item ∈ current, (if item.1 = key then (key,value) else item) = item := by
        intro item there
        split
        next equal => rw [← only item there equal,← equal]
        next => rfl
      exact (List.map_congr_left alike).trans (List.map_id _)

theorem settled_set (current : List (κ × α)) (change : κ × Option α) : Settled (set current change) change := by
  obtain ⟨key,value⟩ := change
  cases value with
  | none =>
      intro item there
      exact of_decide_eq_true (List.mem_filter.mp there).2
  | some value =>
      unfold set
      dsimp only
      split
      next listed =>
        obtain ⟨held,there,same⟩ := List.any_eq_true.mp listed
        refine ⟨⟨(key,value),List.mem_map.mpr ⟨held,there,if_pos (of_decide_eq_true same)⟩,rfl⟩,?_⟩
        intro item there equal
        obtain ⟨old,_,rfl⟩ := List.mem_map.mp there
        split at equal
        next replaced => rw [if_pos replaced]
        next kept => exact absurd equal kept
      next absent =>
        refine ⟨⟨(key,value),List.mem_append_right _ (List.mem_singleton_self _),rfl⟩,?_⟩
        intro item there equal
        rcases List.mem_append.mp there with old | new
        · exact absurd (List.any_eq_true.mpr ⟨item,old,decide_eq_true equal⟩) absent
        · rw [List.mem_singleton.mp new]

theorem mem_set (apart : key ≠ change.1) {value : α} : (key,value) ∈ set current change ↔ (key,value) ∈ current := by
  obtain ⟨changed,new⟩ := change
  cases new with
  | none => exact ⟨fun there => (List.mem_filter.mp there).1,fun there => List.mem_filter.mpr ⟨there,decide_eq_true apart⟩⟩
  | some new =>
      unfold set
      dsimp only
      split
      · constructor
        · intro there
          obtain ⟨old,was,equal⟩ := List.mem_map.mp there
          split at equal
          next => exact absurd (Prod.mk.inj equal).1.symm apart
          next => exact equal ▸ was
        · intro there
          exact List.mem_map.mpr ⟨_,there,if_neg apart⟩
      · rw [List.mem_append,List.mem_singleton,Prod.mk.injEq]
        exact or_iff_left fun equal => apart equal.1

theorem settled_other (apart : change.1 ≠ other.1) (settled : Settled current change) : Settled (set current other) change := by
  obtain ⟨key,value⟩ := change
  cases value with
  | none =>
      intro item there equal
      exact settled item ((mem_set (equal ▸ apart)).mp there) equal
  | some value =>
      obtain ⟨⟨held,there,same⟩,only⟩ := settled
      exact ⟨⟨held,(mem_set (same ▸ apart)).mpr there,same⟩,
        fun item there equal => only item ((mem_set (equal ▸ apart)).mp there) equal⟩

theorem fold_of_settled (settled : ∀ change ∈ changes, Settled current change) : changes.foldl set current = current := by
  induction changes with
  | nil => rfl
  | cons change rest ih =>
      rw [List.foldl_cons,set_of_settled (settled change List.mem_cons_self)]
      exact ih fun other there => settled other (List.mem_cons_of_mem _ there)

theorem fold_settled (settled : Settled current change) (apart : change.1 ∉ changes.map Prod.fst) :
    Settled (changes.foldl set current) change := by
  induction changes generalizing current with
  | nil => exact settled
  | cons other rest ih =>
      rw [List.map_cons,List.mem_cons,not_or] at apart
      exact ih (settled_other apart.1 settled) apart.2

theorem settled_fold (distinct : (changes.map Prod.fst).Nodup) :
    ∀ change ∈ changes, Settled (changes.foldl set current) change := by
  induction changes generalizing current with
  | nil => exact nofun
  | cons first rest ih =>
      rw [List.map_cons,List.nodup_cons] at distinct
      intro change there
      rw [List.foldl_cons]
      rcases List.mem_cons.mp there with same | later
      · subst same
        exact fold_settled (settled_set current change) distinct.1
      · exact ih distinct.2 change later

theorem lookup_cons (item : κ × α) (rest : List (κ × α)) (key : κ) :
    (item :: rest).lookup key = if key = item.1 then some item.2 else rest.lookup key := by
  rw [List.lookup_cons]
  by_cases same : key = item.1
  · rw [if_pos same,same,beq_self_eq_true]
  · rw [if_neg same,beq_eq_false_iff_ne.mpr same]

theorem lookup_replaced (current : List (κ × α)) (changed key : κ) (value : α) :
    (current.map fun item => if item.1 = changed then (changed,value) else item).lookup key =
      if key = changed ∧ current.any (·.1 = changed) then some value else current.lookup key := by
  induction current with
  | nil => exact (if_neg fun listed => nomatch listed.2).symm
  | cons item rest ih =>
      rw [List.map_cons,lookup_cons,lookup_cons,ih,List.any_cons]
      by_cases here : item.1 = changed
      · rw [if_pos here,here,decide_eq_true rfl,Bool.true_or]
        by_cases same : key = changed
        · rw [if_pos same,if_pos ⟨same,rfl⟩]
        · rw [if_neg same,if_neg fun both => same both.1,if_neg fun both => same both.1,if_neg same]
      · rw [if_neg here,decide_eq_false here,Bool.false_or]
        by_cases same : key = item.1
        · rw [if_pos same,if_pos same,if_neg fun both => here (same.symm.trans both.1)]
        · rw [if_neg same,if_neg same]

theorem lookup_set (current : List (κ × α)) (change : κ × Option α) (key : κ) :
    (set current change).lookup key = if key = change.1 then change.2 else current.lookup key := by
  obtain ⟨changed,value⟩ := change
  cases value with
  | none =>
      unfold set
      dsimp only
      induction current with
      | nil => split <;> rfl
      | cons item rest ih =>
          by_cases gone : item.1 = changed
          · rw [List.filter_cons_of_neg (by simpa using gone),ih,lookup_cons]
            split
            · rfl
            · next other => rw [if_neg fun same => other (same.trans gone)]
          · rw [List.filter_cons_of_pos (by simpa using gone),lookup_cons,lookup_cons,ih]
            split
            · next same => rw [if_neg fun equal => gone (same.symm.trans equal)]
            · rfl
  | some value =>
      unfold set
      dsimp only
      split
      next listed =>
        rw [lookup_replaced,listed]
        by_cases same : key = changed
        · rw [if_pos ⟨same,rfl⟩,if_pos same]
        · rw [if_neg fun both => same both.1,if_neg same]
      next absent =>
        induction current with
        | nil => exact lookup_cons (changed,value) [] key
        | cons item rest ih =>
            rw [List.any_cons,Bool.or_eq_true,not_or] at absent
            have apart : item.1 ≠ changed := fun same => absent.1 (decide_eq_true same)
            rw [List.cons_append,lookup_cons,lookup_cons,ih absent.2]
            split
            · next same => rw [if_neg fun equal => apart (same.symm.trans equal)]
            · rfl

theorem lookup_fold (changes : List (κ × Option α)) (current : List (κ × α)) (untouched : key ∉ changes.map Prod.fst) :
    (changes.foldl set current).lookup key = current.lookup key := by
  induction changes generalizing current with
  | nil => rfl
  | cons change rest ih =>
      rw [List.map_cons,List.mem_cons,not_or] at untouched
      rw [List.foldl_cons,ih _ untouched.2,lookup_set,if_neg untouched.1]

theorem mem_of_set {item : κ × α} (there : item ∈ set current change) : item ∈ current ∨ change = (item.1,some item.2) := by
  obtain ⟨key,value⟩ := change
  cases value with
  | none => exact .inl (List.mem_filter.mp there).1
  | some value =>
      unfold set at there
      dsimp only at there
      split at there
      · obtain ⟨old,was,same⟩ := List.mem_map.mp there
        split at same
        · exact .inr (by rw [← same])
        · exact .inl (same ▸ was)
      · rcases List.mem_append.mp there with old | new
        · exact .inl old
        · exact .inr (by rw [List.mem_singleton.mp new])

theorem mem_of_fold {item : κ × α} (there : item ∈ changes.foldl set current) :
    item ∈ current ∨ (item.1,some item.2) ∈ changes := by
  induction changes generalizing current with
  | nil => exact .inl there
  | cons change rest ih =>
      rcases ih there with earlier | later
      · rcases mem_of_set earlier with old | new
        · exact .inl old
        · exact .inr (new ▸ List.mem_cons_self)
      · exact .inr (List.mem_cons_of_mem _ later)

-- A batch that names no key twice does all it can the first time.
theorem fold_twice (distinct : (changes.map Prod.fst).Nodup) :
    changes.foldl set (changes.foldl set current) = changes.foldl set current :=
  fold_of_settled (settled_fold distinct)

end changes

section reading
variable {κ : Type u} {α : Type v} [BEq κ] [LawfulBEq κ] {name : κ} {a : α}

theorem lookup_distinct {fields : List (κ × α)} (distinct : (fields.map Prod.fst).Nodup) (listed : (name,a) ∈ fields) :
    fields.lookup name = some a := by
  induction fields with
  | nil => cases listed
  | cons field rest ih =>
      obtain ⟨key,b⟩ := field
      rw [List.map_cons,List.nodup_cons] at distinct
      rw [List.lookup_cons]
      rcases List.mem_cons.mp listed with same | later
      · cases same
        rw [beq_self_eq_true]
      · have apart : (name == key) = false := by
          rw [beq_eq_false_iff_ne]
          intro same
          subst same
          exact distinct.1 (List.mem_map.mpr ⟨_,later,rfl⟩)
        rw [apart]
        exact ih distinct.2 later

theorem lookup_mem {fields : List (κ × α)} (found : fields.lookup name = some a) : (name,a) ∈ fields := by
  obtain ⟨before,after,same,_⟩ := List.lookup_eq_some_iff.mp found
  rw [same]
  exact List.mem_append_right _ List.mem_cons_self

end reading

section values
variable {κ : Type u} {α : Type v} {β : Type w} [DecidableEq κ]

def mapValues (f : α → β) (current : List (κ × α)) : List (κ × β) := current.map fun item => (item.1,f item.2)

theorem lookup_mapValues (f : α → β) (current : List (κ × α)) (key : κ) :
    (mapValues f current).lookup key = (current.lookup key).map f := by
  induction current with
  | nil => rfl
  | cons item rest ih =>
      unfold mapValues at ih ⊢
      rw [List.map_cons,List.lookup_cons,List.lookup_cons,ih]
      split <;> rfl

theorem mapValues_set (f : α → β) (current : List (κ × α)) (change : κ × Option α) :
    mapValues f (set current change) = set (mapValues f current) (change.1,change.2.map f) := by
  obtain ⟨key,value⟩ := change
  cases value with
  | none =>
      unfold mapValues set
      dsimp only [Option.map_none]
      rw [List.filter_map]
      rfl
  | some value =>
      have listed : (mapValues f current).any (·.1 = key) = current.any (·.1 = key) := by
        unfold mapValues
        rw [List.any_map]
        rfl
      unfold set
      dsimp only [Option.map_some]
      rw [listed]
      split
      · unfold mapValues
        rw [List.map_map,List.map_map]
        refine List.map_congr_left ?_
        intro item _
        dsimp only [Function.comp]
        split <;> rfl
      · exact List.map_append

theorem mapValues_fold (f : α → β) (changes : List (κ × Option α)) (current : List (κ × α)) :
    mapValues f (changes.foldl set current) =
      (changes.map fun change => (change.1,change.2.map f)).foldl set (mapValues f current) := by
  induction changes generalizing current with
  | nil => rfl
  | cons change rest ih =>
      rw [List.foldl_cons,ih,mapValues_set]
      rfl

end values

end Dict

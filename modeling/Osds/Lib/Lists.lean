import Mathlib.Data.List.Nodup
import Mathlib.Data.List.Perm.Subperm
import Mathlib.Data.Int.Order.Basic

-- Lists of rows of which only one has a property, and of records that each hold
-- a list of their own.
namespace Lists

theorem filter_at_most_one {α : Type} {xs : List α} {q : α → Bool} (apart : xs.Pairwise fun x y => ¬(q x ∧ q y)) :
    (xs.filter q).length ≤ 1 := by
  have both := apart.filter q
  match kept : xs.filter q with
  | [] => exact Nat.zero_le _
  | [_] => exact Nat.le_refl _
  | x :: y :: rest =>
      rw [kept] at both
      have first : x ∈ xs.filter q := kept ▸ List.mem_cons_self ..
      have second : y ∈ xs.filter q := kept ▸ List.mem_cons_of_mem _ (List.mem_cons_self ..)
      have differ := (List.pairwise_cons.mp both).1 y (List.mem_cons_self ..)
      exact absurd ⟨(List.mem_filter.mp first).2,(List.mem_filter.mp second).2⟩ differ

theorem filter_none {α : Type} (xs : List α) {q : α → Bool} (none_ : ∀ x ∈ xs, q x = false) : xs.filter q = [] :=
  List.filter_eq_nil_iff.mpr fun x there => by rw [none_ x there]; decide

theorem filter_map_fixed {α : Type} {xs : List α} {f : α → α} {q : α → Bool} (same : ∀ x ∈ xs, q (f x) = q x)
    (fixed : ∀ x ∈ xs, q x = true → f x = x) : (xs.map f).filter q = xs.filter q := by
  rw [List.filter_map,List.filter_congr (p := q ∘ f) same]
  refine (List.map_congr_left fun x there => ?_).trans (List.map_id' _)
  obtain ⟨listed,kept⟩ := List.mem_filter.mp there
  exact fixed x listed kept

theorem filter_filter_out {α : Type} {xs : List α} {keep q : α → Bool} (out : ∀ x ∈ xs, q x = true → keep x = true) :
    (xs.filter keep).filter q = xs.filter q := by
  rw [List.filter_filter]
  refine List.filter_congr fun x there => ?_
  cases known : q x with
  | true => rw [out x there known]; rfl
  | false => rfl

theorem kept_append {α : Type} {xs : List α} {q : α → Bool} {x : α} (kept : q x = true)
    (before : (xs.filter q).length = n) : ((xs ++ [x]).filter q).length = n + 1 := by
  rw [List.filter_append,List.filter_cons_of_pos kept,List.filter_nil,List.length_append,before]
  rfl

theorem dropped_append {α : Type} {xs : List α} {q : α → Bool} {x : α} (dropped : q x = false)
    (before : (xs.filter q).length = n) : ((xs ++ [x]).filter q).length = n := by
  rw [List.filter_append,filter_none [x],List.append_nil,before]
  intro y there
  rw [List.mem_singleton.mp there,dropped]

theorem set_there {α : Type} {xs : List α} {x : α} (x' : α) (there : xs[i]? = some x) : (xs.set i x')[i]? = some x' := by
  obtain ⟨below,_⟩ := List.getElem?_eq_some_iff.mp there
  rw [List.getElem?_set_self below]

theorem flatMap_set {α β : Type} {f : α → List β} {xs : List α} {x x' : α} {y : β} (there : xs[i]? = some x)
    (grown : f x' = f x ++ [y]) : ((xs.set i x').flatMap f).Perm (y :: xs.flatMap f) := by
  induction xs generalizing i with
  | nil => cases there
  | cons a rest ih =>
      cases i with
      | zero =>
          cases there
          rw [List.set_cons_zero,List.flatMap_cons,List.flatMap_cons,grown,List.append_assoc]
          exact List.perm_middle
      | succ i =>
          rw [List.set_cons_succ,List.flatMap_cons,List.flatMap_cons]
          exact ((ih there).append_left (f a)).trans List.perm_middle

theorem flatMap_kept {α β : Type} {f : α → List β} {xs : List α} {x x' : α} (there : xs[i]? = some x)
    (same : f x' = f x) : (xs.set i x').flatMap f = xs.flatMap f := by
  induction xs generalizing i with
  | nil => cases there
  | cons a rest ih =>
      cases i with
      | zero =>
          cases there
          rw [List.set_cons_zero,List.flatMap_cons,List.flatMap_cons,same]
      | succ i => rw [List.set_cons_succ,List.flatMap_cons,List.flatMap_cons,ih there]

theorem flatMap_apart {α β : Type} {f : α → List β} {xs : List α} {i j : Nat} {x x' : α} {y : β} (nodup : (xs.flatMap f).Nodup)
    (first : xs[i]? = some x) (second : xs[j]? = some x') (here : y ∈ f x) (there : y ∈ f x') : i = j := by
  have apart := List.pairwise_iff_getElem.mp (List.nodup_flatMap.mp nodup).2
  obtain ⟨below,rfl⟩ := List.getElem?_eq_some_iff.mp first
  obtain ⟨beside,rfl⟩ := List.getElem?_eq_some_iff.mp second
  rcases Nat.lt_trichotomy i j with less | equal | more
  · exact (apart i j below beside less here there).elim
  · exact equal
  · exact (apart j i beside below more there here).elim

theorem countP_less {α : Type} {xs : List α} {p q : α → Bool} {y : α} (weaker : ∀ x ∈ xs, q x → p x) (there : y ∈ xs)
    (had : p y) (lost : ¬q y) : xs.countP q < xs.countP p := by
  obtain ⟨before,after,split⟩ := List.append_of_mem there
  subst split
  have left := List.countP_mono_left (fun x present => weaker x (List.mem_append_left _ present))
  have right := List.countP_mono_left (fun x present => weaker x (List.mem_append_right _ (List.mem_cons_of_mem _ present)))
  rw [List.countP_append,List.countP_append,List.countP_cons_of_neg lost,List.countP_cons_of_pos had]
  omega

theorem max_of_sorted {xs ys : List Int} (sorted : xs.Pairwise (· ≤ ·)) (same : xs.Perm ys) : ys.max? = xs.getLast? := by
  rcases List.eq_nil_or_concat' xs with rfl | ⟨before,x,rfl⟩
  · rw [List.nil_perm.mp same]
    rfl
  · rw [List.getLast?_concat,List.max?_eq_some_iff]
    refine ⟨same.mem_iff.mp (List.mem_append_right _ (List.mem_singleton_self _)),?_⟩
    intro y there
    rcases List.mem_append.mp (same.mem_iff.mpr there) with earlier | last
    · exact (List.pairwise_append.mp sorted).2.2 y earlier x (List.mem_singleton_self _)
    · rw [List.mem_singleton.mp last]

theorem nodup_bounded {xs : List Nat} (nodup : xs.Nodup) (bounded : ∀ n ∈ xs, 1 ≤ n ∧ n ≤ limit) : xs.length ≤ limit := by
  have inside : xs ⊆ List.range' 1 limit := fun n there => List.mem_range'_1.mpr (by have := bounded n there; omega)
  have short := (List.subperm_of_subset nodup inside).length_le
  rw [List.length_range'] at short
  exact short

theorem split_concat {α : Type} {xs before after : List α} {x y : α} (split : xs ++ [x] = before ++ y :: after) :
    (before = xs ∧ y = x ∧ after = []) ∨ ∃ others, after = others ++ [x] ∧ xs = before ++ y :: others := by
  rcases List.eq_nil_or_concat' after with rfl | ⟨others,final,rfl⟩
  · obtain ⟨same,last⟩ := List.append_inj' split rfl
    exact .inl ⟨same.symm,(List.singleton_inj.mp last).symm,rfl⟩
  · have regrouped : xs ++ [x] = (before ++ y :: others) ++ [final] := by simpa using split
    obtain ⟨same,last⟩ := List.append_inj' regrouped rfl
    exact .inr ⟨others,by rw [List.singleton_inj.mp last],same⟩

theorem mapIdx_map {α β γ : Type} (items : List α) (f : α → β) (g : Nat → β → γ) :
    (items.map f).mapIdx g = items.mapIdx fun n item => g n (f item) := by
  simp [List.mapIdx_eq_zipIdx_map,List.zipIdx_map,Function.comp_def]

theorem map_mapIdx {α β γ : Type} (items : List α) (g : Nat → α → β) (h : β → γ) :
    (items.mapIdx g).map h = items.mapIdx fun n item => h (g n item) := by
  simp [List.mapIdx_eq_zipIdx_map,Function.comp_def]

end Lists

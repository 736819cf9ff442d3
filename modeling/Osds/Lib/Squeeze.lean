import Osds.Lib.Text
import Mathlib.Algebra.GroupWithZero.Nat
import Mathlib.Data.List.Forall2

-- Texts with their blanks squeezed, and such texts joined.
namespace Squeeze
open Text

def isSolid (c : Char) : Bool := !isBlank c

def collapse : Bool → List Char → List Char
  | _,[] => []
  | past,c :: rest => if isBlank c then (if past then collapse true rest else ' ' :: collapse true rest) else c :: collapse false rest

def squeeze (text : String) : String := strip (String.ofList (collapse false text.toList))

section blanks

variable {cs ds : List Char}

theorem collapse_blank_cons (rest : List Char) (past : Bool) (blank : isBlank c = true) :
    collapse past (c :: rest) = if past then collapse true rest else ' ' :: collapse true rest := if_pos blank

theorem collapse_solid_cons (rest : List Char) (past : Bool) (solid : ¬isBlank c = true) :
    collapse past (c :: rest) = c :: collapse false rest := if_neg solid

theorem dropWhile_blank (blank : ∀ c ∈ cs, isBlank c = true) : (cs ++ ds).dropWhile isBlank = ds.dropWhile isBlank := by
  induction cs with
  | nil => rfl
  | cons c rest ih =>
      rw [List.cons_append,List.dropWhile_cons_of_pos (blank c (List.mem_cons_self ..))]
      exact ih fun c there => blank c (List.mem_cons_of_mem _ there)

theorem dropWhile_all (blank : ∀ c ∈ cs, isBlank c = true) : cs.dropWhile isBlank = [] := by
  rw [← List.append_nil cs]
  exact dropWhile_blank blank

theorem dropWhile_solid (solid : ∃ c ∈ cs, isBlank c = false) : (cs ++ ds).dropWhile isBlank = cs.dropWhile isBlank ++ ds := by
  induction cs with
  | nil =>
      obtain ⟨c,there,_⟩ := solid
      cases there
  | cons c rest ih =>
      by_cases blank : isBlank c = true
      · rw [List.cons_append,List.dropWhile_cons_of_pos blank,List.dropWhile_cons_of_pos blank]
        obtain ⟨d,there,dark⟩ := solid
        rcases List.mem_cons.mp there with rfl | later
        · rw [blank] at dark
          cases dark
        · exact ih ⟨d,later,dark⟩
      · rw [List.cons_append,List.dropWhile_cons_of_neg blank,List.dropWhile_cons_of_neg blank,List.cons_append]

theorem dropEnd_blank (blank : ∀ c ∈ ds, isBlank c = true) : dropEnd (cs ++ ds) = dropEnd cs := by
  unfold dropEnd
  rw [List.reverse_append,dropWhile_blank fun c there => blank c (List.mem_reverse.mp there)]

theorem collapse_dropWhile (past : Bool) : (collapse past cs).dropWhile isBlank = collapse false (cs.dropWhile isBlank) := by
  induction cs generalizing past with
  | nil => rfl
  | cons c rest ih =>
      by_cases blank : isBlank c = true
      · rw [collapse_blank_cons rest past blank,List.dropWhile_cons_of_pos blank]
        cases past with
        | true => exact ih true
        | false =>
            rw [if_neg Bool.false_ne_true,List.dropWhile_cons_of_pos (by decide)]
            exact ih true
      · rw [collapse_solid_cons rest past blank,List.dropWhile_cons_of_neg blank,List.dropWhile_cons_of_neg blank,
          collapse_solid_cons rest false blank]

theorem collapse_blank (blank : ∀ c ∈ cs, isBlank c = true) (past : Bool) : ∀ c ∈ collapse past cs, isBlank c = true := by
  induction cs generalizing past with
  | nil => exact List.forall_mem_nil _
  | cons c rest ih =>
      have later := ih fun c there => blank c (List.mem_cons_of_mem _ there)
      rw [collapse_blank_cons rest past (blank c (List.mem_cons_self ..))]
      cases past with
      | true => exact later true
      | false => exact List.forall_mem_cons.mpr ⟨by decide,later true⟩

theorem collapse_append (blank : ∀ c ∈ ds, isBlank c = true) (past : Bool) :
    ∃ tail, (∀ c ∈ tail, isBlank c = true) ∧ collapse past (cs ++ ds) = collapse past cs ++ tail := by
  induction cs generalizing past with
  | nil => exact ⟨collapse past ds,collapse_blank blank past,rfl⟩
  | cons c rest ih =>
      rw [List.cons_append]
      by_cases blank' : isBlank c = true
      · obtain ⟨tail,after,whole⟩ := ih true
        refine ⟨tail,after,?_⟩
        rw [collapse_blank_cons _ past blank',collapse_blank_cons _ past blank',whole]
        cases past <;> rfl
      · obtain ⟨tail,after,whole⟩ := ih false
        refine ⟨tail,after,?_⟩
        rw [collapse_solid_cons _ past blank',collapse_solid_cons _ past blank',whole,List.cons_append]

theorem squeeze_exact (text : String) : (squeeze text).toList = dropEnd (collapse false (text.toList.dropWhile isBlank)) := by
  unfold squeeze strip
  rw [String.toList_ofList,String.toList_ofList,collapse_dropWhile]

theorem squeeze_around {before text after : String} (front : ∀ c ∈ before.toList, isBlank c = true)
    (back : ∀ c ∈ after.toList, isBlank c = true) : squeeze (before ++ text ++ after) = squeeze text := by
  apply String.toList_inj.mp
  rw [squeeze_exact,squeeze_exact,String.toList_append,String.toList_append,List.append_assoc,dropWhile_blank front]
  by_cases solid : ∃ c ∈ text.toList, isBlank c = false
  · rw [dropWhile_solid solid]
    obtain ⟨tail,blank,whole⟩ := collapse_append back false
    rw [whole,dropEnd_blank blank]
  · have all : ∀ c ∈ text.toList, isBlank c = true := by
      intro c there
      cases dark : isBlank c with
      | true => rfl
      | false => exact absurd ⟨c,there,dark⟩ solid
    rw [dropWhile_blank all,dropWhile_all all,dropWhile_all back]

theorem collapse_solid (past : Bool) : (collapse past cs).filter isSolid = cs.filter isSolid := by
  have space : ¬isSolid ' ' = true := by decide
  induction cs generalizing past with
  | nil => rfl
  | cons c rest ih =>
      by_cases blank : isBlank c = true
      · have dark : ¬isSolid c = true := by
          unfold isSolid
          rw [blank]
          decide
        rw [collapse_blank_cons rest past blank,List.filter_cons_of_neg dark]
        cases past with
        | true => exact ih true
        | false =>
            rw [if_neg Bool.false_ne_true,List.filter_cons_of_neg space]
            exact ih true
      · rw [collapse_solid_cons rest past blank,List.filter_cons,List.filter_cons,ih false]

theorem dropWhile_kept : (cs.dropWhile isBlank).filter isSolid = cs.filter isSolid := by
  induction cs with
  | nil => rfl
  | cons c rest ih =>
      by_cases blank : isBlank c = true
      · have dark : ¬isSolid c = true := by
          unfold isSolid
          rw [blank]
          decide
        rw [List.dropWhile_cons_of_pos blank,List.filter_cons_of_neg dark]
        exact ih
      · rw [List.dropWhile_cons_of_neg blank]

theorem dropEnd_kept : (dropEnd cs).filter isSolid = cs.filter isSolid := by
  unfold dropEnd
  rw [List.filter_reverse,dropWhile_kept,List.filter_reverse,List.reverse_reverse]

theorem squeeze_kept (text : String) : (squeeze text).toList.filter isSolid = text.toList.filter isSolid := by
  rw [squeeze_exact,dropEnd_kept,collapse_solid,dropWhile_kept]

theorem collapse_spaces (past : Bool) : ∀ c ∈ collapse past cs, isBlank c = true → c = ' ' := by
  induction cs generalizing past with
  | nil => exact List.forall_mem_nil _
  | cons c rest ih =>
      by_cases blank : isBlank c = true
      · rw [collapse_blank_cons rest past blank]
        cases past with
        | true => exact ih true
        | false => exact List.forall_mem_cons.mpr ⟨fun _ => rfl,ih true⟩
      · rw [collapse_solid_cons rest past blank]
        exact List.forall_mem_cons.mpr ⟨fun dark => absurd dark blank,ih false⟩

theorem squeeze_spaces (text : String) : ∀ c ∈ (squeeze text).toList, isBlank c = true → c = ' ' := by
  rw [squeeze_exact]
  exact fun c there => collapse_spaces false c ((dropEnd_start _).subset there)

theorem squeeze_count {text text' : String} {mark : Char} (solid : isSolid mark = true)
    (same : text.toList.count mark = text'.toList.count mark) : (squeeze text).toList.count mark = (squeeze text').toList.count mark := by
  have kept : ∀ text : String, (squeeze text).toList.count mark = text.toList.count mark := by
    intro text
    rw [← List.count_filter solid,squeeze_kept,List.count_filter solid]
  rw [kept,kept,same]

theorem squeeze_solid {text : String} (solid : ∃ c ∈ text.toList, isBlank c = false) : squeeze text ≠ "" := by
  obtain ⟨c,there,dark⟩ := solid
  intro nothing
  have kept := squeeze_kept text
  rw [nothing] at kept
  have mine : c ∈ text.toList.filter isSolid := List.mem_filter.mpr ⟨there,by unfold isSolid; rw [dark]; rfl⟩
  rw [← kept] at mine
  cases mine

end blanks

section joined

variable {xs ys : List String}

def isShown (part : String) : Bool := part ≠ ""

def joinParts (parts : List String) : String := ", ".intercalate (parts.filter isShown)

def commas (text : String) : Nat := text.toList.count ','

-- The commas of a part, and the one that sets it off.
def weight (text : String) : Nat := if text = "" then 0 else commas text + 1

theorem commas_append (left right : String) : commas (left ++ right) = commas left + commas right := by
  unfold commas
  rw [String.toList_append,List.count_append]

theorem join_weight (parts : List String) : weight (joinParts parts) = (parts.map weight).sum := by
  unfold joinParts
  induction parts with
  | nil => rfl
  | cons part rest ih =>
      rw [List.map_cons,List.sum_cons]
      by_cases some_ : isShown part = true
      · have solid := of_decide_eq_true some_
        rw [List.filter_cons_of_pos some_]
        cases left : rest.filter isShown with
        | nil =>
            rw [left] at ih
            rw [← ih,String.intercalate_singleton,String.intercalate_nil]
            rfl
        | cons second others =>
            rw [left] at ih
            have later : (", ".intercalate (second :: others)) ≠ "" := by
              intro nothing
              have there : second ∈ rest.filter isShown := left ▸ List.mem_cons_self ..
              have none_ : second = "" := by
                cases others with
                | nil => exact (String.intercalate_singleton).symm.trans nothing
                | cons third more =>
                    rw [String.intercalate_cons_cons] at nothing
                    exact (String.append_eq_empty_iff.mp (String.append_eq_empty_iff.mp nothing).1).1
              exact of_decide_eq_true (List.mem_filter.mp there).2 none_
            rw [← ih,String.intercalate_cons_cons]
            unfold weight
            have whole : part ++ ", " ++ ", ".intercalate (second :: others) ≠ "" :=
              fun nothing => later (String.append_eq_empty_iff.mp nothing).2
            rw [if_neg whole,if_neg solid,if_neg later,commas_append,commas_append]
            have one : commas ", " = 1 := rfl
            omega
      · rw [List.filter_cons_of_neg some_,ih]
        have none_ : weight part = 0 := if_pos (Decidable.byContradiction fun solid => some_ (decide_eq_true solid))
        rw [none_,Nat.zero_add]

theorem weight_less (less : List.Forall₂ (fun x y => y = x ∨ y = "") xs ys) :
    (ys.map weight).sum ≤ (xs.map weight).sum ∧ ((ys.map weight).sum = (xs.map weight).sum → ys = xs) := by
  induction less with
  | nil => exact ⟨Nat.le_refl _,fun _ => rfl⟩
  | @cons x y _ _ one rest ih =>
      obtain ⟨below,same⟩ := ih
      rw [List.map_cons,List.map_cons,List.sum_cons,List.sum_cons]
      by_cases kept : y = x
      · rw [kept]
        exact ⟨by omega,fun equal => by rw [same (by omega)]⟩
      · have blank := one.resolve_left kept
        have none_ : weight y = 0 := if_pos blank
        rw [none_]
        refine ⟨by omega,fun equal => ?_⟩
        have light : weight x = 0 := by omega
        unfold weight at light
        split at light
        · next gone => exact absurd (blank.trans gone.symm) kept
        · cases light

theorem join_last {last last' : String} (some_ : last ≠ "") (some' : last' ≠ "")
    (same : joinParts (xs ++ [last]) = joinParts (xs ++ [last'])) : last = last' := by
  unfold joinParts at same
  have one : [last].filter isShown = [last] := List.filter_cons_of_pos (decide_eq_true some_)
  have other : [last'].filter isShown = [last'] := List.filter_cons_of_pos (decide_eq_true some')
  rw [List.filter_append,List.filter_append,one,other] at same
  by_cases first : xs.filter isShown = []
  · rw [first,List.nil_append,List.nil_append,String.intercalate_singleton,String.intercalate_singleton] at same
    exact same
  · rw [String.intercalate_append_of_ne_nil first (List.cons_ne_nil _ _),String.intercalate_append_of_ne_nil first (List.cons_ne_nil _ _),
      String.intercalate_singleton,String.intercalate_singleton] at same
    exact String.append_right_inj _ |>.mp same

theorem join_exact {last last' : String} (less : List.Forall₂ (fun x y => y = x ∨ y = "") xs ys)
    (lighter : last' = "" ∨ last ≠ "" ∧ commas last' = commas last) :
    joinParts (xs ++ [last]) = joinParts (ys ++ [last']) ↔ ys = xs ∧ last' = last := by
  constructor
  · intro same
    have heavy := (join_weight (xs ++ [last])).symm.trans ((congrArg weight same).trans (join_weight (ys ++ [last'])))
    rw [List.map_append,List.map_append,List.sum_append,List.sum_append,List.map_singleton,List.map_singleton,List.sum_singleton,
      List.sum_singleton] at heavy
    obtain ⟨below,equal⟩ := weight_less less
    have lasts : weight last' ≤ weight last ∧ (weight last' = weight last → last' = "" → last = "") := by
      unfold weight
      rcases lighter with none_ | ⟨some_,marks⟩
      · rw [if_pos none_]
        refine ⟨Nat.zero_le _,fun level _ => ?_⟩
        split at level
        · next blank => exact blank
        · cases level
      · rw [if_neg some_,marks]
        refine ⟨by split <;> omega,fun level none_ => ?_⟩
        rw [if_pos none_] at level
        cases level
    have first := equal (by omega)
    refine ⟨first,?_⟩
    by_cases gone : last' = ""
    · rw [gone,lasts.2 (by omega) gone]
    · rw [first] at same
      exact (join_last (lighter.resolve_left gone).1 gone same).symm
  · intro equal
    rw [equal.1,equal.2]

end joined

section marked

variable {mark : Char} {xs ys : List String}

theorem intercalate_plain {between : String} (apart : mark ∉ between.toList) (plain : ∀ x ∈ xs, mark ∉ x.toList) :
    mark ∉ (between.intercalate xs).toList := by
  induction xs with
  | nil =>
      rw [String.intercalate_nil]
      exact List.not_mem_nil
  | cons x rest ih =>
      have here := plain x (List.mem_cons_self ..)
      have later := ih fun y there => plain y (List.mem_cons_of_mem _ there)
      by_cases one : rest = []
      · rw [one,String.intercalate_singleton]
        exact here
      · rw [String.intercalate_cons_of_ne_nil one,String.toList_append,String.toList_append]
        intro there
        rcases List.mem_append.mp there with front | tail
        · exact (List.mem_append.mp front).elim here apart
        · exact later tail

theorem joinParts_plain (apart : mark ∉ ", ".toList) (plain : ∀ x ∈ xs, mark ∉ x.toList) : mark ∉ (joinParts xs).toList :=
  intercalate_plain apart fun x there => plain x (List.mem_filter.mp there).1

theorem split_marked (plain : ∀ x ∈ xs, mark ∉ x.toList) (some_ : xs ≠ []) :
    ((String.ofList [mark]).intercalate xs).toList.splitOn mark = xs.map String.toList := by
  rw [String.toList_intercalate,String.toList_ofList]
  refine List.splitOn_intercalate mark ?_ fun none_ => some_ (List.map_eq_nil_iff.mp none_)
  intro text there
  obtain ⟨x,mine,rfl⟩ := List.mem_map.mp there
  exact plain x mine

theorem marked_exact (plain : ∀ x ∈ xs, mark ∉ x.toList) (plain' : ∀ y ∈ ys, mark ∉ y.toList) (some_ : xs ≠ []) (some' : ys ≠ []) :
    (String.ofList [mark]).intercalate xs = (String.ofList [mark]).intercalate ys ↔ xs = ys := by
  refine ⟨fun same => ?_,fun same => same ▸ rfl⟩
  have cut := congrArg (fun text => text.toList.splitOn mark) same
  rw [split_marked plain some_,split_marked plain' some'] at cut
  exact List.map_injective_iff.mpr (fun _ _ => String.toList_inj.mp) cut

end marked

end Squeeze

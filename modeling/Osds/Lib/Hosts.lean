import Osds.Lib.Text

namespace Hosts

def stripDots (text : String) : String := String.ofList (text.toList.reverse.dropWhile (· = '.')).reverse

def endsInDot (text : String) : Bool := text.toList.getLast? = some '.'

theorem stripDots_plain {text : String} (plain : endsInDot text = false) : stripDots text = text := by
  unfold endsInDot at plain
  have last := of_decide_eq_false plain
  unfold stripDots
  rw [← List.head?_reverse] at last
  cases reversed : text.toList.reverse with
  | nil => rw [List.dropWhile_nil,← reversed,List.reverse_reverse,String.ofList_toList]
  | cons c rest =>
      rw [reversed] at last
      have stays : (c :: rest).dropWhile (· = '.') = c :: rest :=
        List.dropWhile_cons_of_neg fun dot => last (congrArg some (of_decide_eq_true dot))
      rw [stays,← reversed,List.reverse_reverse,String.ofList_toList]

def afterLast (sep : Char) (text : String) : String := String.ofList (text.toList.reverse.takeWhile (· ≠ sep)).reverse

theorem afterLast_plain (sep : Char) (text : String) : sep ∉ (afterLast sep text).toList := by
  unfold afterLast
  rw [String.toList_ofList,List.mem_reverse]
  intro there
  have differs := List.all_eq_true.mp List.all_takeWhile sep there
  exact absurd rfl (of_decide_eq_true differs)

theorem afterLast_append {sep : Char} {text : String} (there : sep ∈ text.toList) :
    ∃ before, text = before ++ String.ofList [sep] ++ afterLast sep text := by
  have parts := List.takeWhile_append_dropWhile (p := fun c => decide (c ≠ sep)) (l := text.toList.reverse)
  cases rest : text.toList.reverse.dropWhile (fun c => decide (c ≠ sep)) with
  | nil =>
      rw [rest,List.append_nil] at parts
      have mine := List.mem_reverse.mpr there
      rw [← parts] at mine
      exact absurd rfl (of_decide_eq_true (List.all_eq_true.mp List.all_takeWhile sep mine))
  | cons c before =>
      have stops := List.head?_dropWhile_not (fun c => decide (c ≠ sep)) text.toList.reverse
      rw [rest] at stops parts
      have same : c = sep := Decidable.byContradiction fun other => absurd (decide_eq_true other) (Bool.eq_false_iff.mp stops)
      have whole := congrArg List.reverse parts
      rw [List.reverse_reverse,List.reverse_append,List.reverse_cons,same] at whole
      refine ⟨String.ofList before.reverse,String.toList_inj.mp ?_⟩
      unfold afterLast
      rw [String.toList_append,String.toList_append,String.toList_ofList,String.toList_ofList,String.toList_ofList]
      exact whole.symm

theorem afterLast_join {sep : Char} (before : String) {after : String} (plain : sep ∉ after.toList) :
    afterLast sep (before ++ String.ofList [sep] ++ after) = after := by
  have apart : ∀ c ∈ after.toList.reverse, decide (c ≠ sep) = true :=
    fun c there => decide_eq_true fun same => plain (same ▸ List.mem_reverse.mp there)
  have stops : (sep :: before.toList.reverse).takeWhile (· ≠ sep) = [] :=
    List.takeWhile_cons_of_neg fun differs => of_decide_eq_true differs rfl
  unfold afterLast
  rw [String.toList_append,String.toList_append,String.toList_ofList,List.reverse_append,List.reverse_append,
    List.reverse_singleton,List.singleton_append,List.takeWhile_append_of_pos apart,stops,
    List.append_nil,List.reverse_reverse,String.ofList_toList]

-- The hosts above one: its labels but the first, but the first two, and so on.
def parents (host : String) : List String :=
  let labels := Text.split '.' host
  (List.range' 1 (labels.length - 1)).map fun i => ".".intercalate (labels.drop i)

def Subdomain (host domain : String) : Prop := ∃ before, host = before ++ "." ++ domain

theorem join_split (text : String) : ".".intercalate (Text.split '.' text) = text := by
  apply String.toList_inj.mp
  unfold Text.split
  rw [String.toList_intercalate,List.map_map]
  have same : String.toList ∘ String.ofList = id := funext fun _ => String.toList_ofList
  rw [same,List.map_id]
  exact List.intercalate_splitOn '.'

theorem split_ne_nil (text : String) : Text.split '.' text ≠ [] := by
  unfold Text.split
  exact fun nothing => List.splitOn_ne_nil '.' _ (List.map_eq_nil_iff.mp nothing)

theorem mem_parents (host domain : String) : domain ∈ parents host ↔ Subdomain host domain := by
  unfold parents
  rw [List.mem_map]
  constructor
  · intro listed
    obtain ⟨i,within,joined⟩ := listed
    obtain ⟨low,high⟩ := List.mem_range'_1.mp within
    have kept : (Text.split '.' host).take i ≠ [] := by
      intro nothing
      have length := congrArg List.length nothing
      rw [List.length_take,List.length_nil] at length
      omega
    have left : (Text.split '.' host).drop i ≠ [] := by
      intro nothing
      have length := congrArg List.length nothing
      rw [List.length_drop,List.length_nil] at length
      omega
    refine ⟨".".intercalate ((Text.split '.' host).take i),?_⟩
    rw [← joined,← String.intercalate_append_of_ne_nil kept left,List.take_append_drop,join_split]
  · intro below
    obtain ⟨before,equal⟩ := below
    have apart : Text.split '.' host = Text.split '.' before ++ Text.split '.' domain := by
      rw [equal,String.append_assoc]
      exact Text.split_append '.' before domain
    have some_ := List.length_pos_iff.mpr (split_ne_nil before)
    have more := List.length_pos_iff.mpr (split_ne_nil domain)
    refine ⟨(Text.split '.' before).length,List.mem_range'_1.mpr ?_,?_⟩
    · rw [apart,List.length_append]
      omega
    · rw [apart,List.drop_left,join_split]

end Hosts

namespace Text

def blanks : List Nat :=
  [0x09,0x0a,0x0b,0x0c,0x0d,0x1c,0x1d,0x1e,0x1f,0x20,0x85,0xa0,0x1680,0x2000,0x2001,0x2002,0x2003,0x2004,0x2005,
    0x2006,0x2007,0x2008,0x2009,0x200a,0x2028,0x2029,0x202f,0x205f,0x3000]

def isBlank (c : Char) : Bool := c.toNat ∈ blanks

theorem each_listed {cs : List Char} {q : Char → Prop} [DecidablePred q] (all : (cs.all fun c => decide (q c)) = true) :
    ∀ c ∈ cs, q c := fun c there => of_decide_eq_true (List.all_eq_true.mp all c there)

def dropEnd (text : List Char) : List Char := (text.reverse.dropWhile isBlank).reverse

def strip (text : String) : String := String.ofList (dropEnd (text.toList.dropWhile isBlank))

theorem dropWhile_none {blank : Char → Bool} {cs : List Char} (solid : ∀ c ∈ cs, blank c = false) : cs.dropWhile blank = cs := by
  cases cs with
  | nil => rfl
  | cons c rest => exact List.dropWhile_cons_of_neg (by rw [solid c (List.mem_cons_self ..)]; exact Bool.false_ne_true)

theorem strip_solid {text : String} (solid : ∀ c ∈ text.toList, isBlank c = false) : strip text = text := by
  unfold strip dropEnd
  rw [dropWhile_none solid,dropWhile_none fun c there => solid c (List.mem_reverse.mp there),List.reverse_reverse,
    String.ofList_toList]

theorem stripped_head {kept cs : List Char} (start : kept <+: cs.dropWhile isBlank) : kept.dropWhile isBlank = kept := by
  cases kept with
  | nil => rfl
  | cons c rest =>
      obtain ⟨after,equal⟩ := start
      have solid := List.head?_dropWhile_not isBlank cs
      rw [← equal] at solid
      exact List.dropWhile_cons_of_neg (Bool.not_eq_true _ ▸ solid)

theorem dropEnd_start (cs : List Char) : dropEnd cs <+: cs := by
  have suffix := List.dropWhile_suffix (l := cs.reverse) isBlank
  rw [← List.reverse_prefix,List.reverse_reverse] at suffix
  exact suffix

theorem dropEnd_dropEnd (cs : List Char) : dropEnd (dropEnd cs) = dropEnd cs := by
  unfold dropEnd
  rw [List.reverse_reverse,stripped_head (List.prefix_refl _)]

theorem strip_strip (text : String) : strip (strip text) = strip text := by
  unfold strip
  rw [String.toList_ofList,stripped_head (dropEnd_start _),dropEnd_dropEnd]

theorem toLower_chars : String.toLower = fun text => String.ofList (text.toList.map Char.toLower) := by
  funext text
  apply String.toList_inj.mp
  show (String.map Char.toLower text).toList = (String.ofList (text.toList.map Char.toLower)).toList
  rw [String.toList_map,String.toList_ofList]

def split (sep : Char) (text : String) : List String := (text.toList.splitOn sep).map String.ofList

theorem split_append (sep : Char) (left right : String) :
    split sep (left ++ (String.ofList [sep] ++ right)) = split sep left ++ split sep right := by
  unfold split
  rw [String.toList_append,String.toList_append,String.toList_ofList,List.singleton_append,
    List.splitOn_append_cons_self,List.map_append]

def partition (sep : Char) (text : String) : String × Option String :=
  let before := text.toList.takeWhile (· ≠ sep)
  (String.ofList before,match text.toList.drop before.length with
    | [] => none
    | _ :: after => some (String.ofList after))

theorem split_plain {sep : Char} {text : String} (plain : sep ∉ text.toList) : split sep text = [text] := by
  unfold split
  rw [List.splitOn_eq_singleton plain]
  exact congrArg (fun t => [t]) String.ofList_toList

theorem partition_append {sep : Char} {left : String} (plain : sep ∉ left.toList) (right : String) :
    partition sep (left ++ (String.ofList [sep] ++ right)) = (left,some right) := by
  have before : (left.toList ++ sep :: right.toList).takeWhile (· ≠ sep) = left.toList := by
    have apart : ∀ c ∈ left.toList, decide (c ≠ sep) = true := fun c there => decide_eq_true fun equal => plain (equal ▸ there)
    have cut : (sep :: right.toList).takeWhile (· ≠ sep) = [] := by simp
    rw [List.takeWhile_append_of_pos apart,cut,List.append_nil]
  unfold partition
  rw [String.toList_append,String.toList_append,String.toList_ofList,List.singleton_append,before]
  dsimp only
  rw [List.drop_left,String.ofList_toList]
  exact congrArg (fun t => (left,some t)) String.ofList_toList

def ascii (text : String) : Bool := text.toList.all fun c => c.toNat < 128

def utf8 (text : String) : List UInt8 := text.toList.flatMap String.utf8EncodeChar

theorem utf8_append (left right : String) : utf8 (left ++ right) = utf8 left ++ utf8 right := by
  unfold utf8
  rw [String.toList_append,List.flatMap_append]

theorem utf8_ascii {text : String} (plain : ascii text = true) : utf8 text = text.toList.map fun c => c.toNat.toUInt8 := by
  unfold ascii at plain
  unfold utf8
  generalize text.toList = chars at plain ⊢
  induction chars with
  | nil => rfl
  | cons c rest ih =>
      obtain ⟨here,later⟩ := Bool.and_eq_true_iff.mp plain
      have low : c.toNat < 128 := of_decide_eq_true here
      have one : c.utf8Size = 1 := Char.utf8Size_eq_one_iff.mpr (UInt32.le_iff_toNat_le.mpr (Nat.le_of_lt_succ low))
      rw [List.flatMap_cons,List.map_cons,ih later,String.utf8EncodeChar_eq_singleton one]
      rfl

theorem utf8_decodes {text : String} (plain : ascii text = true) : (utf8 text).map (fun b => Char.ofNat b.toNat) = text.toList := by
  have back : ∀ c ∈ text.toList, Char.ofNat c.toNat.toUInt8.toNat = c := by
    intro c there
    have low : c.toNat < 128 := of_decide_eq_true (List.all_eq_true.mp plain c there)
    have kept : c.toNat.toUInt8.toNat = c.toNat := Nat.mod_eq_of_lt (Nat.lt_trans low (by decide))
    rw [kept,Char.ofNat_toNat]
  rw [utf8_ascii plain,List.map_map]
  exact (List.map_congr_left back).trans (List.map_id _)

end Text

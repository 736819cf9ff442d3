import Mathlib.Data.List.Infix

-- Leftmost substitution in a text, as `re.sub` and `str.replace` do it: a match is
-- replaced, and the search goes on behind it.
namespace Substitution

variable {α : Type}

-- A match at the head of a text: what is put in its place, and how many letters go.
structure Match (α : Type) where
  put : List α
  taken : Nat

def sub (found : List α → Option (Match α)) : Nat → List α → List α
  | _,[] => []
  | skip+1,_ :: rest => sub found skip rest
  | 0,letter :: rest =>
      match found (letter :: rest) with
      | some here => here.put ++ sub found (here.taken-1) rest
      | none => letter :: sub found 0 rest

def Fits (found : List α → Option (Match α)) : Prop :=
  ∀ text here, found text = some here → 0 < here.taken ∧ here.taken ≤ text.length

section runs

variable {found : List α → Option (Match α)}

@[simp] theorem sub_nil (skip : Nat) : sub found skip [] = [] := by cases skip <;> rfl

theorem sub_skip (skip : Nat) (text : List α) : sub found skip text = sub found 0 (text.drop skip) := by
  induction text generalizing skip with
  | nil => simp
  | cons letter rest ih =>
      cases skip with
      | zero => rfl
      | succ skip => simpa [sub] using ih skip

theorem sub_found {text : List α} (fits : Fits found) (here : found text = some m) :
    sub found 0 text = m.put ++ sub found 0 (text.drop m.taken) := by
  obtain ⟨some_,most⟩ := fits text m here
  cases text with
  | nil => simp only [List.length_nil] at most; omega
  | cons letter rest =>
      obtain ⟨taken,equal⟩ := Nat.exists_eq_succ_of_ne_zero (Nat.ne_of_gt some_)
      simp only [sub,here]
      rw [sub_skip,equal]
      rfl

theorem sub_kept (none_ : found (letter :: rest) = none) :
    sub found 0 (letter :: rest) = letter :: sub found 0 rest := by
  simp only [sub,none_]

theorem sub_append {before after : List α} (fits : Fits found)
    (apart : ∀ text, text ≠ [] → text <:+ before → found (text ++ after) = found text) :
    sub found 0 (before ++ after) = sub found 0 before ++ sub found 0 after := by
  induction size : before.length using Nat.strongRecOn generalizing before with
  | ind n ih =>
      cases before with
      | nil => simp
      | cons letter rest =>
          have same := apart (letter :: rest) (by simp) (List.suffix_refl _)
          cases here : found (letter :: rest) with
          | none =>
              rw [here,List.cons_append] at same
              rw [sub_kept here,List.cons_append,sub_kept same]
              have smaller : rest.length < n := by simp only [List.length_cons] at size; omega
              rw [ih rest.length smaller (fun text some_ part => apart text some_ (part.trans (List.suffix_cons ..))) rfl,
                List.cons_append]
          | some m =>
              obtain ⟨some_,most⟩ := fits _ m here
              rw [here] at same
              rw [sub_found fits here,sub_found fits same,List.drop_append_of_le_length most,List.append_assoc]
              have smaller : ((letter :: rest).drop m.taken).length < n := by simp only [List.length_drop]; omega
              rw [ih _ smaller (fun text some_ part => apart text some_ (part.trans (List.drop_suffix ..))) rfl]

theorem sub_none (none_ : ∀ place, place <:+ text → place ≠ [] → found place = none) : sub found 0 text = text := by
  induction text with
  | nil => rfl
  | cons letter rest ih =>
      rw [sub_kept (none_ _ (List.suffix_refl _) (by simp)),
        ih fun place within some_ => none_ place (within.trans (List.suffix_cons ..)) some_]

end runs

theorem prefix_stopped {part before after : List α} {stop : α} (out : stop ∉ part)
    (starts : part <+: before ++ stop :: after) : part <+: before := by
  induction part generalizing before with
  | nil => exact List.nil_prefix
  | cons letter part ih =>
      cases before with
      | nil =>
          rw [List.nil_append,List.cons_prefix_cons] at starts
          exact absurd (List.mem_cons.mpr (Or.inl starts.1.symm)) out
      | cons head before =>
          rw [List.cons_append,List.cons_prefix_cons] at starts
          exact List.cons_prefix_cons.mpr ⟨starts.1,ih (fun there => out (List.mem_cons_of_mem _ there)) starts.2⟩

theorem infix_stopped {part before after : List α} {stop : α} (out : stop ∉ part)
    (there : part <:+: before ++ stop :: after) : part <:+: before ∨ part <:+: after := by
  induction before with
  | nil =>
      rcases List.infix_cons_iff.mp there with starts | later
      · have inside : part <+: [] := prefix_stopped out starts
        exact Or.inl inside.isInfix
      · exact Or.inr later
  | cons head before ih =>
      rcases List.infix_cons_iff.mp there with starts | later
      · have inside : part <+: head :: before := prefix_stopped out starts
        exact Or.inl inside.isInfix
      · exact (ih later).imp (fun inside => inside.trans (List.infix_cons (List.infix_refl _))) id

-- What is put begins as the match did, up to an opening letter, and ends in a closing one.
structure Fenced (found : List α → Option (Match α)) (opening closing : α) : Prop where
  opened : found text = some m → ∃ kept more, m.put = kept ++ opening :: more ∧ kept <+: text
  closed : found text = some m → ∃ more, m.put = more ++ [closing]

section fenced

variable {found : List α → Option (Match α)} {opening closing : α}

theorem sub_starts {part : List α} (fits : Fits found) (fenced : Fenced found opening closing) (out : opening ∉ part)
    (starts : part <+: sub found 0 text) : part <+: text := by
  induction part generalizing text with
  | nil => exact List.nil_prefix
  | cons first part ih =>
      cases text with
      | nil => simp at starts
      | cons letter rest =>
          cases here : found (letter :: rest) with
          | none =>
              rw [sub_kept here,List.cons_prefix_cons] at starts
              exact List.cons_prefix_cons.mpr ⟨starts.1,ih (fun there => out (List.mem_cons_of_mem _ there)) starts.2⟩
          | some m =>
              obtain ⟨kept,more,put,begins⟩ := fenced.opened here
              rw [sub_found fits here,put,List.append_assoc,List.cons_append] at starts
              exact (prefix_stopped out starts).trans begins

-- Where a part without the fences stands in the outcome: at a place of the text
-- with no match, or in what was put.
theorem sub_occurs {part : List α} (fits : Fits found) (fenced : Fenced found opening closing) (some_ : part ≠ [])
    (out : opening ∉ part) (ends : closing ∉ part) (there : part <:+: sub found 0 text) :
    (∃ place, place <:+ text ∧ found place = none ∧ part <+: place) ∨
      ∃ place m, place <:+ text ∧ found place = some m ∧ part <:+: m.put := by
  induction size : text.length using Nat.strongRecOn generalizing text with
  | ind n ih =>
      have carry {rest : List α} (tail : rest <:+ text) (less : rest.length < n) (there : part <:+: sub found 0 rest) :
          (∃ place, place <:+ text ∧ found place = none ∧ part <+: place) ∨
            ∃ place m, place <:+ text ∧ found place = some m ∧ part <:+: m.put := by
        rcases ih rest.length less there rfl with ⟨place,within,facts⟩ | ⟨place,m,within,facts⟩
        · exact Or.inl ⟨place,within.trans tail,facts⟩
        · exact Or.inr ⟨place,m,within.trans tail,facts⟩
      cases text with
      | nil =>
          rw [sub_nil,List.infix_nil] at there
          exact absurd there some_
      | cons letter rest =>
          cases here : found (letter :: rest) with
          | none =>
              rw [sub_kept here,List.infix_cons_iff] at there
              rcases there with starts | later
              · rw [← sub_kept here] at starts
                exact Or.inl ⟨_,List.suffix_refl _,here,sub_starts fits fenced out starts⟩
              · exact carry (List.suffix_cons ..) (by simp only [List.length_cons] at size; omega) later
          | some m =>
              obtain ⟨least,most⟩ := fits _ m here
              obtain ⟨inner,put⟩ := fenced.closed here
              rw [sub_found fits here,put,List.append_assoc,List.singleton_append] at there
              rcases infix_stopped ends there with inside | later
              · exact Or.inr ⟨_,m,List.suffix_refl _,here,put ▸ inside.trans ⟨[],[closing],by simp⟩⟩
              · exact carry (List.drop_suffix ..) (by simp only [List.length_drop]; omega) later

end fenced

end Substitution

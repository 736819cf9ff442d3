import Osds.Lib.Numerals

-- Keyed digests of bodies that are stamped with a time.
namespace Mac

-- A keyed digest of bytes, as `hexdigest` shows it.
structure Digest where
  hexdigest : List UInt8 → List UInt8 → String
  hex : ∀ key message, ∀ c ∈ (hexdigest key message).toList, c ∈ "0123456789abcdef".toList

def Digest.Injective (mac : Digest) : Prop :=
  ∀ key message message', mac.hexdigest key message = mac.hexdigest key message' → message = message'

theorem hexdigest_ascii (mac : Digest) (key message : List UInt8) : Text.ascii (mac.hexdigest key message) = true := by
  have low : ∀ c ∈ "0123456789abcdef".toList, c.toNat < 128 := Text.each_listed (by decide)
  exact List.all_eq_true.mpr fun c there => decide_eq_true (low c (mac.hex key message c there))

def stamped (stamp : String) (body : List UInt8) : List UInt8 := Text.utf8 (stamp ++ ".") ++ body

theorem split_at {α : Type} {sep : α} {xs ys rest rest' : List α} (fresh : sep ∉ xs) (fresh' : sep ∉ ys)
    (same : xs ++ sep :: rest = ys ++ sep :: rest') : xs = ys ∧ rest = rest' := by
  induction xs generalizing ys with
  | nil =>
      cases ys with
      | nil => exact ⟨rfl,(List.cons.inj same).2⟩
      | cons y tail => exact absurd (List.mem_cons.mpr (.inl (List.cons.inj same).1)) fresh'
  | cons x tail ih =>
      cases ys with
      | nil => exact absurd (List.mem_cons.mpr (.inl (List.cons.inj same).1.symm)) fresh
      | cons y tail' =>
          obtain ⟨head,below⟩ := List.cons.inj same
          obtain ⟨tails,rests⟩ := ih (fun there => fresh (List.mem_cons_of_mem _ there))
            (fun there => fresh' (List.mem_cons_of_mem _ there)) below
          exact ⟨by rw [head,tails],rests⟩

section decimals

theorem decimal_chars {n : Int} {c : Char} (there : c ∈ (Numerals.decimal n).toList) : c.isDigit = true ∨ c = '-' := by
  unfold Numerals.decimal at there
  rw [String.toList_ofList] at there
  rcases List.mem_append.mp there with sign | digit
  · split at sign
    · exact .inr (List.mem_singleton.mp sign)
    · cases sign
  · exact .inl (Nat.isDigit_of_mem_toDigits (by decide) (by decide) digit)

theorem decimal_plain (n : Int) {sep : Char} (other : sep.isDigit = false) (unsigned : sep ≠ '-') :
    sep ∉ (Numerals.decimal n).toList := by
  intro there
  rcases decimal_chars there with digit | sign
  · rw [other] at digit
    cases digit
  · exact unsigned sign

theorem decimal_ascii (n : Int) : Text.ascii (Numerals.decimal n) = true := by
  refine List.all_eq_true.mpr fun c there => decide_eq_true ?_
  rcases decimal_chars there with digit | sign
  · unfold Char.isDigit at digit
    rw [Bool.and_eq_true,decide_eq_true_eq,decide_eq_true_eq] at digit
    have high : c.toNat ≤ 57 := digit.2
    omega
  · rw [sign]
    decide

theorem decimal_undotted (n : Int) : (46 : UInt8) ∉ Text.utf8 (Numerals.decimal n) := by
  rw [Text.utf8_ascii (decimal_ascii n)]
  intro there
  obtain ⟨c,present,byte⟩ := List.mem_map.mp there
  have low : c.toNat < 128 := of_decide_eq_true (List.all_eq_true.mp (decimal_ascii n) c present)
  have kept : c.toNat.toUInt8.toNat = c.toNat := Nat.mod_eq_of_lt (Nat.lt_trans low (by decide))
  rw [byte] at kept
  have dot : c = '.' := by rw [← Char.ofNat_toNat c,← kept]; rfl
  exact decimal_plain n (by decide) (by decide) (dot ▸ present)

-- The point ends the stamp: digits are all before it.
theorem stamped_injective {n n' : Int} {body body' : List UInt8}
    (same : stamped (Numerals.decimal n) body = stamped (Numerals.decimal n') body') :
    Numerals.decimal n = Numerals.decimal n' ∧ body = body' := by
  have dot : Text.utf8 "." = [46] := by decide
  unfold stamped at same
  rw [Text.utf8_append,Text.utf8_append,dot,List.append_assoc,List.append_assoc] at same
  obtain ⟨stamps,bodies⟩ := split_at (decimal_undotted n) (decimal_undotted n') same
  have chars := congrArg (List.map fun b : UInt8 => Char.ofNat b.toNat) stamps
  rw [Text.utf8_decodes (decimal_ascii n),Text.utf8_decodes (decimal_ascii n')] at chars
  exact ⟨String.toList_inj.mp chars,bodies⟩

theorem split_header (n : Int) {v1 : String} (hex : ∀ c ∈ v1.toList, c ∈ "0123456789abcdef".toList) :
    Text.split ',' ("t=" ++ Numerals.decimal n ++ ",v1=" ++ v1) =
      ["t" ++ (String.ofList ['='] ++ Numerals.decimal n),"v1" ++ (String.ofList ['='] ++ v1)] := by
  have whole : "t=" ++ Numerals.decimal n ++ ",v1=" ++ v1 = ("t" ++ (String.ofList ['='] ++ Numerals.decimal n)) ++
      (String.ofList [','] ++ ("v1" ++ (String.ofList ['='] ++ v1))) := by
    apply String.toList_inj.mp
    simp [String.toList_append]
  have timed : ',' ∉ ("t" ++ (String.ofList ['='] ++ Numerals.decimal n)).toList := by
    have plain : ',' ∉ (Numerals.decimal n).toList := decimal_plain n (by decide) (by decide)
    simp [String.toList_append,plain]
  have digested : ',' ∉ ("v1" ++ (String.ofList ['='] ++ v1)).toList := by
    have plain : ',' ∉ v1.toList := fun there => absurd (hex _ there) (by decide)
    simp [String.toList_append,plain]
  rw [whole,Text.split_append,Text.split_plain timed,Text.split_plain digested]
  rfl

end decimals

end Mac

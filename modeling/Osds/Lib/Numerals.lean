import Osds.Lib.Text
import Mathlib.Algebra.Group.Nat.Defs
import Mathlib.Data.List.Induction

-- Integers as texts: what `int` reads and what `str` writes.
namespace Numerals

def MAX_DIGITS : Nat := 4300

-- Unicode's decimal digits beyond ASCII.
variable (other : Char → Option (Fin 10))

def digitOf (c : Char) : Option Nat :=
  if c.isDigit then some (c.toNat - '0'.toNat)
  else if c.toNat < 128 then none
  else (other c).map Fin.val

-- Digits, of which two may have one underscore between them.
def digits : List Char → Option (List Nat)
  | [] => none
  | [c] => (digitOf other c).map fun d => [d]
  | c :: '_' :: rest => (digitOf other c).bind fun d => (digits rest).map (d :: ·)
  | c :: rest => (digitOf other c).bind fun d => (digits rest).map (d :: ·)

def natural (ds : List Nat) : Nat := ds.foldl (fun n d => 10*n+d) 0

-- The four separators of ASCII are blank to `str.strip` only.
def isBlank (c : Char) : Bool := Text.isBlank c && !(0x1c ≤ c.toNat && c.toNat ≤ 0x1f)

def trim (text : List Char) : List Char := ((text.dropWhile isBlank).reverse.dropWhile isBlank).reverse

def signed : List Char → Bool × List Char
  | '-' :: rest => (true,rest)
  | '+' :: rest => (false,rest)
  | chars => (false,chars)

def integer (text : String) : Option Int :=
  let (negative,body) := signed (trim text.toList)
  match digits other body with
  | none => none
  | some ds =>
      if MAX_DIGITS < ds.length then none
      else some (if negative then -(natural ds : Int) else natural ds)

def decimal (n : Int) : String :=
  String.ofList ((if n < 0 then ['-'] else []) ++ Nat.toDigits 10 n.natAbs)

def shown (n : Int) : Option String :=
  if MAX_DIGITS < (Nat.toDigits 10 n.natAbs).length then none else some (decimal n)

section roundTrip

variable {other : Char → Option (Fin 10)}

theorem digits_plain {cs : List Char} (nonempty : cs ≠ []) (plain : ∀ c ∈ cs, c.isDigit = true) :
    digits other cs = some (cs.map fun c => c.toNat - '0'.toNat) := by
  induction cs with
  | nil => exact absurd rfl nonempty
  | cons c rest ih =>
      have here : digitOf other c = some (c.toNat - '0'.toNat) := if_pos (plain c (List.mem_cons_self ..))
      cases rest with
      | nil =>
          unfold digits
          rw [here]
          rfl
      | cons d tail =>
          have apart : d ≠ '_' := by
            intro equal
            have digit := plain d (List.mem_cons_of_mem _ (List.mem_cons_self ..))
            rw [equal] at digit
            cases digit
          have below := ih (List.cons_ne_nil _ _) fun e there => plain e (List.mem_cons_of_mem _ there)
          rw [digits]
          · rw [here,below]
            rfl
          · exact nofun
          · intro tail' equal
            exact apart (List.cons.inj equal).1

theorem natural_digits (cs : List Char) :
    natural (cs.map fun c => c.toNat - '0'.toNat) = Nat.ofDigitChars 10 cs 0 := by
  rw [Nat.ofDigitChars_eq_foldl]
  exact List.foldl_map

theorem solid_plain {c : Char} (plain : c.isDigit = true ∨ c = '-') : Text.isBlank c = false := by
  rcases plain with digit | rfl
  · unfold Char.isDigit at digit
    rw [Bool.and_eq_true,decide_eq_true_eq,decide_eq_true_eq] at digit
    have low : 48 ≤ c.toNat := digit.1
    have high : c.toNat ≤ 57 := digit.2
    have apart : ∀ n ∈ Text.blanks, n < 48 ∨ 57 < n := by decide
    refine decide_eq_false fun there => ?_
    rcases apart _ there with below | above <;> omega
  · decide

theorem blank_plain {c : Char} (plain : c.isDigit = true ∨ c = '-') : isBlank c = false := by
  unfold isBlank
  rw [solid_plain plain]
  rfl

theorem trim_plain {cs : List Char} (plain : ∀ c ∈ cs, c.isDigit = true ∨ c = '-') : trim cs = cs := by
  unfold trim
  rw [Text.dropWhile_none fun c there => blank_plain (plain c there),
    Text.dropWhile_none fun c there => blank_plain (plain c (List.mem_reverse.mp there)),List.reverse_reverse]

theorem signed_minus (cs : List Char) : signed ('-' :: cs) = (true,cs) := rfl

theorem signed_plain {cs : List Char} (plain : ∀ c ∈ cs, c.isDigit = true) : signed cs = (false,cs) := by
  unfold signed
  split
  · have digit := plain '-' (List.mem_cons_self ..)
    exact absurd digit (by decide)
  · have digit := plain '+' (List.mem_cons_self ..)
    exact absurd digit (by decide)
  · rfl

theorem integer_read {text : String} {negative : Bool} {cs : List Char} (body : signed (trim text.toList) = (negative,cs))
    (nonempty : cs ≠ []) (plain : ∀ c ∈ cs, c.isDigit = true) (short : cs.length ≤ MAX_DIGITS) :
    integer other text = some (if negative then -(Nat.ofDigitChars 10 cs 0 : Int) else Nat.ofDigitChars 10 cs 0) := by
  have bounded : ¬MAX_DIGITS < (cs.map fun c => c.toNat - '0'.toNat).length := by
    rw [List.length_map]
    exact Nat.not_lt.mpr short
  unfold integer
  rw [body]
  dsimp only
  rw [digits_plain nonempty plain]
  dsimp only
  rw [if_neg bounded,natural_digits]

theorem integer_decimal {n : Int} (short : (Nat.toDigits 10 n.natAbs).length ≤ MAX_DIGITS) :
    integer other (decimal n) = some n := by
  have plain : ∀ c ∈ Nat.toDigits 10 n.natAbs, c.isDigit = true :=
    fun c there => Nat.isDigit_of_mem_toDigits (by decide) (by decide) there
  by_cases negative : n < 0
  · have body : signed (trim (decimal n).toList) = (true,Nat.toDigits 10 n.natAbs) := by
      unfold decimal
      rw [if_pos negative,String.toList_ofList,List.singleton_append,trim_plain,signed_minus]
      intro c there
      rcases List.mem_cons.mp there with sign | digit
      · exact .inr sign
      · exact .inl (plain c digit)
    rw [integer_read body Nat.toDigits_ne_nil plain short,Nat.ofDigitChars_ten_toDigits,if_pos rfl]
    exact congrArg some (by omega)
  · have body : signed (trim (decimal n).toList) = (false,Nat.toDigits 10 n.natAbs) := by
      unfold decimal
      rw [if_neg negative,String.toList_ofList,List.nil_append,trim_plain fun c there => .inl (plain c there),
        signed_plain plain]
    rw [integer_read body Nat.toDigits_ne_nil plain short,Nat.ofDigitChars_ten_toDigits,if_neg Bool.false_ne_true]
    exact congrArg some (by omega)

theorem digitOf_small {c : Char} {d : Nat} (read : digitOf other c = some d) : d < 10 := by
  unfold digitOf at read
  split at read
  · next digit =>
      unfold Char.isDigit at digit
      rw [Bool.and_eq_true,decide_eq_true_eq,decide_eq_true_eq] at digit
      have low : 48 ≤ c.toNat := digit.1
      have high : c.toNat ≤ 57 := digit.2
      have value : c.toNat - 48 = d := Option.some.inj read
      omega
  · split at read
    · cases read
    · obtain ⟨digit,_,rfl⟩ := Option.map_eq_some_iff.mp read
      exact digit.isLt

theorem digits_small {cs : List Char} {ds : List Nat} (read : digits other cs = some ds) : ∀ d ∈ ds, d < 10 := by
  induction cs using digits.induct generalizing ds with
  | case1 => cases read
  | case2 c =>
      obtain ⟨d,here,rfl⟩ := Option.map_eq_some_iff.mp read
      intro e there
      rw [List.mem_singleton.mp there]
      exact digitOf_small here
  | case3 c rest ih =>
      rw [digits] at read
      obtain ⟨d,here,below⟩ := Option.bind_eq_some_iff.mp read
      obtain ⟨tail,later,rfl⟩ := Option.map_eq_some_iff.mp below
      rw [List.forall_mem_cons]
      exact ⟨digitOf_small here,ih later⟩
  | case4 c rest nonempty plain ih =>
      rw [digits] at read
      · obtain ⟨d,here,below⟩ := Option.bind_eq_some_iff.mp read
        obtain ⟨tail,later,rfl⟩ := Option.map_eq_some_iff.mp below
        rw [List.forall_mem_cons]
        exact ⟨digitOf_small here,ih later⟩
      · exact nonempty
      · exact plain

theorem natural_append (ds : List Nat) (d : Nat) : natural (ds ++ [d]) = 10 * natural ds + d := by
  unfold natural
  rw [List.foldl_append]
  rfl

theorem natural_small {ds : List Nat} (small : ∀ d ∈ ds, d < 10) : natural ds < 10 ^ ds.length := by
  induction ds using List.reverseRecOn with
  | nil => exact Nat.one_pos
  | append_singleton ds d ih =>
      have below := ih fun e there => small e (List.mem_append_left _ there)
      have digit := small d (List.mem_append_right _ (List.mem_singleton_self d))
      rw [natural_append,List.length_append,List.length_singleton,Nat.pow_succ]
      omega

theorem integer_shown {text : String} {n : Int} (read : integer other text = some n) : shown n = some (decimal n) := by
  unfold integer at read
  dsimp only at read
  split at read
  · cases read
  · next ds listed =>
      split at read
      · cases read
      · next short =>
          have bound := natural_small (digits_small listed)
          have size : n.natAbs = natural ds := by
            rw [← Option.some.inj read]
            split
            · exact (Int.natAbs_neg _).trans (Int.natAbs_natCast _)
            · exact Int.natAbs_natCast _
          have below : n.natAbs < 10 ^ MAX_DIGITS := by
            rw [size]
            exact Nat.lt_of_lt_of_le bound (Nat.pow_le_pow_right (by decide) (Nat.le_of_not_lt short))
          have fits := (Nat.length_toDigits_le_iff (by decide) (by decide)).mpr below
          exact if_neg (Nat.not_lt.mpr fits)

end roundTrip

end Numerals

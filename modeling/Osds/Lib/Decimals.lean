import Osds.Lib.Numerals

-- Decimal numbers as texts: what `Decimal` reads and what `str` writes.
namespace Decimals

inductive Magnitude where
  | finite (coefficient : Nat) (exponent : Int)
  | infinity
  | nan (signaling : Bool) (payload : Nat)
  deriving DecidableEq, Repr

def MAX_EMAX : Int := 999999999999999999

def MIN_ETINY : Int := -1999999999999999997

-- A number outside these exponents is not exact.
def Magnitude.Fits : Magnitude → Prop
  | .finite coefficient exponent =>
      MIN_ETINY ≤ exponent ∧ exponent + (Nat.toDigits 10 coefficient).length - 1 ≤ MAX_EMAX
  | _ => True

instance : (m : Magnitude) → Decidable m.Fits
  | .finite .. => inferInstanceAs (Decidable (_ ∧ _))
  | .infinity => inferInstanceAs (Decidable True)
  | .nan .. => inferInstanceAs (Decidable True)

structure Decimal where
  negative : Bool
  magnitude : Magnitude
  fits : magnitude.Fits

section read

-- Unicode's decimal digits beyond ASCII.
variable (other : Char → Option (Fin 10))

def asciiDigit (c : Char) : Char := ((Numerals.digitOf other c).map Nat.digitChar).getD c

def plain (text : String) : List Char := ((Text.strip text).toList.filter (· ≠ '_')).map (asciiDigit other)

def exponentOf : List Char → Option Int
  | [] => some 0
  | e :: rest =>
      let (negative,ds) := Numerals.signed rest
      if (e = 'e' ∨ e = 'E') ∧ ds ≠ [] ∧ ds.all Char.isDigit then
        some (if negative then -(Nat.ofDigitChars 10 ds 0 : Int) else Nat.ofDigitChars 10 ds 0)
      else none

def fraction : List Char → List Char × List Char
  | '.' :: rest => (rest.takeWhile Char.isDigit,rest.dropWhile Char.isDigit)
  | rest => ([],rest)

def finite (cs : List Char) : Option Magnitude :=
  let whole := cs.takeWhile Char.isDigit
  let (frac,rest) := fraction (cs.dropWhile Char.isDigit)
  if whole ++ frac = [] then none
  else (exponentOf rest).map fun e => .finite (Nat.ofDigitChars 10 (whole ++ frac) 0) (e - frac.length)

def payload (signaling : Bool) (cs : List Char) : Option Magnitude :=
  if cs.all Char.isDigit then some (.nan signaling (Nat.ofDigitChars 10 cs 0)) else none

def magnitude (cs : List Char) : Option Magnitude :=
  let lower := cs.map Char.toLower
  if lower = "inf".toList ∨ lower = "infinity".toList then some .infinity
  else if lower.take 3 = "nan".toList then payload false (cs.drop 3)
  else if lower.take 4 = "snan".toList then payload true (cs.drop 4)
  else finite cs

def decimal (text : String) : Option Decimal :=
  let (negative,body) := Numerals.signed (plain other text)
  (magnitude body).bind fun m => if fits : m.Fits then some ⟨negative,m,fits⟩ else none

end read

section write

def signedDigits (n : Int) : List Char := (if 0 ≤ n then '+' else '-') :: Nat.toDigits 10 n.natAbs

-- The digits with the point after some of them, which may be fewer than none.
def pointed (ds : List Char) (place : Int) : List Char × List Char :=
  if place ≤ 0 then (['0'],List.replicate (-place).toNat '0' ++ ds)
  else (ds.take place.toNat ++ List.replicate (place - ds.length).toNat '0',ds.drop place.toNat)

def written (whole frac : List Char) (exponent : Int) : List Char :=
  whole ++ ((if frac = [] then [] else '.' :: frac) ++ if exponent = 0 then [] else 'E' :: signedDigits exponent)

def Magnitude.text : Magnitude → List Char
  | .finite coefficient exponent =>
      let ds := Nat.toDigits 10 coefficient
      let left := exponent + ds.length
      let place := if exponent ≤ 0 ∧ -6 < left then left else 1
      written (pointed ds place).1 (pointed ds place).2 (left - place)
  | .infinity => "Infinity".toList
  | .nan signaling payload =>
      (if signaling then "sNaN" else "NaN").toList ++ if payload = 0 then [] else Nat.toDigits 10 payload

def text (n : Decimal) : String := String.ofList ((if n.negative then ['-'] else []) ++ n.magnitude.text)

end write

section roundTrip

variable {other : Char → Option (Fin 10)} {cs ds rest : List Char} {c : Char}

def Stops (rest : List Char) : Prop := ∀ c ∈ rest.head?, c.isDigit = false

theorem takeWhile_digits (digits : ∀ c ∈ ds, c.isDigit = true) (stops : Stops rest) :
    (ds ++ rest).takeWhile Char.isDigit = ds ∧ (ds ++ rest).dropWhile Char.isDigit = rest := by
  rw [List.takeWhile_append_of_pos digits,List.dropWhile_append_of_pos digits]
  cases rest with
  | nil => exact ⟨List.append_nil _,rfl⟩
  | cons c rest =>
      have stop := stops c rfl
      rw [List.takeWhile_cons_of_neg (by rw [stop]; decide),List.dropWhile_cons_of_neg (by rw [stop]; decide)]
      exact ⟨List.append_nil _,rfl⟩

theorem exponentOf_written (n : Int) : exponentOf (if n = 0 then [] else 'E' :: signedDigits n) = some n := by
  split
  next zero => rw [zero]; rfl
  next nonzero =>
    have digits : (Nat.toDigits 10 n.natAbs).all Char.isDigit = true :=
      List.all_eq_true.mpr fun c there => Nat.isDigit_of_mem_toDigits (by decide) (by decide) there
    unfold exponentOf signedDigits
    by_cases positive : 0 ≤ n
    · have sign : Numerals.signed ('+' :: Nat.toDigits 10 n.natAbs) = (false,Nat.toDigits 10 n.natAbs) := rfl
      rw [if_pos positive]
      dsimp only
      rw [sign]
      dsimp only
      rw [if_pos ⟨.inr rfl,Nat.toDigits_ne_nil,digits⟩,Nat.ofDigitChars_ten_toDigits,if_neg Bool.false_ne_true]
      exact congrArg some (by omega)
    · have sign : Numerals.signed ('-' :: Nat.toDigits 10 n.natAbs) = (true,Nat.toDigits 10 n.natAbs) := rfl
      rw [if_neg positive]
      dsimp only
      rw [sign]
      dsimp only
      rw [if_pos ⟨.inr rfl,Nat.toDigits_ne_nil,digits⟩,Nat.ofDigitChars_ten_toDigits,if_pos rfl]
      exact congrArg some (by omega)

theorem exponent_stops (n : Int) : Stops (if n = 0 then [] else 'E' :: signedDigits n) := by
  intro c there
  split at there
  · cases there
  · cases there
    decide

theorem finite_written {whole frac : List Char} (nonempty : whole ≠ []) (left : ∀ c ∈ whole, c.isDigit = true)
    (right : ∀ c ∈ frac, c.isDigit = true) (n : Int) :
    finite (written whole frac n) = some (.finite (Nat.ofDigitChars 10 (whole ++ frac) 0) (n - frac.length)) := by
  have stops : Stops ((if frac = [] then [] else '.' :: frac) ++ if n = 0 then [] else 'E' :: signedDigits n) := by
    split
    · exact exponent_stops n
    · intro c there
      cases there
      decide
  have points : fraction ((if frac = [] then [] else '.' :: frac) ++ if n = 0 then [] else 'E' :: signedDigits n) =
      (frac,if n = 0 then [] else 'E' :: signedDigits n) := by
    split
    next empty =>
      subst empty
      split <;> rfl
    next =>
      obtain ⟨taken,dropped⟩ := takeWhile_digits right (exponent_stops n)
      rw [List.cons_append]
      exact Prod.ext taken dropped
  obtain ⟨taken,dropped⟩ := takeWhile_digits left stops
  unfold finite written
  dsimp only
  rw [taken,dropped,points]
  dsimp only
  rw [if_neg fun empty => nonempty (List.append_eq_nil_iff.mp empty).1,exponentOf_written]
  rfl

theorem zero_leads (n : Nat) (ds : List Char) :
    Nat.ofDigitChars 10 ('0' :: (List.replicate n '0' ++ ds)) 0 = Nat.ofDigitChars 10 ds 0 := by
  rw [Nat.ofDigitChars_cons,Nat.ofDigitChars_append,Nat.ofDigitChars_replicate_zero]
  simp

theorem pointed_digits (digits : ∀ c ∈ ds, c.isDigit = true) (nonempty : ds ≠ []) {place : Int} (within : place ≤ ds.length) :
    (pointed ds place).1 ≠ [] ∧ (∀ c ∈ (pointed ds place).1, c.isDigit = true) ∧
      (∀ c ∈ (pointed ds place).2, c.isDigit = true) ∧
      Nat.ofDigitChars 10 ((pointed ds place).1 ++ (pointed ds place).2) 0 = Nat.ofDigitChars 10 ds 0 ∧
      ((pointed ds place).2.length : Int) = ds.length - place := by
  unfold pointed
  split
  next before =>
    refine ⟨List.cons_ne_nil _ _,?_,?_,zero_leads _ ds,?_⟩
    · intro c there
      rw [List.mem_singleton.mp there]
      decide
    · intro c there
      rcases List.mem_append.mp there with zero | digit
      · rw [(List.mem_replicate.mp zero).2]
        decide
      · exact digits c digit
    · dsimp only
      rw [List.length_append,List.length_replicate]
      omega
  next inside =>
    have none_ : (place - ds.length).toNat = 0 := by omega
    have some_ : ds.take place.toNat ≠ [] := by
      intro empty
      rcases List.take_eq_nil_iff.mp empty with zero | nil_
      · omega
      · exact nonempty nil_
    dsimp only
    rw [none_,List.replicate_zero,List.append_nil,List.take_append_drop,List.length_drop]
    exact ⟨some_,fun c there => digits c (List.mem_of_mem_take there),fun c there => digits c (List.mem_of_mem_drop there),rfl,by omega⟩

theorem digit_range (digit : c.isDigit = true) : 48 ≤ c.toNat ∧ c.toNat ≤ 57 := by
  unfold Char.isDigit at digit
  rw [Bool.and_eq_true,decide_eq_true_eq,decide_eq_true_eq] at digit
  exact digit

theorem digit_lower (digit : c.isDigit = true) : c.toLower = c := by
  have range := digit_range digit
  unfold Char.toLower
  refine dif_neg ?_
  intro upper
  have above : 65 ≤ c.toNat := upper.1
  omega

theorem magnitude_digit (digit : c.isDigit = true) : magnitude (c :: cs) = finite (c :: cs) := by
  have apart {d : Char} {word : List Char} (letter : d.isDigit = false) (n : Nat) :
      (((c :: cs).map Char.toLower).take (n+1) = d :: word) = False := by
    rw [List.map_cons,digit_lower digit,List.take_succ_cons]
    refine eq_false ?_
    intro same
    rw [(List.cons.inj same).1,letter] at digit
    cases digit
  have other {d : Char} {word : List Char} (letter : d.isDigit = false) : (((c :: cs).map Char.toLower) = d :: word) = False := by
    rw [List.map_cons,digit_lower digit]
    refine eq_false ?_
    intro same
    rw [(List.cons.inj same).1,letter] at digit
    cases digit
  unfold magnitude
  dsimp only
  rw [if_neg,if_neg,if_neg]
  · exact (apart (by decide) 3).mp
  · exact (apart (by decide) 2).mp
  · intro either
    rcases either with inf | infinity
    · exact (other (by decide)).mp inf
    · exact (other (by decide)).mp infinity

theorem finite_text (coefficient : Nat) (exponent : Int) :
    magnitude (Magnitude.finite coefficient exponent).text = some (.finite coefficient exponent) ∧
      ∃ c cs, (Magnitude.finite coefficient exponent).text = c :: cs ∧ c.isDigit = true := by
  have digits : ∀ c ∈ Nat.toDigits 10 coefficient, c.isDigit = true :=
    fun c there => Nat.isDigit_of_mem_toDigits (by decide) (by decide) there
  have long : 0 < (Nat.toDigits 10 coefficient).length := Nat.length_toDigits_pos
  unfold Magnitude.text
  dsimp only
  generalize placed : (if exponent ≤ 0 ∧ -6 < exponent + ((Nat.toDigits 10 coefficient).length : Int)
    then exponent + ((Nat.toDigits 10 coefficient).length : Int) else 1) = place
  have within : place ≤ (Nat.toDigits 10 coefficient).length := by
    rw [← placed]
    split <;> omega
  obtain ⟨nonempty,left,right,shows,length⟩ := pointed_digits digits Nat.toDigits_ne_nil within
  have whole := finite_written nonempty left right (exponent + (Nat.toDigits 10 coefficient).length - place)
  rw [shows,length,Nat.ofDigitChars_ten_toDigits] at whole
  have back : exponent + (Nat.toDigits 10 coefficient).length - place - ((Nat.toDigits 10 coefficient).length - place) = exponent := by
    omega
  rw [back] at whole
  cases first : (pointed (Nat.toDigits 10 coefficient) place).1 with
  | nil => exact absurd first nonempty
  | cons c cs =>
      rw [first] at whole left
      have digit := left c (List.mem_cons_self ..)
      refine ⟨?_,c,_,rfl,digit⟩
      unfold written at whole ⊢
      rw [List.cons_append] at whole ⊢
      rw [magnitude_digit digit]
      exact whole

theorem magnitude_nan (ds : List Char) : magnitude ('N' :: 'a' :: 'N' :: ds) = payload false ds := by
  have lower : ('N' :: 'a' :: 'N' :: ds).map Char.toLower = 'n' :: 'a' :: 'n' :: ds.map Char.toLower := rfl
  have other : ¬('n' :: 'a' :: 'n' :: ds.map Char.toLower = "inf".toList ∨
      'n' :: 'a' :: 'n' :: ds.map Char.toLower = "infinity".toList) := by
    intro either
    rcases either with inf | infinity
    · cases inf
    · cases infinity
  unfold magnitude
  dsimp only
  rw [lower,if_neg other]
  exact if_pos rfl

theorem magnitude_snan (ds : List Char) : magnitude ('s' :: 'N' :: 'a' :: 'N' :: ds) = payload true ds := by
  have lower : ('s' :: 'N' :: 'a' :: 'N' :: ds).map Char.toLower = 's' :: 'n' :: 'a' :: 'n' :: ds.map Char.toLower := rfl
  have other : ¬('s' :: 'n' :: 'a' :: 'n' :: ds.map Char.toLower = "inf".toList ∨
      's' :: 'n' :: 'a' :: 'n' :: ds.map Char.toLower = "infinity".toList) := by
    intro either
    rcases either with inf | infinity
    · cases inf
    · cases infinity
  have signaling : ¬('s' :: 'n' :: 'a' :: 'n' :: ds.map Char.toLower).take 3 = "nan".toList := by
    intro nan
    cases nan
  unfold magnitude
  dsimp only
  rw [lower,if_neg other,if_neg signaling]
  exact if_pos rfl

theorem nan_text (signaling : Bool) (n : Nat) : magnitude (Magnitude.nan signaling n).text = some (.nan signaling n) := by
  have digits : (if n = 0 then [] else Nat.toDigits 10 n).all Char.isDigit = true := by
    split
    · rfl
    · exact List.all_eq_true.mpr fun c there => Nat.isDigit_of_mem_toDigits (by decide) (by decide) there
  have value : Nat.ofDigitChars 10 (if n = 0 then [] else Nat.toDigits 10 n) 0 = n := by
    split
    next zero => rw [zero]; rfl
    next => exact Nat.ofDigitChars_ten_toDigits
  unfold Magnitude.text
  dsimp only
  generalize (if n = 0 then [] else Nat.toDigits 10 n) = ds at digits value ⊢
  have read : payload signaling ds = some (.nan signaling n) := by
    unfold payload
    rw [if_pos digits,value]
  cases signaling with
  | false => exact (magnitude_nan ds).trans read
  | true => exact (magnitude_snan ds).trans read

def Ink (c : Char) : Prop := c.isDigit = true ∨ c ∈ ['-','+','.','E','I','n','f','i','t','y','N','a','s']

theorem letters_plain : ∀ c ∈ ['-','+','.','E','I','n','f','i','t','y','N','a','s'],
    Text.isBlank c = false ∧ c ≠ '_' ∧ c.isDigit = false ∧ c.toNat < 128 := Text.each_listed (by decide)

theorem ink_solid (ink : Ink c) : Text.isBlank c = false ∧ c ≠ '_' := by
  rcases ink with digit | letter
  · refine ⟨Numerals.solid_plain (.inl digit),?_⟩
    intro same
    rw [same] at digit
    cases digit
  · exact ⟨(letters_plain c letter).1,(letters_plain c letter).2.1⟩

theorem ink_ascii (ink : Ink c) : asciiDigit other c = c := by
  unfold asciiDigit Numerals.digitOf
  rcases ink with digit | letter
  · have range := digit_range digit
    have shown := Nat.toNat_digitChar_of_lt_ten (show c.toNat - 48 < 10 by omega)
    rw [if_pos digit]
    exact Char.toNat_inj.mp (shown.trans (by omega))
  · obtain ⟨_,_,nondigit,low⟩ := letters_plain c letter
    rw [nondigit,if_neg Bool.false_ne_true,if_pos low]
    rfl

theorem strip_ink (ink : ∀ c ∈ cs, Ink c) : Text.strip (String.ofList cs) = String.ofList cs := by
  refine Text.strip_solid ?_
  rw [String.toList_ofList]
  exact fun c there => (ink_solid (ink c there)).1

theorem plain_ink (ink : ∀ c ∈ cs, Ink c) : plain other (String.ofList cs) = cs := by
  unfold plain
  rw [strip_ink ink,String.toList_ofList,List.filter_eq_self.mpr fun c there => decide_eq_true (ink_solid (ink c there)).2]
  exact (List.map_congr_left fun c there => ink_ascii (ink c there)).trans (List.map_id _)

theorem written_ink {whole frac : List Char} (left : ∀ c ∈ whole, c.isDigit = true)
    (right : ∀ c ∈ frac, c.isDigit = true) (n : Int) : ∀ c ∈ written whole frac n, Ink c := by
  intro c there
  unfold written at there
  rcases List.mem_append.mp there with before | after
  · exact .inl (left c before)
  rcases List.mem_append.mp after with point | exponent
  · split at point
    · cases point
    · rcases List.mem_cons.mp point with rfl | digit
      · exact .inr (by decide)
      · exact .inl (right c digit)
  · split at exponent
    · cases exponent
    · rcases List.mem_cons.mp exponent with rfl | signed
      · exact .inr (by decide)
      · rcases List.mem_cons.mp signed with rfl | digit
        · refine .inr ?_
          split <;> decide
        · exact .inl (Nat.isDigit_of_mem_toDigits (by decide) (by decide) digit)

theorem magnitude_ink (m : Magnitude) : ∀ c ∈ m.text, Ink c := by
  have digits (n : Nat) : ∀ c ∈ Nat.toDigits 10 n, c.isDigit = true :=
    fun c there => Nat.isDigit_of_mem_toDigits (by decide) (by decide) there
  cases m with
  | finite coefficient exponent =>
      have within : (if exponent ≤ 0 ∧ -6 < exponent + ((Nat.toDigits 10 coefficient).length : Int)
          then exponent + ((Nat.toDigits 10 coefficient).length : Int) else 1) ≤ (Nat.toDigits 10 coefficient).length := by
        have long : 0 < (Nat.toDigits 10 coefficient).length := Nat.length_toDigits_pos
        split <;> omega
      obtain ⟨_,left,right,_⟩ := pointed_digits (digits coefficient) Nat.toDigits_ne_nil within
      exact written_ink left right _
  | infinity =>
      have each : ∀ c ∈ "Infinity".toList, c ∈ ['-','+','.','E','I','n','f','i','t','y','N','a','s'] := Text.each_listed (by decide)
      exact fun c there => .inr (each c there)
  | nan signaling n =>
      intro c there
      rcases List.mem_append.mp there with name | payload
      · have each : ∀ c ∈ (if signaling then "sNaN" else "NaN").toList,
            c ∈ ['-','+','.','E','I','n','f','i','t','y','N','a','s'] := by
          cases signaling with
          | false => exact Text.each_listed (by decide)
          | true => exact Text.each_listed (by decide)
        exact .inr (each c name)
      · split at payload
        · cases payload
        · exact .inl (digits n c payload)

theorem text_ink (n : Decimal) : ∀ c ∈ (if n.negative then ['-'] else []) ++ n.magnitude.text, Ink c := by
  intro c there
  rcases List.mem_append.mp there with sign | body
  · split at sign
    · rw [List.mem_singleton.mp sign]
      exact .inr (by decide)
    · cases sign
  · exact magnitude_ink n.magnitude c body

theorem magnitude_text (m : Magnitude) : magnitude m.text = some m ∧ Numerals.signed m.text = (false,m.text) := by
  cases m with
  | finite coefficient exponent =>
      obtain ⟨read,c,cs,whole,digit⟩ := finite_text coefficient exponent
      refine ⟨read,?_⟩
      rw [whole]
      unfold Numerals.signed
      split
      next same =>
        rw [(List.cons.inj same).1] at digit
        cases digit
      next same =>
        rw [(List.cons.inj same).1] at digit
        cases digit
      next => rfl
  | infinity => exact ⟨by decide,by decide⟩
  | nan signaling n =>
      refine ⟨nan_text signaling n,?_⟩
      cases signaling <;> rfl

theorem strip_text (n : Decimal) : Text.strip (text n) = text n := strip_ink (text_ink n)

theorem decimal_text (n : Decimal) : decimal other (text n) = some n := by
  obtain ⟨read,unsigned⟩ := magnitude_text n.magnitude
  have body : Numerals.signed (plain other (text n)) = (n.negative,n.magnitude.text) := by
    unfold text
    rw [plain_ink (text_ink n)]
    cases n.negative with
    | true => rfl
    | false => exact unsigned
  unfold decimal
  rw [body]
  dsimp only
  rw [read,Option.bind_some,dif_pos n.fits]

theorem text_nonempty (n : Decimal) : text n ≠ "" := by
  intro empty
  have blank := congrArg String.toList empty
  unfold text at blank
  rw [String.toList_ofList] at blank
  have none_ : n.magnitude.text = [] := (List.append_eq_nil_iff.mp blank).2
  have read := (magnitude_text n.magnitude).1
  rw [none_] at read
  cases read

end roundTrip

end Decimals

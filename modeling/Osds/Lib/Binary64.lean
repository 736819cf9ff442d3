import Mathlib.Algebra.Group.Nat.Defs
import Mathlib.Data.Nat.Log

-- Finite floats as whole numbers of the least positive one, which is 2^-1074.
namespace Binary64

def ONE : Nat := 2 ^ 1074

def LIMIT : Nat := 2 ^ 1024 * ONE

def nearest (n shift : Nat) : Nat :=
  if 2 * (n % 2^shift) < 2^shift ∨ (2 * (n % 2^shift) = 2^shift ∧ n / 2^shift % 2 = 0) then n / 2^shift * 2^shift
  else (n / 2^shift + 1) * 2^shift

def magnitude (n : Nat) : Nat := nearest n (n.log2 - 52)

def round (n : Int) : Int := n.sign * magnitude n.natAbs

structure Double where
  units : Int
  rounded : round units = units
  finite : units.natAbs < LIMIT

def ofInt (n : Int) : Option Int :=
  if (round (n * ONE)).natAbs < LIMIT then some (round (n * ONE)) else none

-- The distance of two floats; as it is only compared, one beyond them all may stand for infinity.
def distance (x y : Int) : Nat := (round (x-y)).natAbs

section nearest

variable {n shift m : Nat}

theorem nearest_between : n / 2^shift * 2^shift ≤ nearest n shift ∧ nearest n shift ≤ (n / 2^shift + 1) * 2^shift := by
  have step : n / 2^shift * 2^shift ≤ (n / 2^shift + 1) * 2^shift := Nat.mul_le_mul_right _ (Nat.le_succ _)
  unfold nearest
  split
  · exact ⟨Nat.le_refl _,step⟩
  · exact ⟨step,Nat.le_refl _⟩

theorem nearest_exact (divides : 2^shift ∣ n) : nearest n shift = n := by
  unfold nearest
  rw [Nat.mod_eq_zero_of_dvd divides]
  rw [if_pos (.inl (Nat.two_pow_pos shift)),Nat.div_mul_cancel divides]

theorem nearest_le (bounded : n ≤ m) (divides : 2^shift ∣ m) : nearest n shift ≤ m := by
  obtain ⟨k,rfl⟩ := divides
  rcases Nat.lt_or_eq_of_le bounded with below | equal
  · have quotient : n / 2^shift < k := Nat.div_lt_of_lt_mul below
    calc nearest n shift ≤ (n / 2^shift + 1) * 2^shift := nearest_between.2
      _ ≤ k * 2^shift := Nat.mul_le_mul_right _ quotient
      _ = 2^shift * k := Nat.mul_comm ..
  · rw [nearest_exact ⟨k,equal⟩]
    exact bounded

theorem le_nearest (bounded : m ≤ n) (divides : 2^shift ∣ m) : m ≤ nearest n shift := by
  obtain ⟨k,rfl⟩ := divides
  have quotient : k ≤ n / 2^shift := (Nat.le_div_iff_mul_le (Nat.two_pow_pos shift)).mpr (by rw [Nat.mul_comm]; exact bounded)
  calc 2^shift * k = k * 2^shift := Nat.mul_comm ..
    _ ≤ n / 2^shift * 2^shift := Nat.mul_le_mul_right _ quotient
    _ ≤ nearest n shift := nearest_between.1

theorem nearest_divides : 2^shift ∣ nearest n shift := by
  unfold nearest
  split
  · exact Nat.dvd_mul_left ..
  · exact Nat.dvd_mul_left ..

end nearest

section magnitude

variable {n : Nat}

theorem binade_le (positive : n ≠ 0) : 2 ^ n.log2 ≤ magnitude n :=
  le_nearest (Nat.log2_self_le positive) (Nat.pow_dvd_pow 2 (Nat.sub_le ..))

theorem round_natAbs (x : Int) : (round x).natAbs = magnitude x.natAbs := by
  unfold round
  rw [Int.natAbs_mul,Int.natAbs_natCast]
  by_cases zero : x = 0
  · rw [zero]
    decide
  · rw [Int.natAbs_sign_of_ne_zero zero,Nat.one_mul]

theorem magnitude_ge {k : Nat} (bounded : 2^k ≤ n) : 2^k ≤ magnitude n := by
  have positive : n ≠ 0 := Nat.ne_of_gt (Nat.lt_of_lt_of_le (Nat.two_pow_pos k) bounded)
  have binade := (Nat.le_log2 positive).mpr bounded
  exact Nat.le_trans (Nat.pow_le_pow_right (by decide) binade) (binade_le positive)

theorem magnitude_exact {k : Nat} (short : n < 2^(k+53)) (divides : 2^k ∣ n) : magnitude n = n := by
  refine nearest_exact (Nat.dvd_trans (Nat.pow_dvd_pow 2 ?_) divides)
  by_cases zero : n = 0
  · rw [zero]
    exact Nat.zero_le _
  · have binade := (Nat.log2_lt zero).mpr short
    omega

theorem magnitude_le {k m : Nat} (bounded : n ≤ m) (short : m < 2^(k+53)) (divides : 2^k ∣ m) : magnitude n ≤ m := by
  refine nearest_le bounded (Nat.dvd_trans (Nat.pow_dvd_pow 2 ?_) divides)
  by_cases zero : n = 0
  · rw [zero]
    exact Nat.zero_le _
  · have binade := (Nat.log2_lt zero).mpr (Nat.lt_of_le_of_lt bounded short)
    omega

theorem magnitude_divides {k : Nat} (bounded : 2^(k+52) ≤ n) : 2^k ∣ magnitude n := by
  have positive : n ≠ 0 := Nat.ne_of_gt (Nat.lt_of_lt_of_le (Nat.two_pow_pos _) bounded)
  have binade := (Nat.le_log2 positive).mpr bounded
  exact Nat.dvd_trans (Nat.pow_dvd_pow 2 (by omega)) nearest_divides

-- A distance that is a multiple of 2^k is not rounded across a bound below 2^(k+53).
theorem magnitude_compared {k m : Nat} (short : m < 2^(k+53)) (bound : 2^k ∣ m) (divides : 2^k ∣ n) :
    magnitude n ≤ m ↔ n ≤ m := by
  constructor
  · intro near
    rcases Nat.lt_or_ge n (2^(k+53)) with small | large
    · rw [magnitude_exact small divides] at near
      exact near
    · exact absurd (Nat.lt_of_lt_of_le short (magnitude_ge large)) (Nat.not_lt.mpr near)
  · intro near
    exact magnitude_le near short bound

end magnitude

section clock

theorem power_pos (k : Nat) : 0 < 2^k := Nat.two_pow_pos k

theorem one_pos : 0 < ONE := power_pos 1074

theorem scaled (k : Nat) : 2^k * ONE = 2^(k+1074) := (pow_add 2 k 1074).symm

theorem power_divides {k l : Nat} (short : k ≤ l) : 2^k ∣ 2^l := Nat.pow_dvd_pow 2 short

theorem one_divides {k : Nat} (short : k ≤ 1074) : 2^k ∣ ONE := power_divides short

theorem below_scaled {n k : Nat} (small : n < 2^k) : n * ONE < 2^(k+1074) := by
  rw [← scaled]
  exact Nat.mul_lt_mul_of_pos_right small one_pos

theorem ofInt_exact {t y : Int} (small : t.natAbs < 2^53) (converted : ofInt t = some y) : y = t * ONE := by
  unfold ofInt at converted
  split at converted
  · have size : (t * ONE).natAbs = t.natAbs * ONE := Int.natAbs_mul t ONE
    have exact_ : magnitude (t.natAbs * ONE) = t.natAbs * ONE := by
      have short := below_scaled small
      rw [Nat.add_comm] at short
      exact magnitude_exact short (Nat.dvd_mul_left_of_dvd (one_divides (Nat.le_refl _)) _)
    rw [← Option.some.inj converted]
    unfold round
    rw [size,exact_,← size]
    exact Int.sign_mul_natAbs _
  · cases converted

theorem ofInt_large {t y : Int} {k : Nat} (large : 2^k ≤ t.natAbs) (converted : ofInt t = some y) : 2^k * ONE ≤ y.natAbs := by
  unfold ofInt at converted
  split at converted
  · rw [← Option.some.inj converted,round_natAbs,Int.natAbs_mul,scaled]
    refine magnitude_ge ?_
    rw [← scaled]
    exact Nat.mul_le_mul_right _ large
  · cases converted

theorem coarse (now : Double) (old : 2^8 * ONE ≤ now.units.natAbs) (t : Int) : 2^1030 ∣ (now.units - t * ONE).natAbs := by
  have clock : 2^1030 ∣ now.units.natAbs := by
    rw [← now.rounded,round_natAbs]
    have exponent : 8+1074 = 1030+52 := rfl
    rw [scaled,exponent] at old
    exact magnitude_divides old
  have unit : 2^1030 ∣ (t * ONE).natAbs := by
    rw [Int.natAbs_mul]
    exact Nat.dvd_mul_left_of_dvd (one_divides (by decide)) _
  exact Int.ofNat_dvd_left.mp (Int.dvd_sub (Int.ofNat_dvd_left.mpr clock) (Int.ofNat_dvd_left.mpr unit))

theorem distance_exact (now : Double) {t y : Int} {tolerance : Nat} (small : tolerance < 2^9)
    (old : 2^8 * ONE ≤ now.units.natAbs) (soon : now.units.natAbs ≤ 2^52 * ONE) (converted : ofInt t = some y) :
    distance now.units y ≤ tolerance * ONE ↔ (now.units - t * ONE).natAbs ≤ tolerance * ONE := by
  unfold distance
  rw [round_natAbs]
  rcases Nat.lt_or_ge t.natAbs (2^53) with near | far
  · rw [ofInt_exact near converted]
    have bound : 2^1030 ∣ tolerance * ONE := Nat.dvd_mul_left_of_dvd (one_divides (by decide)) _
    have short := below_scaled small
    have exponent : 9+1074 = 1030+53 := rfl
    rw [exponent] at short
    exact magnitude_compared short bound (coarse now old t)
  · have gap : tolerance * ONE < 2^52 * ONE := Nat.mul_lt_mul_of_pos_right (Nat.lt_trans small (by decide)) one_pos
    have twice : 2^53 * ONE = 2^52 * ONE + 2^52 * ONE := by
      rw [← Nat.add_mul]
      exact congrArg (· * ONE) (by decide)
    have stamp : 2^53 * ONE ≤ (t * ONE).natAbs := by
      rw [Int.natAbs_mul]
      exact Nat.mul_le_mul_right _ far
    have float := ofInt_large far converted
    generalize 2^53 * ONE = top at twice stamp float
    generalize half_ : 2^52 * ONE = half at soon gap twice
    have apart : half ≤ magnitude (now.units - y).natAbs := by
      rw [← half_,scaled]
      refine magnitude_ge ?_
      rw [← scaled,half_]
      omega
    generalize t * (ONE : Int) = stamped at stamp ⊢
    generalize tolerance * ONE = allowed at gap ⊢
    exact iff_of_false (by omega) (by omega)

end clock

end Binary64

import Osds.Lib.Numerals

-- Dates of the calendar as texts: what `date.fromisoformat` reads and what `isoformat` writes.
namespace Dates

def isLeap (year : Nat) : Bool := year % 4 = 0 && (year % 100 ≠ 0 || year % 400 = 0)

def daysInMonth (year month : Nat) : Nat :=
  if month = 2 then (if isLeap year then 29 else 28) else if month ∈ [4,6,9,11] then 30 else 31

@[ext]
structure Date where
  year : Nat
  month : Nat
  day : Nat
  valid : (1 ≤ year ∧ year ≤ 9999) ∧ (1 ≤ month ∧ month ≤ 12) ∧ 1 ≤ day ∧ day ≤ daysInMonth year month

def date (year month day : Nat) : Option Date :=
  if valid : (1 ≤ year ∧ year ≤ 9999) ∧ (1 ≤ month ∧ month ≤ 12) ∧ 1 ≤ day ∧ day ≤ daysInMonth year month then
    some ⟨year,month,day,valid⟩
  else none

section weeks

-- The weekday of January 1st, from Monday on.
def firstWeekday (year : Nat) : Nat := ((year-1)*365 + (year-1)/4 + (year-1)/400 - (year-1)/100) % 7

def weeks (year : Nat) : Nat := if firstWeekday year = 3 ∨ firstWeekday year = 2 ∧ isLeap year then 53 else 52

def within (year : Nat) : List Nat → Nat → Option Date
  | [],days => date (year+1) 1 (days+1)
  | month :: rest,days =>
      if days < daysInMonth year month then date year month (days+1) else within year rest (days - daysInMonth year month)

def weekDate (year week day : Nat) : Option Date :=
  if ¬(1 ≤ year ∧ 1 ≤ week ∧ week ≤ weeks year ∧ 1 ≤ day ∧ day ≤ 7) then none
  else
    let days := 7*(week-1) + (day-1)
    let first := firstWeekday year
    if 3 < first then within year (List.range' 1 12) (days + (7 - first))
    else if days < first then date (year-1) 12 (32 + days - first)
    else within year (List.range' 1 12) (days - first)

end weeks

section texts

def number (cs : List Char) : Option Nat := if cs.all Char.isDigit then some (Nat.ofDigitChars 10 cs 0) else none

def ofWeek (year : Nat) (week day : List Char) : Option Date := do weekDate year (← number week) (← number day)

def ofMonth (year : Nat) (month day : List Char) : Option Date := do date year (← number month) (← number day)

def afterYear (year : Nat) : List Char → Option Date
  | ['W',w1,w2] => ofWeek year [w1,w2] ['1']
  | ['W',w1,w2,d] => ofWeek year [w1,w2] [d]
  | ['-','W',w1,w2] => ofWeek year [w1,w2] ['1']
  | ['-','W',w1,w2,'-',d] => ofWeek year [w1,w2] [d]
  | ['-',m1,m2,'-',d1,d2] => ofMonth year [m1,m2] [d1,d2]
  | [m1,m2,d1,d2] => ofMonth year [m1,m2] [d1,d2]
  | _ => none

-- date.fromisoformat(text), as documented: nothing may follow the day.
def fromisoformat (text : String) : Option Date :=
  match text.toList with
  | y1 :: y2 :: y3 :: y4 :: rest => (number [y1,y2,y3,y4]).bind fun year => afterYear year rest
  | _ => none

def two (n : Nat) : List Char := [(n/10).digitChar,(n%10).digitChar]

def four (n : Nat) : List Char := two (n/100) ++ two (n%100)

def isoformat (d : Date) : String := String.ofList (four d.year ++ '-' :: (two d.month ++ '-' :: two d.day))

end texts

section roundTrip

theorem digits_two (n : Nat) (small : n < 100) : number (two n) = some n ∧ ∀ c ∈ two n, c.isDigit = true := by
  have each : ∀ n < 10, (Nat.digitChar n).isDigit = true := by decide
  have tens : n/10 < 10 := by omega
  have units : n%10 < 10 := by omega
  have digits : ∀ c ∈ two n, c.isDigit = true := by
    intro c there
    unfold two at there
    rcases List.mem_cons.mp there with rfl | last
    · exact each _ tens
    · rw [List.mem_singleton.mp last]
      exact each _ units
  refine ⟨?_,digits⟩
  unfold number
  rw [if_pos (List.all_eq_true.mpr digits)]
  unfold two
  rw [Nat.ofDigitChars_cons_digitChar_of_lt_ten tens,Nat.ofDigitChars_cons_digitChar_of_lt_ten units,Nat.ofDigitChars_nil]
  exact congrArg some (by omega)

theorem number_append {first second : List Char} {a b : Nat} (left : number first = some a) (right : number second = some b) :
    number (first ++ second) = some (10 ^ second.length * a + b) := by
  unfold number at left right ⊢
  split at left
  next digits =>
    split at right
    next digits' =>
      rw [List.all_append,digits,digits',Bool.true_and,if_pos rfl,Nat.ofDigitChars_append,Nat.ofDigitChars_eq_ofDigitChars_zero,
        Option.some.inj left,Option.some.inj right]
    next => cases right
  next => cases left

theorem digits_four (n : Nat) (small : n < 10000) : number (four n) = some n := by
  have high := (digits_two (n/100) (by omega)).1
  have low := (digits_two (n%100) (by omega)).1
  unfold four
  rw [number_append high low]
  have length : (two (n%100)).length = 2 := rfl
  rw [length]
  exact congrArg some (by omega)

theorem date_self (d : Date) : date d.year d.month d.day = some d := dif_pos d.valid

theorem daysInMonth_small (year month : Nat) : daysInMonth year month < 100 := by
  unfold daysInMonth
  split
  · split <;> decide
  · split <;> decide

theorem afterYear_dashed {m1 m2 d1 d2 : Char} (digit : m1.isDigit = true) (year : Nat) :
    afterYear year ['-',m1,m2,'-',d1,d2] = ofMonth year [m1,m2] [d1,d2] := by
  unfold afterYear
  split
  next same => cases same
  next same => cases same
  next same => cases same
  next same =>
    cases same
    cases digit
  next same =>
    cases same
    rfl
  next same => cases same
  next _ dashed _ => exact (dashed _ _ _ _ rfl).elim

theorem fromisoformat_isoformat (d : Date) : fromisoformat (isoformat d) = some d := by
  obtain ⟨years,months,days⟩ := d.valid
  have short := daysInMonth_small d.year d.month
  have year := digits_four d.year (by omega)
  obtain ⟨month,digits⟩ := digits_two d.month (by omega)
  obtain ⟨day,_⟩ := digits_two d.day (by omega)
  have rest : afterYear d.year ('-' :: (two d.month ++ '-' :: two d.day)) = some d := by
    refine (afterYear_dashed (digits _ (List.mem_cons_self ..)) d.year).trans ?_
    unfold ofMonth
    change (do date d.year (← number (two d.month)) (← number (two d.day))) = some d
    rw [month,day]
    exact date_self d
  unfold fromisoformat isoformat
  rw [String.toList_ofList]
  change (number (four d.year)).bind (fun year => afterYear year ('-' :: (two d.month ++ '-' :: two d.day))) = some d
  rw [year]
  exact rest

theorem isoformat_plain (d : Date) : Text.strip (isoformat d) = isoformat d ∧ isoformat d ≠ "" := by
  obtain ⟨years,months,days⟩ := d.valid
  have short := daysInMonth_small d.year d.month
  have first := (digits_two (d.year/100) (by omega)).2
  have second := (digits_two (d.year%100) (by omega)).2
  have third := (digits_two d.month (by omega)).2
  have fourth := (digits_two d.day (by omega)).2
  constructor
  · refine Text.strip_solid ?_
    unfold isoformat four
    rw [String.toList_ofList]
    intro c there
    refine Numerals.solid_plain ?_
    simp only [List.mem_append,List.mem_cons] at there
    rcases there with (there | there) | there | there | there | there
    · exact .inl (first c there)
    · exact .inl (second c there)
    · exact .inr there
    · exact .inl (third c there)
    · exact .inr there
    · exact .inl (fourth c there)
  · intro empty
    have blank := congrArg String.toList empty
    unfold isoformat at blank
    rw [String.toList_ofList] at blank
    cases blank

end roundTrip

end Dates

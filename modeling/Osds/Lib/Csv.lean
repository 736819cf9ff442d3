import Osds.Lib.Fallible
import Osds.Lib.Text

-- The reader of Python's csv module, in its "excel" dialect.
namespace Csv

-- `field_size_limit`, as it is set at the start.
def FIELD_LIMIT : Nat := 131072

inductive State where
  | startRecord | startField | inField | inQuotedField | quoteInQuotedField | eatCrnl
  deriving DecidableEq

structure Reader where
  state : State
  field : List Char
  fields : List String
  deriving DecidableEq

inductive Failure where
  | newLineInUnquotedField | fieldLimit
  deriving DecidableEq

def start : Reader := ⟨.startRecord,[],[]⟩

def isLineEnd (c : Char) : Bool := c = '\n' ∨ c = '\r'

namespace Reader

def save (r : Reader) (state : State) : Reader := ⟨state,[],r.fields ++ [String.ofList r.field]⟩

def add (r : Reader) (c : Char) (state : State) : Except Failure Reader :=
  if FIELD_LIMIT ≤ r.field.length then .error .fieldLimit else .ok {r with field := r.field ++ [c],state := state}

def startField (delimiter : Char) (r : Reader) (c : Char) : Except Failure Reader :=
  if isLineEnd c then .ok (r.save .eatCrnl)
  else if c = '"' then .ok {r with state := .inQuotedField}
  else if c = delimiter then .ok (r.save .startField)
  else r.add c .inField

def process (delimiter : Char) (r : Reader) (c : Char) : Except Failure Reader :=
  match r.state with
  | .startRecord => if isLineEnd c then .ok {r with state := .eatCrnl} else r.startField delimiter c
  | .startField => r.startField delimiter c
  | .inField =>
      if isLineEnd c then .ok (r.save .eatCrnl)
      else if c = delimiter then .ok (r.save .startField)
      else r.add c .inField
  | .inQuotedField => if c = '"' then .ok {r with state := .quoteInQuotedField} else r.add c .inQuotedField
  | .quoteInQuotedField =>
      if c = '"' then r.add c .inQuotedField
      else if c = delimiter then .ok (r.save .startField)
      else if isLineEnd c then .ok (r.save .eatCrnl)
      else r.add c .inField
  | .eatCrnl => if isLineEnd c then .ok r else .error .newLineInUnquotedField

def processEol (r : Reader) : Reader :=
  match r.state with
  | .startRecord => r
  | .startField | .inField | .quoteInQuotedField => r.save .startRecord
  | .inQuotedField => r
  | .eatCrnl => {r with state := .startRecord}

def close (r : Reader) : List String :=
  if r.processEol.state = .inQuotedField then (r.processEol.save .startRecord).fields else r.processEol.fields

end Reader

def scan (delimiter : Char) (r : Reader) : List Char → Except Failure (List String × List Char)
  | [] => .ok (r.close,[])
  | c :: rest => do
      let r ← r.process delimiter c
      if c = '\n' ∧ r.processEol.state = .startRecord then pure (r.processEol.fields,rest)
      else scan delimiter r rest

def next (delimiter : Char) : List Char → Except Failure (Option (List String) × List Char)
  | [] => .ok (none,[])
  | text => (scan delimiter start text).map fun (record,rest) => (some record,rest)

def rows (delimiter : Char) (r : Reader) (begun : Bool) : List Char → Except Failure (List (List String))
  | [] => .ok (if begun then [r.close] else [])
  | c :: rest => do
      let r ← r.process delimiter c
      if c = '\n' ∧ r.processEol.state = .startRecord then
        pure (r.processEol.fields :: (← rows delimiter start false rest))
      else rows delimiter r true rest

def readAll (delimiter : Char) (text : List Char) : Except Failure (List (List String)) := rows delimiter start false text

section first

def Ends : List Char → Bool
  | [] => true
  | c :: rest => if c = '\r' then Ends rest else c = '\n'

-- The characters of the first record, without its line end, and its fields.
def First (delimiter : Char) (text before : List Char) (record : List String) : Prop :=
  ∃ r after, before.foldlM (Reader.process delimiter) start = .ok r ∧ text = before ++ after ∧ record = r.close ∧
    (r.state ≠ .inQuotedField ∧ r.state ≠ .eatCrnl ∧ Ends after = true ∨ r.state = .inQuotedField ∧ after = [])

variable {delimiter : Char} {r r' : Reader} {c : Char} {before after text : List Char} {record : List String}

theorem add_exact {state : State} (added : r.add c state = .ok r') : r'.state = state ∧ r'.fields = r.fields := by
  unfold Reader.add at added
  split at added
  · cases added
  · cases added
    exact ⟨rfl,rfl⟩

theorem process_eating (eating : r.state = .eatCrnl) (processed : r.process delimiter c = .ok r') : r' = r := by
  unfold Reader.process at processed
  rw [eating] at processed
  dsimp only at processed
  split at processed
  · exact (Except.ok.inj processed).symm
  · cases processed

theorem feed_eating (eating : r.state = .eatCrnl) (fed : before.foldlM (Reader.process delimiter) r = .ok r') : r' = r := by
  induction before with
  | nil => exact (Except.ok.inj fed).symm
  | cons c rest ih =>
      rw [List.foldlM_cons] at fed
      obtain ⟨next_,processed,later⟩ := Fallible.bind_exact.mp fed
      rw [process_eating eating processed] at later
      exact ih later

theorem process_lineEnd (plain : isLineEnd delimiter = false) (line : isLineEnd c = true) (open_ : r.state ≠ .inQuotedField) :
    ∃ r', r.process delimiter c = .ok r' ∧ r'.state = .eatCrnl ∧ (r.state ≠ .eatCrnl → r'.fields = r.close) := by
  have apart : c ≠ delimiter := by
    intro equal
    rw [equal,plain] at line
    cases line
  have unquoted : c ≠ '"' := by
    intro equal
    rw [equal] at line
    cases line
  unfold Reader.process Reader.close Reader.processEol
  cases state : r.state with
  | startRecord => exact ⟨_,if_pos line,rfl,fun _ => by simp [state]⟩
  | startField => exact ⟨_,if_pos line,rfl,fun _ => by simp [Reader.save]⟩
  | inField => exact ⟨_,if_pos line,rfl,fun _ => by simp [Reader.save]⟩
  | inQuotedField => exact absurd state open_
  | quoteInQuotedField => exact ⟨r.save .eatCrnl,by simp [unquoted,apart,line],rfl,fun _ => by simp [Reader.save]⟩
  | eatCrnl => exact ⟨r,if_pos line,state,fun other => absurd rfl other⟩

theorem process_quoted_newLine (quoted : r.state = .inQuotedField) (processed : r.process delimiter '\n' = .ok r') :
    r'.state = .inQuotedField := by
  unfold Reader.process at processed
  rw [quoted] at processed
  exact (add_exact processed).1

theorem scan_cons (processed : r.process delimiter c = .ok r') : scan delimiter r (c :: after) =
    if c = '\n' ∧ r'.processEol.state = .startRecord then .ok (r'.processEol.fields,after) else scan delimiter r' after := by
  rw [scan,processed]
  rfl

theorem scan_feed (plain : isLineEnd delimiter = false) (fed : before.foldlM (Reader.process delimiter) r = .ok r')
    (going : r'.state ≠ .eatCrnl) : scan delimiter r (before ++ after) = scan delimiter r' after := by
  induction before generalizing r with
  | nil =>
      cases fed
      rfl
  | cons c rest ih =>
      rw [List.foldlM_cons] at fed
      obtain ⟨next_,processed,later⟩ := Fallible.bind_exact.mp fed
      rw [List.cons_append,scan_cons processed,if_neg,ih later]
      intro ended
      obtain ⟨rfl,record⟩ := ended
      by_cases quoted : r.state = .inQuotedField
      · unfold Reader.processEol at record
        rw [process_quoted_newLine quoted processed] at record
        rw [process_quoted_newLine quoted processed] at record
        cases record
      · obtain ⟨eaten,processed',eating,_⟩ := process_lineEnd plain (c := '\n') (by decide) quoted
        rw [processed] at processed'
        rw [← Except.ok.inj processed'] at eating
        exact going (feed_eating eating later ▸ eating)

theorem scan_eating (eating : r.state = .eatCrnl) (ends : Ends after = true) :
    ∃ rest, scan delimiter r after = .ok (r.fields,rest) := by
  have eol : r.processEol = {r with state := .startRecord} := by
    unfold Reader.processEol
    rw [eating]
  induction after with
  | nil =>
      refine ⟨[],?_⟩
      unfold scan Reader.close
      rw [eol]
      rfl
  | cons c rest ih =>
      have line : isLineEnd c = true := by
        unfold Ends at ends
        split at ends
        · next back => exact decide_eq_true (.inr back)
        · exact decide_eq_true (.inl (of_decide_eq_true ends))
      have processed : r.process delimiter c = .ok r := by
        unfold Reader.process
        rw [eating]
        exact if_pos line
      rw [scan_cons processed]
      by_cases newLine : c = '\n'
      · rw [if_pos ⟨newLine,by rw [eol]⟩,eol]
        exact ⟨rest,rfl⟩
      · rw [if_neg fun both => newLine both.1]
        unfold Ends at ends
        split at ends
        · exact ih ends
        · exact absurd (of_decide_eq_true ends) newLine

theorem scan_ends (plain : isLineEnd delimiter = false) (open_ : r.state ≠ .inQuotedField) (going : r.state ≠ .eatCrnl)
    (ends : Ends after = true) : ∃ rest, scan delimiter r after = .ok (r.close,rest) := by
  cases after with
  | nil => exact ⟨[],rfl⟩
  | cons c rest =>
      have line : isLineEnd c = true := by
        unfold Ends at ends
        split at ends
        · next back => exact decide_eq_true (.inr back)
        · exact decide_eq_true (.inl (of_decide_eq_true ends))
      obtain ⟨eaten,processed,eating,fields⟩ := process_lineEnd plain line open_
      have eol : eaten.processEol = {eaten with state := .startRecord} := by
        unfold Reader.processEol
        rw [eating]
      rw [scan_cons processed,← fields going]
      by_cases newLine : c = '\n'
      · rw [if_pos ⟨newLine,by rw [eol]⟩,eol]
        exact ⟨rest,rfl⟩
      · rw [if_neg fun both => newLine both.1]
        unfold Ends at ends
        split at ends
        · exact scan_eating eating ends
        · exact absurd (of_decide_eq_true ends) newLine

theorem next_first (plain : isLineEnd delimiter = false) (first : First delimiter text before record) :
    ∃ answer rest, next delimiter text = .ok (answer,rest) ∧ answer.getD [] = record := by
  obtain ⟨r,after,fed,rfl,rfl,closed⟩ := first
  have scanned : ∃ rest, scan delimiter start (before ++ after) = .ok (r.close,rest) := by
    rcases closed with ⟨open_,going,ends⟩ | ⟨quoted,rfl⟩
    · rw [scan_feed plain fed going]
      exact scan_ends plain open_ going ends
    · rw [scan_feed plain fed (by rw [quoted]; decide)]
      exact ⟨[],rfl⟩
  obtain ⟨rest,scanned⟩ := scanned
  cases whole : before ++ after with
  | nil =>
      rw [whole] at scanned
      have fields : start.close = r.close := (Prod.mk.inj (Except.ok.inj scanned)).1
      exact ⟨none,[],rfl,fields⟩
  | cons c tail =>
      rw [whole] at scanned
      refine ⟨some r.close,rest,?_,rfl⟩
      unfold next
      dsimp only
      rw [scanned]
      rfl

theorem ends_start {after' : List Char} (ends : Ends after = true) (shorter : after' <+: after) : Ends after' = true := by
  induction after' generalizing after with
  | nil => rfl
  | cons c rest ih =>
      obtain ⟨later,rfl⟩ := shorter
      rw [List.cons_append] at ends
      unfold Ends at ends ⊢
      split at ends
      · next back =>
          rw [if_pos back]
          exact ih ends ⟨later,rfl⟩
      · next other =>
          rw [if_neg other]
          exact ends

theorem first_cut {cut : List Char} (first : First delimiter text before record) (longer : before <+: cut) (shorter : cut <+: text) :
    First delimiter cut before record := by
  obtain ⟨r,after,fed,rfl,rfl,closed⟩ := first
  obtain ⟨after',rfl⟩ := longer
  have part : after' <+: after := (List.prefix_append_right_inj before).mp shorter
  refine ⟨r,after',fed,rfl,rfl,?_⟩
  rcases closed with ⟨open_,going,ends⟩ | ⟨quoted,rfl⟩
  · exact .inl ⟨open_,going,ends_start ends part⟩
  · exact .inr ⟨quoted,List.prefix_nil.mp part⟩

theorem rows_begun {records : List (List String)} (read : rows delimiter r true text = .ok records) :
    ∃ record rest, scan delimiter r text = .ok (record,rest) ∧ records.head? = some record := by
  induction text generalizing r with
  | nil =>
      cases read
      exact ⟨r.close,[],rfl,rfl⟩
  | cons c rest ih =>
      rw [rows] at read
      obtain ⟨r',processed,later⟩ := Fallible.bind_exact.mp read
      rw [scan_cons processed]
      by_cases ended : c = '\n' ∧ r'.processEol.state = .startRecord
      · rw [if_pos ended] at later ⊢
        obtain ⟨others,_,whole⟩ := Fallible.bind_exact.mp later
        cases whole
        exact ⟨_,rest,rfl,rfl⟩
      · rw [if_neg ended] at later ⊢
        exact ih later

theorem readAll_head {records : List (List String)} (read : readAll delimiter text = .ok records) :
    ∃ rest, next delimiter text = .ok (records.head?,rest) := by
  cases text with
  | nil =>
      cases read
      exact ⟨[],rfl⟩
  | cons c tail =>
      have begun : rows delimiter start true (c :: tail) = .ok records := read
      obtain ⟨record,rest,scanned,head⟩ := rows_begun begun
      refine ⟨rest,?_⟩
      unfold next
      dsimp only
      rw [scanned,head]
      rfl

end first

end Csv

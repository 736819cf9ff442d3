import Osds.Lib.Csv
import Osds.Lib.Utf8

namespace Osds.Directory.CsvHeader

def HEADER_SNIFF_BYTES : Nat := 64 * 1024

inductive Encoding where
  | utf8Sig | cp1252
  deriving DecidableEq

inductive Delimiter where
  | comma | semicolon | tab
  deriving DecidableEq

def Delimiter.char : Delimiter → Char
  | .comma => ','
  | .semicolon => ';'
  | .tab => '\t'

-- The sniffer, which may find none, and the decoder that replaces what is not UTF-8.
structure Library where
  sniff : String → Option Delimiter
  replacing : List UInt8 → String
  replacing_utf8 : ∀ text, replacing (Text.utf8 text) = text

section decode

def BOM_UTF8 : List UInt8 := [0xEF,0xBB,0xBF]

def withoutBom (raw : List UInt8) : List UInt8 := if raw.take 3 = BOM_UTF8 then raw.drop 3 else raw

def CP1252_HIGH : List Nat :=
  [0x20AC,0xFFFD,0x201A,0x0192,0x201E,0x2026,0x2020,0x2021,0x02C6,0x2030,0x0160,0x2039,0x0152,0xFFFD,0x017D,0xFFFD,
    0xFFFD,0x2018,0x2019,0x201C,0x201D,0x2022,0x2013,0x2014,0x02DC,0x2122,0x0161,0x203A,0x0153,0xFFFD,0x017E,0x0178]

def cp1252Char (b : UInt8) : Char :=
  if 0x80 ≤ b.toNat ∧ b.toNat < 0xA0 then Char.ofNat (CP1252_HIGH.getD (b.toNat - 0x80) 0xFFFD) else Char.ofNat b.toNat

def decodeCp1252 (raw : List UInt8) : String := String.ofList (raw.map cp1252Char)

def decodeReplacing (lib : Library) : Encoding → List UInt8 → String
  | .utf8Sig,raw => lib.replacing (withoutBom raw)
  | .cp1252,raw => decodeCp1252 raw

def decodePrefix (raw : List UInt8) : Encoding × String :=
  match Utf8.decode (withoutBom (raw.take HEADER_SNIFF_BYTES)) with
  | some text => (.utf8Sig,text)
  | none => (.cp1252,decodeCp1252 (raw.take HEADER_SNIFF_BYTES))

end decode

section read

variable (lib : Library)

def delimiterOf (text : String) : Delimiter := (lib.sniff text).getD .comma

def trimmed (record : Option (List String)) : List String := (record.getD []).map Text.strip

def readHeader (raw : List UInt8) : Except Csv.Failure (List String × Delimiter × Encoding) := do
  let (encoding,text) := decodePrefix raw
  let (first,_) ← Csv.next (delimiterOf lib text).char text.toList
  pure (trimmed first,delimiterOf lib text,encoding)

def parseFile (encoding : Encoding) (delimiter : Delimiter) (raw : List UInt8) : Except Csv.Failure (List (List String)) :=
  Csv.readAll delimiter.char (decodeReplacing lib encoding raw).toList

def readRows (hasHeader : Bool) (encoding : Encoding) (delimiter : Delimiter) (raw : List UInt8) :
    Except Csv.Failure (List (List String)) :=
  (parseFile lib encoding delimiter raw).map fun rows => if hasHeader then rows.drop 1 else rows

end read

section cut

variable {raw : List UInt8} {text : String}

def bomSize (raw : List UInt8) : Nat := if raw.take 3 = BOM_UTF8 then 3 else 0

-- The prefix is the file, or it ends with a character of its text.
def CutBetween (raw : List UInt8) (text : String) : Prop :=
  raw.length ≤ HEADER_SNIFF_BYTES ∨
  ∃ before after, text = before ++ after ∧ bomSize raw + (Text.utf8 before).length = HEADER_SNIFF_BYTES

theorem withoutBom_take (raw : List UInt8) : withoutBom (raw.take HEADER_SNIFF_BYTES) =
    (withoutBom raw).take (HEADER_SNIFF_BYTES - bomSize raw) := by
  have enough : min 3 HEADER_SNIFF_BYTES = 3 := by decide
  unfold withoutBom bomSize
  rw [List.take_take,enough]
  split
  · rw [List.drop_take]
  · rfl

theorem withoutBom_length (raw : List UInt8) : bomSize raw + (withoutBom raw).length = raw.length := by
  unfold withoutBom bomSize
  split
  · next marked =>
      have long : 3 ≤ raw.length := by
        have sizes := congrArg List.length marked
        rw [List.length_take] at sizes
        have three : BOM_UTF8.length = 3 := rfl
        omega
      rw [List.length_drop]
      omega
  · exact Nat.zero_add _

theorem prefix_text (valid : Utf8.decode (withoutBom raw) = some text) {part : String}
    (read : Utf8.decode (withoutBom (raw.take HEADER_SNIFF_BYTES)) = some part) :
    (∃ after, text = part ++ after) ∧
      (Text.utf8 part).length = min (HEADER_SNIFF_BYTES - bomSize raw) (Text.utf8 text).length := by
  rw [withoutBom_take,Utf8.decode_exact.mp valid] at read
  exact Utf8.decode_take read

theorem cut_decodes (valid : Utf8.decode (withoutBom raw) = some text) (between : CutBetween raw text) :
    ∃ part, Utf8.decode (withoutBom (raw.take HEADER_SNIFF_BYTES)) = some part := by
  rcases between with short | ⟨before,after,rfl,size⟩
  · rw [List.take_of_length_le short]
    exact ⟨text,valid⟩
  · refine ⟨before,?_⟩
    rw [withoutBom_take,Utf8.decode_exact.mp valid]
    exact Utf8.decode_boundary (by omega)

end cut

section agrees

variable (lib : Library) (raw : List UInt8) (text : String)

def reported : Delimiter := delimiterOf lib (decodePrefix raw).2

def Within : Prop :=
  ∃ before record, Csv.First (reported lib raw).char text.toList before record ∧
    bomSize raw + (Utf8.chars before).length ≤ HEADER_SNIFF_BYTES

-- A UTF-8 encoding, with which the whole file is its text; the first record of that; and
-- a worker that has the rows of the text.
def Agrees : Prop :=
  ∃ header delimiter, readHeader lib raw = .ok (header,delimiter,.utf8Sig) ∧
    decodeReplacing lib .utf8Sig raw = text ∧
    (∃ first rest, Csv.next delimiter.char text.toList = .ok (first,rest) ∧ header = trimmed first) ∧
    ∀ rows, Csv.readAll delimiter.char text.toList = .ok rows → header = trimmed rows.head? ∧
      ∀ hasHeader, readRows lib hasHeader .utf8Sig delimiter raw = .ok (if hasHeader then rows.drop 1 else rows)

end agrees

section agreed

variable {lib : Library} {raw : List UInt8} {text : String}

theorem agrees_cut (valid : Utf8.decode (withoutBom raw) = some text) (agrees : Agrees lib raw text) : CutBetween raw text := by
  obtain ⟨header,delimiter,read,_⟩ := agrees
  unfold readHeader decodePrefix at read
  cases decoded : Utf8.decode (withoutBom (raw.take HEADER_SNIFF_BYTES)) with
  | none =>
      rw [decoded] at read
      obtain ⟨first,_,reported⟩ := Fallible.bind_exact.mp read
      cases reported
  | some part =>
      obtain ⟨⟨after,whole⟩,size⟩ := prefix_text valid decoded
      have bytes := withoutBom_length raw
      rw [Utf8.decode_exact.mp valid] at bytes
      have marked : bomSize raw ≤ 3 := by
        unfold bomSize
        split <;> omega
      have room : 3 ≤ HEADER_SNIFF_BYTES := by decide
      rcases Nat.le_total raw.length HEADER_SNIFF_BYTES with short | long
      · exact .inl short
      · exact .inr ⟨part,after,whole,by omega⟩

theorem cut_agrees (valid : Utf8.decode (withoutBom raw) = some text) (within : Within lib raw text)
    (between : CutBetween raw text) : Agrees lib raw text := by
  obtain ⟨part,decoded⟩ := cut_decodes valid between
  have text_ : decodePrefix raw = (.utf8Sig,part) := by
    unfold decodePrefix
    rw [decoded]
  obtain ⟨before,record,first,inside⟩ := within
  unfold reported at first
  rw [text_] at first
  obtain ⟨⟨after,whole⟩,size⟩ := prefix_text valid decoded
  have parts : part.toList <+: text.toList := ⟨after.toList,by rw [whole,String.toList_append]⟩
  have begins : before <+: text.toList := by
    obtain ⟨_,rest,_,split,_⟩ := first
    exact ⟨rest,split.symm⟩
  have longer : before <+: part.toList := by
    refine Utf8.prefix_of_size begins parts ?_
    obtain ⟨rest,split⟩ := begins
    have sizes := congrArg List.length (congrArg Utf8.chars split)
    rw [Utf8.chars_append,List.length_append] at sizes
    change (Utf8.chars part.toList).length = min _ (Utf8.chars text.toList).length at size
    omega
  have plain : Csv.isLineEnd (delimiterOf lib part).char = false := by
    cases delimiterOf lib part <;> decide
  obtain ⟨answer,left,near,fields⟩ := Csv.next_first plain (Csv.first_cut first longer parts)
  obtain ⟨answer',left',far,fields'⟩ := Csv.next_first plain first
  have same : trimmed answer = trimmed answer' := by
    unfold trimmed
    rw [fields,fields']
  have decodes : decodeReplacing lib .utf8Sig raw = text := by
    change lib.replacing (withoutBom raw) = text
    rw [Utf8.decode_exact.mp valid]
    exact lib.replacing_utf8 text
  refine ⟨trimmed answer,delimiterOf lib part,?_,decodes,⟨answer',left',far,same⟩,?_⟩
  · unfold readHeader
    rw [text_]
    dsimp only
    rw [near]
    rfl
  · intro rows parsed
    obtain ⟨rest,head⟩ := Csv.readAll_head parsed
    rw [far] at head
    refine ⟨by rw [same,(Prod.mk.inj (Except.ok.inj head)).1],fun hasHeader => ?_⟩
    unfold readRows parseFile
    rw [decodes,parsed]
    rfl

end agreed

-- Of a UTF-8 file whose first record is within the prefix, the header agrees with the
-- whole exactly when the prefix does not end inside a character.
theorem header_agrees (lib : Library) (raw : List UInt8) (text : String) (valid : Utf8.decode (withoutBom raw) = some text)
    (within : Within lib raw text) : Agrees lib raw text ↔ CutBetween raw text :=
  ⟨agrees_cut valid,cut_agrees valid within⟩

section example_files

def exampleLibrary : Library where
  sniff := fun _ => none
  replacing := fun bytes => (Utf8.decode bytes).getD "�"
  replacing_utf8 := fun text => by rw [Utf8.decode_utf8]; rfl

theorem example_reported (raw : List UInt8) : reported exampleLibrary raw = .comma := rfl

theorem small_file_agrees :
    Agrees exampleLibrary (Text.utf8 "name,slug\nCafé,cafe\n") "name,slug\nCafé,cafe\n" ↔
      CutBetween (Text.utf8 "name,slug\nCafé,cafe\n") "name,slug\nCafé,cafe\n" := by
  have unmarked : withoutBom (Text.utf8 "name,slug\nCafé,cafe\n") = Text.utf8 "name,slug\nCafé,cafe\n" := by decide
  refine header_agrees exampleLibrary _ _ (by rw [unmarked]; exact Utf8.decode_utf8 _) ?_
  refine ⟨"name,slug".toList,["name","slug"],⟨⟨.inField,"slug".toList,["name"]⟩,"\nCafé,cafe\n".toList,?_⟩,by decide⟩
  rw [example_reported]
  exact ⟨rfl,rfl,rfl,.inl ⟨by decide,by decide,by decide⟩⟩

-- A header line, and a second line so long that the 64 KiB end inside its "é".
def exampleChars : List Char := 'a' :: '\n' :: List.replicate 65533 'b'

def exampleText : String := String.ofList (exampleChars ++ ['é'])

theorem example_bytes : Text.utf8 exampleText = Utf8.chars (exampleChars ++ ['é']) := by
  unfold exampleText Text.utf8
  rw [String.toList_ofList]
  rfl

theorem example_size : (Utf8.chars exampleChars).length = 65535 := by
  have each : ∀ n, (Utf8.chars (List.replicate n 'b')).length = n := by
    intro n
    induction n with
    | zero => rfl
    | succ n ih =>
        rw [List.replicate_succ]
        change (String.utf8EncodeChar 'b' ++ Utf8.chars (List.replicate n 'b')).length = n+1
        rw [List.length_append,ih]
        exact Nat.add_comm 1 n
  change (String.utf8EncodeChar 'a' ++ (String.utf8EncodeChar '\n' ++ Utf8.chars (List.replicate 65533 'b'))).length = 65535
  rw [List.length_append,List.length_append,each]
  rfl

theorem example_unmarked : (Text.utf8 exampleText).take 3 ≠ BOM_UTF8 := by
  intro marked
  rw [example_bytes] at marked
  have first : (97 : UInt8) = 0xEF := (List.cons.inj marked).1
  exact absurd first (by decide)

theorem example_bom : bomSize (Text.utf8 exampleText) = 0 := if_neg example_unmarked

theorem example_uncut : ¬CutBetween (Text.utf8 exampleText) exampleText := by
  have size : (Utf8.chars (exampleChars ++ ['é'])).length = 65537 := by
    rw [Utf8.chars_append,List.length_append,example_size]
    rfl
  have limit : HEADER_SNIFF_BYTES = 65536 := by decide
  intro between
  rcases between with short | ⟨before,after,whole,cut⟩
  · rw [example_bytes,size] at short
    omega
  · rw [example_bom,Nat.zero_add] at cut
    have begins : before.toList <+: exampleChars ++ ['é'] := by
      refine ⟨after.toList,?_⟩
      rw [← String.toList_append,← whole]
      exact String.toList_ofList
    have longer : exampleChars <+: before.toList := by
      refine Utf8.prefix_of_size ⟨['é'],rfl⟩ begins ?_
      change _ ≤ (Text.utf8 before).length
      rw [example_size]
      omega
    obtain ⟨more,split⟩ := longer
    rw [← split] at begins
    obtain ⟨rest,whole_⟩ := (List.prefix_append_right_inj exampleChars).mp begins
    have sizes : (Utf8.chars exampleChars ++ Utf8.chars more).length = 65536 := by
      rw [← Utf8.chars_append,split]
      exact cut.trans limit
    rw [List.length_append,example_size] at sizes
    cases more with
    | nil => cases sizes
    | cons c tail =>
        obtain ⟨rfl,empty⟩ := List.cons.inj whole_
        rw [(List.append_eq_nil_iff.mp empty).1] at sizes
        cases sizes

theorem accented_cut_disagrees : Utf8.decode (withoutBom (Text.utf8 exampleText)) = some exampleText ∧
    Within exampleLibrary (Text.utf8 exampleText) exampleText ∧ ¬Agrees exampleLibrary (Text.utf8 exampleText) exampleText := by
  have valid : Utf8.decode (withoutBom (Text.utf8 exampleText)) = some exampleText := by
    unfold withoutBom
    rw [if_neg example_unmarked]
    exact Utf8.decode_utf8 _
  refine ⟨valid,?_,fun agrees => example_uncut (agrees_cut valid agrees)⟩
  have split : exampleText.toList = ['a'] ++ '\n' :: (List.replicate 65533 'b' ++ ['é']) := by
    unfold exampleText exampleChars
    rw [String.toList_ofList,List.singleton_append,List.cons_append,List.cons_append]
  have ends : ∀ rest, Csv.Ends ('\n' :: rest) = true := fun _ => rfl
  refine ⟨['a'],["a"],?_,?_⟩
  · rw [example_reported]
    exact ⟨⟨.inField,['a'],[]⟩,_,rfl,split,rfl,.inl ⟨by decide,by decide,ends _⟩⟩
  · rw [example_bom]
    decide

end example_files

end Osds.Directory.CsvHeader

import Osds.Lib.Text

-- UTF-8: what bytes decode to, and where a cut of them may fall.
namespace Utf8

def chars (cs : List Char) : List UInt8 := cs.flatMap String.utf8EncodeChar

def decode (bytes : List UInt8) : Option String := String.fromUTF8? bytes.toByteArray

variable {cs ds : List Char} {bytes rest rest' : List UInt8} {text before after : String} {c d : Char} {n : Nat}

theorem toByteArray_utf8 (text : String) : (Text.utf8 text).toByteArray = text.toByteArray := by
  unfold Text.utf8
  rw [← List.utf8Encode,← String.toByteArray_ofList,String.ofList_toList]

theorem decode_utf8 (text : String) : decode (Text.utf8 text) = some text := by
  unfold decode String.fromUTF8?
  rw [toByteArray_utf8]
  exact dif_pos text.isValidUTF8

theorem decode_exact : decode bytes = some text ↔ bytes = Text.utf8 text := by
  constructor
  · intro read
    unfold decode String.fromUTF8? at read
    split at read
    · next valid =>
        have same : bytes.toByteArray = text.toByteArray := by
          rw [← Option.some.inj read]
          rfl
        exact List.toByteArray_inj.mp (same.trans (toByteArray_utf8 text).symm)
    · cases read
  · intro same
    rw [same]
    exact decode_utf8 text

theorem encodeChar_inj (same : String.utf8EncodeChar c ++ rest = String.utf8EncodeChar d ++ rest') : c = d ∧ rest = rest' := by
  have arrays := congrArg List.toByteArray same
  rw [List.toByteArray_append,List.toByteArray_append] at arrays
  have first := congrArg (fun b => ByteArray.utf8DecodeChar? b 0) arrays
  simp only [ByteArray.utf8DecodeChar?_utf8EncodeChar_append] at first
  cases Option.some.inj first
  exact ⟨rfl,List.append_cancel_left same⟩

theorem chars_prefix (same : chars cs ++ rest = chars ds) : ∃ es, ds = cs ++ es := by
  induction cs generalizing ds with
  | nil => exact ⟨ds,rfl⟩
  | cons c tail ih =>
      cases ds with
      | nil =>
          have empty : chars (c :: tail) = [] := (List.append_eq_nil_iff.mp same).1
          exact absurd (List.append_eq_nil_iff.mp empty).1 String.utf8EncodeChar_ne_nil
      | cons d tail' =>
          have heads : String.utf8EncodeChar c ++ (chars tail ++ rest) = String.utf8EncodeChar d ++ chars tail' := by
            rw [← List.append_assoc]
            exact same
          obtain ⟨rfl,below⟩ := encodeChar_inj heads
          obtain ⟨es,rfl⟩ := ih below
          exact ⟨es,rfl⟩

theorem decode_take (read : decode ((Text.utf8 text).take n) = some before) :
    (∃ after, text = before ++ after) ∧ (Text.utf8 before).length = min n (Text.utf8 text).length := by
  have same := decode_exact.mp read
  constructor
  · have whole : chars before.toList ++ (Text.utf8 text).drop n = chars text.toList := by
      rw [show chars before.toList = (Text.utf8 text).take n from same.symm]
      exact List.take_append_drop ..
    obtain ⟨es,split⟩ := chars_prefix whole
    refine ⟨String.ofList es,String.toList_inj.mp ?_⟩
    rw [split,String.toList_append,String.toList_ofList]
  · rw [← same,List.length_take]

theorem decode_boundary (cut : (Text.utf8 before).length = n) : decode ((Text.utf8 (before ++ after)).take n) = some before := by
  rw [Text.utf8_append,← cut,List.take_left]
  exact decode_utf8 before

theorem chars_append (cs ds : List Char) : chars (cs ++ ds) = chars cs ++ chars ds := List.flatMap_append

theorem chars_empty (empty : (chars cs).length = 0) : cs = [] := by
  cases cs with
  | nil => rfl
  | cons c rest =>
      have none_ : chars (c :: rest) = [] := List.length_eq_zero_iff.mp empty
      exact absurd (List.append_eq_nil_iff.mp none_).1 String.utf8EncodeChar_ne_nil

theorem prefix_of_size {es : List Char} (one : cs <+: ds) (two : es <+: ds) (size : (chars cs).length ≤ (chars es).length) :
    cs <+: es := by
  rcases Nat.le_total cs.length es.length with short | long
  · exact List.prefix_of_prefix_length_le one two short
  · obtain ⟨more,split⟩ := List.prefix_of_prefix_length_le two one long
    have sizes := congrArg List.length (congrArg chars split)
    rw [chars_append,List.length_append] at sizes
    have none_ : more = [] := chars_empty (by omega)
    have same : cs = es := by rw [← split,none_,List.append_nil]
    exact same ▸ List.prefix_refl _

end Utf8

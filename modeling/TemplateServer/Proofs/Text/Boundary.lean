import TemplateServer.Text.Position
import TemplateServer.Text.Utf8

/-!
Character boundaries of a text, seen from its bytes. An ASCII byte is always a
character of its own, so a cut right before or right behind one, or at the end
of the bytes, falls between two characters.
-/

namespace TemplateServer.Text

theorem bytes_eq_encoded (text : String) :
    bytes text = text.toList.flatMap String.utf8EncodeChar := by
  rw [bytes, ← String.utf8Encode_toList]
  simp [List.utf8Encode]

theorem bytes_of_list (chars : List Char) :
    bytes (String.ofList chars) = chars.flatMap String.utf8EncodeChar := by
  rw [bytes_eq_encoded, String.toList_ofList]

theorem bytes_injective {left right : String} (same : bytes left = bytes right) :
    left = right := by
  rw [← decode_bytes left, same, decode_bytes]

theorem decode_some_iff {input : List UInt8} {text : String} :
    decode? input = some text ↔ input = bytes text := by
  constructor
  · intro decoded
    rw [decode?, String.fromUTF8?] at decoded
    split at decoded
    · cases decoded
      rfl
    · cases decoded
  · rintro rfl
    exact decode_some_of_bytes text

theorem encode_char_ascii (char : Char) (ascii : char.toNat < 0x80) :
    String.utf8EncodeChar char = [UInt8.ofNat char.toNat] := by
  have small : char.val.toNat ≤ 0x7F := Nat.le_of_lt_succ ascii
  simp only [String.utf8EncodeChar]
  rw [if_pos small]
  rfl

theorem encode_char_wide (char : Char) (wide : 0x80 ≤ char.toNat) :
    ∀ byte ∈ String.utf8EncodeChar char, 0x80 ≤ byte := by
  have large : ¬ char.val.toNat ≤ 0x7F := Nat.not_le.mpr wide
  intro byte member
  simp only [String.utf8EncodeChar] at member
  rw [if_neg large] at member
  -- two, three or four bytes; each is a marker plus a remainder below it
  split at member
  · simp only [List.mem_cons, List.not_mem_nil, or_false] at member
    rcases member with rfl | rfl <;> simp [UInt8.le_iff_toNat_le] <;> omega
  · split at member
    · simp only [List.mem_cons, List.not_mem_nil, or_false] at member
      rcases member with rfl | rfl | rfl <;> simp [UInt8.le_iff_toNat_le] <;> omega
    · simp only [List.mem_cons, List.not_mem_nil, or_false] at member
      rcases member with rfl | rfl | rfl | rfl <;> simp [UInt8.le_iff_toNat_le] <;> omega

theorem ascii_byte_is_char (char : Char) (front back : List UInt8) (byte : UInt8)
    (encoded : String.utf8EncodeChar char = front ++ byte :: back) (ascii : byte < 0x80) :
    front = [] ∧ back = [] := by
  by_cases narrow : char.toNat < 0x80
  · rw [encode_char_ascii char narrow] at encoded
    cases front with
    | nil => exact ⟨rfl, (List.cons.inj encoded).2.symm⟩
    | cons first later =>
        have empty := (List.cons.inj encoded).2
        simp at empty
  · have high := encode_char_wide char (Nat.le_of_not_lt narrow) byte (by simp [encoded])
    exact absurd high (UInt8.not_le.mpr ascii)

theorem chars_split_at_ascii (chars : List Char) (left right : List UInt8) (byte : UInt8)
    (encoded : chars.flatMap String.utf8EncodeChar = left ++ byte :: right)
    (ascii : byte < 0x80) :
    ∃ before char after, chars = before ++ char :: after ∧
      before.flatMap String.utf8EncodeChar = left ∧
      String.utf8EncodeChar char = [byte] ∧
      after.flatMap String.utf8EncodeChar = right := by
  induction chars generalizing left with
  | nil => simp at encoded
  | cons first chars induction =>
      rw [List.flatMap_cons, List.append_eq_append_iff] at encoded
      rcases encoded with ⟨more, rfl, later⟩ | ⟨more, front, later⟩
      · obtain ⟨before, char, after, rfl, rfl, single, rest⟩ := induction more later
        exact ⟨first :: before, char, after, rfl, rfl, single, rest⟩
      · cases more with
        | nil =>
            rw [List.append_nil] at front
            obtain ⟨before, char, after, rfl, none, single, rest⟩ := induction [] later.symm
            refine ⟨first :: before, char, after, rfl, ?_, single, rest⟩
            rw [List.flatMap_cons, none, List.append_nil, front]
        | cons head more =>
            obtain ⟨rfl, rest⟩ := List.cons.inj later
            obtain ⟨rfl, rfl⟩ := ascii_byte_is_char first left more byte front ascii
            exact ⟨[], first, chars, rfl, rfl, front, rest.symm⟩

/-- An offset that does not divide a character. -/
def Boundary (text : String) (offset : Nat) : Prop :=
  ∃ before after, text = before ++ after ∧ before.utf8ByteSize = offset

def RestAt (text : String) (position : Nat) (rest : List UInt8) : Prop :=
  ∃ before after, text = before ++ after ∧ before.utf8ByteSize = position ∧ bytes after = rest

/-- A piece of a text between two of its character boundaries. -/
def Spells (text : String) (start stop : Nat) (piece : String) : Prop :=
  ∃ before after, text = before ++ piece ++ after ∧ before.utf8ByteSize = start ∧
    (before ++ piece).utf8ByteSize = stop

/-- A cut at the end of some bytes, or right before or behind an ASCII byte. -/
def Cut (input : List UInt8) (count : Nat) : Prop :=
  count = input.length ∨ ∃ left byte right, input = left ++ byte :: right ∧ byte < 0x80 ∧
    (count = left.length ∨ count = left.length + 1)

theorem cut_end (input : List UInt8) : Cut input input.length := Or.inl rfl

theorem cut_before {byte : UInt8} (ascii : byte < 0x80) (left right : List UInt8) :
    Cut (left ++ byte :: right) left.length :=
  Or.inr ⟨left, byte, right, rfl, ascii, Or.inl rfl⟩

theorem cut_behind {byte : UInt8} (ascii : byte < 0x80) (left right : List UInt8) :
    Cut (left ++ byte :: right) (left.length + 1) :=
  Or.inr ⟨left, byte, right, rfl, ascii, Or.inr rfl⟩

theorem cut_here {byte : UInt8} (ascii : byte < 0x80) (rest : List UInt8) :
    Cut (byte :: rest) 0 := cut_before ascii [] rest

theorem cut_one {byte : UInt8} (ascii : byte < 0x80) (rest : List UInt8) :
    Cut (byte :: rest) 1 := cut_behind ascii [] rest

theorem cut_append {input : List UInt8} {count : Nat} (front : List UInt8)
    (cut : Cut input count) : Cut (front ++ input) (front.length + count) := by
  rcases cut with rfl | ⟨left, byte, right, rfl, ascii, rfl | rfl⟩
  · rw [← List.length_append]
    exact cut_end _
  · rw [← List.append_assoc, ← List.length_append]
    exact cut_before ascii _ _
  · rw [← List.append_assoc, ← Nat.add_assoc, ← List.length_append]
    exact cut_behind ascii _ _

theorem cut_cons {input : List UInt8} {count : Nat} (byte : UInt8) (cut : Cut input count) :
    Cut (byte :: input) (1 + count) :=
  cut_append [byte] cut

theorem cut_drop {input : List UInt8} {skipped count : Nat} (within : skipped ≤ input.length)
    (cut : Cut (input.drop skipped) count) : Cut input (skipped + count) := by
  have whole := cut_append (input.take skipped) cut
  rwa [List.take_append_drop, List.length_take, Nat.min_eq_left within] at whole

theorem cut_le {input : List UInt8} {count : Nat} (cut : Cut input count) :
    count ≤ input.length := by
  rcases cut with rfl | ⟨left, byte, right, rfl, -, rfl | rfl⟩
  · exact Nat.le_refl _
  · simp
  · simp

def Lands (input : List UInt8) (count : Nat) : Prop := count = 0 ∨ Cut input count

theorem lands_le {input : List UInt8} {count : Nat} (lands : Lands input count) :
    count ≤ input.length := by
  rcases lands with rfl | cut
  · exact Nat.zero_le _
  · exact cut_le cut

theorem cut_add {input : List UInt8} {count more : Nat} (cut : Cut input count)
    (lands : Lands (input.drop count) more) : Cut input (count + more) := by
  rcases lands with rfl | later
  · exact cut
  · exact cut_drop (cut_le cut) later

theorem lands_add {input : List UInt8} {count more : Nat} (first : Lands input count)
    (second : Lands (input.drop count) more) : Lands input (count + more) := by
  rcases first with rfl | cut
  · rw [Nat.zero_add]
    exact second
  · exact Or.inr (cut_add cut second)

theorem rest_at_start (text : String) : RestAt text 0 (bytes text) :=
  ⟨"", text, by simp, rfl, rfl⟩

theorem rest_at_boundary {text : String} {position : Nat} {rest : List UInt8}
    (place : RestAt text position rest) : Boundary text position := by
  obtain ⟨before, after, same, size, -⟩ := place
  exact ⟨before, after, same, size⟩

theorem rest_at_length {text : String} {position : Nat} {rest : List UInt8}
    (place : RestAt text position rest) : position + rest.length = text.utf8ByteSize := by
  obtain ⟨before, after, rfl, rfl, rfl⟩ := place
  rw [length_bytes, String.utf8ByteSize_append]

theorem rest_at_bytes {text : String} {position : Nat} {rest : List UInt8}
    (place : RestAt text position rest) : (bytes text).drop position = rest := by
  obtain ⟨before, after, rfl, rfl, rfl⟩ := place
  rw [bytes_append, ← length_bytes, List.drop_left]

theorem rest_at_get {text : String} {position : Nat} {rest : List UInt8}
    (place : RestAt text position rest) (index : Nat) :
    (bytes text)[position + index]? = rest[index]? := by
  rw [← rest_at_bytes place, List.getElem?_drop]

theorem rest_at_cut {text : String} {position : Nat} {rest : List UInt8}
    (place : RestAt text position rest) {count : Nat} (cut : Cut rest count) :
    RestAt text (position + count) (rest.drop count) := by
  obtain ⟨before, after, rfl, rfl, rfl⟩ := place
  rcases cut with rfl | ⟨left, byte, right, split, ascii, cut⟩
  · refine ⟨before ++ after, "", by simp, ?_, ?_⟩
    · rw [String.utf8ByteSize_append, length_bytes]
    · rw [List.drop_length]
      rfl
  · have encoded := split
    rw [bytes_eq_encoded] at encoded
    obtain ⟨front, char, back, chars, leftEncoded, single, rightEncoded⟩ :=
      chars_split_at_ascii after.toList left right byte encoded ascii
    rw [split]
    rcases cut with rfl | rfl
    · refine ⟨before ++ String.ofList front, String.ofList (char :: back), ?_, ?_, ?_⟩
      · rw [String.append_assoc, ← String.ofList_append, ← chars, String.ofList_toList]
      · rw [String.utf8ByteSize_append, ← length_bytes (String.ofList front), bytes_of_list,
          leftEncoded]
      · rw [bytes_of_list, List.flatMap_cons, single, rightEncoded, List.drop_left]
        rfl
    · refine ⟨before ++ String.ofList (front ++ [char]), String.ofList back, ?_, ?_, ?_⟩
      · rw [String.append_assoc, ← String.ofList_append, List.append_assoc, List.singleton_append,
          ← chars, String.ofList_toList]
      · rw [String.utf8ByteSize_append, ← length_bytes (String.ofList (front ++ [char])),
          bytes_of_list, List.flatMap_append, leftEncoded]
        simp [single]
      · rw [bytes_of_list, rightEncoded]
        simp

theorem rest_at_lands {text : String} {position : Nat} {rest : List UInt8}
    (place : RestAt text position rest) {count : Nat} (lands : Lands rest count) :
    RestAt text (position + count) (rest.drop count) := by
  rcases lands with rfl | cut
  · exact place
  · exact rest_at_cut place cut

/-- What stands between two boundaries of a text. -/
theorem text_between {before after longer later : String}
    (same : before ++ after = longer ++ later)
    (ordered : before.utf8ByteSize ≤ longer.utf8ByteSize) :
    ∃ piece, longer = before ++ piece ∧ after = piece ++ later := by
  have chars := congrArg String.toList same
  rw [String.toList_append, String.toList_append, List.append_eq_append_iff] at chars
  rcases chars with ⟨piece, longerChars, afterChars⟩ | ⟨piece, beforeChars, laterChars⟩
  · refine ⟨String.ofList piece, ?_, ?_⟩
    · rw [← String.ofList_toList (s := longer), longerChars, String.ofList_append,
        String.ofList_toList]
    · rw [← String.ofList_toList (s := after), afterChars, String.ofList_append,
        String.ofList_toList]
  · have beforeText : before = longer ++ String.ofList piece := by
      rw [← String.ofList_toList (s := before), beforeChars, String.ofList_append,
        String.ofList_toList]
    have empty : String.ofList piece = "" := by
      rw [beforeText, String.utf8ByteSize_append] at ordered
      rw [← String.utf8ByteSize_eq_zero_iff]
      omega
    rw [empty, String.append_empty] at beforeText
    subst beforeText
    exact ⟨"", by simp, by simpa using String.append_right_inj _ |>.mp same⟩

theorem spells_between {text : String} {position count : Nat} {rest : List UInt8}
    (place : RestAt text position rest)
    (next : RestAt text (position + count) (rest.drop count)) :
    Spells text position (position + count) (decode (rest.take count)) := by
  obtain ⟨before, after, rfl, rfl, rfl⟩ := place
  obtain ⟨longer, later, same, size, -⟩ := next
  obtain ⟨piece, rfl, rfl⟩ := text_between same (by omega)
  have pieceSize : (bytes piece).length = count := by
    rw [String.utf8ByteSize_append] at size
    rw [length_bytes]
    omega
  have taken : (bytes (piece ++ later)).take count = bytes piece := by
    rw [bytes_append, ← pieceSize, List.take_left]
  rw [taken, decode_bytes]
  exact ⟨before, later, by rw [String.append_assoc], rfl, size⟩

theorem spells_size {text piece : String} {start stop : Nat}
    (spelled : Spells text start stop piece) : start + piece.utf8ByteSize = stop := by
  obtain ⟨before, after, rfl, rfl, size⟩ := spelled
  rw [← size, String.utf8ByteSize_append]

theorem spells_nonempty {text piece : String} {start stop : Nat}
    (spelled : Spells text start stop piece) (longer : start < stop) : piece ≠ "" := by
  rintro rfl
  have size := spells_size spelled
  simp at size
  omega

theorem spells_byte {text : String} {position : Nat} {byte : UInt8} {rest : List UInt8}
    (place : RestAt text position (byte :: rest)) (ascii : byte < 0x80) {mark : String}
    (same : bytes mark = [byte]) : Spells text position (position + 1) mark := by
  have spelled := spells_between place (rest_at_cut place (cut_one ascii rest))
  rw [List.take_succ_cons, List.take_zero, ← same, decode_bytes] at spelled
  exact spelled

theorem bytes_singleton (char : Char) :
    bytes (String.singleton char) = String.utf8EncodeChar char := by
  rw [bytes_eq_encoded, String.toList_singleton, List.flatMap_singleton]

/-- An ASCII byte anywhere in a text is a character of it. -/
theorem spells_ascii_char {text : String} {offset : Nat} {byte : UInt8}
    (found : (bytes text)[offset]? = some byte) (ascii : byte < 0x80) :
    ∃ char, char.toNat < 0x80 ∧ UInt8.ofNat char.toNat = byte ∧
      Spells text offset (offset + char.utf8Size) (String.singleton char) := by
  obtain ⟨inside, same⟩ := List.getElem?_eq_some_iff.mp found
  have split : text.toList.flatMap String.utf8EncodeChar =
      (bytes text).take offset ++ byte :: (bytes text).drop (offset + 1) := by
    rw [← bytes_eq_encoded, ← same, ← List.drop_eq_getElem_cons inside, List.take_append_drop]
  obtain ⟨before, char, after, chars, front, single, -⟩ :=
    chars_split_at_ascii text.toList _ _ byte split ascii
  have narrow : char.toNat < 0x80 := by
    apply Nat.lt_of_not_le
    intro wide
    have high := encode_char_wide char wide byte (by simp [single])
    exact absurd high (UInt8.not_le.mpr ascii)
  have code : UInt8.ofNat char.toNat = byte := by
    rw [encode_char_ascii char narrow] at single
    exact (List.cons.inj single).1
  have size : (String.ofList before).utf8ByteSize = offset := by
    rw [← length_bytes, bytes_of_list, front, List.length_take,
      Nat.min_eq_left (Nat.le_of_lt inside)]
  refine ⟨char, narrow, code, String.ofList before, String.ofList after, ?_, size, ?_⟩
  · rw [← String.ofList_toList (s := text), chars, String.singleton_eq_ofList,
      ← String.ofList_append, ← String.ofList_append, List.append_assoc, List.singleton_append]
  · rw [String.utf8ByteSize_append, size, String.utf8ByteSize_singleton]

end TemplateServer.Text

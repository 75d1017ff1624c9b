/-!
Texts and their UTF-8 bytes. Every offset of the library counts bytes, so the
scanner works on the byte list of a text and cuts slices out of it; `decode`
turns such a slice back into a text.
-/

namespace TemplateServer.Text

def bytes (text : String) : List UInt8 := text.toByteArray.data.toList

def decode? (input : List UInt8) : Option String := String.fromUTF8? ⟨input.toArray⟩

/-- The text of a slice. A slice that is cut at ASCII bytes of a text is UTF-8,
so the empty text stands only for sequences that no text contains. -/
def decode (input : List UInt8) : String := (decode? input).getD ""

/-- The ranges of the bytes that follow a leading byte in a character. -/
def continuations (lead : UInt8) : List (UInt8 × UInt8) :=
  if lead < 0xC2 then []
  else if lead < 0xE0 then [(0x80, 0xBF)]
  else if lead = 0xE0 then [(0xA0, 0xBF), (0x80, 0xBF)]
  else if lead = 0xED then [(0x80, 0x9F), (0x80, 0xBF)]
  else if lead < 0xF0 then [(0x80, 0xBF), (0x80, 0xBF)]
  else if lead = 0xF0 then [(0x90, 0xBF), (0x80, 0xBF), (0x80, 0xBF)]
  else if lead < 0xF4 then [(0x80, 0xBF), (0x80, 0xBF), (0x80, 0xBF)]
  else if lead = 0xF4 then [(0x80, 0x8F), (0x80, 0xBF), (0x80, 0xBF)]
  else []

def matchingLength : List (UInt8 × UInt8) → List UInt8 → Nat
  | (low, high) :: ranges, byte :: rest =>
      if low ≤ byte && byte ≤ high then 1 + matchingLength ranges rest else 0
  | _, _ => 0

/-- The characters of a byte sequence, with a replacement character for each
longest piece that starts a character and does not complete it. -/
def lossyChars (input : List UInt8) : List Char :=
  match input with
  | [] => []
  | lead :: rest =>
      if lead < 0x80 then Char.ofNat lead.toNat :: lossyChars rest
      else
        let ranges := continuations lead
        let taken := matchingLength ranges rest
        let complete := !ranges.isEmpty && taken == ranges.length
        let decoded := if complete then decode (lead :: rest.take taken) else "\uFFFD"
        decoded.toList ++ lossyChars (rest.drop taken)
termination_by input.length
decreasing_by all_goals (simp only [List.length_cons, List.length_drop]; omega)

def decodeLossy (input : List UInt8) : String := String.ofList (lossyChars input)

theorem bytes_append (left right : String) : bytes (left ++ right) = bytes left ++ bytes right := by
  simp [bytes, String.toByteArray_append, ByteArray.data_append]

theorem decode_some_of_bytes (text : String) : decode? (bytes text) = some text := by
  have valid : (⟨(bytes text).toArray⟩ : ByteArray).IsValidUTF8 := by
    simpa [bytes] using text.isValidUTF8
  rw [decode?, String.fromUTF8?, dif_pos valid]
  simp [bytes, String.fromUTF8]

theorem decode_bytes (text : String) : decode (bytes text) = text := by
  simp [decode, decode_some_of_bytes]

theorem length_bytes (text : String) : (bytes text).length = text.utf8ByteSize := by
  rfl

end TemplateServer.Text

import TemplateServer.Proofs.Text.Boundary

/-!
The order of texts is the order of their bytes. Texts are compared by code
points; a character with a greater code point has greater bytes at the first
place where the bytes differ, so comparing bytes gives the same.
-/

namespace TemplateServer.Text

/-- The bytes of a smaller character are smaller, whatever follows either. -/
theorem encode_char_lt {left right : Char} (less : left < right) (front back : List UInt8) :
    String.utf8EncodeChar left ++ front < String.utf8EncodeChar right ++ back := by
  have codes : left.val.toNat < right.val.toNat := less
  have greatest : right.val.toNat < 0x110000 := by
    have valid := right.valid
    simp only [UInt32.isValidChar, Nat.isValidChar] at valid
    omega
  have digits : ∀ code : Nat,
      code / 4096 = code / 64 / 64 ∧ code / 262144 = code / 64 / 64 / 64 := by
    intro code
    omega
  simp only [String.utf8EncodeChar, digits]
  -- the leading byte tells encodings of different lengths apart
  repeat' split
  all_goals
    simp only [List.cons_append, List.nil_append, List.cons_lt_cons_iff, UInt8.lt_iff_toNat_lt,
      ← UInt8.toNat_inj, UInt8.toNat_ofNat']
    omega

theorem encoded_lt_of_lt {left right : List Char} (less : left < right) :
    left.flatMap String.utf8EncodeChar < right.flatMap String.utf8EncodeChar := by
  induction less with
  | @nil first rest =>
      rw [List.flatMap_cons]
      cases encoded : String.utf8EncodeChar first with
      | nil => exact absurd encoded String.utf8EncodeChar_ne_nil
      | cons byte more => exact List.Lex.nil
  | rel less => exact encode_char_lt less _ _
  | cons less induction =>
      rw [List.flatMap_cons, List.flatMap_cons]
      exact List.append_left_lt induction

theorem lt_iff_bytes_lt (left right : String) : left < right ↔ bytes left < bytes right := by
  have forward : ∀ {smaller greater : String},
      smaller < greater → bytes smaller < bytes greater := by
    intro smaller greater less
    rw [bytes_eq_encoded, bytes_eq_encoded]
    exact encoded_lt_of_lt less
  refine ⟨forward, fun less => ?_⟩
  apply Decidable.byContradiction
  intro notLess
  have above : right ≤ left := String.not_lt.mp notLess
  by_cases same : right = left
  · subst same
    exact List.lt_irrefl _ less
  · exact List.lt_asymm less (forward (Std.lt_of_le_of_ne above same))

end TemplateServer.Text

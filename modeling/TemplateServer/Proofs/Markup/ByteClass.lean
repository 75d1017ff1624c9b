import TemplateServer.Markup.Byte

/-!
Facts on the byte classes: which of them exclude each other, and which hold only
ASCII bytes or every byte of a multi-byte character.
-/

namespace TemplateServer.Markup

theorem blank_cases {byte : UInt8} (blank : isBlank byte = true) :
    byte = 0x20 ∨ byte = 0x09 ∨ byte = 0x0A ∨ byte = 0x0C ∨ byte = 0x0D := by
  simpa only [isBlank, Bool.or_eq_true, beq_iff_eq, or_assoc] using blank

theorem quote_cases {byte : UInt8} (quoted : isQuote byte = true) :
    byte = 0x22 ∨ byte = 0x27 ∨ byte = 0x60 := by
  simpa only [isQuote, Bool.or_eq_true, beq_iff_eq, or_assoc] using quoted

theorem opener_cases {byte : UInt8} (opens : isOpener byte = true) :
    byte = 0x28 ∨ byte = 0x5B ∨ byte = 0x7B := by
  simpa only [isOpener, Bool.or_eq_true, beq_iff_eq, or_assoc] using opens

theorem closer_cases {byte : UInt8} (closes : isCloser byte = true) :
    byte = 0x29 ∨ byte = 0x5D ∨ byte = 0x7D := by
  simpa only [isCloser, Bool.or_eq_true, beq_iff_eq, or_assoc] using closes

theorem quote_ne_backslash {quote : UInt8} (quoted : isQuote quote = true) :
    quote ≠ Byte.backslash := by
  rintro rfl
  exact absurd quoted (by decide)

theorem quote_not_opener {byte : UInt8} (quoted : isQuote byte = true) :
    isOpener byte = false := by
  rcases quote_cases quoted with rfl | rfl | rfl <;> decide

theorem opener_not_quote {byte : UInt8} (opens : isOpener byte = true) :
    isQuote byte = false := by
  rcases opener_cases opens with rfl | rfl | rfl <;> decide

theorem quote_not_blank {byte : UInt8} (quoted : isQuote byte = true) :
    isBlank byte = false := by
  rcases quote_cases quoted with rfl | rfl | rfl <;> decide

theorem opener_not_blank {byte : UInt8} (opens : isOpener byte = true) :
    isBlank byte = false := by
  rcases opener_cases opens with rfl | rfl | rfl <;> decide

theorem closer_not_quote {byte : UInt8} (closes : isCloser byte = true) :
    isQuote byte = false := by
  rcases closer_cases closes with rfl | rfl | rfl <;> decide

theorem closer_not_opener {byte : UInt8} (closes : isCloser byte = true) :
    isOpener byte = false := by
  rcases closer_cases closes with rfl | rfl | rfl <;> decide

theorem blank_facts {byte : UInt8} (blank : isBlank byte = true) :
    isOpener byte = false ∧ isQuote byte = false ∧ byte ≠ Byte.equals ∧ byte ≠ Byte.slash ∧
      byte ≠ Byte.greater ∧ byte ≠ Byte.less ∧ byte ≠ Byte.comma := by
  rcases blank_cases blank with rfl | rfl | rfl | rfl | rfl <;> decide

theorem attribute_byte_facts {byte : UInt8} (named : isAttributeByte byte = true) :
    isBlank byte = false ∧ isQuote byte = false ∧ isOpener byte = false ∧ isCloser byte = false ∧
      byte ≠ Byte.equals ∧ byte ≠ Byte.greater ∧ byte ≠ Byte.less ∧ byte ≠ Byte.slash ∧
      byte ≠ Byte.comma := by
  simp only [isAttributeByte, Bool.not_eq_true', Bool.or_eq_false_iff, beq_eq_false_iff_ne,
    and_assoc] at named
  obtain ⟨blank, quote, opener, closer, equals, greater, less, slash, comma, -, -⟩ := named
  exact ⟨blank, quote, opener, closer, equals, greater, less, slash, comma⟩

theorem blank_is_separator {byte : UInt8} (blank : isBlank byte = true) :
    isSeparator byte = true := by
  rw [isSeparator, blank, Bool.true_or]

theorem tag_start_is_tag_byte {byte : UInt8} (starts : isTagStart byte = true) :
    isTagByte byte = true := by
  simp only [isTagStart, Bool.or_eq_true] at starts
  rcases starts with (((letter | sign) | dollar) | line) | wide <;>
    simp_all [isTagByte]

theorem quote_ascii {byte : UInt8} (quoted : isQuote byte = true) : byte < 0x80 := by
  rcases quote_cases quoted with rfl | rfl | rfl <;> decide

theorem closer_ascii {byte : UInt8} (closes : isCloser byte = true) : byte < 0x80 := by
  rcases closer_cases closes with rfl | rfl | rfl <;> decide

theorem blank_ascii {byte : UInt8} (blank : isBlank byte = true) : byte < 0x80 := by
  rcases blank_cases blank with rfl | rfl | rfl | rfl | rfl <;> decide

theorem tag_byte_wide (byte : UInt8) (wide : 0x80 ≤ byte) : isTagByte byte = true := by
  simp [isTagByte, wide]

theorem opener_ascii {byte : UInt8} (opens : isOpener byte = true) : byte < 0x80 := by
  rcases opener_cases opens with rfl | rfl | rfl <;> decide

theorem separator_ascii (byte : UInt8) (separates : isSeparator byte = true) : byte < 0x80 := by
  simp only [isSeparator, Bool.or_eq_true, beq_iff_eq] at separates
  rcases separates with blank | rfl
  · exact blank_ascii blank
  · decide

/-- Only ASCII bytes end an attribute name. -/
theorem unnamed_ascii (byte : UInt8) (unnamed : isAttributeByte byte = false) : byte < 0x80 := by
  simp only [isAttributeByte, Bool.not_eq_false', Bool.or_eq_true, beq_iff_eq, or_assoc] at unnamed
  rcases unnamed with blank | quote | opener | closer | rfl | rfl | rfl | rfl | rfl | rfl | rfl
  · exact blank_ascii blank
  · exact quote_ascii quote
  · exact opener_ascii opener
  · exact closer_ascii closer
  all_goals decide

theorem attribute_byte_wide (byte : UInt8) (wide : 0x80 ≤ byte) : isAttributeByte byte = true := by
  cases named : isAttributeByte byte with
  | true => rfl
  | false => exact absurd (unnamed_ascii byte named) (UInt8.not_lt.mpr wide)

theorem lower_byte_less (byte : UInt8) (lower : lowerByte byte = Byte.less) :
    byte = Byte.less := by
  rw [lowerByte] at lower
  split at lower
  · rename_i upper
    simp only [Bool.and_eq_true, decide_eq_true_eq, UInt8.le_iff_toNat_le] at upper
    have sum := congrArg UInt8.toNat lower
    rw [UInt8.toNat_add] at sum
    simp only [Byte.less, UInt8.reduceToNat] at sum upper
    omega
  · exact lower

end TemplateServer.Markup

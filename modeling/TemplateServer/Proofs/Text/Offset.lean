import TemplateServer.Proofs.Text.Position

/-!
Offsets on their way through positions. An offset belongs to the last character
boundary that is not past it. Its position tells the line feeds in front of that
boundary and the code units behind the last of them, and leads back to the
boundary. So an offset between two characters is what it was.
-/

namespace TemplateServer.Text

/-- Characters divided at the last boundary that is not past an offset. -/
structure DividedAt (chars : List Char) (offset : Nat) (before after : List Char) : Prop where
  whole : chars = before ++ after
  reached : size before ≤ offset
  next : ∀ char rest, after = char :: rest → offset < size before + char.utf8Size

theorem divided_at (chars : List Char) (offset : Nat) :
    ∃ before after, DividedAt chars offset before after := by
  induction chars generalizing offset with
  | nil => exact ⟨[], [], rfl, Nat.zero_le _, by simp⟩
  | cons char chars induction =>
      by_cases inside : offset < char.utf8Size
      · refine ⟨[], char :: chars, rfl, Nat.zero_le _, ?_⟩
        intro next rest same
        rw [← (List.cons.inj same).1, size, Nat.zero_add]
        exact inside
      · obtain ⟨before, after, whole, reached, next⟩ := induction (offset - char.utf8Size)
        refine ⟨char :: before, after, by rw [whole]; rfl, ?_, ?_⟩
        · rw [size]
          omega
        · intro first rest same
          have beyond := next first rest same
          rw [size]
          omega

/-- The greatest character boundary that is not past an offset. -/
structure LastBoundary (text : String) (offset last : Nat) : Prop where
  boundary : Boundary text last
  reached : last ≤ offset
  greatest : ∀ other, Boundary text other → other ≤ offset → other ≤ last

theorem text_divided {text before after : String} {offset : Nat}
    (divided : DividedAt text.toList offset before.toList after.toList) :
    text = before ++ after := by
  apply String.toList_inj.mp
  rw [divided.whole, String.toList_append]

theorem divided_at_boundary (before after : String) :
    DividedAt (before ++ after).toList before.utf8ByteSize before.toList after.toList := by
  rw [String.toList_append, ← size_eq_byte_size]
  refine ⟨rfl, Nat.le_refl _, ?_⟩
  intro char rest _
  exact Nat.lt_add_of_pos_right char.utf8Size_pos

theorem last_boundary_of_divided {text before after : String} {offset : Nat}
    (divided : DividedAt text.toList offset before.toList after.toList) :
    LastBoundary text offset before.utf8ByteSize := by
  have whole := text_divided divided
  have reached := divided.reached
  rw [size_eq_byte_size] at reached
  refine ⟨⟨before, after, whole, rfl⟩, reached, ?_⟩
  rintro other ⟨front, back, same, rfl⟩ within
  -- a greater boundary lies behind the next character, and that one ends past the offset
  apply Nat.le_of_not_lt
  intro greater
  obtain ⟨piece, rfl, rest⟩ := text_between (whole.symm.trans same) (Nat.le_of_lt greater)
  rw [String.utf8ByteSize_append] at greater within
  cases chars : piece.toList with
  | nil =>
      rw [← size_eq_byte_size piece, chars, size] at greater
      omega
  | cons char more =>
      have beyond := divided.next char (more ++ back.toList) (by
        rw [rest, String.toList_append, chars, List.cons_append])
      rw [size_eq_byte_size] at beyond
      rw [← size_eq_byte_size piece, chars, size] at within
      omega

section Divided

variable {chars before after : List Char} {offset : Nat}

/-- Behind its first character a divided text is divided by what is left of the
offset. -/
theorem divided_behind {char : Char}
    (divided : DividedAt (char :: before ++ after) offset (char :: before) after) :
    char.utf8Size ≤ offset ∧
      DividedAt (before ++ after) (offset - char.utf8Size) before after := by
  obtain ⟨-, reached, next⟩ := divided
  rw [size] at reached
  refine ⟨by omega, rfl, by omega, ?_⟩
  intro first rest same
  have beyond := next first rest same
  rw [size] at beyond
  omega

theorem divided_inside {char : Char} {rest : List Char}
    (divided : DividedAt chars offset [] (char :: rest)) : offset < char.utf8Size := by
  have inside := divided.next char rest rfl
  rwa [size, Nat.zero_add] at inside

/-- A line feed is one byte, so no offset is inside of it. -/
theorem inside_not_feed {char : Char} (inside : offset < char.utf8Size) (positive : 0 < offset) :
    char ≠ '\n' := by
  rintro rfl
  have feed : '\n'.utf8Size = 1 := rfl
  omega

theorem boundary_divided (divided : DividedAt chars offset before after) :
    isBoundary offset chars = true ↔ offset = size before := by
  obtain rfl := divided.whole
  induction before generalizing offset with
  | nil =>
      cases after with
      | nil => simp [isBoundary, size]
      | cons char rest =>
          have inside := Nat.not_le.mpr (divided_inside divided)
          simp [isBoundary, size, inside]
  | cons char before induction =>
      obtain ⟨fits, behind⟩ := divided_behind divided
      have positive := char.utf8Size_pos
      have started : offset ≠ 0 := by omega
      simp only [List.cons_append, isBoundary, beq_eq_false_iff_ne.mpr started, fits, decide_true,
        Bool.false_or, Bool.true_and, induction behind, size]
      omega

/-- Every step back from an offset behind its boundary stays behind it. -/
theorem snap_divided (divided : DividedAt chars offset before after) :
    snap chars offset = size before := by
  induction offset with
  | zero =>
      rw [snap]
      exact (Nat.le_zero.mp divided.reached).symm
  | succ offset induction =>
      have here := boundary_divided divided
      rw [snap]
      split
      · rename_i boundary
        exact here.mp boundary
      · rename_i inside
        have reached := divided.reached
        have further : offset + 1 ≠ size before := fun same => inside (here.mpr same)
        refine induction ⟨divided.whole, by omega, ?_⟩
        intro char rest same
        have beyond := divided.next char rest same
        omega

/-- The line of an offset is divided by the offset as the text is. -/
theorem line_divided (divided : DividedAt chars offset before after) {start : Nat}
    (lead : start + size (lastLine before) = size before) :
    DividedAt (lastLine before ++ after.takeWhile (· != '\n'))
      (min (offset - start) (size (lastLine before ++ after.takeWhile (· != '\n'))))
      (lastLine before) (after.takeWhile (· != '\n')) := by
  have reached := divided.reached
  refine ⟨rfl, ?_, ?_⟩
  · rw [size_append]
    omega
  · intro char rest same
    cases after with
    | nil => cases same
    | cons first later =>
        by_cases feed : first = '\n'
        · rw [feed] at same
          cases same
        · -- the character behind the offset is in the line, so it ends past the offset there too
          rw [List.takeWhile_cons, if_pos (bne_iff_ne.mpr feed)] at same
          have beyond := divided.next first later rfl
          rw [(List.cons.inj same).1] at beyond
          omega

end Divided

theorem offset_column_of_size (line more : List Char) :
    offsetColumn? (size line) (line ++ more) = some (unitCount line) := by
  induction line with
  | nil =>
      cases more with
      | nil => rfl
      | cons => rfl
  | cons char rest induction =>
      have positive := char.utf8Size_pos
      rw [size, List.cons_append, offsetColumn?, if_neg (by omega), if_neg (by omega),
        Nat.add_sub_cancel_left, induction]
      rfl

theorem units_le_size (char : Char) : units char ≤ char.utf8Size := by
  have positive := char.utf8Size_pos
  rw [units]
  split
  · rename_i wide
    have large : 0xFFFF < char.val.toNat := wide
    simp only [Char.utf8Size, UInt32.le_iff_toNat_le]
    split
    · rename_i narrow
      exact absurd narrow (by simp; omega)
    · split
      · decide
      · split
        · decide
        · decide
  · omega

theorem unit_count_le_size (chars : List Char) : unitCount chars ≤ size chars := by
  induction chars with
  | nil => exact Nat.le_refl _
  | cons char rest induction =>
      have first := units_le_size char
      rw [unitCount, size]
      omega

theorem count_feeds_le_size (chars : List Char) : chars.count '\n' ≤ size chars := by
  rw [← count_feeds_chars, ← length_encoded]
  exact List.count_le_length

/-- The line that an offset stands in starts with the last line in front of its
boundary and reaches up to the offset. -/
theorem line_of_divided {chars before after : List Char} {offset : Nat}
    (divided : DividedAt chars offset before after) (within : offset ≤ size chars) :
    ∃ lead, size lead + size (lastLine before) = size before ∧
      LineOf chars (before.count '\n') lead
        (lastLine before ++ after.takeWhile (· != '\n')) (after.dropWhile (· != '\n')) ∧
      offset ≤ size lead + size (lastLine before ++ after.takeWhile (· != '\n')) := by
  obtain ⟨lead, sized, placed⟩ := line_around before after
  rw [← divided.whole] at placed
  refine ⟨lead, sized, placed, ?_⟩
  rw [size_append]
  cases after with
  | nil =>
      rw [divided.whole, List.append_nil] at within
      omega
  | cons char rest =>
      have beyond := divided.next char rest rfl
      by_cases feed : char = '\n'
      · have single : char.utf8Size = 1 := by rw [feed]; rfl
        omega
      · rw [List.takeWhile_cons, if_pos (bne_iff_ne.mpr feed), size]
        omega

theorem line_number_of_divided {text : String} {before after : List Char} {offset : Nat}
    (divided : DividedAt text.toList offset before after) (within : offset ≤ text.utf8ByteSize) :
    lineNumber (lineStarts text) offset = before.count '\n' := by
  rw [← size_eq_byte_size] at within
  obtain ⟨lead, sized, placed, inside⟩ := line_of_divided divided within
  have reached := divided.reached
  exact line_number_of_line placed (by omega) inside

/-- The line of an offset can be cut out of the text and has a column for the
offset, so that no column has to stand in for a missing one. -/
def ColumnFound (text : String) (offset column : Nat) : Prop :=
  ∃ start stop, lineBounds? text (lineNumber (lineStarts text) offset) = some (start, stop) ∧
    Spells text start stop (String.ofList (slice start stop text.toList)) ∧
    column? (offset - start) (slice start stop text.toList) = some column

theorem column_of_divided {text : String} {before after : List Char} {offset : Nat}
    (divided : DividedAt text.toList offset before after) (within : offset ≤ text.utf8ByteSize) :
    ColumnFound text offset (unitCount (lastLine before)) := by
  have number := line_number_of_divided divided within
  rw [← size_eq_byte_size] at within
  obtain ⟨lead, sized, placed, -⟩ := line_of_divided divided within
  rw [← number] at placed
  have bounds := line_bounds_of_line placed
  refine ⟨_, _, bounds, line_bounds_spell bounds, ?_⟩
  rw [slice_of_line placed, column?, snap_divided (line_divided divided sized),
    offset_column_of_size]

theorem position_of_column {text : String} {offset column : Nat}
    (within : offset ≤ text.utf8ByteSize) (read : ColumnFound text offset column) :
    position? text offset =
      some ⟨lineNumber (lineStarts text) offset % coordinateLimit, column % coordinateLimit⟩ := by
  obtain ⟨start, stop, bounds, -, found⟩ := read
  rw [← size_eq_byte_size] at within
  rw [position?, if_neg (Nat.not_lt.mpr within)]
  simp only [bounds, Option.map_some, found, Option.getD_some]

theorem last_line_size_le (chars : List Char) : size (lastLine chars) ≤ size chars := by
  obtain ⟨lead, sized, -⟩ := line_around chars []
  omega

/-- The position of an offset is the one that a client sends for its boundary. -/
theorem position_of_divided {text before after : String} {offset : Nat}
    (short : text.utf8ByteSize < coordinateLimit)
    (divided : DividedAt text.toList offset before.toList after.toList)
    (within : offset ≤ text.utf8ByteSize) :
    position? text offset = some (positionBehind before) := by
  have feeds := count_feeds_le_size before.toList
  have units := unit_count_le_size (lastLine before.toList)
  have line := last_line_size_le before.toList
  have reached := divided.reached
  rw [position_of_column within (column_of_divided divided within),
    line_number_of_divided divided within, Nat.mod_eq_of_lt (by omega), Nat.mod_eq_of_lt (by omega)]
  rfl

theorem position_at_boundary {before after : String}
    (short : (before ++ after).utf8ByteSize < coordinateLimit) :
    position? (before ++ after) before.utf8ByteSize = some (positionBehind before) := by
  apply position_of_divided short (divided_at_boundary before after)
  rw [String.utf8ByteSize_append]
  exact Nat.le_add_right _ _

theorem position_leads_back {text before after : String} {offset : Nat}
    (short : text.utf8ByteSize < coordinateLimit)
    (divided : DividedAt text.toList offset before.toList after.toList)
    (within : offset ≤ text.utf8ByteSize) :
    (position? text offset).bind (offset? text) = some before.utf8ByteSize := by
  rw [position_of_divided short divided within, Option.bind_some, text_divided divided]
  exact offset_of_position_behind before after

theorem position_none_iff (text : String) (offset : Nat) :
    position? text offset = none ↔ text.utf8ByteSize < offset := by
  constructor
  · intro missing
    apply Nat.lt_of_not_le
    intro within
    obtain ⟨before, after, divided⟩ := divided_at text.toList offset
    rw [position_of_column within (column_of_divided divided within)] at missing
    cases missing
  · intro past
    rw [← size_eq_byte_size] at past
    rw [position?, if_pos past]

/-- The bytes of a character in front of its end hold no line feed. -/
theorem count_feeds_inside {char : Char} {count : Nat} (inside : count < char.utf8Size) :
    ((String.utf8EncodeChar char).take count).count 0x0A = 0 := by
  by_cases start : count = 0
  · rw [start, List.take_zero, List.count_nil]
  · have none := count_feeds_encoded char
    rw [if_neg (inside_not_feed inside (Nat.pos_of_ne_zero start)), List.count_eq_zero] at none
    rw [List.count_eq_zero]
    exact fun member => none (List.mem_of_mem_take member)

/-- The bytes in front of an offset hold as many line feeds as the characters. -/
theorem count_feeds_divided {chars before after : List Char} {offset : Nat}
    (divided : DividedAt chars offset before after) :
    ((chars.flatMap String.utf8EncodeChar).take offset).count 0x0A = before.count '\n' := by
  have reached := divided.reached
  have whole : (before.flatMap String.utf8EncodeChar).length ≤ offset := by
    rw [length_encoded]
    exact reached
  rw [divided.whole, List.flatMap_append, List.take_append, List.take_of_length_le whole,
    List.count_append, count_feeds_chars, length_encoded]
  cases after with
  | nil => simp
  | cons char rest =>
      have beyond := divided.next char rest rfl
      have inside : offset - size before < char.utf8Size := by omega
      rw [List.flatMap_cons, List.take_append_of_le_length
        (by rw [String.length_utf8EncodeChar]; omega), count_feeds_inside inside, Nat.add_zero]

/-- The position of an offset counts the line feeds in front of it and the code
units of its line up to the last boundary, to which it leads back. The column is
always found. -/
theorem offset_round_trip (text : String) (short : text.utf8ByteSize < 0x100000000) (offset : Nat) :
    (position? text offset = none ↔ text.utf8ByteSize < offset) ∧
      (offset ≤ text.utf8ByteSize →
        ∃ before after column, text = before ++ after ∧
          LastBoundary text offset before.utf8ByteSize ∧
          column = unitCount (lastLine before.toList) ∧
          position? text offset = some ⟨((bytes text).take offset).count 0x0A, column⟩ ∧
          (position? text offset).bind (offset? text) = some before.utf8ByteSize ∧
          ColumnFound text offset column) ∧
      (Boundary text offset → (position? text offset).bind (offset? text) = some offset) := by
  refine ⟨position_none_iff text offset, ?_, ?_⟩
  · intro within
    obtain ⟨before, after, divided⟩ := divided_at text.toList offset
    rw [← String.toList_ofList (l := before), ← String.toList_ofList (l := after)] at divided
    have feeds := count_feeds_divided divided
    rw [← bytes_eq_encoded] at feeds
    refine ⟨_, _, _, text_divided divided, last_boundary_of_divided divided, rfl, ?_,
      position_leads_back short divided within, column_of_divided divided within⟩
    rw [position_of_divided short divided within, feeds]
    rfl
  · rintro ⟨before, after, rfl, rfl⟩
    apply position_leads_back short (divided_at_boundary before after)
    rw [String.utf8ByteSize_append]
    exact Nat.le_add_right _ _

/-- An offset inside of a character of two code units behind a line feed. -/
theorem offset_round_trip_inside_pair :
    "é\n😀".utf8ByteSize < 0x100000000 ∧ LastBoundary "é\n😀" 5 3 ∧
      (position? "é\n😀" 5).bind (offset? "é\n😀") = some 3 := by
  have short : "é\n😀".utf8ByteSize < 0x100000000 := by decide +kernel
  have value : (position? "é\n😀" 5).bind (offset? "é\n😀") = some 3 := by decide +kernel
  obtain ⟨before, after, column, -, last, -, -, back, -⟩ :=
    (offset_round_trip "é\n😀" short 5).2.1 (by decide +kernel)
  rw [value, Option.some.injEq] at back
  rw [← back] at last
  exact ⟨short, last, value⟩

end TemplateServer.Text

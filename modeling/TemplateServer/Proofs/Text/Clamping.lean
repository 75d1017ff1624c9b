import TemplateServer.Proofs.Text.Offset

/-!
Offsets of arbitrary positions. A position whose line is there leads to the first
boundary of that line with at least as many code units in front of it as its
column says, or to the end of the line. Inside of a surrogate pair that is the
end of the pair. A position that is not past another one has no greater offset.
-/

namespace TemplateServer.Text

/-- A place between characters of a line, or at one of its ends, with the bytes
and the code units in front of it. -/
def BoundaryOf (line : List Char) (offset units : Nat) : Prop :=
  ∃ front back, line = front ++ back ∧ size front = offset ∧ unitCount front = units

/-- The least boundary of a line that a column does not lie behind, or the end of
the line if there is none. -/
inductive ClampedOffset (line : List Char) (column : Nat) : Nat → Prop
  | reached {offset units : Nat} : BoundaryOf line offset units → column ≤ units →
      (∀ other more, BoundaryOf line other more → column ≤ more → offset ≤ other) →
      ClampedOffset line column offset
  | beyond : (∀ offset units, BoundaryOf line offset units → units < column) →
      ClampedOffset line column (size line)

/-- The column of a boundary is kept, one inside of a surrogate pair is the end
of the pair, and one behind the line is the end of the line. -/
inductive ClampedColumn (line : List Char) (column : Nat) : Nat → Prop
  | boundary {offset : Nat} : BoundaryOf line offset column → ClampedColumn line column column
  | pair {front back : List Char} {char : Char} : line = front ++ char :: back → units char = 2 →
      column = unitCount front + 1 → ClampedColumn line column (unitCount front + 2)
  | beyond : unitCount line < column → ClampedColumn line column (unitCount line)

def Position.NotPast (first second : Position) : Prop :=
  first.line < second.line ∨ first.line = second.line ∧ first.column ≤ second.column

section Lines

variable {chars before line after : List Char} {number : Nat}

/-- A line starts behind the end of every line above it. -/
theorem lines_ordered {earlier upper lower : List Char} {smaller : Nat}
    (first : LineOf chars smaller earlier upper lower)
    (second : LineOf chars number before line after)
    (less : smaller < number) : size earlier + size upper ≤ size before := by
  have same := first.whole.symm.trans second.whole
  rw [List.append_assoc before, List.append_eq_append_iff] at same
  rcases same with ⟨more, longer, -⟩ | ⟨more, shorter, -⟩
  · rw [longer, size_append, size_append]
    omega
  · -- the upper line would hold a line feed
    have feeds := congrArg (List.count '\n') shorter
    rw [List.count_append, List.count_append, first.feeds, second.feeds,
      List.count_eq_zero.mpr first.unbroken] at feeds
    omega

end Lines

theorem unit_count_append (left right : List Char) :
    unitCount (left ++ right) = unitCount left + unitCount right := by
  induction left with
  | nil => rw [List.nil_append, unitCount, Nat.zero_add]
  | cons char left induction =>
      rw [List.cons_append, unitCount, unitCount, induction, Nat.add_assoc]

structure Reaching (line : List Char) (column : Nat) (front back : List Char) : Prop where
  whole : line = front ++ back
  reached : column ≤ unitCount front
  fewest : ∀ init last, front = init ++ [last] → unitCount init < column

section Columns

variable {line front back : List Char} {column offset : Nat}

theorem column_offset_reaching (found : columnOffset? column line = some offset) :
    ∃ front back, Reaching line column front back ∧ size front = offset := by
  have nothing : ∀ {init : List Char} {last : Char}, [] ≠ init ++ [last] := by simp
  induction line generalizing column offset with
  | nil =>
      rw [columnOffset?] at found
      split at found
      · rename_i start
        cases found
        exact ⟨[], [], ⟨rfl, Nat.le_of_eq start, fun _ _ same => absurd same nothing⟩, rfl⟩
      · cases found
  | cons char line induction =>
      rw [columnOffset?] at found
      split at found
      · rename_i start
        cases found
        exact ⟨[], char :: line,
          ⟨rfl, Nat.le_of_eq start, fun _ _ same => absurd same nothing⟩, rfl⟩
      · rename_i positive
        obtain ⟨inner, read, rfl⟩ := Option.map_eq_some_iff.mp found
        obtain ⟨front, back, reaching, rfl⟩ := induction read
        have reached := reaching.reached
        refine ⟨char :: front, back, ⟨?_, ?_, ?_⟩, rfl⟩
        · rw [reaching.whole, List.cons_append]
        · rw [unitCount]
          omega
        · intro init last same
          cases init with
          | nil =>
              rw [unitCount]
              exact Nat.pos_of_ne_zero positive
          | cons first init =>
              obtain ⟨rfl, shorter⟩ := List.cons.inj same
              have fewer := reaching.fewest init last shorter
              rw [unitCount]
              omega

theorem column_offset_missing (missing : columnOffset? column line = none) :
    unitCount line < column := by
  induction line generalizing column with
  | nil =>
      rw [columnOffset?] at missing
      split at missing
      · cases missing
      · rename_i positive
        exact Nat.pos_of_ne_zero positive
  | cons char line induction =>
      rw [columnOffset?] at missing
      split at missing
      · cases missing
      · have shorter := induction (Option.map_eq_none_iff.mp missing)
        rw [unitCount]
        omega

theorem reaching_least (reaching : Reaching line column front back) {other units : Nat}
    (boundary : BoundaryOf line other units) (enough : column ≤ units) : size front ≤ other := by
  obtain ⟨lead, later, split, rfl, rfl⟩ := boundary
  have same := reaching.whole.symm.trans split
  rw [List.append_eq_append_iff] at same
  rcases same with ⟨more, rfl, -⟩ | ⟨more, longer, -⟩
  · rw [size_append]
    exact Nat.le_add_right _ _
  · -- fewer characters than the fewest would do
    rcases List.eq_nil_or_concat more with rfl | ⟨init, last, rfl⟩
    · rw [longer, List.append_nil]
    · rw [List.concat_eq_append, ← List.append_assoc] at longer
      have fewer := reaching.fewest _ _ longer
      rw [unit_count_append] at fewer
      omega

theorem units_le_two (char : Char) : units char ≤ 2 := by
  rw [units]
  split
  · exact Nat.le_refl _
  · decide

theorem reaching_column (reaching : Reaching line column front back) :
    ClampedColumn line column (unitCount front) := by
  rcases Nat.eq_or_lt_of_le reaching.reached with exact | more
  · rw [← exact]
    exact .boundary ⟨front, back, reaching.whole, rfl, exact.symm⟩
  · rcases List.eq_nil_or_concat front with rfl | ⟨init, last, rfl⟩
    · exact absurd more (Nat.not_lt_zero _)
    · -- the last character takes the count past the column, so it has two code units
      rw [List.concat_eq_append] at more reaching ⊢
      have fewer := reaching.fewest init last rfl
      have most := units_le_two last
      rw [unit_count_append, unitCount, unitCount, Nat.add_zero] at more ⊢
      have wide : units last = 2 := by omega
      have split : line = init ++ last :: back := by
        rw [reaching.whole, List.append_assoc, List.singleton_append]
      rw [wide]
      exact .pair split wide (by omega)

/-- Where a column leads in its line. -/
theorem column_clamped (line : List Char) (column : Nat) :
    ∃ front back, line = front ++ back ∧
      size front = (columnOffset? column line).getD (size line) ∧
      ClampedOffset line column (size front) ∧ ClampedColumn line column (unitCount front) := by
  cases found : columnOffset? column line with
  | some offset =>
      obtain ⟨front, back, reaching, sized⟩ := column_offset_reaching found
      refine ⟨front, back, reaching.whole, sized, ?_, reaching_column reaching⟩
      exact .reached ⟨front, back, reaching.whole, rfl, rfl⟩ reaching.reached
        fun _ _ boundary enough => reaching_least reaching boundary enough
  | none =>
      have short := column_offset_missing found
      refine ⟨line, [], (List.append_nil line).symm, rfl, .beyond ?_, .beyond short⟩
      rintro offset units ⟨front, back, split, -, rfl⟩
      rw [split, unit_count_append] at short
      omega

theorem boundary_within {units : Nat} (boundary : BoundaryOf line offset units) :
    offset ≤ size line := by
  obtain ⟨front, back, rfl, rfl, -⟩ := boundary
  rw [size_append]
  exact Nat.le_add_right _ _

theorem clamped_within (clamped : ClampedOffset line column offset) : offset ≤ size line := by
  cases clamped with
  | reached boundary => exact boundary_within boundary
  | beyond => exact Nat.le_refl _

theorem clamped_monotone {greater other : Nat} (ordered : column ≤ greater)
    (first : ClampedOffset line column offset) (second : ClampedOffset line greater other) :
    offset ≤ other := by
  cases second with
  | beyond => exact clamped_within first
  | reached boundary enough =>
      have reached := Nat.le_trans ordered enough
      cases first with
      | reached _ _ least => exact least _ _ boundary reached
      | beyond short => exact absurd (short _ _ boundary) (Nat.not_lt.mpr reached)

end Columns

section Positions

variable {text : String} {position first second : Position} {offset start stop : Nat}

/-- What the offset of a position says about the line of the position. -/
theorem offset_in_line (found : offset? text position = some offset) :
    ∃ before line after front back, LineOf text.toList position.line before line after ∧
      line = front ++ back ∧ offset = size before + size front ∧
      ClampedOffset line position.column (size front) ∧
      ClampedColumn line position.column (unitCount front) := by
  obtain ⟨⟨begin, stop⟩, bounds, -⟩ := Option.map_eq_some_iff.mp found
  obtain ⟨before, line, after, placed, -⟩ := line_of_bounds bounds
  obtain ⟨front, back, split, sized, clamped, columned⟩ := column_clamped line position.column
  refine ⟨before, line, after, front, back, placed, split, ?_, clamped, columned⟩
  rw [offset_of_line position placed, Option.some.injEq] at found
  rw [sized, found]

theorem offset_monotone (ordered : first.NotPast second) (found : offset? text first = some start)
    (later : offset? text second = some stop) : start ≤ stop := by
  obtain ⟨before, line, after, front, back, placed, split, rfl, clamped, -⟩ := offset_in_line found
  obtain ⟨before', line', after', front', back', placed', -, rfl, clamped', -⟩ :=
    offset_in_line later
  have within := clamped_within clamped
  rcases ordered with less | ⟨sameLine, columns⟩
  · have behind := lines_ordered placed placed' less
    omega
  · rw [sameLine] at placed
    obtain ⟨sized, rfl⟩ := line_unique placed placed'
    have less := clamped_monotone columns clamped clamped'
    omega

theorem line_of_boundary {number : Nat} {before line after front back : List Char}
    (placed : LineOf text.toList number before line after) (split : line = front ++ back) :
    text = String.ofList (before ++ front) ++ String.ofList (back ++ after) ∧
      (String.ofList (before ++ front)).utf8ByteSize = size before + size front ∧
      positionBehind (String.ofList (before ++ front)) = ⟨number, unitCount front⟩ := by
  have absent : '\n' ∉ front := by
    have unbroken := placed.unbroken
    rw [split, List.mem_append, not_or] at unbroken
    exact unbroken.1
  have last : lastLine (before ++ front) = front := by
    rcases placed.opened with rfl | ⟨lead, rfl⟩
    · exact last_line_of_absent absent
    · rw [List.append_assoc, List.singleton_append, last_line_behind, last_line_of_absent absent]
  refine ⟨?_, ?_, ?_⟩
  · rw [← String.ofList_append, ← String.ofList_toList (s := text), placed.whole, split]
    simp only [List.append_assoc]
  · rw [← size_eq_byte_size, String.toList_ofList, size_append]
  · rw [positionBehind, String.toList_ofList, last, List.count_append, placed.feeds,
      List.count_eq_zero.mpr absent, Nat.add_zero]

end Positions

/-- Every position whose line is there has an offset in that line, at the
boundary that its column comes to, and later positions have no smaller ones. -/
theorem offset_clamps (text : String) (short : text.utf8ByteSize < 0x100000000) :
    (∀ position, offset? text position = none ↔ text.toList.count '\n' < position.line) ∧
      (∀ position, position.line ≤ text.toList.count '\n' →
        ∃ before line after offset column,
          LineOf text.toList position.line before line after ∧
          offset? text position = some (size before + offset) ∧
          ClampedOffset line position.column offset ∧
          position? text (size before + offset) = some ⟨position.line, column⟩ ∧
          ClampedColumn line position.column column) ∧
      ∀ first second start stop, offset? text first = some start →
        offset? text second = some stop → first.NotPast second → start ≤ stop := by
  refine ⟨offset_none_iff text, ?_, ?_⟩
  · intro position there
    have present : offset? text position ≠ none := by
      rw [Ne, offset_none_iff]
      exact Nat.not_lt.mpr there
    obtain ⟨offset, found⟩ := Option.ne_none_iff_exists'.mp present
    obtain ⟨before, line, after, front, back, placed, split, rfl, clamped, column⟩ :=
      offset_in_line found
    obtain ⟨whole, sized, behind⟩ := line_of_boundary placed split
    refine ⟨before, line, after, _, _, placed, found, clamped, ?_, column⟩
    rw [whole] at short ⊢
    rw [← sized, ← behind]
    exact position_at_boundary short
  · intro first second start stop found later ordered
    exact offset_monotone ordered found later

/-- A column between the two halves of a surrogate pair. -/
theorem offset_clamps_inside_pair :
    "a😀\nb".utf8ByteSize < 0x100000000 ∧ 0 ≤ "a😀\nb".toList.count '\n' ∧
      (∃ before line after offset, LineOf "a😀\nb".toList 0 before line after ∧
        size before + offset = 5 ∧ ClampedOffset line 2 offset ∧ ClampedColumn line 2 3) ∧
      Position.NotPast ⟨0, 2⟩ ⟨1, 0⟩ ∧ 5 ≤ 6 := by
  have short : "a😀\nb".utf8ByteSize < 0x100000000 := by decide +kernel
  have inside : offset? "a😀\nb" ⟨0, 2⟩ = some 5 := by decide +kernel
  have below : offset? "a😀\nb" ⟨1, 0⟩ = some 6 := by decide +kernel
  have back : position? "a😀\nb" 5 = some ⟨0, 3⟩ := by decide +kernel
  have ordered : Position.NotPast ⟨0, 2⟩ ⟨1, 0⟩ := Or.inl (by decide)
  obtain ⟨-, clamps, monotone⟩ := offset_clamps "a😀\nb" short
  obtain ⟨before, line, after, offset, column, placed, found, clamped, position, columned⟩ :=
    clamps ⟨0, 2⟩ (Nat.zero_le _)
  rw [inside, Option.some.injEq] at found
  rw [← found, back, Option.some.injEq, Position.mk.injEq] at position
  rw [← position.2] at columned
  exact ⟨short, Nat.zero_le _, ⟨before, line, after, offset, placed, found.symm, clamped, columned⟩,
    ordered, monotone _ _ _ _ inside below ordered⟩

end TemplateServer.Text

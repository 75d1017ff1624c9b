import TemplateServer.Proofs.Text.Clamping

/-!
Changes with arbitrary ranges. Whatever lines and columns a client names, a
change cuts the running text at two character boundaries in their order and puts
its own text between what is in front of the first and behind the second. The
second one has to be moved only for a range that ends before it starts.
-/

namespace TemplateServer.Text

/-- The offset that a change takes for a position: that of the position, or the
end of the text if the line is missing. -/
inductive Placed (text : String) (position : Position) : Nat → Prop
  | found {offset : Nat} : offset? text position = some offset → Placed text position offset
  | missing : text.toList.count '\n' < position.line → Placed text position text.utf8ByteSize

/-- The bytes of a text that a range stands for. They end where the range ends,
or where they start if that is behind the end of the range. -/
structure Covers (text : String) (range : Range) (start stop : Nat) : Prop where
  ordered : start ≤ stop
  within : stop ≤ text.utf8ByteSize
  startBoundary : Boundary text start
  stopBoundary : Boundary text stop
  startPlaced : Placed text range.start start
  stopPlaced : Placed text range.stop stop ∨
    ∃ last, Placed text range.stop last ∧ last < start ∧ stop = start
  uncorrected : range.start.NotPast range.stop → Placed text range.stop stop

/-- A text, changes, and the text behind them. Each change is applied to what the
ones before it left. -/
inductive Applied : String → List Change → String → Prop
  | unchanged (text : String) : Applied text [] text
  | replaced {text replacement final : String} {later : List Change} :
      Applied replacement later final → Applied text (⟨none, replacement⟩ :: later) final
  | spliced {text replacement result final : String} {later : List Change} {range : Range}
      {start stop : Nat} : Covers text range start stop →
      bytes result = (bytes text).take start ++ bytes replacement ++ (bytes text).drop stop →
      Applied result later final → Applied text (⟨some range, replacement⟩ :: later) final

section Ranges

variable {text : String} {range : Range} {position first second : Position}
  {offset start stop : Nat}

theorem placed_iff : Placed text position offset ↔ offsetOrEnd text position = offset := by
  rw [offsetOrEnd, size_eq_byte_size]
  constructor
  · intro placed
    cases placed with
    | found given => rw [given, Option.getD_some]
    | missing past => rw [(offset_none_iff text position).mpr past, Option.getD_none]
  · intro same
    cases given : offset? text position with
    | some found =>
        rw [given, Option.getD_some] at same
        rw [same] at given
        exact .found given
    | none =>
        rw [given, Option.getD_none] at same
        rw [← same]
        exact .missing ((offset_none_iff text position).mp given)

theorem boundary_le_size (boundary : Boundary text offset) : offset ≤ text.utf8ByteSize := by
  obtain ⟨before, after, rfl, rfl⟩ := boundary
  rw [String.utf8ByteSize_append]
  exact Nat.le_add_right _ _

theorem placed_boundary (placed : Placed text position offset) : Boundary text offset := by
  cases placed with
  | found given =>
      obtain ⟨before, line, after, front, back, lineOf, split, rfl, -, -⟩ := offset_in_line given
      obtain ⟨whole, sized, -⟩ := line_of_boundary lineOf split
      exact ⟨_, _, whole, sized⟩
  | missing => exact ⟨text, "", by simp, rfl⟩

/-- A missing line is behind all that are there, so the order of positions is
kept. -/
theorem placed_monotone (ordered : first.NotPast second) (placed : Placed text first start)
    (later : Placed text second stop) : start ≤ stop := by
  cases later with
  | missing => exact boundary_le_size (placed_boundary placed)
  | found given =>
      cases placed with
      | found earlier => exact offset_monotone ordered earlier given
      | missing past =>
          have there : ¬ text.toList.count '\n' < second.line := by
            rw [← offset_none_iff, given]
            exact Option.some_ne_none _
          rcases ordered with less | ⟨same, -⟩
          · omega
          · omega

theorem covers_offsets (covers : Covers text range start stop) :
    range.offsets text = (start, stop) := by
  have first := placed_iff.mp covers.startPlaced
  simp only [Range.offsets, first, Prod.mk.injEq, true_and]
  rcases covers.stopPlaced with own | ⟨last, own, before, rfl⟩
  · rw [placed_iff.mp own]
    exact Nat.max_eq_left covers.ordered
  · rw [placed_iff.mp own]
    exact Nat.max_eq_right (Nat.le_of_lt before)

theorem offsets_covered (text : String) (range : Range) :
    Covers text range (range.offsets text).1 (range.offsets text).2 := by
  have first : Placed text range.start (offsetOrEnd text range.start) := placed_iff.mpr rfl
  have last : Placed text range.stop (offsetOrEnd text range.stop) := placed_iff.mpr rfl
  simp only [Range.offsets]
  rcases Nat.lt_or_ge (offsetOrEnd text range.stop) (offsetOrEnd text range.start) with
    inverted | straight
  · rw [Nat.max_eq_right (Nat.le_of_lt inverted)]
    have boundary := placed_boundary first
    refine ⟨Nat.le_refl _, boundary_le_size boundary, boundary, boundary, first,
      Or.inr ⟨_, last, inverted, rfl⟩, ?_⟩
    intro ordered
    exact absurd (placed_monotone ordered first last) (Nat.not_le.mpr inverted)
  · rw [Nat.max_eq_left straight]
    have boundary := placed_boundary last
    exact ⟨straight, boundary_le_size boundary, placed_boundary first, boundary, first,
      Or.inl last, fun _ => last⟩

theorem bytes_of_replacement (opening : Boundary text start) (closing : Boundary text stop)
    (replacement : String) :
    bytes (replaceBytes text start stop replacement) =
      (bytes text).take start ++ bytes replacement ++ (bytes text).drop stop := by
  obtain ⟨before, after, left, rfl⟩ := opening
  obtain ⟨front, back, right, rfl⟩ := closing
  rw [replace_bytes_between left right, bytes_append, bytes_append, take_bytes_of_prefix left,
    drop_bytes_of_prefix right]

end Ranges

/-- One change with a range. -/
theorem splice_iff (text : String) (range : Range) (replacement result : String) :
    Change.apply ⟨some range, replacement⟩ text = result ↔
      ∃ start stop, Covers text range start stop ∧
        bytes result = (bytes text).take start ++ bytes replacement ++ (bytes text).drop stop := by
  constructor
  · rintro rfl
    have covers := offsets_covered text range
    exact ⟨_, _, covers,
      bytes_of_replacement covers.startBoundary covers.stopBoundary replacement⟩
  · rintro ⟨start, stop, covers, spelled⟩
    apply bytes_injective
    simp only [Change.apply, covers_offsets covers]
    rw [bytes_of_replacement covers.startBoundary covers.stopBoundary, spelled]

/-- Changes of every kind cut the running text at boundaries only, and the texts
that they leave are the ones that the cuts say. -/
theorem changes_spliced (text : String) (changes : List Change) (final : String) :
    applyChanges text changes = final ↔ Applied text changes final := by
  constructor
  · rintro rfl
    induction changes generalizing text with
    | nil => exact .unchanged text
    | cons change later induction =>
        obtain ⟨range, replacement⟩ := change
        cases range with
        | none => exact .replaced (induction replacement)
        | some range =>
            obtain ⟨start, stop, covers, spelled⟩ :=
              (splice_iff text range replacement _).mp rfl
            exact .spliced covers spelled (induction _)
  · intro applied
    induction applied with
    | unchanged text => rfl
    | replaced _ induction => exact induction
    | spliced covers spelled _ induction =>
        have step := (splice_iff _ _ _ _).mpr ⟨_, _, covers, spelled⟩
        rw [applyChanges, List.foldl_cons, step]
        exact induction

end TemplateServer.Text

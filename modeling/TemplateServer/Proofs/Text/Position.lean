import TemplateServer.Proofs.Text.Lines
import TemplateServer.Text.Edit

/-!
Positions and edits as a client sees them. A client names an offset between two
characters by the line feeds in front of it and by the code units behind the
last of them. Such a position leads back to its offset, and a change that is
sent with two such positions has the effect that the client's own edit has.
-/

namespace TemplateServer.Text

def unitCount : List Char → Nat
  | [] => 0
  | char :: rest => units char + unitCount rest

/-- The position that a client sends for the end of some leading characters. -/
def positionBehind (before : String) : Position :=
  { line := before.toList.count '\n'
    column := unitCount (lastLine before.toList) }

/-- What a client does to a text of its own: it replaces all of it, or the bytes
from an offset up to another one. -/
inductive Edit where
  | replaceAll (replacement : String)
  | replace (start stop : Nat) (replacement : String)

namespace Edit

def Fits (text : String) : Edit → Prop
  | .replaceAll _ => True
  | .replace start stop _ => start ≤ stop ∧ Boundary text start ∧ Boundary text stop

def result (text : String) : Edit → String
  | .replaceAll replacement => replacement
  | .replace start stop replacement =>
      decode ((bytes text).take start ++ bytes replacement ++ (bytes text).drop stop)

def change (text : String) : Edit → Change
  | .replaceAll replacement => ⟨none, replacement⟩
  | .replace start stop replacement =>
      ⟨some ⟨positionBehind (decode ((bytes text).take start)),
        positionBehind (decode ((bytes text).take stop))⟩, replacement⟩

end Edit

/-- Changes that a client sends together, each in the coordinates of the text
that the ones before it left, and the text behind them. -/
inductive Edited : String → List Change → String → Prop
  | unchanged (text : String) : Edited text [] text
  | next {text final : String} {later : List Change} (edit : Edit) : edit.Fits text →
      Edited (edit.result text) later final → Edited text (edit.change text :: later) final

theorem offset_none_iff (text : String) (position : Position) :
    offset? text position = none ↔ text.toList.count '\n' < position.line := by
  rw [offset?, Option.map_eq_none_iff, line_bounds_none_iff]

theorem offset_of_line {text : String} {before line after : List Char} (position : Position)
    (placed : LineOf text.toList position.line before line after) :
    offset? text position =
      some (size before + (columnOffset? position.column line).getD (size line)) := by
  rw [offset?, line_bounds_of_line placed, Option.map_some]
  simp only [slice_of_line placed]
  cases columnOffset? position.column line with
  | some inLine => rfl
  | none => rfl

theorem units_pos (char : Char) : 0 < units char := by
  rw [units]
  split
  · decide
  · decide

theorem column_offset_of_units (line more : List Char) :
    columnOffset? (unitCount line) (line ++ more) = some (size line) := by
  induction line with
  | nil =>
      cases more with
      | nil => rfl
      | cons char rest => rfl
  | cons char rest induction =>
      -- the count holds every character whole, so no step ends inside a surrogate pair
      have positive := units_pos char
      rw [unitCount, List.cons_append, columnOffset?, if_neg (by omega), Nat.add_sub_cancel_left,
        induction]
      rfl

/-- A position that a client sends leads back to its offset. -/
theorem offset_of_position_behind (before after : String) :
    offset? (before ++ after) (positionBehind before) = some before.utf8ByteSize := by
  obtain ⟨lead, sized, placed⟩ := line_around before.toList after.toList
  rw [← String.toList_append] at placed
  rw [offset_of_line (positionBehind before) placed, positionBehind,
    column_offset_of_units, Option.getD_some, sized, size_eq_byte_size]

theorem take_bytes_of_prefix {text before after : String} (split : text = before ++ after) :
    (bytes text).take before.utf8ByteSize = bytes before := by
  rw [split, bytes_append, ← length_bytes, List.take_left]

theorem drop_bytes_of_prefix {text before after : String} (split : text = before ++ after) :
    (bytes text).drop before.utf8ByteSize = bytes after := by
  rw [split, bytes_append, ← length_bytes, List.drop_left]

theorem replace_bytes_between {text before after front back : String}
    (left : text = before ++ after) (right : text = front ++ back) (replacement : String) :
    replaceBytes text before.utf8ByteSize front.utf8ByteSize replacement =
      before ++ replacement ++ back := by
  have taken : takeBytes before.utf8ByteSize text.toList = before.toList := by
    rw [left, String.toList_append, ← size_eq_byte_size, take_bytes_append]
  have dropped : dropBytes front.utf8ByteSize text.toList = back.toList := by
    rw [right, String.toList_append, ← size_eq_byte_size, drop_bytes_append]
  rw [replaceBytes, taken, dropped, String.ofList_append, String.ofList_append,
    String.ofList_toList, String.ofList_toList, String.ofList_toList]

/-- A change that is sent for an edit has the effect of the edit. -/
theorem apply_change_of_edit {text : String} {edit : Edit} (fits : edit.Fits text) :
    (edit.change text).apply text = edit.result text := by
  cases edit with
  | replaceAll replacement => rfl
  | replace start stop replacement =>
      obtain ⟨ordered, ⟨before, after, left, rfl⟩, ⟨front, back, right, rfl⟩⟩ := fits
      have first : offsetOrEnd text (positionBehind before) = before.utf8ByteSize := by
        rw [offsetOrEnd, left, offset_of_position_behind, Option.getD_some]
      have second : offsetOrEnd text (positionBehind front) = front.utf8ByteSize := by
        rw [offsetOrEnd, right, offset_of_position_behind, Option.getD_some]
      simp only [Edit.change, Edit.result, Change.apply, Range.offsets,
        take_bytes_of_prefix left, take_bytes_of_prefix right, drop_bytes_of_prefix right,
        decode_bytes, first, second, Nat.max_eq_left ordered]
      rw [replace_bytes_between left right, ← bytes_append, ← bytes_append, decode_bytes]

theorem apply_changes_of_edited {text final : String} {changes : List Change}
    (edited : Edited text changes final) : applyChanges text changes = final := by
  induction edited with
  | unchanged text => rfl
  | next edit fits _ induction =>
      rw [applyChanges, List.foldl_cons, apply_change_of_edit fits]
      exact induction

end TemplateServer.Text

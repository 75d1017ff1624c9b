import Mathlib.Data.List.TakeWhile
import TemplateServer.Proofs.FileSystem.Location
import TemplateServer.Proofs.Text.Boundary
import TemplateServer.Url.Basic

/-!
Reading back the address of a file. Segments whose characters stand for themselves
are read as they are written, however many and however long they are, so an
address that consists of such segments is read from its own text.
-/

namespace TemplateServer

theorem pieces_of_front {Item : Type} [DecidableEq Item] {separator : Item} {front : List Item}
    (absent : separator ∉ front) (back : List Item) :
    Text.pieces separator (front ++ separator :: back) =
      front :: Text.pieces separator back := by
  induction front with
  | nil => rw [List.nil_append, Text.pieces, if_pos rfl]
  | cons item front induction =>
      rw [List.mem_cons, not_or] at absent
      rw [List.cons_append, Text.pieces, if_neg (Ne.symm absent.1), induction absent.2]

namespace Url

/-- A character that stands for itself in a segment of a file address. -/
structure PlainChar (char : Char) : Prop where
  visible : 0x20 < char.toNat
  ascii : char.toNat < 0x7F
  unreserved : char ∉ pathReserved
  not_slash : isSlash char = false

structure PlainSegment (segment : String) : Prop where
  given : segment ≠ ""
  plain : ∀ char ∈ segment.toList, PlainChar char
  not_single : isSingleDot segment = false
  not_double : isDoubleDot segment = false

instance (char : Char) : Decidable (PlainChar char) :=
  decidable_of_iff (0x20 < char.toNat ∧ char.toNat < 0x7F ∧ char ∉ pathReserved ∧
    isSlash char = false) ⟨fun ⟨visible, ascii, unreserved, other⟩ =>
      ⟨visible, ascii, unreserved, other⟩, fun plain =>
      ⟨plain.visible, plain.ascii, plain.unreserved, plain.not_slash⟩⟩

theorem all_plain_iff (chars : List Char) :
    (chars.all fun char => PlainChar char) = true ↔ ∀ char ∈ chars, PlainChar char := by
  simp only [List.all_eq_true, decide_eq_true_eq]

instance (segment : String) : Decidable (PlainSegment segment) :=
  decidable_of_iff (segment ≠ "" ∧ (segment.toList.all fun char => PlainChar char) = true ∧
    isSingleDot segment = false ∧ isDoubleDot segment = false)
    ⟨fun ⟨given, plain, single, double⟩ =>
      ⟨given, (all_plain_iff _).mp plain, single, double⟩, fun plain =>
      ⟨plain.given, (all_plain_iff _).mpr plain.plain, plain.not_single, plain.not_double⟩⟩

theorem escaped_plain {chars : List Char} (plain : ∀ char ∈ chars, PlainChar char) :
    escaped pathReserved (String.ofList chars) = String.ofList chars := by
  rw [escaped, escapedBytes, Text.bytes_of_list]
  apply congrArg String.ofList
  induction chars with
  | nil => rfl
  | cons char chars induction =>
      obtain ⟨first, rest⟩ := List.forall_mem_cons.mp plain
      have narrow : char.toNat < 0x80 := Nat.lt_succ_of_lt first.ascii
      have value : (UInt8.ofNat char.toNat).toNat = char.toNat :=
        UInt8.toNat_ofNat_of_lt (Nat.lt_trans narrow (by decide))
      have low : ¬ UInt8.ofNat char.toNat < 0x20 := by
        rw [UInt8.lt_iff_toNat_lt, value]
        exact Nat.not_lt.mpr (Nat.le_of_lt first.visible)
      have high : ¬ 0x7F ≤ UInt8.ofNat char.toNat := by
        rw [UInt8.le_iff_toNat_le, value]
        exact Nat.not_le.mpr first.ascii
      rw [List.flatMap_cons, List.flatMap_append, induction rest, Text.encode_char_ascii _ narrow,
        List.flatMap_singleton]
      simp [value, low, high, first.unreserved]

theorem not_ignored {char : Char} (plain : PlainChar char) : isIgnored char = false := by
  have visible := plain.visible
  rw [isIgnored, Bool.or_eq_false_iff, Bool.or_eq_false_iff]
  refine ⟨⟨?_, ?_⟩, ?_⟩
  · apply beq_false_of_ne
    intro tab
    rw [tab] at visible
    exact absurd visible (by decide)
  · apply beq_false_of_ne
    intro newline
    rw [newline] at visible
    exact absurd visible (by decide)
  · apply beq_false_of_ne
    intro back
    rw [back] at visible
    exact absurd visible (by decide)

namespace PathDraft

theorem add_segment_plain (draft : PathDraft) {segment : String} (plain : PlainSegment segment)
    (behind : draft.kept ≠ []) :
    draft.addSegment true segment.toList =
      { draft with segment := segment, isLiteral := false } := by
  have whole : segment.toList.map (fun char => if isIgnored char then '\n' else char) =
      segment.toList := by
    rw [List.map_congr_left (g := id), List.map_id]
    intro char member
    rw [not_ignored (plain.plain char member)]
    rfl
  have unbroken : '\n' ∉ segment.toList := by
    intro member
    exact absurd (plain.plain _ member).visible (by decide)
  have written : segment.toList.isEmpty = false := by
    rw [List.isEmpty_eq_false_iff]
    exact mt String.toList_eq_nil_iff.mp plain.given
  have behindFirst : draft.kept.isEmpty = false := List.isEmpty_eq_false_iff.mpr behind
  rw [addSegment, whole, pieces_of_absent unbroken, List.foldl_cons, List.foldl_nil, addChunk,
    written, behindFirst, escaped_plain plain.plain, String.ofList_toList]
  simp

theorem resolved_plain (draft : PathDraft) (plain : PlainSegment draft.segment)
    (behind : draft.kept ≠ []) : draft.resolved true = draft := by
  have behindFirst : draft.kept.isEmpty = false := List.isEmpty_eq_false_iff.mpr behind
  rw [resolved, plain.not_double, plain.not_single, behindFirst]
  simp

theorem read_plain (draft : PathDraft) (behind : draft.kept ≠ []) {names : List String}
    (plain : ∀ name ∈ names, PlainSegment name) (given : names ≠ []) :
    (draft.read true (names.map String.toList)).segments = draft.kept.reverse ++ names := by
  induction names generalizing draft with
  | nil => exact absurd rfl given
  | cons name names induction =>
      obtain ⟨first, rest⟩ := List.forall_mem_cons.mp plain
      have added := draft.add_segment_plain first behind
      have read : resolved true { draft with segment := name, isLiteral := false } =
          { draft with segment := name, isLiteral := false } := resolved_plain _ first behind
      have dots : isDots { draft with segment := name, isLiteral := false } = false := by
        rw [isDots, first.not_double, first.not_single]
        rfl
      rw [List.map_cons, PathDraft.read, added, read, dots]
      cases names with
      | nil => simp [segments]
      | cons next later =>
          rw [if_neg (by simp), if_neg Bool.false_ne_true,
            induction _ (List.cons_ne_nil _ _) rest (List.cons_ne_nil _ _)]
          simp

end PathDraft

def ofSegments (names : List String) : Url := ⟨"file", some "", .segments names, none, none⟩

theorem pieces_of_segments {names : List String} (absent : ∀ name ∈ names, '/' ∉ name.toList)
    (front : List Char) (also : '/' ∉ front) :
    Text.pieces '/' (front ++ names.flatMap fun name => '/' :: name.toList) =
      front :: names.map String.toList := by
  induction names generalizing front with
  | nil => rw [List.flatMap_nil, List.append_nil, pieces_of_absent also, List.map_nil]
  | cons name names induction =>
      obtain ⟨first, rest⟩ := List.forall_mem_cons.mp absent
      rw [List.flatMap_cons, List.cons_append, pieces_of_front also, induction rest _ first,
        List.map_cons]

def pathChars (names : List String) : List Char := names.flatMap fun name => '/' :: name.toList

theorem forall_path_chars {names : List String} (plain : ∀ name ∈ names, PlainSegment name)
    (holds : Char → Prop) (slash : holds '/') (others : ∀ char, PlainChar char → holds char) :
    ∀ char ∈ pathChars names, holds char := by
  intro char member
  obtain ⟨name, listed, inside⟩ := List.mem_flatMap.mp member
  rcases List.mem_cons.mp inside with same | written
  · rw [same]
    exact slash
  · exact others char ((plain name listed).plain char written)

theorem path_draft_plain {names : List String} (plain : ∀ name ∈ names, PlainSegment name)
    (given : names ≠ []) : (pathDraft true isSlash (pathChars names)).segments = "" :: names := by
  have slashed : (pathChars names).map (fun char => if isSlash char then '/' else char) =
      pathChars names := by
    rw [List.map_congr_left (g := id), List.map_id]
    apply forall_path_chars plain (fun char => (if isSlash char then '/' else char) = char) rfl
    intro char plain
    rw [plain.not_slash]
    rfl
  have absent : ∀ name ∈ names, '/' ∉ name.toList := by
    intro name listed written
    exact absurd ((plain name listed).plain _ written).not_slash (by decide)
  have split : Text.pieces '/' (pathChars names) = [] :: names.map String.toList :=
    pieces_of_segments absent [] List.not_mem_nil
  have first : PathDraft.read true .empty ([] :: names.map String.toList) =
      PathDraft.read true ⟨[""], "", false, false⟩ (names.map String.toList) := by
    have added : PathDraft.addSegment true .empty [] = .empty := rfl
    have double : isDoubleDot "" = false := by decide +kernel
    have single : isSingleDot "" = false := by decide +kernel
    have read : PathDraft.resolved true .empty = .empty := by
      simp [PathDraft.resolved, PathDraft.empty, double, single, isDriveLetter]
    have dots : PathDraft.isDots .empty = false := by
      simp [PathDraft.isDots, PathDraft.empty, double, single]
    have more : (names.map String.toList).isEmpty = false := by
      rw [List.isEmpty_eq_false_iff, Ne, List.map_eq_nil_iff]
      exact given
    rw [PathDraft.read, added, read, dots, more]
    rfl
  rw [pathDraft, slashed, split, first, PathDraft.read_plain _ (List.cons_ne_nil _ _) plain given]
  rfl

theorem main_part_plain {names : List String} (plain : ∀ name ∈ names, PlainSegment name)
    (given : names ≠ []) (isAtEnd : Bool) :
    mainPart? "file" ('/' :: '/' :: pathChars names) isAtEnd = some (some "", .segments names) := by
  obtain ⟨name, later, rfl⟩ := List.exists_cons_of_ne_nil given
  have path := path_draft_plain plain given
  have named : name ≠ "" := (plain name List.mem_cons_self).given
  have hostless : filePart? ('/' :: '/' :: pathChars (name :: later)) =
      some ("", (pathDraft true isSlash (pathChars (name :: later))).segments) := by
    simp [filePart?, pathChars, isSlash, isIgnored, isDriveLetter]
  rw [mainPart?, if_pos rfl, hostless, path]
  simp [withoutLeadingSlashes, named]

/-- A mark that is reserved in paths is not among the characters of a plain one. -/
theorem path_chars_unmarked {names : List String} (plain : ∀ name ∈ names, PlainSegment name)
    {mark : Char} (reserved : mark ∈ pathReserved) :
    ∀ char ∈ '/' :: '/' :: pathChars names, (char != mark) = true := by
  have apart : pathReserved.all ('/' != ·) = true := by decide
  have slash : ('/' != mark) = true := List.all_eq_true.mp apart mark reserved
  have inside : ∀ char ∈ pathChars names, (char != mark) = true := by
    apply forall_path_chars plain (fun char => (char != mark) = true) slash
    intro char plain
    apply bne_iff_ne.mpr
    intro same
    rw [same] at plain
    exact plain.unreserved reserved
  simp only [List.forall_mem_cons]
  exact ⟨slash, slash, inside⟩

theorem no_edges {chars : List Char} (visible : ∀ char ∈ chars, ¬ char.toNat ≤ 0x20) :
    chars.dropWhile (fun char => decide (char.toNat ≤ 0x20)) = chars := by
  rw [List.dropWhile_eq_self_iff]
  intro given
  simpa using visible _ (List.getElem_mem given)

/-- The address of a plain path is read from its text. -/
theorem parse_text {names : List String} (plain : ∀ name ∈ names, PlainSegment name)
    (given : names ≠ []) : parse? (ofSegments names).text = some (ofSegments names) := by
  generalize whole : 'f' :: 'i' :: 'l' :: 'e' :: ':' :: '/' :: '/' :: pathChars names = chars
  have text : (ofSegments names).text.toList = chars := by
    simp [Url.text, ofSegments, PathPart.text, ← whole, pathChars, String.toList_join,
      List.flatMap_map]
  have visible : ∀ char ∈ chars, ¬ char.toNat ≤ 0x20 := by
    have inside := forall_path_chars plain (fun char => ¬ char.toNat ≤ 0x20) (by decide)
      fun _ plain => Nat.not_le.mpr plain.visible
    simp only [← whole, List.forall_mem_cons]
    exact ⟨by decide, by decide, by decide, by decide, by decide, by decide, by decide, inside⟩
  have reversed : ∀ char ∈ chars.reverse, ¬ char.toNat ≤ 0x20 :=
    fun char member => visible char (List.mem_reverse.mp member)
  -- neither a query nor a fragment begins in the path
  have taken : ∀ mark ∈ pathReserved,
      ('/' :: '/' :: pathChars names).takeWhile (· != mark) = '/' :: '/' :: pathChars names :=
    fun mark reserved => List.takeWhile_eq_self_iff.mpr (path_chars_unmarked plain reserved)
  have nothing : ∀ mark ∈ pathReserved,
      partBehind mark ('/' :: '/' :: pathChars names) = none := by
    intro mark reserved
    rw [partBehind, List.dropWhile_eq_nil_iff.mpr (path_chars_unmarked plain reserved)]
  have scheme : chars.takeWhile (· != ':') = ['f', 'i', 'l', 'e'] := by
    rw [← whole]
    rfl
  have behind : partBehind ':' chars = some ('/' :: '/' :: pathChars names) := by
    rw [← whole]
    rfl
  have read : (String.ofList (['f', 'i', 'l', 'e'].filter fun char => !isIgnored char)).toList =
      ['f', 'i', 'l', 'e'] := by decide
  have lower : String.ofList (['f', 'i', 'l', 'e'].map Char.toLower) = "file" := by decide
  rw [parse?, text]
  simp only [no_edges visible, no_edges reversed, List.reverse_reverse, scheme, behind, read, bind,
    Option.bind_some, lower]
  rw [if_neg (by decide), taken '#' (by decide), taken '?' (by decide), nothing '#' (by decide),
    nothing '?' (by decide), main_part_plain plain given]
  rfl

/-- The path of an address whose last bytes are no drive has nothing behind them. -/
theorem file_path_of_segments {names : List String} {front : List UInt8} {before last : UInt8}
    (spelled : names.flatMap (fun name => 0x2F :: unescapedBytes (Text.bytes name)) =
      front ++ [before, last])
    (other : isDriveLetter (Text.decodeLossy [before, last]) = false) :
    (ofSegments names).filePath? = some (Path.ofBytes (front ++ [before, last])) := by
  have ending : (front ++ [before, last]).drop ((front ++ [before, last]).length - 2) =
      [before, last] := by simp
  rw [filePath?, ofSegments]
  simp only [spelled]
  rw [ending, other, Bool.and_false, if_neg Bool.false_ne_true, List.append_nil]
  rfl

end Url

end TemplateServer

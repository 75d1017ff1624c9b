import TemplateServer.Proofs.Markup.Accesses

/-!
The scan goes forward. A round of its loops either ends the loop or goes on further
behind, still inside the text, and what passes over a string or a group comes out
behind the byte where it went in. So the scan of any text ends. Each tag takes it at
least two bytes on; after the last tag it reports the end, once, and then nothing.
-/

namespace TemplateServer.Markup.InPlace

open Text (bytes length_bytes cut_le Boundary RestAt rest_at_cut rest_at_lands rest_at_bytes
  rest_at_length rest_at_boundary)

/-- Every round of a loop goes forward. From a state that is ready a round gives a
result, or it goes on from a ready state at a larger index inside the text. -/
def Forward (text : String) {State Result : Type} (Ready : State → Prop) (index : State → Nat)
    (round : State → Run (Turn State Result)) : Prop :=
  ∀ state, Ready state →
    (∃ result, round state = pure (.done result)) ∨
      ∃ next, round state = pure (.again next) ∧ Ready next ∧ index state < index next ∧
        index next ≤ text.utf8ByteSize

/-- What passes over a piece of the text comes out at an index that is not in front of
a given one and not outside the text. -/
def Reaches (text : String) (least : Nat) (skip : Run Nat) : Prop :=
  ∃ stop, skip = pure stop ∧ least ≤ stop ∧ stop ≤ text.utf8ByteSize

/-- The loops between tags, over the names, suffixes and attributes of a tag, and over
a value go forward. Between attributes a tag is ready at every character boundary. -/
structure LoopsForward (text : String) : Prop where
  gap : Forward text (· ≤ text.utf8ByteSize) id (gapRound text)
  run : ∀ member, Forward text (· ≤ text.utf8ByteSize) id (runRound text member)
  suffix : Forward text (· ≤ text.utf8ByteSize) id (shorthandRound text)
  attributes : Forward text (fun state => Boundary text state.index) TagState.index
    (attributeRound text)
  value : Forward text (· ≤ text.utf8ByteSize) id (valueRound text)

/-- What the loops use to pass over a piece of the text never goes back and never
leaves the text. A string, a group and a run that is not empty take at least a byte,
and behind the name of a tag and its suffixes a character ends. -/
structure SkipsForward (text : String) : Prop where
  string : ∀ index, index < text.utf8ByteSize → Reaches text (index + 1) (skipString text index)
  group : ∀ index byte, peek text index = some byte → isOpener byte = true →
    Reaches text (index + 1) (skipGroup text index)
  run : ∀ member index, index ≤ text.utf8ByteSize →
    Reaches text index (skipRun text member index)
  run_nonempty : ∀ member index byte, peek text index = some byte → member byte = true →
    Reaches text (index + 1) (skipRun text member index)
  declaration : ∀ index, index ≤ text.utf8ByteSize →
    Reaches text index (skipDeclaration text index)
  value : ∀ index, index ≤ text.utf8ByteSize → Reaches text index (skipValue text index)
  search : ∀ pattern index, Boundary text index →
    Reaches text index (searchPast text index pattern)
  raw_body : ∀ name index, index ≤ text.utf8ByteSize →
    Reaches text index (skipRawBody text name index)
  name : ∀ index, Boundary text index →
    ∃ stop, skipName text index = pure stop ∧ index ≤ stop ∧ Boundary text stop
  suffix : ∀ index, Boundary text index →
    ∃ stop, skipSuffix text index = pure stop ∧ index ≤ stop ∧ Boundary text stop

section Rounds

variable {text : String}

theorem Passes.rounds_forward {Result : Type} {round : Nat → Run (Turn Nat Result)}
    {value : Nat → List UInt8 → Result} (passes : Passes text round value) :
    Forward text (· ≤ text.utf8ByteSize) id round := by
  intro index within
  cases stands : (bytes text).drop index with
  | nil =>
      rw [List.drop_eq_nil_iff, length_bytes] at stands
      obtain ⟨result, turn, -⟩ := passes.outside index stands
      exact Or.inl ⟨result, turn⟩
  | cons byte rest =>
      rcases passes.forward index byte rest stands with ended | ⟨count, fits, turn, -⟩
      · exact Or.inl ⟨_, ended⟩
      · have size := size_eq stands
        have inside : index + 1 + count ≤ text.utf8ByteSize := by omega
        exact Or.inr ⟨_, turn, inside, by dsimp only [id]; omega, inside⟩

theorem boundary_rest {offset : Nat} (boundary : Boundary text offset) :
    ∃ rest, RestAt text offset rest := by
  obtain ⟨before, after, same, size⟩ := boundary
  exact ⟨bytes after, before, after, same, size, rfl⟩

theorem attributes_forward (text : String) :
    Forward text (fun state => Boundary text state.index) TagState.index
      (attributeRound text) := by
  rintro ⟨position, attributes⟩ boundary
  change Boundary text position at boundary
  obtain ⟨input, place⟩ := boundary_rest boundary
  cases found : input.drop (runLength isSeparator input) with
  | nil => exact Or.inl ⟨_, attribute_round_end place found attributes⟩
  | cons byte rest =>
      have here := behind_separators place found
      rw [attribute_round_cons place found]
      dsimp only
      split
      · exact Or.inl ⟨_, rfl⟩
      · split
        · exact Or.inl ⟨_, rfl⟩
        · split
          · exact Or.inl ⟨_, rfl⟩
          · split
            · rename_i named
              have next := rest_at_cut here (attribute_length_cut (byte :: rest))
              have size := rest_at_length next
              have positive := attribute_length_pos byte rest named
              refine Or.inr ⟨_, rfl, rest_at_boundary next, ?_, ?_⟩
              · dsimp only
                omega
              · dsimp only
                omega
            · rename_i unnamed
              have next := behind_skipped here (by simpa using unnamed)
              have size := rest_at_length next
              refine Or.inr ⟨_, rfl, rest_at_boundary next, ?_, ?_⟩
              · dsimp only
                omega
              · dsimp only
                omega

theorem loops_forward (text : String) : LoopsForward text where
  gap := (gap_passes text).rounds_forward
  run member := (run_passes text member).rounds_forward
  suffix := (shorthand_passes text).rounds_forward
  attributes := attributes_forward text
  value := (value_passes text).rounds_forward

end Rounds

section Skips

variable {text : String} {index : Nat} {byte : UInt8}

theorem string_tail_le (quote : UInt8) (input : List UInt8) :
    stringTail quote input ≤ input.length := by
  fun_induction stringTail quote input with
  | case1 => exact Nat.le_refl _
  | case2 => exact Nat.le_refl _
  | case3 byte later induction =>
      simp only [List.length_cons]
      omega
  | case4 rest unescaped =>
      simp only [List.length_cons]
      omega
  | case5 byte rest unescaped different induction =>
      simp only [List.length_cons]
      omega

theorem length_through_le (pattern input : List UInt8) :
    lengthThrough pattern input ≤ input.length := by
  induction input with
  | nil => exact Nat.le_refl _
  | cons byte rest induction =>
      rw [lengthThrough]
      split
      · rename_i found
        exact (List.isPrefixOf_iff_prefix.mp found).length_le
      · rw [List.length_cons]
        omega

theorem peek_stands (seen : peek text index = some byte) :
    ∃ rest, (bytes text).drop index = byte :: rest := by
  rw [peek_eq] at seen
  exact List.head?_eq_some_iff.mp seen

/-- Passing over so many of the bytes that are left. -/
theorem reaches_behind {skip : Run Nat} {count : Nat} (within : index ≤ text.utf8ByteSize)
    (same : skip = pure (index + count)) (fits : count ≤ ((bytes text).drop index).length) :
    Reaches text index skip := by
  rw [List.length_drop, length_bytes] at fits
  exact ⟨index + count, same, Nat.le_add_right _ _, by omega⟩

theorem reaches_next {rest : List UInt8} {skip : Run Nat} {count : Nat}
    (stands : (bytes text).drop index = byte :: rest) (same : skip = pure (index + 1 + count))
    (fits : count ≤ rest.length) : Reaches text (index + 1) skip := by
  have size := size_eq stands
  exact ⟨index + 1 + count, same, Nat.le_add_right _ _, by omega⟩

theorem skips_forward (text : String) : SkipsForward text where
  string index inside := by
    rw [← length_bytes] at inside
    have stands := List.drop_eq_getElem_cons inside
    exact reaches_next stands (skip_string_eq stands) (string_tail_le _ _)
  group index byte seen opens := by
    obtain ⟨rest, stands⟩ := peek_stands seen
    exact reaches_next stands (skip_group_eq stands opens) (cut_le (group_tail_cut 0 rest))
  run member index within :=
    reaches_behind within (skip_run_eq text member index) (run_length_le member _)
  run_nonempty member index byte seen found := by
    obtain ⟨rest, stands⟩ := peek_stands seen
    have same := skip_run_eq text member index
    rw [stands, run_length_next found, ← Nat.add_assoc] at same
    exact reaches_next stands same (run_length_le member rest)
  declaration index within :=
    reaches_behind within ((declaration_passes text).loop_eq within)
      (cut_le (declaration_tail_cut _))
  value index within := reaches_behind within (skip_value_eq within) (cut_le (value_length_cut _))
  search pattern index boundary := by
    obtain ⟨rest, place⟩ := boundary_rest boundary
    have size := rest_at_length place
    have within : index ≤ text.utf8ByteSize := by omega
    exact reaches_behind within (search_past_eq boundary within) (length_through_le pattern _)
  raw_body name index within :=
    reaches_behind within (skip_raw_body_eq name within) (cut_le (raw_body_length_cut name _))
  name index boundary := by
    obtain ⟨rest, place⟩ := boundary_rest boundary
    have next := rest_at_cut place (tag_name_length_cut rest)
    have same := skip_name_eq text index
    rw [rest_at_bytes place] at same
    exact ⟨_, same, Nat.le_add_right _ _, rest_at_boundary next⟩
  suffix index boundary := by
    obtain ⟨rest, place⟩ := boundary_rest boundary
    have next := rest_at_lands place (tag_suffix_length_lands rest)
    have size := rest_at_length place
    have same := skip_suffix_eq (show index ≤ text.utf8ByteSize by omega)
    rw [rest_at_bytes place] at same
    exact ⟨_, same, Nat.le_add_right _ _, rest_at_boundary next⟩

end Skips

section Calls

variable (text : String)

def calls : Nat → Scan → Run (List (Option Event))
  | 0, _ => pure []
  | count + 1, scan => do
      let (answer, after) ← next text scan
      let answers ← calls count after
      return answer :: answers

variable {text}

/-- A tag takes at least its `<` and a byte of its name. -/
theorem next_tag_advances {cursor after : Cursor} {tag : Tag}
    (place : RestAt text cursor.position cursor.rest)
    (found : cursor.nextTag? = some (tag, after)) :
    cursor.position + 2 ≤ after.position ∧ after.position ≤ text.utf8ByteSize := by
  have step := next_tag_placed place found
  have name := Text.spells_size step.placed.name_spelled
  have named : tag.name.utf8ByteSize ≠ 0 := by
    rw [ne_eq, String.utf8ByteSize_eq_zero_iff]
    exact step.placed.name_nonempty
  have start := step.start
  have nameEnd := step.placed.name_end_le
  have stop := step.stop
  have size := rest_at_length step.next
  constructor
  · omega
  · omega

theorem cursor_tags_bounded (cursor : Cursor)
    (place : RestAt text cursor.position cursor.rest) :
    cursor.position + 2 * cursor.tags.length ≤ text.utf8ByteSize := by
  fun_induction Cursor.tags cursor with
  | case1 cursor ended =>
      have size := rest_at_length place
      rw [List.length_nil]
      omega
  | case2 cursor tag after found induction =>
      have advanced := next_tag_advances place found
      have bounded := induction (next_tag_placed place found).next
      rw [List.length_cons]
      omega

theorem calls_next {scan after : Scan} {answer : Option Event} {answers : List (Option Event)}
    {count : Nat} (turn : next text scan = pure (answer, after))
    (rest : calls text count after = pure answers) :
    calls text (count + 1) scan = pure (answer :: answers) := by
  rw [calls, turn, pure_bind]
  dsimp only
  rw [rest, pure_bind]

theorem calls_finished {scan : Scan} (finished : scan.finished = true) (later : Nat) :
    calls text later scan = pure (List.replicate later none) := by
  induction later with
  | zero => rfl
  | succ later induction => exact calls_next (if_pos finished) induction

/-- The calls report the events that are left, one each, and then nothing. -/
theorem calls_eq (scanner : Scanner)
    (place : RestAt text scanner.cursor.position scanner.cursor.rest) (later : Nat) :
    calls text (scanner.run.1.length + later) (.ofScanner scanner) =
      pure (scanner.run.1.map some ++ List.replicate later none) := by
  induction scanner using Scanner.run_induction with
  | ended scanner finished =>
      rw [List.length_nil, Nat.zero_add, calls_finished finished]
      rfl
  | step scanner after event found induction =>
      have turn := next_eq place
      rw [found] at turn
      rw [List.length_cons, Nat.add_right_comm]
      exact calls_next turn (induction (Scanner.next_placed place found))

end Calls

/-- Whatever the text, the scan of it ends: its loops go forward in every round, and
what they pass over goes forward and stays inside the text. From every state of the
scan the next tag takes at least two bytes, so the tags are at most half as many as the
bytes. The calls for the next event report the tags, then the end, and then nothing,
however often they are repeated. -/
theorem scan_progresses (text : String) :
    LoopsForward text ∧ SkipsForward text ∧
      (∀ count scanner after tag, (Scanner.start text).afterEvents? count = some scanner →
        scanner.next? = some (.openTag tag, after) →
        scanner.cursor.position + 2 ≤ after.cursor.position ∧
          after.cursor.position ≤ text.utf8ByteSize) ∧
      2 * (tags text).length ≤ text.utf8ByteSize ∧
      ∀ later, calls text ((tags text).length + 1 + later) ⟨0, false⟩ =
        pure ((tags text).map (some <| .openTag ·) ++
          some .finished :: List.replicate later none) := by
  have place : RestAt text (Scanner.start text).cursor.position (Scanner.start text).cursor.rest :=
    Text.rest_at_start text
  refine ⟨loops_forward text, skips_forward text, ?_, ?_, ?_⟩
  · intro count scanner after tag reached found
    obtain ⟨-, ⟨_, next, there, same, rfl⟩ | ⟨-, other, -⟩⟩ := Scanner.next_cases found
    · exact next_tag_advances (Scanner.reached_placed place reached) there
    · cases other
  · have bounded := cursor_tags_bounded ⟨0, bytes text⟩ place
    rwa [Nat.zero_add] at bounded
  · intro later
    have answered := calls_eq (Scanner.start text) place later
    have reported : (Scanner.start text).run.1 = _ := events_eq_tags text
    rw [reported, List.length_append, List.length_map, List.map_append, List.append_assoc,
      List.map_map] at answered
    exact answered

end TemplateServer.Markup.InPlace

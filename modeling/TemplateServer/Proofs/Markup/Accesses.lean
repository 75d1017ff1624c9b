import TemplateServer.Proofs.Markup.Edges
import TemplateServer.Proofs.Markup.Passing
import TemplateServer.Proofs.Markup.Translation

/-!
No access of the scan in place is refused. Whatever the text, every byte that is
looked at by its index lies inside the text, names and arguments are cut out
between characters, searches start between characters, spans run forward, and no
group is left that was not entered. The scan ends, and what it reports are the
events of the text.
-/

namespace TemplateServer.Markup.InPlace

open Text (bytes length_bytes decode_bytes bytes_append cut_le cut_one RestAt Spells rest_at_cut
  rest_at_lands rest_at_bytes rest_at_length rest_at_boundary)

section Slices

variable {text piece : String} {start stop : Nat}

theorem spelled_bytes (spelled : Spells text start stop piece) :
    ((bytes text).drop start).take (stop - start) = bytes piece := by
  obtain ⟨before, after, rfl, rfl, size⟩ := spelled
  have count : stop - before.utf8ByteSize = (bytes piece).length := by
    rw [← size, String.utf8ByteSize_append, length_bytes]
    omega
  rw [count, bytes_append, bytes_append, List.append_assoc, ← length_bytes before, List.drop_left,
    List.take_left]

theorem slice_eq (spelled : Spells text start stop piece) :
    slice text start stop = pure piece := by
  have content := spelled_bytes spelled
  obtain ⟨before, after, rfl, rfl, size⟩ := spelled
  have allowed : (Access.slice before.utf8ByteSize stop).Allowed (before ++ piece ++ after) := by
    refine ⟨?_, ?_, ⟨before, piece ++ after, String.append_assoc, rfl⟩,
      ⟨before ++ piece, after, rfl, size⟩⟩
    · rw [← size, String.utf8ByteSize_append]
      omega
    · rw [← size, String.utf8ByteSize_append, String.utf8ByteSize_append,
        String.utf8ByteSize_append]
      omega
  rw [slice, demand_allowed allowed, pure_bind, content, decode_bytes]

theorem span_of_eq (text : String) (ordered : start ≤ stop) :
    spanOf text start stop = pure ⟨start, stop⟩ := by
  have allowed : (Access.span start stop).Allowed text := ordered
  rw [spanOf, demand_allowed allowed, pure_bind]

end Slices

section Heads

variable {text : String} {index : Nat}

theorem skip_parentheses_eq (text : String) (index : Nat) :
    skipParentheses text index =
      pure (index + groupLength Byte.openParenthesis ((bytes text).drop index)) := by
  rw [skipParentheses, peek_eq]
  cases stands : (bytes text).drop index with
  | nil => rfl
  | cons byte rest =>
      rw [groupLength]
      by_cases opens : byte = Byte.openParenthesis
      · subst opens
        rw [List.head?_cons, if_pos rfl, if_pos rfl, skip_group_eq stands (by decide),
          Nat.add_assoc]
      · rw [List.head?_cons, if_neg (by simpa using opens), if_neg opens, Nat.add_zero]

theorem skip_name_eq (text : String) (index : Nat) :
    skipName text index = pure (index + tagNameLength ((bytes text).drop index)) := by
  rw [skipName, tagNameLength, startsAt]
  split
  · rename_i dynamic
    obtain ⟨later, stands⟩ := List.isPrefixOf_iff_prefix.mp dynamic
    have brace : (bytes text).drop (index + 1) = Byte.openBrace :: later := drop_next stands.symm
    rw [skip_group_eq brace (by decide), ← stands]
    simp only [List.cons_append, List.nil_append, List.tail_cons, groupLength, if_true,
      Nat.add_assoc]
  · exact skip_run_eq text isTagByte index

theorem skip_parameters_eq (text : String) (index : Nat) :
    skipParameters text index = pure (index + parametersLength ((bytes text).drop index)) := by
  rw [skipParameters, peek_eq, parametersLength]
  split
  · rename_i opens
    cases stands : (bytes text).drop index with
    | nil =>
        rw [stands] at opens
        cases opens
    | cons byte rest =>
        rw [stands, List.head?_cons, Option.some.injEq] at opens
        subst opens
        have place := rest_at_cut (rest_at_ascii stands (by decide)) (cut_one (by decide) rest)
        have within := rest_at_length place
        rw [search_past_eq (rest_at_boundary place) (by omega), drop_next stands, List.tail_cons,
          Nat.add_assoc]
  · rfl

/-- A run of a wider class goes on behind the run of a narrower one. -/
theorem run_length_wider {member wider : UInt8 → Bool}
    (contains : ∀ byte, member byte = true → wider byte = true) (input : List UInt8) :
    runLength wider input =
      runLength member input + runLength wider (input.drop (runLength member input)) := by
  induction input with
  | nil => rfl
  | cons byte rest induction =>
      cases found : member byte with
      | false => rw [run_length_stop found, Nat.zero_add, List.drop_zero]
      | true =>
          rw [run_length_next found, run_length_next (contains byte found), induction,
            Nat.add_comm 1 (runLength member rest), List.drop_succ_cons]
          omega

def isSuffixByte (byte : UInt8) : Bool :=
  isTagByte byte || byte == Byte.dot || byte == Byte.hash

theorem shorthand_length_eq {byte : UInt8} (suffix : byte = Byte.dot ∨ byte = Byte.hash)
    (rest : List UInt8) :
    shorthandLength (byte :: rest) = runLength isSuffixByte (byte :: rest) := by
  have marked : (byte = Byte.dot || byte = Byte.hash) = true := by simpa using suffix
  simp only [shorthandLength, List.head?_cons, marked, if_true]
  rfl

/-- A suffix is a dot or a hash with name bytes behind it, and more suffixes may follow. -/
theorem shorthand_length_next {byte : UInt8} (suffix : byte = Byte.dot ∨ byte = Byte.hash)
    (rest : List UInt8) :
    shorthandLength (byte :: rest) =
      1 + runLength isTagByte rest + shorthandLength (rest.drop (runLength isTagByte rest)) := by
  have first : isSuffixByte byte = true := by
    rcases suffix with rfl | rfl <;> decide
  have contains : ∀ byte, isTagByte byte = true → isSuffixByte byte = true := by
    intro byte named
    rw [isSuffixByte, named, Bool.true_or, Bool.true_or]
  have more : runLength isSuffixByte (rest.drop (runLength isTagByte rest)) =
      shorthandLength (rest.drop (runLength isTagByte rest)) := by
    cases found : rest.drop (runLength isTagByte rest) with
    | nil => rfl
    | cons next later =>
        have unnamed : isTagByte next = false := by
          apply byte_behind_run
          rw [← List.head?_drop, found]
          rfl
        by_cases again : next = Byte.dot ∨ next = Byte.hash
        · exact (shorthand_length_eq again later).symm
        · rw [not_or] at again
          rw [run_length_stop (by simp [isSuffixByte, unnamed, again])]
          simp [shorthandLength, again]
  rw [shorthand_length_eq suffix, run_length_next first, run_length_wider contains, more]
  omega

theorem shorthand_passes (text : String) :
    Passes text (shorthandRound text) (fun index rest => index + shorthandLength rest) := by
  constructor
  · intro index outside
    rw [shorthandRound, if_neg (Nat.not_lt.mpr outside)]
    exact ⟨index, rfl, fun _ => rfl⟩
  · intro index byte rest stands
    rw [shorthandRound, at_byte stands]
    by_cases suffix : byte = Byte.dot ∨ byte = Byte.hash
    · rw [if_pos (by simpa using suffix), skip_run_eq, drop_next stands, pure_bind]
      refine Or.inr ⟨_, run_length_le isTagByte rest, rfl, ?_⟩
      rw [shorthand_length_next suffix]
      omega
    · rw [if_neg (by simpa using suffix)]
      rw [not_or] at suffix
      have none : shorthandLength (byte :: rest) = 0 := by simp [shorthandLength, suffix]
      rw [none]
      exact Or.inl rfl

theorem skip_suffix_eq (within : index ≤ text.utf8ByteSize) :
    skipSuffix text index = pure (index + tagSuffixLength ((bytes text).drop index)) := by
  rw [skipSuffix, (shorthand_passes text).loop_eq within, pure_bind, skip_parameters_eq, pure_bind,
    skip_parentheses_eq, tagSuffixLength]
  simp only [List.drop_drop, Nat.add_assoc]

theorem skip_assigned_eq (text : String) (index : Nat) :
    skipAssigned text index = pure (index + assignedLength ((bytes text).drop index)) := by
  rw [skipAssigned, skip_run_eq, pure_bind, peek_eq, assignedLength, ← List.drop_drop]
  dsimp only
  split
  · rename_i signed
    obtain ⟨rest, stands⟩ := List.head?_eq_some_iff.mp signed
    rw [List.drop_drop] at stands
    have size := size_eq stands
    have run := run_length_le isBlank rest
    rw [List.drop_drop, stands, List.tail_cons, skip_run_eq, drop_next stands, pure_bind,
      skip_value_eq (by omega), drop_behind stands]
    simp only [Nat.add_assoc]
  · rfl

end Heads

section Attributes

variable {text : String} {index : Nat} {byte : UInt8} {rest : List UInt8}

theorem inner_stop_eq {argument : Argument} (within : argument.span.stop ≤ text.utf8ByteSize) :
    innerStop text argument.span.start argument.span.stop = pure (argument.innerStop text) := by
  rw [innerStop, Argument.innerStop]
  by_cases longer : argument.span.start + 1 < argument.span.stop
  · have last : argument.span.stop - 1 < (bytes text).length := by
      rw [length_bytes]
      omega
    have stands := List.drop_eq_getElem_cons last
    rw [if_pos longer, byte_at_eq stands, pure_bind, List.getElem?_eq_getElem last]
    simp only [longer, true_and, Option.some.injEq]
    split <;> rfl
  · rw [if_neg longer, if_neg (fun both => longer both.1)]

theorem argument_between_eq {valueSpan : Span} {argument : Argument}
    (placed : ArgumentPlaced text valueSpan argument)
    (ordered : argument.span.start ≤ argument.span.stop)
    (within : argument.span.stop ≤ text.utf8ByteSize) :
    argumentBetween text argument.span.start argument.span.stop = pure argument := by
  rw [argumentBetween, inner_stop_eq within, pure_bind, span_of_eq text ordered, pure_bind,
    slice_eq placed.raw_text, pure_bind]

def argumentOf (index : Nat) (rest : List UInt8) : Option Argument :=
  let length := groupLength Byte.openParenthesis rest
  if length = 0 then none
  else some ⟨⟨index, index + length⟩, Text.decode (argumentText (rest.take length))⟩

theorem argument_at_eq (place : RestAt text index rest) :
    argumentAt text index =
      pure (argumentOf index rest, index + groupLength Byte.openParenthesis rest) := by
  have stands := rest_at_bytes place
  rw [argumentAt, peek_eq, stands]
  cases rest with
  | nil => rfl
  | cons byte later =>
      by_cases opened : byte = Byte.openParenthesis
      · subst opened
        have length : groupLength Byte.openParenthesis (Byte.openParenthesis :: later) =
            1 + groupTail 0 later := by
          rw [groupLength, if_pos rfl]
        have given : groupLength Byte.openParenthesis (Byte.openParenthesis :: later) ≠ 0 := by
          omega
        have within := rest_at_length
          (rest_at_lands place (group_length_lands Byte.openParenthesis _))
        have found := argument_between_eq
          (attribute_argument_placed place _ given (Nat.le_refl _))
          (Nat.le_add_right _ _) (within ▸ Nat.le_add_right _ _)
        rw [List.head?_cons, if_pos rfl, skip_group_eq stands (by decide), pure_bind,
          Nat.add_assoc, ← length, found, pure_bind, argumentOf, if_neg given]
      · have none : groupLength Byte.openParenthesis (byte :: later) = 0 := by
          rw [groupLength, if_neg opened]
        rw [List.head?_cons, if_neg (by simpa using opened), argumentOf, none, if_pos rfl]
        rfl

theorem attribute_named_eq (place : RestAt text index (byte :: rest)) :
    attributeNamed text index (index + runLength isAttributeByte (byte :: rest)) =
      pure (attributeAt index (byte :: rest), index + attributeLength (byte :: rest)) := by
  have next := rest_at_cut place (run_length_cut attribute_byte_wide (byte :: rest))
  have behind := rest_at_bytes next
  rw [attributeNamed, slice_eq (attribute_name_spelled place), pure_bind, argument_at_eq next,
    pure_bind]
  dsimp only
  rw [skip_assigned_eq, pure_bind, ← List.drop_drop, behind, span_of_eq text (by omega), pure_bind,
    attributeLength, ← Nat.add_assoc, ← Nat.add_assoc]
  rfl

def skippedLength (byte : UInt8) (rest : List UInt8) : Nat :=
  if isQuote byte then stringTail byte rest else 0

theorem behind_skipped (here : RestAt text index (byte :: rest))
    (unnamed : isAttributeByte byte = false) :
    RestAt text (index + 1 + skippedLength byte rest) (rest.drop (skippedLength byte rest)) := by
  have passed := rest_at_cut here (cut_one (unnamed_ascii byte unnamed) rest)
  rw [skippedLength]
  split
  · rename_i quoted
    exact rest_at_cut passed (string_tail_cut (quote_ascii quoted) rest)
  · exact passed

theorem behind_separators {position : Nat} {input : List UInt8}
    (place : RestAt text position input)
    (found : input.drop (runLength isSeparator input) = byte :: rest) :
    RestAt text (position + runLength isSeparator input) (byte :: rest) := by
  rw [← found]
  exact rest_at_lands place (run_length_lands separator_ascii input)

theorem attribute_round_end {position : Nat} {input : List UInt8}
    (place : RestAt text position input)
    (ended : input.drop (runLength isSeparator input) = []) (attributes : List Attribute) :
    attributeRound text ⟨position, attributes⟩ =
      pure (.done ⟨text.utf8ByteSize, false, attributes⟩) := by
  rw [attributeRound, skip_run_eq, pure_bind, peek_eq, ← List.drop_drop, rest_at_bytes place, ended]
  rfl

/-- All that a round inside of a tag can do, by the byte behind the separators. -/
theorem attribute_round_cons {position : Nat} {input : List UInt8}
    (place : RestAt text position input)
    (found : input.drop (runLength isSeparator input) = byte :: rest)
    (attributes : List Attribute) :
    attributeRound text ⟨position, attributes⟩ = pure (
      let index := position + runLength isSeparator input
      if byte = Byte.greater then .done ⟨index + 1, true, attributes⟩
      else if byte = Byte.slash && rest.head? == some Byte.greater then
        .done ⟨index + 2, false, attributes⟩
      else if byte = Byte.less then .done ⟨index, false, attributes⟩
      else if isAttributeByte byte then
        .again ⟨index + attributeLength (byte :: rest),
          attributes ++ [attributeAt index (byte :: rest)]⟩
      else .again ⟨index + 1 + skippedLength byte rest, attributes⟩) := by
  have here := behind_separators place found
  have stands := rest_at_bytes here
  rw [attributeRound]
  dsimp only
  rw [skip_run_eq, rest_at_bytes place, pure_bind, peek_eq, stands, List.head?_cons]
  generalize position + runLength isSeparator input = index at here stands ⊢
  dsimp only
  rw [peek_next stands, skip_run_eq, stands, pure_bind, attribute_named_eq here]
  cases named : isAttributeByte byte with
  | true =>
      have moved : index + runLength isAttributeByte (byte :: rest) ≠ index := by
        rw [run_length_next named]
        omega
      rw [if_neg moved, if_pos rfl]
      simp only [pure_bind, apply_ite pure]
  | false =>
      have stays : index + runLength isAttributeByte (byte :: rest) = index := by
        rw [run_length_stop named, Nat.add_zero]
      rw [if_pos stays, skip_string_eq stands, skippedLength]
      cases isQuote byte with
      | true => simp only [if_true, pure_bind, Bool.false_eq_true, if_false, apply_ite pure]
      | false => simp only [Bool.false_eq_true, if_false, apply_ite pure, Nat.add_zero]

/-- The loop over the attributes of a tag reads them in order, up to its end. -/
theorem attribute_loop_eq {position : Nat} {input : List UInt8}
    (place : RestAt text position input) (attributes : List Attribute) :
    loop (attributeRound text) ⟨position, attributes⟩ =
      pure ⟨position + (tagRemainder position input).length,
        (tagRemainder position input).opensBody,
        attributes ++ (tagRemainder position input).attributes⟩ := by
  fun_induction tagRemainder position input generalizing attributes with
  | case1 position input separators ended =>
      have size := rest_at_length (rest_at_lands place (run_length_lands separator_ascii input))
      have turn := attribute_round_end place ended attributes
      rw [ended, List.length_nil, Nat.add_zero] at size
      rw [loop_done turn, ← size, List.append_nil]
  | case2 position input separators rest found =>
      have turn := attribute_round_cons place found attributes
      rw [if_pos rfl] at turn
      rw [loop_done turn, List.append_nil]
      rfl
  | case3 position input separators byte rest found greater closed =>
      have turn := attribute_round_cons place found attributes
      rw [if_neg greater, if_pos closed] at turn
      rw [loop_done turn, List.append_nil]
      rfl
  | case4 position input separators rest found greater open' =>
      have turn := attribute_round_cons place found attributes
      rw [if_neg greater, if_neg open', if_pos rfl] at turn
      rw [loop_done turn, List.append_nil]
  | case5 position input separators byte rest found greater open' less named start taken
      induction =>
      have next := rest_at_cut (behind_separators place found) (attribute_length_cut (byte :: rest))
      have turn := attribute_round_cons place found attributes
      rw [if_neg greater, if_neg open', if_neg less, if_pos named] at turn
      rw [loop_again turn, induction next]
      simp only [TagRemainder.after, TagRemainder.withAttribute, List.append_assoc,
        List.singleton_append, Nat.add_assoc, start]
      rfl
  | case6 position input separators byte rest found greater open' less unnamed taken induction =>
      have next := behind_skipped (behind_separators place found) (by simpa using unnamed)
      have turn := attribute_round_cons place found attributes
      have same : skippedLength byte rest = taken := by
        simp only [skippedLength, taken]
        split
        · rfl
        · rfl
      rw [if_neg greater, if_neg open', if_neg less, if_neg unnamed, same] at turn
      rw [same] at next
      rw [loop_again turn, induction next]
      simp only [TagRemainder.after, Nat.add_assoc]

end Attributes

section Tags

variable {text : String} {start : Nat} {input : List UInt8}

theorem offset_where_raw_body (name input : List UInt8) :
    rawBodyLength name input = (offsetWhere (startsClosing name) input).getD input.length := by
  induction input with
  | nil => rfl
  | cons byte rest induction =>
      rw [rawBodyLength, offsetWhere]
      split
      · rfl
      · rw [induction]
        cases offsetWhere (startsClosing name) rest with
        | none => exact Nat.add_comm _ _
        | some offset => rfl

theorem skip_raw_body_eq (name : List UInt8) {index : Nat} (within : index ≤ text.utf8ByteSize) :
    skipRawBody text name index =
      pure (index + rawBodyLength name ((bytes text).drop index)) := by
  have allowed : (Access.rest index).Allowed text := within
  rw [skipRawBody, demand_allowed allowed, pure_bind, offset_where_raw_body]
  cases offsetWhere (startsClosing name) ((bytes text).drop index) with
  | some offset => rfl
  | none =>
      dsimp only
      rw [Option.getD_none, List.length_drop, length_bytes, Nat.add_sub_cancel' within]

/-- How far a tag reaches does not depend on where in a text it stands. -/
theorem tag_extent_eq (position : Nat) (input : List UInt8) :
    let name := tagNameLength input
    let inside := name + tagSuffixLength (input.drop name)
    let remainder := tagRemainder position (input.drop inside)
    tagExtent input =
      if remainder.opensBody && isRawElement (input.take name) then
        inside + remainder.length +
          rawBodyLength (input.take name) ((input.drop inside).drop remainder.length)
      else inside + remainder.length := by
  dsimp only
  rw [← Nat.zero_add position, tag_remainder_shift, List.drop_drop]
  rfl

theorem open_tag_eq (place : RestAt text start (Byte.less :: input)) :
    openTag text start = pure (tagAt start input, start + 1 + tagExtent input) := by
  have inside : RestAt text (start + 1) input := rest_at_cut place (cut_one (by decide) input)
  have named := rest_at_cut inside (tag_name_length_cut input)
  have behind := rest_at_lands named (tag_suffix_length_lands _)
  have after := (tag_inside_placed inside).next
  have spelled := Text.spells_between inside named
  have name : bytes (Text.decode (input.take (tagNameLength input))) =
      input.take (tagNameLength input) := by
    rw [← spelled_bytes spelled, rest_at_bytes inside, Nat.add_sub_cancel_left]
  have nameStop := rest_at_length named
  have tagStop := rest_at_length after
  rw [List.drop_drop] at behind
  rw [openTag, skip_name_eq, rest_at_bytes inside, pure_bind, slice_eq spelled, pure_bind,
    skip_suffix_eq (by omega), pure_bind, rest_at_bytes named, attribute_loop_eq behind, pure_bind,
    name]
  dsimp only
  rw [skip_raw_body_eq _ (by omega), rest_at_bytes after, span_of_eq text (by omega), tag_extent_eq
    (start + 1 + tagNameLength input + tagSuffixLength (input.drop (tagNameLength input))), tagAt]
  split
  · rw [pure_bind, pure_bind]
    simp only [Nat.add_assoc, List.nil_append]
  · rw [pure_bind, pure_bind]
    simp only [Nat.add_assoc, List.nil_append]

theorem tag_start_eq {index : Nat} (place : RestAt text index input) :
    tagStart text index = pure (gapEnd index input) := by
  have size := rest_at_length place
  rw [tagStart, (gap_passes text).loop_eq (by omega), rest_at_bytes place]

def Scan.ofScanner (scanner : Scanner) : Scan := ⟨scanner.cursor.position, scanner.finished⟩

/-- Every step in place is the step of the scanner that stands there. -/
theorem next_eq {scanner : Scanner}
    (place : RestAt text scanner.cursor.position scanner.cursor.rest) :
    next text (.ofScanner scanner) = pure (
      match scanner.next? with
      | some (event, after) => (some event, .ofScanner after)
      | none => (none, .ofScanner scanner)) := by
  obtain ⟨⟨position, rest⟩, finished⟩ := scanner
  cases finished with
  | true => rfl
  | false =>
      have here := rest_at_cut place (gap_length_cut rest)
      have size := rest_at_length place
      have length := cut_le (gap_length_cut rest)
      simp only [next, Scan.ofScanner, Scanner.next?, Cursor.nextTag?, Cursor.advance,
        Bool.false_eq_true, if_false]
      rw [tag_start_eq place, pure_bind, gapEnd]
      -- Behind the gap is the end of the text or a `<`, which stands between two characters.
      rcases gap_length_stop rest with ended | ⟨first, later, stands, -⟩
      · have whole : rest.length ≤ gapLength rest := List.drop_eq_nil_iff.mp ended
        rw [ended, if_neg (Nat.not_lt.mpr whole)]
        dsimp only
        rw [size]
      · have shorter : gapLength rest < rest.length := by
          have count := congrArg List.length stands
          rw [List.length_drop, List.length_cons] at count
          omega
        rw [stands] at here
        rw [stands, if_pos shorter]
        dsimp only
        rw [open_tag_eq here, pure_bind, Nat.add_assoc]

theorem event_loop_eq (scanner : Scanner)
    (place : RestAt text scanner.cursor.position scanner.cursor.rest) (reported : List Event) :
    loop (eventRound text) (.ofScanner scanner, reported) = pure (reported ++ scanner.run.1) := by
  induction scanner using Scanner.run_induction generalizing reported with
  | ended scanner finished =>
      have turn : eventRound text (.ofScanner scanner, reported) = pure (.done reported) := by
        rw [eventRound, next, Scan.ofScanner, if_pos finished, pure_bind]
      rw [loop_done turn, List.append_nil]
  | step scanner after event found induction =>
      have turn : eventRound text (.ofScanner scanner, reported) =
          pure (.again (.ofScanner after, reported ++ [event])) := by
        rw [eventRound, next_eq place, found, pure_bind]
      rw [loop_again turn, induction (Scanner.next_placed place found), List.append_assoc,
        List.singleton_append]

end Tags

/-- Whatever the text, the scan in place ends, none of its accesses is refused, and it
reports the events of the text. -/
theorem scan_allowed (text : String) : scan text = pure (events text) := by
  have place : RestAt text (Scanner.start text).cursor.position (Scanner.start text).cursor.rest :=
    Text.rest_at_start text
  exact event_loop_eq (Scanner.start text) place []

end TemplateServer.Markup.InPlace

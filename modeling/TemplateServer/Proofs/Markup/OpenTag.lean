import TemplateServer.Proofs.Markup.Written
import TemplateServer.Proofs.Text.Boundary

/-!
A written open tag is read back as it was written. Every lemma leaves open what
follows: an attribute ends where the tag goes on, and a tag ends at its closing
mark, so nothing behind them counts.
-/

namespace TemplateServer.Markup

/-- How an open tag may go on behind its name or behind an attribute: with
blanks and its closing mark, or with at least one blank and an attribute. -/
inductive TagTail : List UInt8 → Prop
  | closed (blanks rest : List UInt8) :
      (∀ byte ∈ blanks, isBlank byte = true) → TagTail (blanks ++ Byte.greater :: rest)
  | selfClosed (blanks rest : List UInt8) :
      (∀ byte ∈ blanks, isBlank byte = true) →
      TagTail (blanks ++ Byte.slash :: Byte.greater :: rest)
  | another (blank : UInt8) (blanks : List UInt8) (byte : UInt8) (rest : List UInt8) :
      isBlank blank = true → (∀ byte ∈ blanks, isBlank byte = true) →
      isAttributeByte byte = true → TagTail (blank :: (blanks ++ byte :: rest))

def endsName (byte : UInt8) : Bool :=
  isBlank byte || byte == Byte.greater || byte == Byte.slash

theorem ends_name_cases {byte : UInt8} (ends : endsName byte = true) :
    byte ∈ ([0x20, 0x09, 0x0A, 0x0C, 0x0D, 0x3E, 0x2F] : List UInt8) := by
  simp only [endsName, Bool.or_eq_true, beq_iff_eq] at ends
  rcases ends with (blank | rfl) | rfl
  · rcases blank_cases blank with rfl | rfl | rfl | rfl | rfl <;> decide
  · decide
  · decide

theorem ends_name_facts {byte : UInt8} (ends : endsName byte = true) :
    isAttributeByte byte = false ∧ isTagByte byte = false ∧ byte ≠ Byte.dot ∧ byte ≠ Byte.hash ∧
      byte ≠ Byte.bar ∧ byte ≠ Byte.openParenthesis ∧ byte ≠ Byte.equals := by
  have member := ends_name_cases ends
  simp only [List.mem_cons, List.not_mem_nil, or_false] at member
  rcases member with rfl | rfl | rfl | rfl | rfl | rfl | rfl <;> decide

theorem tag_tail_head {tail : List UInt8} (continues : TagTail tail) :
    ∃ head rest, tail = head :: rest ∧ endsName head = true := by
  cases continues with
  | closed blanks rest blank =>
      cases blanks with
      | nil => exact ⟨Byte.greater, rest, rfl, rfl⟩
      | cons first blanks =>
          exact ⟨first, blanks ++ Byte.greater :: rest, rfl, by simp [endsName, blank first]⟩
  | selfClosed blanks rest blank =>
      cases blanks with
      | nil => exact ⟨Byte.slash, Byte.greater :: rest, rfl, rfl⟩
      | cons first blanks =>
          exact ⟨first, blanks ++ Byte.slash :: Byte.greater :: rest, rfl,
            by simp [endsName, blank first]⟩
  | another first blanks byte rest blank _ _ =>
      exact ⟨first, blanks ++ byte :: rest, rfl, by simp [endsName, blank]⟩

theorem tag_tail_mark {tail : List UInt8} (continues : TagTail tail) :
    ∃ blanks mark rest, tail = blanks ++ mark :: rest ∧ (∀ byte ∈ blanks, isBlank byte = true) ∧
      isBlank mark = false ∧ mark ≠ Byte.equals := by
  cases continues with
  | closed blanks rest blank =>
      exact ⟨blanks, Byte.greater, rest, rfl, blank, by decide, by decide⟩
  | selfClosed blanks rest blank =>
      exact ⟨blanks, Byte.slash, Byte.greater :: rest, rfl, blank, by decide, by decide⟩
  | another first blanks byte rest blank blanksBlank named =>
      refine ⟨first :: blanks, byte, rest, rfl, ?_, ?_, ?_⟩
      · simpa only [List.forall_mem_cons] using ⟨blank, blanksBlank⟩
      · exact (attribute_byte_facts named).1
      · exact (attribute_byte_facts named).2.2.2.2.1

theorem assigned_length_tag_tail {tail : List UInt8} (continues : TagTail tail) :
    assignedLength tail = 0 := by
  obtain ⟨blanks, mark, rest, rfl, blank, unblank, unequal⟩ := tag_tail_mark continues
  simp [assignedLength, run_length_exact blank unblank, unequal]

theorem attribute_run_tag_tail {tail : List UInt8} (continues : TagTail tail) :
    runLength isAttributeByte tail = 0 := by
  obtain ⟨head, rest, rfl, ends⟩ := tag_tail_head continues
  exact run_length_stop (ends_name_facts ends).1 rest

theorem group_length_tag_tail {tail : List UInt8} (continues : TagTail tail) :
    groupLength Byte.openParenthesis tail = 0 := by
  obtain ⟨head, rest, rfl, ends⟩ := tag_tail_head continues
  rw [groupLength, if_neg (ends_name_facts ends).2.2.2.2.2.1]

theorem tag_suffix_tag_tail {tail : List UInt8} (continues : TagTail tail) :
    tagSuffixLength tail = 0 := by
  have unopened := group_length_tag_tail continues
  obtain ⟨head, rest, rfl, ends⟩ := tag_tail_head continues
  obtain ⟨-, -, dot, hash, bar, -, -⟩ := ends_name_facts ends
  simp [tagSuffixLength, shorthandLength, parametersLength, dot, hash, bar, unopened]

theorem expression_length_blanks {blank mark : UInt8} {blanks : List UInt8}
    (firstBlank : isBlank blank = true) (restBlank : ∀ byte ∈ blanks, isBlank byte = true)
    (unblank : isBlank mark = false) (unequal : mark ≠ Byte.equals) (rest : List UInt8) :
    expressionLength (blank :: (blanks ++ mark :: rest)) = 0 := by
  have run := run_length_exact restBlank unblank rest
  rw [expression_length_blank firstBlank, run, List.drop_left, if_neg]
  simp [Ne.symm unequal]

theorem expression_length_tag_tail {tail : List UInt8} (continues : TagTail tail) :
    expressionLength tail = 0 := by
  cases continues with
  | closed blanks rest blank =>
      cases blanks with
      | nil =>
          rw [List.nil_append, expressionLength]
          simp [isOpener, isQuote, Byte.equals, Byte.slash, Byte.greater]
      | cons first blanks =>
          rw [List.forall_mem_cons] at blank
          exact expression_length_blanks blank.1 blank.2 (by decide) (by decide) rest
  | selfClosed blanks rest blank =>
      cases blanks with
      | nil =>
          rw [List.nil_append, expressionLength]
          simp [isOpener, isQuote, Byte.equals, Byte.slash, Byte.greater]
      | cons first blanks =>
          rw [List.forall_mem_cons] at blank
          exact expression_length_blanks blank.1 blank.2 (by decide) (by decide) _
  | another first blanks byte rest blank blanksBlank named =>
      have facts := attribute_byte_facts named
      exact expression_length_blanks blank blanksBlank facts.1 facts.2.2.2.2.1 rest

theorem bytes_mark (mark : QuoteMark) : Text.bytes mark.text = [mark.byte] := by
  cases mark <;> decide

theorem mark_is_quote (mark : QuoteMark) : isQuote mark.byte = true := by
  cases mark <;> decide

theorem bytes_ne_nil {text : String} (nonempty : text ≠ "") : Text.bytes text ≠ [] := by
  intro empty
  exact nonempty (Text.bytes_injective empty)

theorem value_length_written (value : WrittenValue) {tail : List UInt8}
    (continues : TagTail tail) :
    valueLength (Text.bytes value.render ++ tail) = (Text.bytes value.render).length := by
  cases value with
  | quoted mark body closed =>
      have quoted := mark_is_quote mark
      have string := string_tail_of_body (quote_ne_backslash quoted) closed tail
      have shape : Text.bytes (WrittenValue.render (.quoted mark body closed)) =
          mark.byte :: (Text.bytes body ++ [mark.byte]) := by
        simp [WrittenValue.render, Text.bytes_append, bytes_mark]
      rw [shape, List.cons_append, valueLength, if_pos quoted, List.append_assoc,
        List.singleton_append, string]
      simp only [List.length_cons, List.length_append, List.length_nil]
      omega
  | unquoted text starts body =>
      obtain ⟨first, rest, split, unquoted, -⟩ := starts
      have expression := expression_length_of_body body tail
      rw [expression_length_tag_tail continues, Nat.add_zero, split, List.cons_append] at expression
      simp only [WrittenValue.render]
      rw [split, List.cons_append, valueLength, unquoted, if_neg Bool.false_ne_true, expression]

theorem value_head_unblank (value : WrittenValue) (tail : List UInt8) :
    runLength isBlank (Text.bytes value.render ++ tail) = 0 := by
  cases value with
  | quoted mark body _ =>
      simp only [WrittenValue.render, Text.bytes_append, bytes_mark, List.append_assoc,
        List.singleton_append]
      apply run_length_stop
      cases mark <;> decide
  | unquoted text starts _ =>
      obtain ⟨first, rest, split, -, unblank⟩ := starts
      simp only [WrittenValue.render]
      rw [split]
      exact run_length_stop unblank _

theorem assigned_length_written (attr : WrittenAttribute) {tail : List UInt8}
    (continues : TagTail tail) :
    assignedLength (Text.bytes attr.valueText ++ tail) = (Text.bytes attr.valueText).length := by
  cases given : attr.value with
  | none =>
      have empty : Text.bytes attr.valueText = [] := by
        simp only [WrittenAttribute.valueText, given]
        decide
      rw [empty, List.nil_append, assigned_length_tag_tail continues, List.length_nil]
  | some value =>
      have shape : Text.bytes attr.valueText = Byte.equals :: Text.bytes value.render := by
        simp only [WrittenAttribute.valueText, given, Text.bytes_append]
        rfl
      have unblank : runLength isBlank (Byte.equals :: (Text.bytes value.render ++ tail)) = 0 :=
        run_length_stop (by decide) _
      rw [shape, List.cons_append, assignedLength]
      simp only [unblank, List.drop_zero, List.head?_cons, if_true, List.tail_cons,
        value_head_unblank value tail, value_length_written value continues, List.length_cons]
      omega

theorem group_length_written (attr : WrittenAttribute) {tail : List UInt8}
    (unopened : groupLength Byte.openParenthesis tail = 0) :
    groupLength Byte.openParenthesis (Text.bytes attr.argumentText ++ tail) =
      (Text.bytes attr.argumentText).length := by
  cases given : attr.argument with
  | none =>
      have empty : Text.bytes attr.argumentText = [] := by
        simp only [WrittenAttribute.argumentText, given]
        decide
      rw [empty, List.nil_append, unopened, List.length_nil]
  | some group =>
      have shape : Text.bytes attr.argumentText =
          Byte.openParenthesis :: (Text.bytes group.text ++ [Byte.closeParenthesis]) := by
        simp only [WrittenAttribute.argumentText, given, Text.bytes_append, List.append_assoc]
        rfl
      rw [shape, List.cons_append, groupLength, if_pos rfl, List.append_assoc,
        group_tail_of_body group.balanced, List.singleton_append, group_tail_closed (by decide)]
      simp only [List.length_cons, List.length_append, List.length_nil]
      omega

def WrittenAttribute.core (attr : WrittenAttribute) : List UInt8 :=
  Text.bytes attr.name ++ (Text.bytes attr.argumentText ++ Text.bytes attr.valueText)

theorem bytes_attribute (attr : WrittenAttribute) :
    Text.bytes attr.render = Text.bytes attr.blanks ++ attr.core := by
  simp only [WrittenAttribute.render, WrittenAttribute.core, Text.bytes_append, List.append_assoc]

theorem argument_run (attr : WrittenAttribute) {tail : List UInt8} (continues : TagTail tail) :
    runLength isAttributeByte
      (Text.bytes attr.argumentText ++ (Text.bytes attr.valueText ++ tail)) = 0 := by
  simp only [WrittenAttribute.argumentText, WrittenAttribute.valueText]
  cases attr.argument with
  | some group =>
      simp only [Text.bytes_append, List.append_assoc]
      exact run_length_stop (by decide) _
  | none =>
      cases attr.value with
      | some value =>
          simp only [Text.bytes_append, List.append_assoc]
          exact run_length_stop (by decide) _
      | none => exact attribute_run_tag_tail continues

theorem value_text_unopened (attr : WrittenAttribute) {tail : List UInt8}
    (continues : TagTail tail) :
    groupLength Byte.openParenthesis (Text.bytes attr.valueText ++ tail) = 0 := by
  simp only [WrittenAttribute.valueText]
  cases attr.value with
  | some value =>
      simp only [Text.bytes_append, List.append_assoc]
      rfl
  | none => exact group_length_tag_tail continues

theorem name_run (attr : WrittenAttribute) {tail : List UInt8} (continues : TagTail tail) :
    (attr.core ++ tail).takeWhile isAttributeByte = Text.bytes attr.name := by
  have stopped : (Text.bytes attr.argumentText ++
      (Text.bytes attr.valueText ++ tail)).takeWhile isAttributeByte = [] :=
    List.eq_nil_of_length_eq_zero (argument_run attr continues)
  rw [WrittenAttribute.core, List.append_assoc, List.append_assoc,
    List.takeWhile_append_of_pos attr.nameBytes, stopped, List.append_nil]

theorem after_name (attr : WrittenAttribute) (tail : List UInt8) :
    (attr.core ++ tail).drop (Text.bytes attr.name).length =
      Text.bytes attr.argumentText ++ (Text.bytes attr.valueText ++ tail) := by
  rw [WrittenAttribute.core, List.append_assoc, List.drop_left, List.append_assoc]

theorem attribute_length_written (attr : WrittenAttribute) {tail : List UInt8}
    (continues : TagTail tail) : attributeLength (attr.core ++ tail) = attr.core.length := by
  have name : runLength isAttributeByte (attr.core ++ tail) = (Text.bytes attr.name).length := by
    rw [runLength, name_run attr continues]
  have argument := group_length_written attr (value_text_unopened attr continues)
  have value := assigned_length_written attr continues
  simp only [attributeLength, name, after_name, argument, List.drop_left, value]
  simp only [WrittenAttribute.core, List.length_append]
  omega

theorem argument_text_closed (inner : List UInt8) :
    argumentText (Byte.openParenthesis :: (inner ++ [Byte.closeParenthesis])) = inner := by
  simp [argumentText]

theorem bytes_argument {attr : WrittenAttribute} {group : BalancedText}
    (given : attr.argument = some group) :
    Text.bytes attr.argumentText =
      Byte.openParenthesis :: (Text.bytes group.text ++ [Byte.closeParenthesis]) := by
  simp only [WrittenAttribute.argumentText, given, Text.bytes_append, List.append_assoc]
  rfl

theorem attribute_at_written (attr : WrittenAttribute) (position : Nat) {tail : List UInt8}
    (continues : TagTail tail) :
    attributeAt (position + attr.blanks.utf8ByteSize) (attr.core ++ tail) =
      attr.reported position := by
  have argument := group_length_written attr (value_text_unopened attr continues)
  have value := assigned_length_written attr continues
  simp only [attributeAt, name_run attr continues, after_name, argument, List.drop_left,
    List.take_left, value, Text.decode_bytes, WrittenAttribute.reported]
  simp only [Text.length_bytes, Attribute.mk.injEq, true_and]
  cases given : attr.argument with
  | none =>
      have empty : attr.argumentText.utf8ByteSize = 0 := by
        simp only [WrittenAttribute.argumentText, given]
        decide
      rw [if_pos empty]
      rfl
  | some group =>
      have nonempty : attr.argumentText.utf8ByteSize ≠ 0 := by
        rw [← Text.length_bytes, bytes_argument given]
        simp
      rw [if_neg nonempty, bytes_argument given, argument_text_closed, Text.decode_bytes]
      rfl

/-! ### Open tags -/

theorem separators_exact {blanks : List UInt8}
    (blank : ∀ byte ∈ blanks, isBlank byte = true) {mark : UInt8}
    (unseparated : isSeparator mark = false)
    (rest : List UInt8) : runLength isSeparator (blanks ++ mark :: rest) = blanks.length :=
  run_length_exact (fun byte member => blank_is_separator (blank byte member)) unseparated rest

theorem tag_remainder_closed {blanks : List UInt8}
    (blank : ∀ byte ∈ blanks, isBlank byte = true) (position : Nat) (rest : List UInt8) :
    tagRemainder position (blanks ++ Byte.greater :: rest) = ⟨[], blanks.length + 1, true⟩ := by
  have run := separators_exact blank (show isSeparator Byte.greater = false by decide) rest
  rw [tag_remainder_cons (by rw [run, List.drop_left]), if_pos rfl, run]

theorem tag_remainder_self_closed {blanks : List UInt8}
    (blank : ∀ byte ∈ blanks, isBlank byte = true) (position : Nat) (rest : List UInt8) :
    tagRemainder position (blanks ++ Byte.slash :: Byte.greater :: rest) =
      ⟨[], blanks.length + 2, false⟩ := by
  have run := separators_exact blank (show isSeparator Byte.slash = false by decide)
    (Byte.greater :: rest)
  rw [tag_remainder_cons (by rw [run, List.drop_left]), if_neg (by decide), if_pos (by simp), run]

theorem tag_remainder_attribute {blanks : List UInt8} {byte : UInt8}
    (blank : ∀ byte ∈ blanks, isBlank byte = true) (named : isAttributeByte byte = true)
    (position : Nat) (rest : List UInt8) :
    tagRemainder position (blanks ++ byte :: rest) =
      ((tagRemainder (position + blanks.length + attributeLength (byte :: rest))
        ((byte :: rest).drop (attributeLength (byte :: rest)))).withAttribute
          (attributeAt (position + blanks.length) (byte :: rest))).after
            (blanks.length + attributeLength (byte :: rest)) := by
  obtain ⟨unblank, -, -, -, -, greater, less, slash, comma⟩ := attribute_byte_facts named
  have unseparated : isSeparator byte = false := by
    simpa [isSeparator, unblank] using comma
  have run := separators_exact blank unseparated rest
  rw [tag_remainder_cons (by rw [run, List.drop_left]), if_neg greater, if_neg (by simp [slash]),
    if_neg less, if_pos named, run]

theorem core_head (attr : WrittenAttribute) :
    ∃ byte rest, attr.core = byte :: rest ∧ isAttributeByte byte = true := by
  cases split : Text.bytes attr.name with
  | nil => exact absurd split (bytes_ne_nil attr.named)
  | cons first rest =>
      refine ⟨first, rest ++ (Text.bytes attr.argumentText ++ Text.bytes attr.valueText), ?_, ?_⟩
      · rw [WrittenAttribute.core, split, List.cons_append]
      · exact attr.nameBytes first (by simp [split])

theorem tag_remainder_written_attribute (attr : WrittenAttribute) (position : Nat)
    {tail : List UInt8} (continues : TagTail tail) :
    tagRemainder position (Text.bytes attr.render ++ tail) =
      ((tagRemainder (position + attr.render.utf8ByteSize) tail).withAttribute
        (attr.reported position)).after attr.render.utf8ByteSize := by
  obtain ⟨byte, rest, core, named⟩ := core_head attr
  have size : attr.render.utf8ByteSize = attr.blanks.utf8ByteSize + attr.core.length := by
    rw [← Text.length_bytes, bytes_attribute, List.length_append, Text.length_bytes]
  have step := tag_remainder_attribute attr.blank named position (rest ++ tail)
  rw [← List.cons_append, ← core, attribute_length_written attr continues, List.drop_left,
    Text.length_bytes, attribute_at_written attr position continues] at step
  rw [bytes_attribute, List.append_assoc, step, size, Nat.add_assoc]

/-- The part of an open tag behind its name. -/
theorem tag_tail_attributes (attributes : List WrittenAttribute) {tail : List UInt8}
    (continues : TagTail tail) :
    TagTail (Text.bytes (renderAttributes attributes) ++ tail) := by
  cases attributes with
  | nil => exact continues
  | cons attr attributes =>
      obtain ⟨byte, rest, core, named⟩ := core_head attr
      cases split : Text.bytes attr.blanks with
      | nil => exact absurd split (bytes_ne_nil attr.separated)
      | cons first blanks =>
          have blank := attr.blank
          simp only [Consists, split, List.forall_mem_cons] at blank
          have shape : Text.bytes (renderAttributes (attr :: attributes)) ++ tail =
              first :: (blanks ++ byte ::
                (rest ++ (Text.bytes (renderAttributes attributes) ++ tail))) := by
            simp [renderAttributes, Text.bytes_append, bytes_attribute, split, core]
          rw [shape]
          exact .another first blanks byte _ blank.1 blank.2 named

theorem tag_remainder_written (attributes : List WrittenAttribute) (position : Nat)
    {tail : List UInt8} (continues : TagTail tail) :
    tagRemainder position (Text.bytes (renderAttributes attributes) ++ tail) =
      let remainder :=
        tagRemainder (position + (renderAttributes attributes).utf8ByteSize) tail
      { attributes := reportedAttributes position attributes ++ remainder.attributes
        length := (renderAttributes attributes).utf8ByteSize + remainder.length
        opensBody := remainder.opensBody } := by
  induction attributes generalizing position with
  | nil =>
      have empty : Text.bytes (renderAttributes []) = [] := rfl
      have none : (renderAttributes []).utf8ByteSize = 0 := rfl
      simp only [empty, none, List.nil_append, reportedAttributes, Nat.add_zero, Nat.zero_add]
  | cons attr attributes induction =>
      simp only [renderAttributes, Text.bytes_append, List.append_assoc]
      rw [tag_remainder_written_attribute attr position
        (tag_tail_attributes attributes continues), induction]
      simp [TagRemainder.withAttribute, TagRemainder.after, reportedAttributes, Nat.add_assoc]

namespace WrittenTag

def inner (tag : WrittenTag) (close : String) : List UInt8 :=
  Text.bytes tag.name ++ (Text.bytes (renderAttributes tag.attributes) ++
    (Text.bytes tag.blanks ++ Text.bytes close))

end WrittenTag

theorem bytes_tag (tag : WrittenTag) (close : String) :
    Text.bytes (tag.render close) = Byte.less :: tag.inner close := by
  simp only [WrittenTag.render, Text.bytes_append, List.append_assoc, WrittenTag.inner]
  rfl

theorem tag_name_length_written (tag : WrittenTag) {tail : List UInt8}
    (continues : TagTail tail) :
    tagNameLength (Text.bytes tag.name ++ tail) = (Text.bytes tag.name).length := by
  obtain ⟨first, rest, name, starts, bytes⟩ := tag.nameBytes
  obtain ⟨head, later, rfl, ends⟩ := tag_tail_head continues
  have all : ∀ byte ∈ Text.bytes tag.name, isTagByte byte = true := by
    rw [name, List.forall_mem_cons]
    exact ⟨tag_start_is_tag_byte starts, bytes⟩
  have static : [Byte.dollar, Byte.openBrace].isPrefixOf (Text.bytes tag.name ++ head :: later) =
      false := by
    rw [name]
    cases rest with
    | nil =>
        have unopened : Byte.openBrace ≠ head := by
          rintro rfl
          exact absurd ends (by decide)
        simp [List.isPrefixOf, unopened]
    | cons second rest =>
        have unopened : Byte.openBrace ≠ second := by
          rintro rfl
          exact absurd (bytes Byte.openBrace (by simp)) (by decide)
        simp [List.isPrefixOf, unopened]
  rw [tagNameLength, static, if_neg Bool.false_ne_true,
    run_length_exact all (ends_name_facts ends).2.1]

theorem inner_append (tag : WrittenTag) (close : String) (rest : List UInt8) :
    tag.inner close ++ rest = Text.bytes tag.name ++ (Text.bytes (renderAttributes tag.attributes) ++
      (Text.bytes tag.blanks ++ (Text.bytes close ++ rest))) := by
  simp only [WrittenTag.inner, List.append_assoc]

theorem inner_length (tag : WrittenTag) (close : String) :
    (tag.inner close).length = (Text.bytes tag.name).length +
      ((Text.bytes (renderAttributes tag.attributes)).length +
        ((Text.bytes tag.blanks).length + (Text.bytes close).length)) := by
  simp only [WrittenTag.inner, List.length_append]

section ClosedTag

variable (tag : WrittenTag) (close : String) (opens : Bool) (rest : List UInt8)
  (continues : TagTail (Text.bytes tag.blanks ++ (Text.bytes close ++ rest)))
  (closes : ∀ position, tagRemainder position (Text.bytes tag.blanks ++ (Text.bytes close ++ rest)) =
    ⟨[], (Text.bytes tag.blanks).length + (Text.bytes close).length, opens⟩)

include continues closes

theorem remainder_of_written (position : Nat) :
    tagRemainder position (Text.bytes (renderAttributes tag.attributes) ++
      (Text.bytes tag.blanks ++ (Text.bytes close ++ rest))) =
      ⟨reportedAttributes position tag.attributes,
        (Text.bytes (renderAttributes tag.attributes)).length +
          ((Text.bytes tag.blanks).length + (Text.bytes close).length), opens⟩ := by
  rw [tag_remainder_written tag.attributes position continues, closes]
  simp only [List.append_nil, Text.length_bytes]

theorem tag_at_written (position : Nat) :
    tagAt position (tag.inner close ++ rest) = tag.reported close position := by
  have tail := tag_tail_attributes tag.attributes continues
  have name := tag_name_length_written tag tail
  have remainder := remainder_of_written tag close opens rest continues closes
    (position + 1 + (Text.bytes tag.name).length)
  have size : (tag.render close).utf8ByteSize = 1 + (tag.inner close).length := by
    rw [← Text.length_bytes, bytes_tag, List.length_cons, Nat.add_comm]
  simp only [tagAt, inner_append, name, List.drop_left, tag_suffix_tag_tail tail, Nat.add_zero,
    remainder, List.take_left, Text.decode_bytes, WrittenTag.reported, size, inner_length]
  simp only [Text.length_bytes, Nat.add_assoc]

theorem tag_extent_written :
    tagExtent (tag.inner close ++ rest) = (tag.inner close).length +
      if opens && isRawElement (Text.bytes tag.name) then
        rawBodyLength (Text.bytes tag.name) rest
      else 0 := by
  have tail := tag_tail_attributes tag.attributes continues
  have name := tag_name_length_written tag tail
  have remainder := remainder_of_written tag close opens rest continues closes 0
  have body : (tag.inner close ++ rest).drop (tag.inner close).length = rest := List.drop_left
  rw [inner_append, inner_length] at body
  simp only [tagExtent, inner_append, name, List.drop_left, tag_suffix_tag_tail tail, Nat.add_zero,
    remainder, List.take_left, body, inner_length]
  split
  · rfl
  · rfl

end ClosedTag

end TemplateServer.Markup

import TemplateServer.Proofs.Markup.Cuts

/-!
Where the tags and attributes of a scan stand in its text. For every text, also
one that is malformed as markup, each name and each argument is the piece of the
text that its span gives, spans lie between characters, attributes follow each
other without overlap inside their tag, and so do the tags inside the text.
-/

namespace TemplateServer.Markup

open Text

namespace Argument

/-- Where the text between the parentheses ends: in front of a closing
parenthesis, or where the argument ends if it is not closed by one. -/
def innerStop (argument : Argument) (text : String) : Nat :=
  if argument.span.start + 1 < argument.span.stop ∧
      (bytes text)[argument.span.stop - 1]? = some Byte.closeParenthesis then
    argument.span.stop - 1
  else argument.span.stop

end Argument

structure ArgumentPlaced (text : String) (valueSpan : Span) (argument : Argument) : Prop where
  start_eq : argument.span.start = valueSpan.start
  opened : Spells text argument.span.start (argument.span.start + 1) "("
  stop_le : argument.span.stop ≤ valueSpan.stop
  stop_boundary : Boundary text argument.span.stop
  raw_text : Spells text (argument.span.start + 1) (argument.innerStop text) argument.rawText

structure AttributePlaced (text : String) (attr : Attribute) : Prop where
  name_nonempty : attr.name ≠ ""
  name_fits : attr.name.utf8ByteSize ≤ attr.valueSpan.start
  name_spelled : Spells text attr.nameSpan.start attr.nameSpan.stop attr.name
  value_ordered : attr.valueSpan.start ≤ attr.valueSpan.stop
  stop_boundary : Boundary text attr.valueSpan.stop
  argument_placed : ∀ argument, attr.argument = some argument →
    ArgumentPlaced text attr.valueSpan argument

structure TagPlaced (text : String) (tag : Tag) : Prop where
  opened : Spells text tag.span.start (tag.span.start + 1) "<"
  name_nonempty : tag.name ≠ ""
  name_spelled : Spells text (tag.span.start + 1) tag.nameEnd tag.name
  name_end_le : tag.nameEnd ≤ tag.span.stop
  stop_le : tag.span.stop ≤ text.utf8ByteSize
  stop_boundary : Boundary text tag.span.stop
  attribute_placed : ∀ attr ∈ tag.attributes, AttributePlaced text attr
  attribute_inside : ∀ attr ∈ tag.attributes,
    tag.nameEnd ≤ attr.nameSpan.start ∧ attr.valueSpan.stop ≤ tag.span.stop
  attributes_ordered : tag.attributes.Pairwise fun first second =>
    first.valueSpan.stop ≤ second.nameSpan.start

theorem take_run_length (member : UInt8 → Bool) (input : List UInt8) :
    input.takeWhile member = input.take (runLength member input) := by
  rw [runLength]
  exact List.prefix_iff_eq_take.mp (List.takeWhile_prefix member)

/-- The text between the parentheses of an argument, where `count` bytes follow
the opening one. -/
theorem argument_text_spelled {text : String} {position count : Nat} {rest : List UInt8}
    (place : RestAt text position (Byte.openParenthesis :: rest))
    (next : RestAt text (position + 1 + count) (rest.drop count)) (within : count ≤ rest.length)
    (argument : Argument) (spans : argument.span = ⟨position, position + 1 + count⟩)
    (raw : argument.rawText =
      decode (argumentText (Byte.openParenthesis :: rest.take count))) :
    Spells text (position + 1) (argument.innerStop text) argument.rawText := by
  have inside : RestAt text (position + 1) rest := rest_at_cut place (cut_one (by decide) rest)
  rw [raw, argumentText, List.tail_cons]
  by_cases closed : (rest.take count).getLast? = some Byte.closeParenthesis
  · -- the last byte is the closing parenthesis, and the text ends in front of it
    obtain ⟨front, taken⟩ := List.getLast?_eq_some_iff.mp closed
    have size : count = front.length + 1 := by
      have lengths := congrArg List.length taken
      rwa [List.length_take, Nat.min_eq_left within, List.length_append] at lengths
    have split : rest = front ++ Byte.closeParenthesis :: rest.drop count := by
      conv => lhs; rw [← List.take_append_drop count rest, taken]
      simp
    have stop : argument.innerStop text = position + 1 + front.length := by
      have last := rest_at_get inside front.length
      rw [split, List.getElem?_append_right (Nat.le_refl _), Nat.sub_self] at last
      have before : position + 1 + count - 1 = position + 1 + front.length := by omega
      simp only [Argument.innerStop, spans, before, last]
      rw [if_pos ⟨by omega, rfl⟩]
    have cut : Cut rest front.length := by
      rw [split]
      exact cut_before (by decide) front _
    have spelled := spells_between inside (rest_at_cut inside cut)
    rw [if_pos closed, taken, List.dropLast_concat, stop]
    rwa [split, List.take_left] at spelled
  · have stop : argument.innerStop text = position + 1 + count := by
      rw [Argument.innerStop, spans, if_neg]
      rintro ⟨longer, last⟩
      apply closed
      have positive : 0 < count := by
        simp only at longer
        omega
      have index : position + 1 + count - 1 = position + 1 + (count - 1) := by omega
      simp only [index, rest_at_get inside] at last
      rw [List.getLast?_take, if_neg (by omega), last]
      rfl
    rw [if_neg closed, stop]
    exact spells_between inside next

theorem attribute_argument_placed {text : String} {position : Nat} {rest : List UInt8}
    (place : RestAt text position rest) (stop : Nat)
    (given : groupLength Byte.openParenthesis rest ≠ 0)
    (within : position + groupLength Byte.openParenthesis rest ≤ stop) :
    ArgumentPlaced text ⟨position, stop⟩
      { span := ⟨position, position + groupLength Byte.openParenthesis rest⟩
        rawText := decode (argumentText (rest.take (groupLength Byte.openParenthesis rest))) } := by
  have next := rest_at_lands place (group_length_lands Byte.openParenthesis rest)
  cases rest with
  | nil => exact absurd rfl given
  | cons byte later =>
      rw [groupLength] at given within next ⊢
      split at given
      · rename_i opens
        subst opens
        rw [if_pos rfl] at within next ⊢
        rw [Nat.add_comm 1, List.drop_succ_cons, Nat.add_comm _ 1, ← Nat.add_assoc] at next
        rw [Nat.add_comm 1, List.take_succ_cons, Nat.add_comm _ 1]
        constructor
        · rfl
        · exact spells_byte place (by decide) rfl
        · exact within
        · rw [Nat.add_assoc] at next
          exact rest_at_boundary next
        · exact argument_text_spelled place next (cut_le (group_tail_cut 0 later)) _
            (by rw [Nat.add_assoc]) rfl
      · exact absurd rfl given

theorem attribute_at_stop (position : Nat) (input : List UInt8) :
    (attributeAt position input).valueSpan.stop = position + attributeLength input := by
  simp only [attributeAt, attributeLength, runLength]
  omega

theorem attribute_name_spelled {text : String} {position : Nat} {input : List UInt8}
    (place : RestAt text position input) :
    Spells text position (position + runLength isAttributeByte input)
      (attributeAt position input).name := by
  have next := rest_at_cut place (run_length_cut attribute_byte_wide input)
  have spelled := spells_between place next
  rw [← take_run_length] at spelled
  exact spelled

theorem attribute_name_start {text : String} {position : Nat} {input : List UInt8}
    (place : RestAt text position input) :
    (attributeAt position input).nameSpan.start = position := by
  have size := spells_size (attribute_name_spelled place)
  change position + runLength isAttributeByte input - _ = position
  omega

theorem attribute_at_placed {text : String} {position : Nat} {byte : UInt8} {rest : List UInt8}
    (place : RestAt text position (byte :: rest)) (named : isAttributeByte byte = true) :
    AttributePlaced text (attributeAt position (byte :: rest)) := by
  have spelled := attribute_name_spelled place
  have start := attribute_name_start place
  have nonempty : 0 < runLength isAttributeByte (byte :: rest) := by
    simp [runLength, named]
  constructor
  · exact spells_nonempty spelled (by omega)
  · have size := spells_size spelled
    change _ ≤ position + runLength isAttributeByte (byte :: rest)
    omega
  · rw [start]
    exact spelled
  · change position + _ ≤ position + _ + _ + _
    omega
  · rw [attribute_at_stop]
    exact rest_at_boundary (rest_at_cut place (attribute_length_cut (byte :: rest)))
  · intro argument given
    have next := rest_at_cut place (run_length_cut attribute_byte_wide (byte :: rest))
    simp only [attributeAt] at given ⊢
    split at given
    · cases given
    · rename_i opened
      cases given
      exact attribute_argument_placed next _ opened (Nat.le_add_right _ _)

/-- What the scan of a tag behind its name keeps: it goes on at a boundary, and
its attributes are in order between where it started and where it stops. -/
structure RemainderPlaced (text : String) (position : Nat) (input : List UInt8)
    (remainder : TagRemainder) : Prop where
  next : RestAt text (position + remainder.length) (input.drop remainder.length)
  placed : ∀ attr ∈ remainder.attributes, AttributePlaced text attr
  inside : ∀ attr ∈ remainder.attributes,
    position ≤ attr.nameSpan.start ∧ attr.valueSpan.stop ≤ position + remainder.length
  ordered : remainder.attributes.Pairwise fun first second =>
    first.valueSpan.stop ≤ second.nameSpan.start

theorem remainder_placed_empty {text : String} {position : Nat} {input : List UInt8}
    (place : RestAt text position input) {count : Nat} (lands : Lands input count) (opens : Bool) :
    RemainderPlaced text position input ⟨[], count, opens⟩ :=
  ⟨rest_at_lands place lands, by simp, by simp, List.Pairwise.nil⟩

theorem remainder_placed_after {text : String} {position count next : Nat}
    {input rest : List UInt8} {remainder : TagRemainder} (moved : position + count = next)
    (dropped : input.drop count = rest) (later : RemainderPlaced text next rest remainder) :
    RemainderPlaced text position input (remainder.after count) := by
  subst moved dropped
  constructor
  · have next := later.next
    rw [Nat.add_assoc, List.drop_drop] at next
    exact next
  · exact later.placed
  · intro attr member
    have inside := later.inside attr member
    simp only [TagRemainder.after]
    omega
  · exact later.ordered

theorem remainder_placed_attribute {text : String} {position count next : Nat}
    {input rest : List UInt8} {remainder : TagRemainder} {attr : Attribute}
    (placed : AttributePlaced text attr) (start : position ≤ attr.nameSpan.start)
    (stop : attr.valueSpan.stop ≤ next) (moved : position + count = next)
    (dropped : input.drop count = rest) (later : RemainderPlaced text next rest remainder) :
    RemainderPlaced text position input ((remainder.withAttribute attr).after count) := by
  have others := remainder_placed_after moved dropped later
  constructor
  · exact others.next
  · intro other member
    rcases List.mem_cons.mp member with rfl | member
    · exact placed
    · exact others.placed other member
  · intro other member
    rcases List.mem_cons.mp member with rfl | member
    · refine ⟨start, ?_⟩
      simp only [TagRemainder.after, TagRemainder.withAttribute]
      omega
    · exact others.inside other member
  · apply List.Pairwise.cons
    · intro other member
      exact Nat.le_trans stop (later.inside other member).1
    · exact later.ordered

theorem tag_remainder_placed {text : String} (position : Nat) (input : List UInt8)
    (place : RestAt text position input) :
    RemainderPlaced text position input (tagRemainder position input) := by
  -- every branch goes on at a cut, also behind a stray quote or an unclosed group, so each
  -- attribute ends where the next search for one starts
  fun_induction tagRemainder position input with
  | case1 position input separators ended =>
      exact remainder_placed_empty place (run_length_lands separator_ascii input) false
  | case2 position input separators rest found =>
      have separated := run_length_lands separator_ascii input
      apply remainder_placed_empty place (lands_add separated _)
      rw [found]
      exact Or.inr (cut_one (by decide) rest)
  | case3 position input separators byte rest found _ closed =>
      have separated := run_length_lands separator_ascii input
      simp only [Bool.and_eq_true, decide_eq_true_eq, beq_iff_eq] at closed
      apply remainder_placed_empty place (lands_add separated _)
      rw [found, closed.1]
      cases rest with
      | nil => exact absurd closed.2 (by simp)
      | cons next later =>
          rw [List.head?_cons, Option.some.injEq] at closed
          rw [closed.2]
          exact Or.inr (cut_behind (by decide) [Byte.slash] later)
  | case4 position input separators rest found _ =>
      exact remainder_placed_empty place (run_length_lands separator_ascii input) false
  | case5 position input separators byte rest found _ _ _ named start taken induction =>
      have here := rest_at_lands place (run_length_lands separator_ascii input)
      rw [found] at here
      have later := induction (rest_at_cut here (attribute_length_cut (byte :: rest)))
      apply remainder_placed_attribute (attribute_at_placed here named) _ _ _ _ later
      · exact Nat.le_trans (Nat.le_add_right _ _) (Nat.le_of_eq (attribute_name_start here).symm)
      · exact Nat.le_of_eq (attribute_at_stop start (byte :: rest))
      · rw [← Nat.add_assoc]
      · rw [← List.drop_drop, found]
  | case6 position input separators byte rest found _ _ _ unnamed taken induction =>
      have here := rest_at_lands place (run_length_lands separator_ascii input)
      rw [found] at here
      have passed := rest_at_cut here (cut_one (unnamed_ascii byte (by simpa using unnamed)) rest)
      have skipped : Lands rest taken := by
        simp only [taken]
        split
        · rename_i quoted
          exact Or.inr (string_tail_cut (quote_ascii quoted) rest)
        · exact Or.inl rfl
      apply remainder_placed_after _ _ (induction (rest_at_lands passed skipped))
      · omega
      · rw [← List.drop_drop, ← List.drop_drop, found]
        rfl

/-- Where a tag goes on does not depend on where in a text it stands. -/
theorem tag_remainder_length (position other : Nat) (input : List UInt8) :
    (tagRemainder position input).length = (tagRemainder other input).length := by
  fun_induction tagRemainder position input generalizing other with
  | case1 position input separators ended => rw [tag_remainder_end ended]
  | case2 position input separators rest found => rw [tag_remainder_cons found, if_pos rfl]
  | case3 position input separators byte rest found greater closed =>
      rw [tag_remainder_cons found, if_neg greater, if_pos closed]
  | case4 position input separators rest found greater open' =>
      rw [tag_remainder_cons found, if_neg greater, if_neg open', if_pos rfl]
  | case5 position input separators byte rest found greater open' less named start taken induction =>
      rw [tag_remainder_cons found, if_neg greater, if_neg open', if_neg less, if_pos named]
      exact congrArg (separators + taken + ·) (induction _)
  | case6 position input separators byte rest found greater open' less unnamed taken induction =>
      rw [tag_remainder_cons found, if_neg greater, if_neg open', if_neg less, if_neg unnamed]
      exact congrArg (separators + 1 + taken + ·) (induction _)

theorem tag_name_positive {first : UInt8} (starts : isTagStart first = true)
    (later : List UInt8) : 0 < tagNameLength (first :: later) := by
  rw [tagNameLength]
  split
  · omega
  · simp [runLength, tag_start_is_tag_byte starts]

theorem tag_inside_placed {text : String} {position : Nat} {input : List UInt8}
    (inside : RestAt text (position + 1) input) :
    RemainderPlaced text
      (position + 1 + tagNameLength input + tagSuffixLength (input.drop (tagNameLength input)))
      (input.drop (tagNameLength input + tagSuffixLength (input.drop (tagNameLength input))))
      (tagRemainder
        (position + 1 + tagNameLength input + tagSuffixLength (input.drop (tagNameLength input)))
        (input.drop (tagNameLength input + tagSuffixLength (input.drop (tagNameLength input))))) := by
  have named := rest_at_cut inside (tag_name_length_cut input)
  have behind := rest_at_lands named (tag_suffix_length_lands _)
  rw [List.drop_drop] at behind
  exact tag_remainder_placed _ _ behind

theorem tag_at_placed {text : String} {position : Nat} {first : UInt8} {later : List UInt8}
    (place : RestAt text position (Byte.less :: first :: later))
    (starts : isTagStart first = true) : TagPlaced text (tagAt position (first :: later)) := by
  have inside : RestAt text (position + 1) (first :: later) :=
    rest_at_cut place (cut_one (by decide) (first :: later))
  have remainder := tag_inside_placed inside
  have spelled := spells_between inside (rest_at_cut inside (tag_name_length_cut (first :: later)))
  have positive := tag_name_positive starts later
  constructor
  · exact spells_byte place (by decide) rfl
  · exact spells_nonempty spelled (by omega)
  · exact spelled
  · exact Nat.le_trans (Nat.le_add_right _ _) (Nat.le_add_right _ _)
  · exact Nat.le_trans (Nat.le_add_right _ _) (Nat.le_of_eq (rest_at_length remainder.next))
  · exact rest_at_boundary remainder.next
  · exact remainder.placed
  · intro attr member
    have bounds := remainder.inside attr member
    exact ⟨Nat.le_trans (Nat.le_add_right _ _) bounds.1, bounds.2⟩
  · exact remainder.ordered

theorem tag_extent_placed {text : String} {position : Nat} {input : List UInt8}
    (inside : RestAt text (position + 1) input) :
    (tagAt position input).span.stop ≤ position + 1 + tagExtent input ∧
      RestAt text (position + 1 + tagExtent input) (input.drop (tagExtent input)) := by
  have next := (tag_inside_placed inside).next
  rw [List.drop_drop] at next
  simp only [tagAt, tagExtent]
  rw [tag_remainder_length _ 0] at next ⊢
  simp only [Nat.add_assoc] at next ⊢
  split
  · have body := rest_at_cut next (raw_body_length_cut (input.take (tagNameLength input)) _)
    rw [List.drop_drop] at body
    simp only [Nat.add_assoc] at body
    exact ⟨by omega, body⟩
  · exact ⟨Nat.le_refl _, next⟩

structure StepPlaced (text : String) (cursor after : Cursor) (tag : Tag) : Prop where
  placed : TagPlaced text tag
  start : cursor.position ≤ tag.span.start
  stop : tag.span.stop ≤ after.position
  next : RestAt text after.position after.rest

theorem next_tag_placed {text : String} {cursor after : Cursor} {tag : Tag}
    (place : RestAt text cursor.position cursor.rest)
    (found : cursor.nextTag? = some (tag, after)) : StepPlaced text cursor after tag := by
  have here := rest_at_cut place (gap_length_cut cursor.rest)
  simp only [Cursor.nextTag?, Cursor.advance] at found
  rcases gap_length_stop cursor.rest with ended | ⟨first, later, stands, starts⟩
  · simp [ended] at found
  · rw [stands] at here found
    simp only [Option.some.injEq, Prod.mk.injEq] at found
    obtain ⟨rfl, rfl⟩ := found
    have inside : RestAt text (cursor.position + gapLength cursor.rest + 1) (first :: later) :=
      rest_at_cut here (cut_one (by decide) (first :: later))
    have extent := tag_extent_placed inside
    constructor
    · exact tag_at_placed here starts
    · exact Nat.le_add_right _ _
    · rw [← Nat.add_assoc]
      exact extent.1
    · rw [← Nat.add_assoc, Nat.add_comm 1, List.drop_succ_cons]
      exact extent.2

theorem cursor_tags_placed {text : String} (cursor : Cursor)
    (place : RestAt text cursor.position cursor.rest) :
    (∀ tag ∈ cursor.tags, TagPlaced text tag ∧ cursor.position ≤ tag.span.start) ∧
      cursor.tags.Pairwise fun first second => first.span.stop ≤ second.span.start := by
  fun_induction Cursor.tags cursor with
  | case1 cursor ended => exact ⟨by simp, List.Pairwise.nil⟩
  | case2 cursor tag after found induction =>
      have step := next_tag_placed place found
      obtain ⟨placed, ordered⟩ := induction step.next
      have opened := spells_size step.placed.opened
      constructor
      · intro other member
        rcases List.mem_cons.mp member with rfl | member
        · exact ⟨step.placed, step.start⟩
        · obtain ⟨otherPlaced, later⟩ := placed other member
          have nameEnd := step.placed.name_end_le
          have name := spells_size step.placed.name_spelled
          have stop := step.stop
          have start := step.start
          exact ⟨otherPlaced, by omega⟩
      · -- the later tags start where the scan went on, which is not in front of this tag's end
        apply List.Pairwise.cons
        · intro other member
          exact Nat.le_trans step.stop (placed other member).2
        · exact ordered

theorem tags_placed (text : String) :
    (∀ tag ∈ tags text, TagPlaced text tag) ∧
      (tags text).Pairwise fun first second => first.span.stop ≤ second.span.start := by
  have placed := cursor_tags_placed ⟨0, bytes text⟩ (rest_at_start text)
  exact ⟨fun tag member => (placed.1 tag member).1, placed.2⟩

/-- Whatever the text, the tags that a scan reports and their attributes stand
in the text where their spans say, in order and without overlap. -/
theorem events_placed (text : String) :
    events text = (tags text).map Event.openTag ++ [Event.finished] ∧
      (∀ tag ∈ tags text, TagPlaced text tag) ∧
      (tags text).Pairwise fun first second => first.span.stop ≤ second.span.start :=
  ⟨events_eq_tags text, tags_placed text⟩

theorem events_placed_unclosed :
    ∃ tag ∈ tags "<a b<c", tag.attributes ≠ [] ∧ TagPlaced "<a b<c" tag := by
  have scanned : tags "<a b<c" =
      [⟨"a", ⟨0, 4⟩, 2, [⟨"b", ⟨4, 4⟩, none⟩]⟩, ⟨"c", ⟨4, 6⟩, 6, []⟩] := by decide +kernel
  have member : ⟨"a", ⟨0, 4⟩, 2, [⟨"b", ⟨4, 4⟩, none⟩]⟩ ∈ tags "<a b<c" := by
    rw [scanned]
    exact List.mem_cons_self
  exact ⟨_, member, by simp, (events_placed "<a b<c").2.1 _ member⟩

end TemplateServer.Markup

import TemplateServer.Proofs.Markup.Edges
import TemplateServer.Proofs.Markup.RoundTrip

/-!
What a cursor finds in a written document. The tags and attributes of the
document stand where their pieces were written, and since blanks separate
attributes from all that is in front of them, every offset inside of an attribute
belongs to that attribute alone. Between tags there is nothing to be found.
-/

namespace TemplateServer.Markup

open Text

inductive WrittenPiece.Opens : WrittenPiece → WrittenTag → String → Prop
  | openTag (tag : WrittenTag) (ordinary : ¬ tag.IsRaw) : Opens (.openTag tag ordinary) tag ">"
  | selfClosedTag (tag : WrittenTag) : Opens (.selfClosedTag tag) tag "/>"
  | rawElement (tag : WrittenTag) (body closingName : String) (raw : tag.IsRaw)
      (unclosed : ¬ Occurs ("</" ++ tag.name.toLower) body.toLower)
      (sameName : closingName.toLower = tag.name.toLower) :
      Opens (.rawElement tag body closingName raw unclosed sameName) tag ">"

/-- A tag of a document, the mark that closes it and the offset of its `<`. -/
def TagWritten (pieces : List WrittenPiece) (tag : WrittenTag) (close : String) (start : Nat) :
    Prop :=
  ∃ before piece after, pieces = before ++ piece :: after ∧ piece.Opens tag close ∧
    start = (renderDocument before).utf8ByteSize

/-- An attribute of a tag whose `<` stands at `start`, and the offset of its name. -/
def AttributeWritten (tag : WrittenTag) (start : Nat) (attr : WrittenAttribute) (place : Nat) :
    Prop :=
  ∃ before after, tag.attributes = before ++ attr :: after ∧
    place = start + 1 + tag.name.utf8ByteSize + (renderAttributes before).utf8ByteSize +
      attr.blanks.utf8ByteSize

namespace WrittenPiece

theorem reported_of_opens {piece : WrittenPiece} {tag : WrittenTag} {close : String}
    (opens : piece.Opens tag close) (position : Nat) :
    piece.reported position = [tag.reported close position] := by
  cases opens with
  | openTag => rfl
  | selfClosedTag => rfl
  | rawElement => rfl

theorem opens_of_reported {piece : WrittenPiece} {position : Nat} {found : Tag}
    (member : found ∈ piece.reported position) :
    ∃ tag close, piece.Opens tag close ∧ found = tag.reported close position := by
  cases piece with
  | openTag tag ordinary => exact ⟨tag, _, .openTag tag ordinary, List.mem_singleton.mp member⟩
  | selfClosedTag tag => exact ⟨tag, _, .selfClosedTag tag, List.mem_singleton.mp member⟩
  | rawElement tag body closingName raw unclosed sameName =>
      exact ⟨tag, _, .rawElement tag body closingName raw unclosed sameName,
        List.mem_singleton.mp member⟩
  | _ => exact absurd member List.not_mem_nil

end WrittenPiece

theorem reported_tags_append (position : Nat) (front back : List WrittenPiece) :
    reportedTags position (front ++ back) =
      reportedTags position front ++
        reportedTags (position + (renderDocument front).utf8ByteSize) back := by
  induction front generalizing position with
  | nil => rfl
  | cons piece front induction =>
      rw [List.cons_append, reportedTags, induction, reportedTags, renderDocument,
        String.utf8ByteSize_append, Nat.add_assoc, List.append_assoc]

theorem reported_attributes_append (position : Nat) (front back : List WrittenAttribute) :
    reportedAttributes position (front ++ back) =
      reportedAttributes position front ++
        reportedAttributes (position + (renderAttributes front).utf8ByteSize) back := by
  induction front generalizing position with
  | nil => rfl
  | cons attr front induction =>
      rw [List.cons_append, reportedAttributes, induction, reportedAttributes, renderAttributes,
        String.utf8ByteSize_append, Nat.add_assoc, List.cons_append]

theorem tags_written (pieces : List WrittenPiece) :
    tags (renderDocument pieces) = reportedTags 0 pieces :=
  tags_document pieces 0

/-- The tags of a document around a piece that opens one of them. -/
theorem reported_tags_around {piece : WrittenPiece} {tag : WrittenTag} {close : String}
    (opens : piece.Opens tag close) (position : Nat) (before after : List WrittenPiece) :
    reportedTags position (before ++ piece :: after) =
      reportedTags position before ++
        tag.reported close (position + (renderDocument before).utf8ByteSize) ::
          reportedTags (position + (renderDocument before).utf8ByteSize +
            piece.render.utf8ByteSize) after := by
  rw [reported_tags_append, reportedTags, WrittenPiece.reported_of_opens opens,
    List.singleton_append]

theorem tag_of_reported {pieces : List WrittenPiece} {position : Nat} {found : Tag}
    (member : found ∈ reportedTags position pieces) :
    ∃ before piece after tag close, pieces = before ++ piece :: after ∧ piece.Opens tag close ∧
      found = tag.reported close (position + (renderDocument before).utf8ByteSize) := by
  induction pieces generalizing position with
  | nil => exact absurd member List.not_mem_nil
  | cons piece pieces induction =>
      rw [reportedTags] at member
      rcases List.mem_append.mp member with here | later
      · obtain ⟨tag, close, opens, same⟩ := WrittenPiece.opens_of_reported here
        exact ⟨[], piece, pieces, tag, close, rfl, opens, same⟩
      · obtain ⟨before, other, after, tag, close, rfl, opens, same⟩ := induction later
        refine ⟨piece :: before, other, after, tag, close, rfl, opens, ?_⟩
        rw [same, renderDocument, String.utf8ByteSize_append, Nat.add_assoc]

/-- A scan finds the tags that are written, and no others. -/
theorem mem_tags_iff (pieces : List WrittenPiece) (found : Tag) :
    found ∈ tags (renderDocument pieces) ↔
      ∃ tag close start, TagWritten pieces tag close start ∧ found = tag.reported close start := by
  rw [tags_written]
  constructor
  · intro member
    obtain ⟨before, piece, after, tag, close, split, opens, same⟩ := tag_of_reported member
    rw [Nat.zero_add] at same
    exact ⟨tag, close, _, ⟨before, piece, after, split, opens, rfl⟩, same⟩
  · rintro ⟨tag, close, start, ⟨before, piece, after, rfl, opens, rfl⟩, rfl⟩
    rw [reported_tags_around opens, Nat.zero_add]
    exact List.mem_append_right _ List.mem_cons_self

section Attributes

variable {tag : WrittenTag} {start place : Nat} {attr : WrittenAttribute}

theorem name_span_reported (attr : WrittenAttribute) (position : Nat) :
    (attr.reported position).nameSpan =
      ⟨position + attr.blanks.utf8ByteSize,
        position + attr.blanks.utf8ByteSize + attr.name.utf8ByteSize⟩ := by
  simp only [Attribute.nameSpan, WrittenAttribute.reported, Nat.add_sub_cancel]

theorem blanks_positive (attr : WrittenAttribute) : 0 < attr.blanks.utf8ByteSize := by
  rw [Nat.pos_iff_ne_zero, ne_eq, String.utf8ByteSize_eq_zero_iff]
  exact attr.separated

/-- The attributes that a scan reports end where they were written to end. -/
theorem stop_of_reported {position : Nat} {front : List WrittenAttribute} {found : Attribute}
    (member : found ∈ reportedAttributes position front) :
    found.valueSpan.stop ≤ position + (renderAttributes front).utf8ByteSize := by
  induction front generalizing position with
  | nil => exact absurd member List.not_mem_nil
  | cons attr front induction =>
      rw [reportedAttributes] at member
      rw [renderAttributes, String.utf8ByteSize_append]
      rcases List.mem_cons.mp member with rfl | later
      · simp only [WrittenAttribute.reported, WrittenAttribute.render, String.utf8ByteSize_append]
        omega
      · have stop := induction later
        omega

/-- What is in front of an attribute of a tag ends in front of its blanks. -/
theorem attribute_reported (written : AttributeWritten tag start attr place) (close : String) :
    ∃ before position after,
      (tag.reported close start).attributes = before ++ attr.reported position :: after ∧
        place = position + attr.blanks.utf8ByteSize ∧
        (tag.reported close start).nameEnd ≤ position ∧
        ∀ earlier ∈ before, earlier.valueSpan.stop ≤ position := by
  obtain ⟨before, after, split, rfl⟩ := written
  have around := reported_attributes_append (start + 1 + tag.name.utf8ByteSize) before
    (attr :: after)
  rw [← split, reportedAttributes] at around
  exact ⟨_, _, _, around, rfl, Nat.le_add_right _ _, fun _ member => stop_of_reported member⟩

end Attributes

section Scopes

variable {pieces : List WrittenPiece} {tag : WrittenTag} {close : String} {start offset : Nat}

theorem tag_scanned (written : TagWritten pieces tag close start) :
    tag.reported close start ∈ tags (renderDocument pieces) :=
  (mem_tags_iff pieces _).mpr ⟨tag, close, start, written, rfl⟩

theorem scope_in_tag_name (written : TagWritten pieces tag close start)
    (char : NameCharAt (renderDocument pieces) offset) (behind : start < offset)
    (within : offset < start + 1 + tag.name.utf8ByteSize) :
    scopeAt (renderDocument pieces) offset = some ⟨tag.name, .tag⟩ := by
  have scanned := tag_scanned written
  have nameEnd := ((tags_placed _).1 _ scanned).name_end_le
  simp only [WrittenTag.reported] at nameEnd
  have contains : (tag.reported close start).Contains offset :=
    ⟨Nat.le_of_lt behind, by simp only [WrittenTag.reported]; omega⟩
  have inName : offset ≤ (tag.reported close start).nameEnd := Nat.le_of_lt within
  rw [scope_of_first (first_of_contains scanned contains (Nat.ne_of_gt behind)), Tag.scopeAt,
    (on_name_iff _ _).mpr char, if_neg (by simp), if_pos inName]
  rfl

/-- An attribute decides if all others have nothing at the offset. -/
theorem kind_of_only {before after : List Attribute} (attr : Attribute)
    (front : ∀ earlier ∈ before, earlier.kindAt? offset = none)
    (back : ∀ later ∈ after, later.kindAt? offset = none) :
    ((before ++ attr :: after).findSome? fun attr => attr.kindAt? offset) =
      attr.kindAt? offset := by
  rw [List.findSome?_append, List.findSome?_eq_none_iff.mpr front, Option.none_or,
    List.findSome?_cons]
  cases attr.kindAt? offset with
  | some kind => rfl
  | none => exact List.findSome?_eq_none_iff.mpr back

/-- Inside of a written attribute nothing counts but the attribute itself. -/
theorem scope_in_attribute (written : TagWritten pieces tag close start)
    {attr : WrittenAttribute} {place : Nat} (standing : AttributeWritten tag start attr place)
    (char : NameCharAt (renderDocument pieces) offset) (behind : place ≤ offset)
    (within : offset < place + attr.name.utf8ByteSize + attr.argumentText.utf8ByteSize +
      attr.valueText.utf8ByteSize) :
    ∃ position, place = position + attr.blanks.utf8ByteSize ∧
      scopeAt (renderDocument pieces) offset =
        some ⟨tag.name, ((attr.reported position).kindAt? offset).getD .noScope⟩ := by
  obtain ⟨before, position, after, split, rfl, nameEnd, front⟩ :=
    attribute_reported standing close
  have scanned := tag_scanned written
  have placed := (tags_placed _).1 _ scanned
  have member : attr.reported position ∈ (tag.reported close start).attributes := by
    rw [split]
    exact List.mem_append_right _ List.mem_cons_self
  have blanks := blanks_positive attr
  have stop : offset < (attr.reported position).valueSpan.stop := within
  have inside := (placed.attribute_inside _ member).2
  have ordered := placed.attributes_ordered
  have name := spells_size placed.name_spelled
  rw [split] at ordered
  have contains : (tag.reported close start).Contains offset := ⟨by omega, by omega⟩
  have silent : ∀ other ∈ (tag.reported close start).attributes,
      other.valueSpan.stop < offset ∨ offset < other.nameSpan.start →
        other.kindAt? offset = none := by
    intro other listed apart
    rw [kind_at_none_iff]
    intro answers
    have first := answers_behind_start (placed.attribute_placed other listed) answers
    have last := answers_within (placed.attribute_placed other listed) answers
    omega
  have only : ((tag.reported close start).attributes.findSome? fun attr => attr.kindAt? offset) =
      (attr.reported position).kindAt? offset := by
    rw [split] at silent ⊢
    apply kind_of_only
    · intro earlier listed
      have ends := front earlier listed
      exact silent earlier (by simp [listed]) (.inl (by omega))
    · intro later listed
      have order := (List.pairwise_cons.mp (List.pairwise_append.mp ordered).2.1).1 later listed
      exact silent later (by simp [listed]) (.inr (by omega))
  refine ⟨position, rfl, ?_⟩
  rw [scope_of_first (first_of_contains scanned contains (by omega)),
    scope_kind_behind_name placed ((on_name_iff _ _).mpr char) (by omega), only]
  rfl

variable {attr : WrittenAttribute} {place : Nat}

theorem scope_in_plain_name (written : TagWritten pieces tag close start)
    (standing : AttributeWritten tag start attr place)
    (char : NameCharAt (renderDocument pieces) offset) (plain : attr.argument = none)
    (behind : place ≤ offset) (within : offset < place + attr.name.utf8ByteSize) :
    scopeAt (renderDocument pieces) offset = some ⟨tag.name, .attributeName attr.name⟩ := by
  obtain ⟨position, rfl, scope⟩ :=
    scope_in_attribute written standing char behind (by omega)
  have covered : (attr.reported position).nameSpan.covers offset = true := by
    rw [name_span_reported, Span.covers, Bool.and_eq_true, decide_eq_true_eq, decide_eq_true_eq]
    exact ⟨behind, Nat.le_of_lt within⟩
  have unargued : (attr.reported position).argument = none := by
    rw [WrittenAttribute.reported, plain, Option.map_none]
  rw [scope, Attribute.kindAt?, unargued]
  simp only [covered, if_true]
  rfl

theorem scope_in_plain_value (written : TagWritten pieces tag close start)
    (standing : AttributeWritten tag start attr place)
    (char : NameCharAt (renderDocument pieces) offset) (plain : attr.argument = none)
    (behind : place + attr.name.utf8ByteSize < offset)
    (within : offset < place + attr.name.utf8ByteSize + attr.valueText.utf8ByteSize) :
    scopeAt (renderDocument pieces) offset = some ⟨tag.name, .noScope⟩ := by
  obtain ⟨position, rfl, scope⟩ :=
    scope_in_attribute written standing char (by omega) (by omega)
  have uncovered : (attr.reported position).nameSpan.covers offset = false := by
    rw [name_span_reported, Span.covers, Bool.and_eq_false_iff, decide_eq_false_iff_not,
      decide_eq_false_iff_not]
    exact .inr (Nat.not_le.mpr behind)
  have unargued : (attr.reported position).argument = none := by
    rw [WrittenAttribute.reported, plain, Option.map_none]
  rw [scope, Attribute.kindAt?, unargued]
  simp only [uncovered, Bool.false_eq_true, if_false]
  rfl

theorem scope_in_call_name (written : TagWritten pieces tag close start)
    (standing : AttributeWritten tag start attr place)
    (char : NameCharAt (renderDocument pieces) offset) {group : BalancedText}
    (call : attr.argument = some group) (behind : place ≤ offset)
    (within : offset < place + attr.name.utf8ByteSize) :
    scopeAt (renderDocument pieces) offset = some ⟨tag.name, .noScope⟩ := by
  obtain ⟨position, rfl, scope⟩ :=
    scope_in_attribute written standing char behind (by omega)
  rw [scope, Attribute.kindAt?, WrittenAttribute.reported, call, Option.map_some]
  simp only [Bool.and_eq_true, decide_eq_true_eq]
  rw [if_neg (by omega)]
  rfl

theorem without_delimiters_quoted (mark : QuoteMark) (body : String) :
    withoutDelimiters (mark.text ++ body ++ mark.text) = body := by
  cases mark with
  | double => simp [withoutDelimiters, QuoteMark.text]
  | single => simp [withoutDelimiters, QuoteMark.text]
  | backtick => simp [withoutDelimiters, QuoteMark.text]

theorem scope_in_argument (written : TagWritten pieces tag close start)
    (standing : AttributeWritten tag start attr place)
    (char : NameCharAt (renderDocument pieces) offset) {group : BalancedText}
    (call : attr.argument = some group) (behind : place + attr.name.utf8ByteSize < offset)
    (within : offset < place + attr.name.utf8ByteSize + 1 + group.text.utf8ByteSize) :
    scopeAt (renderDocument pieces) offset =
      some ⟨tag.name, .attributeValue (withoutDelimiters group.text)⟩ := by
  have size : attr.argumentText.utf8ByteSize = 1 + group.text.utf8ByteSize + 1 := by
    rw [WrittenAttribute.argumentText, call, String.utf8ByteSize_append,
      String.utf8ByteSize_append]
    rfl
  obtain ⟨position, rfl, scope⟩ :=
    scope_in_attribute written standing char (by omega) (by omega)
  rw [scope, Attribute.kindAt?, WrittenAttribute.reported, call, Option.map_some]
  simp only [Bool.and_eq_true, decide_eq_true_eq]
  rw [if_pos (by omega)]
  rfl

/-- Nothing is found where every tag ends in front of the offset or starts behind it. -/
theorem scope_outside_iff (pieces : List WrittenPiece) (offset : Nat) :
    scopeAt (renderDocument pieces) offset = none ↔
      ∀ tag close start, TagWritten pieces tag close start →
        offset < start ∨ start + (tag.render close).utf8ByteSize < offset := by
  rw [scope_none_iff]
  constructor
  · intro outside tag close start written
    have apart := outside _ (tag_scanned written)
    simp only [Tag.Contains, WrittenTag.reported] at apart
    omega
  · intro apart found member contains
    obtain ⟨tag, close, start, written, rfl⟩ := (mem_tags_iff pieces found).mp member
    have sides := apart tag close start written
    simp only [Tag.Contains, WrittenTag.reported] at contains
    omega

/-- Tags do not overlap: of two of them one ends before the other starts. -/
theorem written_apart {other : WrittenTag} {mark : String} {place : Nat}
    (written : TagWritten pieces tag close start) (also : TagWritten pieces other mark place) :
    tag.reported close start = other.reported mark place ∨
      start + (tag.render close).utf8ByteSize ≤ place ∨
      place + (other.render mark).utf8ByteSize ≤ start := by
  have ordered := (tags_placed (renderDocument pieces)).2
  have member := tag_scanned also
  obtain ⟨front, back, split⟩ := List.append_of_mem (tag_scanned written)
  rw [split] at ordered member
  rcases List.mem_append.mp member with earlier | here
  · exact .inr (.inr ((List.pairwise_append.mp ordered).2.2 _ earlier _ List.mem_cons_self))
  · rcases List.mem_cons.mp here with same | later
    · exact .inl same.symm
    · exact .inr (.inl ((List.pairwise_cons.mp (List.pairwise_append.mp ordered).2.1).1 _ later))

/-- Behind the end of a tag nothing is found before the next one starts. -/
theorem scope_between (written : TagWritten pieces tag close start) {next : Nat}
    (adjacent : ∀ other mark place, TagWritten pieces other mark place →
      place ≤ start ∨ next ≤ place)
    (behind : start + (tag.render close).utf8ByteSize < offset) (before : offset < next) :
    scopeAt (renderDocument pieces) offset = none := by
  rw [scope_outside_iff]
  intro other mark place also
  rcases adjacent other mark place also with earlier | later
  · right
    rcases written_apart written also with same | follows | precedes
    · have stops := congrArg (fun found => found.span.stop) same
      simp only [WrittenTag.reported] at stops
      omega
    · have placed := (tags_placed _).1 _ (tag_scanned written)
      have name := spells_size placed.name_spelled
      have nameEnd := placed.name_end_le
      simp only [WrittenTag.reported] at name nameEnd
      omega
    · omega
  · left
    omega

end Scopes

/-- What the author of a document wrote at an offset is what a cursor there
finds: the tag, the plain attribute or the handler of that very place. Nothing
can be acted on in the name of an attribute with an argument and in the value of
one without, and nothing is found between tags. -/
theorem cursor_finds_written (pieces : List WrittenPiece) (offset : Nat) :
    (NameCharAt (renderDocument pieces) offset →
      ∀ tag close start, TagWritten pieces tag close start →
        (start < offset → offset < start + 1 + tag.name.utf8ByteSize →
          scopeAt (renderDocument pieces) offset = some ⟨tag.name, .tag⟩) ∧
        ∀ attr place, AttributeWritten tag start attr place →
          (attr.argument = none →
            (place ≤ offset → offset < place + attr.name.utf8ByteSize →
              scopeAt (renderDocument pieces) offset =
                some ⟨tag.name, .attributeName attr.name⟩) ∧
            (place + attr.name.utf8ByteSize < offset →
              offset < place + attr.name.utf8ByteSize + attr.valueText.utf8ByteSize →
              scopeAt (renderDocument pieces) offset = some ⟨tag.name, .noScope⟩)) ∧
          ∀ group, attr.argument = some group →
            (place ≤ offset → offset < place + attr.name.utf8ByteSize →
              scopeAt (renderDocument pieces) offset = some ⟨tag.name, .noScope⟩) ∧
            ∀ (mark : QuoteMark) (body : String), group.text = mark.text ++ body ++ mark.text →
              place + attr.name.utf8ByteSize < offset →
              offset < place + attr.name.utf8ByteSize + 1 + group.text.utf8ByteSize →
              scopeAt (renderDocument pieces) offset =
                some ⟨tag.name, .attributeValue body⟩) ∧
      (scopeAt (renderDocument pieces) offset = none ↔
        ∀ tag close start, TagWritten pieces tag close start →
          offset < start ∨ start + (tag.render close).utf8ByteSize < offset) ∧
      ∀ tag close start next, TagWritten pieces tag close start →
        (∀ other mark place, TagWritten pieces other mark place →
          place ≤ start ∨ next ≤ place) →
        start + (tag.render close).utf8ByteSize < offset → offset < next →
        scopeAt (renderDocument pieces) offset = none := by
  refine ⟨?_, scope_outside_iff pieces offset,
    fun _ _ _ _ written adjacent => scope_between written adjacent⟩
  intro char tag close start written
  refine ⟨scope_in_tag_name written char, ?_⟩
  intro attr place standing
  constructor
  · intro plain
    exact ⟨scope_in_plain_name written standing char plain,
      scope_in_plain_value written standing char plain⟩
  · intro group call
    refine ⟨scope_in_call_name written standing char call, ?_⟩
    intro mark body quoted behind within
    rw [scope_in_argument written standing char call behind within, quoted,
      without_delimiters_quoted]

def handlerAttribute : WrittenAttribute where
  blanks := "\t"
  name := "click"
  argument := some ⟨"'go'", @GroupBody.quoted 0x27 [0x67, 0x6F] [] rfl
    (.plain (by decide) (by decide) (.plain (by decide) (by decide) .empty)) .empty⟩
  value := none
  separated := by decide
  blank := by decide
  named := by decide
  nameBytes := by decide

def handlerTag : WrittenTag where
  name := "b"
  attributes := [handlerAttribute]
  blanks := "\t"
  nameBytes := ⟨0x62, [], by decide, by decide, by simp⟩
  blank := handlerAttribute.blank

def handlerDocument : List WrittenPiece :=
  [.text "é" (by decide +kernel), .openTag handlerTag (by decide +kernel)]

/-- The handler in an argument behind a text of wide characters. -/
theorem cursor_finds_written_handler :
    NameCharAt "é<b\tclick('go')\t>" 12 ∧ TagWritten handlerDocument handlerTag ">" 2 ∧
      AttributeWritten handlerTag 2 handlerAttribute 5 ∧
      scopeAt "é<b\tclick('go')\t>" 12 = some ⟨"b", .attributeValue "go"⟩ := by
  have rendered : renderDocument handlerDocument = "é<b\tclick('go')\t>" := by decide +kernel
  have char : NameCharAt "é<b\tclick('go')\t>" 12 :=
    ⟨'g', by decide, "é<b\tclick('", "o')\t>", by decide +kernel⟩
  have written : TagWritten handlerDocument handlerTag ">" 2 :=
    ⟨[.text "é" (by decide +kernel)], _, [], rfl, .openTag handlerTag (by decide +kernel), rfl⟩
  have standing : AttributeWritten handlerTag 2 handlerAttribute 5 :=
    ⟨[], [], rfl, by decide +kernel⟩
  have found := (cursor_finds_written handlerDocument 12).1 (by rw [rendered]; exact char)
    handlerTag ">" 2 written
  have handler := (found.2 handlerAttribute 5 standing).2 _ rfl
  have scope := handler.2 .single "go" (by decide +kernel) (by decide +kernel) (by decide +kernel)
  rw [rendered] at scope
  exact ⟨char, written, standing, scope⟩

end TemplateServer.Markup

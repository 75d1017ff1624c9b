import TemplateServer.Proofs.Markup.Scope

/-!
What touches the ends of tags and of names. A tag is closed behind all of its
parts, or it is cut off by the next `<` or by the end of the text. So nothing
can be acted on at either end of a tag, and where two tags share an offset the
first of them hides nothing. Names go on as long as they can, so what touches
the first byte of an attribute name is the end of an argument, or of the
placeholder that stands for the tag name, and these win over the name.
-/

namespace TemplateServer.Markup

open Text

theorem byte_behind_run {member : UInt8 → Bool} {input : List UInt8} {byte : UInt8}
    (found : input[runLength member input]? = some byte) : member byte = false := by
  induction input with
  | nil => simp [runLength] at found
  | cons first rest induction =>
      cases inside : member first with
      | true =>
          have step : runLength member (first :: rest) = runLength member rest + 1 := by
            simp [runLength, inside]
          rw [step, List.getElem?_cons_succ] at found
          exact induction found
      | false =>
          have none : runLength member (first :: rest) = 0 := by
            simp [runLength, inside]
          rw [none, List.getElem?_cons_zero, Option.some.injEq] at found
          rw [← found]
          exact inside

theorem name_byte_cases {byte : UInt8} (named : isNameByte byte = true) :
    isAttributeByte byte = true ∧
      (isTagByte byte = true ∨ byte = Byte.dot ∨ byte = Byte.hash) := by
  have ascii : byte.toNat < 0x80 := UInt8.lt_iff_toNat_lt.mp (name_byte_ascii byte named)
  have table : ∀ code < 0x80, isNameByte (UInt8.ofNat code) = true →
      isAttributeByte (UInt8.ofNat code) = true ∧
        (isTagByte (UInt8.ofNat code) = true ∨ UInt8.ofNat code = Byte.dot ∨
          UInt8.ofNat code = Byte.hash) := by
    decide
  have found := table byte.toNat ascii
  rw [UInt8.ofNat_toNat] at found
  exact found named

def Attribute.NameEnds (text : String) (attr : Attribute) : Prop :=
  ∀ byte, (bytes text)[attr.valueSpan.start]? = some byte → isAttributeByte byte = false

/-- How a tag ends that has something up to `front`, and then some attributes. -/
inductive Ends (text : String) (attributes : List Attribute) (front stop : Nat) : Prop
  | closed : front < stop → (∀ attr ∈ attributes, attr.valueSpan.stop < stop) →
      Ends text attributes front stop
  | cutOff : (bytes text)[stop]? = some Byte.less → Ends text attributes front stop
  | unfinished : (bytes text)[stop]? = none → Ends text attributes front stop

theorem ends_sooner {text : String} {attributes : List Attribute} {front later stop : Nat}
    (sooner : front ≤ later) (ends : Ends text attributes later stop) :
    Ends text attributes front stop := by
  cases ends with
  | closed longer inside => exact .closed (by omega) inside
  | cutOff less => exact .cutOff less
  | unfinished nothing => exact .unfinished nothing

theorem ends_cons {text : String} {attributes : List Attribute} {front stop : Nat}
    {attr : Attribute} (within : attr.valueSpan.stop ≤ front)
    (ends : Ends text attributes front stop) : Ends text (attr :: attributes) front stop := by
  cases ends with
  | closed longer inside =>
      apply Ends.closed longer
      intro other member
      rcases List.mem_cons.mp member with rfl | member
      · omega
      · exact inside other member
  | cutOff less => exact .cutOff less
  | unfinished nothing => exact .unfinished nothing

structure RemainderEdges (text : String) (position : Nat) (remainder : TagRemainder) : Prop where
  names : ∀ attr ∈ remainder.attributes, attr.NameEnds text
  ends : Ends text remainder.attributes position (position + remainder.length)

theorem remainder_edges_empty {text : String} {position length : Nat} {opens : Bool}
    (ends : Ends text [] position (position + length)) :
    RemainderEdges text position ⟨[], length, opens⟩ :=
  ⟨by simp, ends⟩

theorem remainder_edges_after {text : String} {position count next : Nat}
    {remainder : TagRemainder} (moved : position + count = next)
    (later : RemainderEdges text next remainder) :
    RemainderEdges text position (remainder.after count) := by
  subst moved
  constructor
  · exact later.names
  · have ends := ends_sooner (Nat.le_add_right position count) later.ends
    rw [Nat.add_assoc] at ends
    exact ends

theorem remainder_edges_attribute {text : String} {position : Nat} {remainder : TagRemainder}
    {attr : Attribute} (named : attr.NameEnds text) (within : attr.valueSpan.stop ≤ position)
    (later : RemainderEdges text position remainder) :
    RemainderEdges text position (remainder.withAttribute attr) := by
  constructor
  · intro other member
    rcases List.mem_cons.mp member with rfl | member
    · exact named
    · exact later.names other member
  · exact ends_cons within later.ends

theorem attribute_name_ends {text : String} {position : Nat} {input : List UInt8}
    (place : RestAt text position input) : (attributeAt position input).NameEnds text := by
  intro byte found
  change (bytes text)[position + runLength isAttributeByte input]? = some byte at found
  rw [rest_at_get place] at found
  exact byte_behind_run found

theorem tag_remainder_edges {text : String} (position : Nat) (input : List UInt8)
    (place : RestAt text position input) :
    RemainderEdges text position (tagRemainder position input) := by
  fun_induction tagRemainder position input with
  | case1 position input separators ended =>
      apply remainder_edges_empty
      apply Ends.unfinished
      rw [rest_at_get place, List.getElem?_eq_none_iff]
      exact List.drop_eq_nil_iff.mp ended
  | case2 position input separators rest found =>
      exact remainder_edges_empty (.closed (by omega) (by simp))
  | case3 position input separators byte rest found _ closed =>
      exact remainder_edges_empty (.closed (by omega) (by simp))
  | case4 position input separators rest found _ =>
      apply remainder_edges_empty
      apply Ends.cutOff
      have here := rest_at_lands place (run_length_lands separator_ascii input)
      rw [found] at here
      exact rest_at_get here 0
  | case5 position input separators byte rest found _ _ _ named start taken induction =>
      have here := rest_at_lands place (run_length_lands separator_ascii input)
      rw [found] at here
      have later := induction (rest_at_cut here (attribute_length_cut (byte :: rest)))
      have stop := attribute_at_stop start (byte :: rest)
      apply remainder_edges_after (Nat.add_assoc position separators taken).symm
      exact remainder_edges_attribute (attribute_name_ends here) (Nat.le_of_eq stop) later
  | case6 position input separators byte rest found _ _ _ unnamed taken induction =>
      -- a byte that starts nothing is passed over, with the string that it may open
      have here := rest_at_lands place (run_length_lands separator_ascii input)
      rw [found] at here
      have passed := rest_at_cut here (cut_one (unnamed_ascii byte (by simpa using unnamed)) rest)
      have skipped : Lands rest taken := by
        simp only [taken]
        split
        · rename_i quoted
          exact Or.inr (string_tail_cut (quote_ascii quoted) rest)
        · exact Or.inl rfl
      exact remainder_edges_after (by omega) (induction (rest_at_lands passed skipped))

structure TagEdges (text : String) (tag : Tag) : Prop where
  opened : (bytes text)[tag.span.start]? = some Byte.less
  names : ∀ attr ∈ tag.attributes, attr.NameEnds text
  ends : Ends text tag.attributes tag.nameEnd tag.span.stop
  /-- Only a placeholder is touched by the name of an attribute. -/
  touched : ∀ attr ∈ tag.attributes, onName text tag.nameEnd = true →
    attr.nameSpan.start = tag.nameEnd →
    Spells text (tag.span.start + 1) (tag.span.start + 3) "$\x7b"

/-- A name byte behind a static tag name starts a shorthand suffix. -/
theorem tag_suffix_pos {input : List UInt8} {byte : UInt8}
    (static : ¬ [Byte.dollar, Byte.openBrace].isPrefixOf input = true)
    (found : input[tagNameLength input]? = some byte) (named : isNameByte byte = true) :
    0 < tagSuffixLength (input.drop (tagNameLength input)) := by
  rw [tagNameLength, if_neg static] at found ⊢
  have outside := byte_behind_run found
  have head : (input.drop (runLength isTagByte input)).head? = some byte := by
    rw [List.head?_drop]
    exact found
  have suffix : byte = Byte.dot ∨ byte = Byte.hash := by
    rcases (name_byte_cases named).2 with inside | suffix
    · rw [outside] at inside
      cases inside
    · exact suffix
  obtain ⟨rest, split⟩ : ∃ rest, input.drop (runLength isTagByte input) = byte :: rest :=
    List.head?_eq_some_iff.mp head
  have shorthand : 0 < shorthandLength (byte :: rest) := by
    rcases suffix with rfl | rfl
    · simp [shorthandLength, runLength]
    · simp [shorthandLength, runLength]
  rw [split]
  simp only [tagSuffixLength]
  omega

theorem tag_at_edges {text : String} {position : Nat} {input : List UInt8}
    (place : RestAt text position (Byte.less :: input)) : TagEdges text (tagAt position input) := by
  have inside : RestAt text (position + 1) input :=
    rest_at_cut place (cut_one (by decide) input)
  have behind := rest_at_cut inside (tag_name_length_cut input)
  have suffixed := rest_at_lands behind (tag_suffix_length_lands _)
  rw [List.drop_drop] at suffixed
  have remainder := tag_remainder_edges _ _ suffixed
  constructor
  · exact rest_at_get place 0
  · exact remainder.names
  · exact ends_sooner (Nat.le_add_right _ _) remainder.ends
  · intro attr member named touched
    have start := ((tag_inside_placed inside).inside attr member).1
    by_cases dynamic : [Byte.dollar, Byte.openBrace].isPrefixOf input = true
    · obtain ⟨later, rfl⟩ := List.isPrefixOf_iff_prefix.mp dynamic
      have cut : Cut ([Byte.dollar, Byte.openBrace] ++ later) 2 :=
        cut_behind (by decide) [Byte.dollar] later
      have spelled := spells_between inside (rest_at_cut inside cut)
      have mark : bytes "$\x7b" = ([Byte.dollar, Byte.openBrace] ++ later).take 2 := rfl
      rw [← mark, decode_bytes] at spelled
      exact spelled
    · -- a name byte behind a static name belongs to a suffix, so no attribute starts there
      rw [onName] at named
      split at named
      · rename_i byte found
        change (bytes text)[position + 1 + tagNameLength input]? = some byte at found
        rw [rest_at_get inside] at found
        have positive := tag_suffix_pos dynamic found named
        change attr.nameSpan.start = position + 1 + tagNameLength input at touched
        omega
      · cases named

theorem next_tag_edges {text : String} {cursor after : Cursor} {tag : Tag}
    (place : RestAt text cursor.position cursor.rest)
    (found : cursor.nextTag? = some (tag, after)) : TagEdges text tag := by
  have here := rest_at_cut place (gap_length_cut cursor.rest)
  simp only [Cursor.nextTag?, Cursor.advance] at found
  rcases gap_length_stop cursor.rest with ended | ⟨first, later, stands, -⟩
  · simp [ended] at found
  · rw [stands] at here found
    simp only [Option.some.injEq, Prod.mk.injEq] at found
    obtain ⟨rfl, -⟩ := found
    exact tag_at_edges here

theorem cursor_tags_edges {text : String} (cursor : Cursor)
    (place : RestAt text cursor.position cursor.rest) :
    ∀ tag ∈ cursor.tags, TagEdges text tag := by
  fun_induction Cursor.tags cursor with
  | case1 cursor ended => simp
  | case2 cursor tag after found induction =>
      intro other member
      rcases List.mem_cons.mp member with rfl | member
      · exact next_tag_edges place found
      · exact induction (next_tag_placed place found).next other member

theorem tags_edges (text : String) : ∀ tag ∈ tags text, TagEdges text tag :=
  cursor_tags_edges ⟨0, bytes text⟩ (rest_at_start text)

theorem not_on_name_less {text : String} {offset : Nat}
    (less : (bytes text)[offset]? = some Byte.less) : onName text offset = false := by
  rw [onName, less]
  decide

theorem not_on_name_end {text : String} {offset : Nat}
    (nothing : (bytes text)[offset]? = none) : onName text offset = false := by
  rw [onName, nothing]

/-- Tags share no more than one offset, which is the start of the later one. -/
theorem first_of_contains {text : String} {offset : Nat} {tag : Tag} (member : tag ∈ tags text)
    (contains : tag.Contains offset) (behind : offset ≠ tag.span.start) :
    FirstWith (Tag.Contains offset) (tags text) tag := by
  obtain ⟨before, after, split⟩ := List.append_of_mem member
  refine ⟨before, after, split, contains, ?_⟩
  intro earlier front inside
  have ordered := (tags_placed text).2
  rw [split] at ordered
  have order := (List.pairwise_append.mp ordered).2.2 earlier front tag (by simp)
  have start : tag.span.start ≤ offset := contains.1
  have stop : offset ≤ earlier.span.stop := inside.2
  omega

theorem scope_off_name {text : String} {offset : Nat} {tag : Tag} (member : tag ∈ tags text)
    (contains : tag.Contains offset) (unnamed : onName text offset = false) :
    ∃ name, scopeAt text offset = some ⟨name, .noScope⟩ := by
  cases found : (tags text).find? fun tag => tag.span.covers offset with
  | none =>
      have outside := List.find?_eq_none.mp found tag member
      exact absurd ((covers_iff tag offset).mpr contains) outside
  | some first =>
      refine ⟨first.name, ?_⟩
      rw [scope_at_find, found, Option.map_some, Tag.scopeAt, unnamed]
      rfl

theorem answers_within {text : String} {attr : Attribute} {offset : Nat}
    (placed : AttributePlaced text attr) (answers : attr.AnswersAt offset) :
    offset ≤ attr.valueSpan.stop := by
  obtain ⟨kind, answer⟩ := answers
  cases answer with
  | name _ _ within => exact Nat.le_trans within placed.value_ordered
  | handler argument given _ within _ =>
      exact Nat.le_trans within (placed.argument_placed argument given).stop_le

/-- The kind of an offset behind the tag name, by the attributes in any order. -/
theorem scope_kind_behind_name {text : String} {offset : Nat} {tag : Tag}
    (placed : TagPlaced text tag) (named : onName text offset = true)
    (behind : tag.nameEnd < offset) :
    tag.scopeAt text offset =
      ⟨tag.name, (tag.attributes.findSome? fun attr => attr.kindAt? offset).getD .noScope⟩ := by
  rw [← attribute_kind_find offset placed.attribute_placed placed.attributes_ordered, Tag.scopeAt,
    named, if_neg (by simp), if_neg (by omega)]

theorem scope_at_closed_end {text : String} {tag : Tag} (placed : TagPlaced text tag)
    (behind : tag.nameEnd < tag.span.stop)
    (inside : ∀ attr ∈ tag.attributes, attr.valueSpan.stop < tag.span.stop) :
    tag.scopeAt text tag.span.stop = ⟨tag.name, .noScope⟩ := by
  by_cases named : onName text tag.span.stop = true
  · have silent : (tag.attributes.findSome? fun attr => attr.kindAt? tag.span.stop) = none := by
      rw [List.findSome?_eq_none_iff]
      intro attr member
      rw [kind_at_none_iff]
      intro answers
      have within := answers_within (placed.attribute_placed attr member) answers
      have before := inside attr member
      omega
    rw [scope_kind_behind_name placed named behind, silent]
    rfl
  · simp [Tag.scopeAt, named]

theorem scope_at_start {text : String} {tag : Tag} (member : tag ∈ tags text) :
    ∃ name, scopeAt text tag.span.start = some ⟨name, .noScope⟩ := by
  have placed := (tags_placed text).1 tag member
  have name := spells_size placed.name_spelled
  have within := placed.name_end_le
  exact scope_off_name member ⟨Nat.le_refl _, by omega⟩
    (not_on_name_less (tags_edges text tag member).opened)

theorem scope_at_stop {text : String} {tag : Tag} (member : tag ∈ tags text) :
    ∃ name, scopeAt text tag.span.stop = some ⟨name, .noScope⟩ := by
  have placed := (tags_placed text).1 tag member
  have name := spells_size placed.name_spelled
  have within := placed.name_end_le
  have contains : tag.Contains tag.span.stop := ⟨by omega, Nat.le_refl _⟩
  cases (tags_edges text tag member).ends with
  | closed behind inside =>
      refine ⟨tag.name, ?_⟩
      rw [scope_of_first (first_of_contains member contains (by omega)),
        scope_at_closed_end placed behind inside]
  | cutOff less => exact scope_off_name member contains (not_on_name_less less)
  | unfinished nothing => exact scope_off_name member contains (not_on_name_end nothing)

/-- Whatever an offset stands on in any of the tags around it, that is its scope,
and nothing can be acted on at the ends of a tag. -/
theorem scope_of_every_tag (text : String) (offset : Nat) (tag : Tag) (member : tag ∈ tags text) :
    (tag.Contains offset → (tag.scopeAt text offset).kind ≠ .noScope →
        scopeAt text offset = some (tag.scopeAt text offset)) ∧
      (offset = tag.span.start ∨ offset = tag.span.stop →
        ∃ name, scopeAt text offset = some ⟨name, .noScope⟩) := by
  constructor
  · intro contains actionable
    -- a later tag shares only its `<` with the one that hides it
    have behind : offset ≠ tag.span.start := by
      rintro rfl
      apply actionable
      simp [Tag.scopeAt, not_on_name_less (tags_edges text tag member).opened]
    exact scope_of_first (first_of_contains member contains behind)
  · rintro (rfl | rfl)
    · exact scope_at_start member
    · exact scope_at_stop member

/-- The second of two tags that share an offset, the first of them not closed. -/
theorem scope_of_every_tag_cut_off :
    scopeAt "<a b<c d>e" 7 = some ⟨"c", .attributeName "d"⟩ ∧
      (∃ name, scopeAt "<a b<c d>e" 4 = some ⟨name, .noScope⟩) ∧
      ∃ name, scopeAt "<a b<c d>e" 9 = some ⟨name, .noScope⟩ := by
  have member : (⟨"c", ⟨4, 9⟩, 6, [⟨"d", ⟨8, 8⟩, none⟩]⟩ : Tag) ∈ tags "<a b<c d>e" := by
    decide +kernel
  have law := fun offset => scope_of_every_tag "<a b<c d>e" offset _ member
  refine ⟨?_, (law 4).2 (Or.inl rfl), (law 9).2 (Or.inr rfl)⟩
  exact (law 7).1 ⟨by decide, by decide⟩ (by decide)

def Attribute.ArgumentEndsAt (attr : Attribute) (offset : Nat) : Prop :=
  ∃ argument, attr.argument = some argument ∧ argument.span.stop = offset

theorem name_before_value {text : String} {attr : Attribute} (placed : AttributePlaced text attr) :
    attr.nameSpan.start < attr.valueSpan.start := by
  have size : attr.name.utf8ByteSize ≠ 0 := by
    rw [ne_eq, String.utf8ByteSize_eq_zero_iff]
    exact placed.name_nonempty
  have fits := placed.name_fits
  change attr.valueSpan.start - attr.name.utf8ByteSize < attr.valueSpan.start
  omega

theorem argument_not_empty {text : String} {valueSpan : Span} {argument : Argument}
    (placed : ArgumentPlaced text valueSpan argument) :
    argument.span.start < argument.span.stop := by
  have inner := spells_size placed.raw_text
  have bound : argument.innerStop text ≤ argument.span.stop := by
    rw [Argument.innerStop]
    split
    · exact Nat.sub_le _ _
    · exact Nat.le_refl _
  omega

/-- An offset on the name of a plain attribute, with the attributes of the tag
that stand in front of it. -/
structure OnAttributeName (text : String) (tag : Tag) (before : List Attribute) (attr : Attribute)
    (offset : Nat) : Prop where
  scanned : tag ∈ tags text
  split : ∃ after, tag.attributes = before ++ attr :: after
  plain : attr.argument = none
  behind : attr.nameSpan.start ≤ offset
  within : offset < attr.valueSpan.start
  char : NameCharAt text offset

namespace OnAttributeName

variable {text : String} {tag : Tag} {before : List Attribute} {attr : Attribute} {offset : Nat}

theorem placed (stands : OnAttributeName text tag before attr offset) : TagPlaced text tag :=
  (tags_placed text).1 tag stands.scanned

theorem member (stands : OnAttributeName text tag before attr offset) : attr ∈ tag.attributes := by
  obtain ⟨after, split⟩ := stands.split
  simp [split]

theorem named (stands : OnAttributeName text tag before attr offset) :
    onName text offset = true :=
  (on_name_iff text offset).mpr stands.char

theorem name_end_le (stands : OnAttributeName text tag before attr offset) :
    tag.nameEnd ≤ attr.nameSpan.start :=
  (stands.placed.attribute_inside attr stands.member).1

theorem before_attribute (stands : OnAttributeName text tag before attr offset)
    {earlier : Attribute} (front : earlier ∈ before) :
    earlier ∈ tag.attributes ∧ earlier.valueSpan.stop ≤ attr.nameSpan.start := by
  obtain ⟨after, split⟩ := stands.split
  have ordered := stands.placed.attributes_ordered
  rw [split] at ordered ⊢
  exact ⟨List.mem_append_left _ front,
    (List.pairwise_append.mp ordered).2.2 earlier front attr (by simp)⟩

theorem scope (stands : OnAttributeName text tag before attr offset) :
    scopeAt text offset = some (tag.scopeAt text offset) := by
  have bounds := stands.placed.attribute_inside attr stands.member
  have value := (stands.placed.attribute_placed attr stands.member).value_ordered
  have name := spells_size stands.placed.name_spelled
  have behind := stands.behind
  have within := stands.within
  have contains : tag.Contains offset := ⟨by omega, by omega⟩
  exact scope_of_first (first_of_contains stands.scanned contains (by omega))

/-- An attribute in front of the name has something on it only where its argument
ends there. -/
theorem answers_in_front (stands : OnAttributeName text tag before attr offset)
    {earlier : Attribute} (front : earlier ∈ before) (answers : earlier.AnswersAt offset) :
    earlier.ArgumentEndsAt offset := by
  obtain ⟨member, order⟩ := stands.before_attribute front
  have placed := stands.placed.attribute_placed earlier member
  have within := answers_within placed answers
  have behind := stands.behind
  obtain ⟨kind, answer⟩ := answers
  cases answer with
  | name _ _ stop =>
      -- the name of a plain attribute would have gone on over this byte
      have same : earlier.valueSpan.start = offset := by
        have value := placed.value_ordered
        omega
      have named := stands.named
      rw [onName] at named
      split at named
      · rename_i byte found
        rw [← same] at found
        have outside := (tags_edges text tag stands.scanned).names earlier member byte found
        rw [(name_byte_cases named).1] at outside
        cases outside
      · cases named
  | handler argument given _ stop _ =>
      have inside := (placed.argument_placed argument given).stop_le
      exact ⟨argument, given, by omega⟩

theorem scope_of_name (stands : OnAttributeName text tag before attr offset)
    (apart : tag.nameEnd ≠ offset)
    (free : ∀ earlier ∈ before, ¬ earlier.ArgumentEndsAt offset) :
    scopeAt text offset = some ⟨tag.name, .attributeName attr.name⟩ := by
  have answers : attr.Answers offset (.attributeName attr.name) :=
    .name stands.plain stands.behind (Nat.le_of_lt stands.within)
  have first : FirstWith (Attribute.AnswersAt offset) tag.attributes attr := by
    obtain ⟨after, split⟩ := stands.split
    refine ⟨before, after, split, ⟨_, answers⟩, ?_⟩
    intro earlier front earlierAnswers
    exact free earlier front (stands.answers_in_front front earlierAnswers)
  have nameEnd := stands.name_end_le
  have behind := stands.behind
  rw [stands.scope, scope_kind_behind_name stands.placed stands.named (by omega),
    find_some_first first answers]
  rfl

theorem scope_of_tag (stands : OnAttributeName text tag before attr offset)
    (touches : tag.nameEnd = offset) :
    offset = attr.nameSpan.start ∧
      Spells text (tag.span.start + 1) (tag.span.start + 3) "$\x7b" ∧
      scopeAt text offset = some ⟨tag.name, .tag⟩ := by
  have nameEnd := stands.name_end_le
  have behind := stands.behind
  have named := stands.named
  have start : offset = attr.nameSpan.start := by omega
  refine ⟨start, ?_, ?_⟩
  · rw [← touches] at named start
    exact (tags_edges text tag stands.scanned).touched attr stands.member named start.symm
  · rw [stands.scope, Tag.scopeAt, named, if_neg (by simp), if_pos (Nat.le_of_eq touches.symm)]

theorem scope_of_argument (stands : OnAttributeName text tag before attr offset)
    {earlier : Attribute} (front : earlier ∈ before) {argument : Argument}
    (given : earlier.argument = some argument) (stop : argument.span.stop = offset) :
    offset = attr.nameSpan.start ∧ ∃ handler, Stripped argument.rawText handler ∧
      scopeAt text offset = some ⟨tag.name, .attributeValue handler⟩ := by
  obtain ⟨member, order⟩ := stands.before_attribute front
  have placed := stands.placed.attribute_placed earlier member
  have argumentPlaced := placed.argument_placed argument given
  have opened := argument_not_empty argumentPlaced
  have argumentStart := argumentPlaced.start_eq
  have argumentStop := argumentPlaced.stop_le
  have name := name_before_value placed
  have nameEnd := (stands.placed.attribute_inside earlier member).1
  have behind := stands.behind
  have stripped : Stripped argument.rawText (withoutDelimiters argument.rawText) :=
    (stripped_iff _ _).mpr rfl
  have answers : earlier.Answers offset (.attributeValue (withoutDelimiters argument.rawText)) :=
    .handler argument given (stop ▸ opened) (Nat.le_of_eq stop.symm) stripped
  have first : FirstWith (Attribute.AnswersAt offset) tag.attributes earlier := by
    -- whatever stands in front of the argument's own attribute ends before its name
    obtain ⟨others, after, split⟩ := List.append_of_mem member
    refine ⟨others, after, split, ⟨_, answers⟩, ?_⟩
    intro other otherFront otherAnswers
    have ordered := stands.placed.attributes_ordered
    have otherMember : other ∈ tag.attributes := by
      rw [split]
      exact List.mem_append_left _ otherFront
    have otherStop :=
      answers_within (stands.placed.attribute_placed other otherMember) otherAnswers
    rw [split] at ordered
    have otherOrder := (List.pairwise_append.mp ordered).2.2 other otherFront earlier (by simp)
    omega
  refine ⟨by omega, _, stripped, ?_⟩
  rw [stands.scope, scope_kind_behind_name stands.placed stands.named (by omega),
    find_some_first first answers]
  rfl

end OnAttributeName

/-- The scope of an offset on the name of a plain attribute is that name, unless
the offset is the first of the name and something ends there. The placeholder
of a tag name that ends there makes it the tag, and the argument of an attribute
that ends there makes it that argument. -/
theorem attribute_name_scope (text : String) (tag : Tag) (before : List Attribute)
    (attr : Attribute) (offset : Nat) (stands : OnAttributeName text tag before attr offset) :
    (tag.nameEnd ≠ offset → (∀ earlier ∈ before, ¬ earlier.ArgumentEndsAt offset) →
        scopeAt text offset = some ⟨tag.name, .attributeName attr.name⟩) ∧
      (tag.nameEnd = offset → offset = attr.nameSpan.start ∧
        Spells text (tag.span.start + 1) (tag.span.start + 3) "$\x7b" ∧
        scopeAt text offset = some ⟨tag.name, .tag⟩) ∧
      ∀ earlier ∈ before, ∀ argument, earlier.argument = some argument →
        argument.span.stop = offset → offset = attr.nameSpan.start ∧
          ∃ handler, Stripped argument.rawText handler ∧
            scopeAt text offset = some ⟨tag.name, .attributeValue handler⟩ := by
  refine ⟨stands.scope_of_name, stands.scope_of_tag, ?_⟩
  intro earlier front argument given stop
  exact stands.scope_of_argument front given stop

/-- The first letter behind an argument belongs to the argument, the second one
to the name. -/
theorem attribute_name_scope_behind_argument :
    scopeAt "<a b(xyz)cd>" 9 = some ⟨"a", .attributeValue "y"⟩ ∧
      scopeAt "<a b(xyz)cd>" 10 = some ⟨"a", .attributeName "cd"⟩ := by
  have scanned : (⟨"a", ⟨0, 12⟩, 2,
      [⟨"b", ⟨4, 9⟩, some ⟨⟨4, 9⟩, "xyz"⟩⟩, ⟨"cd", ⟨11, 11⟩, none⟩]⟩ : Tag) ∈
      tags "<a b(xyz)cd>" := by decide +kernel
  have first : OnAttributeName "<a b(xyz)cd>" _ [_] ⟨"cd", ⟨11, 11⟩, none⟩ 9 :=
    ⟨scanned, ⟨[], rfl⟩, rfl, by decide, by decide, 'c', by decide, "<a b(xyz)", "d>", by decide⟩
  have second : OnAttributeName "<a b(xyz)cd>" _ [_] ⟨"cd", ⟨11, 11⟩, none⟩ 10 :=
    ⟨scanned, ⟨[], rfl⟩, rfl, by decide, by decide, 'd', by decide, "<a b(xyz)c", ">", by decide⟩
  constructor
  · obtain ⟨handler, stripped, found⟩ :=
      ((attribute_name_scope _ _ _ _ _ first).2.2 _ List.mem_cons_self _ rfl rfl).2
    rw [found, ← (stripped_iff _ _).mp stripped]
    decide
  · apply (attribute_name_scope _ _ _ _ _ second).1 (by decide)
    rintro earlier front ⟨argument, given, stop⟩
    rw [List.mem_singleton] at front
    subst front
    cases given
    exact absurd stop (by decide)

/-- The names of plain attributes do not win at all of their offsets. -/
theorem attribute_name_hidden_by_argument :
    ¬ ∀ text, ∀ tag ∈ tags text, ∀ attr ∈ tag.attributes, attr.argument = none →
      ∀ offset, attr.nameSpan.start ≤ offset → offset < attr.valueSpan.start →
        NameCharAt text offset →
        scopeAt text offset = some ⟨tag.name, .attributeName attr.name⟩ := by
  intro law
  have member : (⟨"a", ⟨0, 9⟩, 2, [⟨"b", ⟨4, 7⟩, some ⟨⟨4, 7⟩, "x"⟩⟩, ⟨"c", ⟨8, 8⟩, none⟩]⟩ : Tag) ∈
      tags "<a b(x)c>" := by decide +kernel
  have char : NameCharAt "<a b(x)c>" 7 := ⟨'c', by decide, "<a b(x)", ">", by decide⟩
  have hidden : scopeAt "<a b(x)c>" 7 = some ⟨"a", .attributeValue ""⟩ := by decide +kernel
  have claimed := law "<a b(x)c>" _ member ⟨"c", ⟨8, 8⟩, none⟩ (by simp) rfl 7 (by decide)
    (by decide) char
  rw [hidden] at claimed
  cases claimed

end TemplateServer.Markup

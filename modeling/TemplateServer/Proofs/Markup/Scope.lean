import TemplateServer.Markup.Scope
import TemplateServer.Proofs.Markup.Spans

/-!
What an offset of a text stands on, said without a search. The offset belongs to
the first tag whose span contains it. In that tag it is on the tag name, on the
first of all the attributes that has something there, or on nothing. The search
for an attribute ends in front of the first name behind the offset; since
attributes are in order in every text, it misses nothing by that.
-/

namespace TemplateServer.Markup

open Text

def isNameChar (char : Char) : Bool :=
  char.isAlphanum || char == '_' || char == '.' || char == ':' || char == '-' || char == '#'

/-- Whether an offset is a character boundary with a character of names behind it. -/
def NameCharAt (text : String) (offset : Nat) : Prop :=
  ∃ char, isNameChar char = true ∧
    Spells text offset (offset + char.utf8Size) (String.singleton char)

theorem name_char_ascii {char : Char} (named : isNameChar char = true) : char.toNat < 0x80 := by
  apply Nat.lt_of_not_le
  intro wide
  have large : 0x80 ≤ char.val.toNat := wide
  rw [isNameChar] at named
  delta Char.isAlphanum Char.isAlpha Char.isUpper Char.isLower Char.isDigit at named
  simp only [Bool.or_eq_true, Bool.and_eq_true, decide_eq_true_eq, beq_iff_eq, ge_iff_le,
    UInt32.le_iff_toNat_le] at named
  rcases named with (((((letter | digit) | rfl) | rfl) | rfl) | rfl) | rfl
  · rcases letter with upper | lower
    · have bound : char.val.toNat ≤ 0x5A := upper.2
      omega
    · have bound : char.val.toNat ≤ 0x7A := lower.2
      omega
  · have bound : char.val.toNat ≤ 0x39 := digit.2
    omega
  all_goals exact absurd wide (by decide)

theorem name_char_eq_name_byte {char : Char} (ascii : char.toNat < 0x80) :
    isNameChar char = isNameByte (UInt8.ofNat char.toNat) := by
  have table : ∀ code < 0x80, isNameChar (Char.ofNat code) = isNameByte (UInt8.ofNat code) := by
    decide
  have found := table char.toNat ascii
  rwa [Char.ofNat_toNat] at found

theorem name_byte_ascii (byte : UInt8) (named : isNameByte byte = true) : byte < 0x80 := by
  simp only [isNameByte, isLetter, isDigit, Bool.or_eq_true, Bool.and_eq_true, decide_eq_true_eq,
    beq_iff_eq, or_assoc, UInt8.le_iff_toNat_le] at named
  rw [UInt8.lt_iff_toNat_lt]
  rcases named with ⟨-, upper⟩ | ⟨-, lower⟩ | ⟨-, digit⟩ | rfl | rfl | rfl | rfl | rfl
  · exact Nat.lt_of_le_of_lt upper (by decide)
  · exact Nat.lt_of_le_of_lt lower (by decide)
  · exact Nat.lt_of_le_of_lt digit (by decide)
  all_goals decide

theorem on_name_iff (text : String) (offset : Nat) :
    onName text offset = true ↔ NameCharAt text offset := by
  constructor
  · intro named
    rw [onName] at named
    split at named
    · rename_i byte found
      obtain ⟨char, ascii, code, spelled⟩ := spells_ascii_char found (name_byte_ascii byte named)
      refine ⟨char, ?_, spelled⟩
      rw [name_char_eq_name_byte ascii, code]
      exact named
    · cases named
  · rintro ⟨char, named, before, after, rfl, rfl, -⟩
    have ascii := name_char_ascii named
    have found : (bytes (before ++ String.singleton char ++ after))[before.utf8ByteSize]? =
        some (UInt8.ofNat char.toNat) := by
      rw [bytes_append, bytes_append, bytes_singleton, encode_char_ascii char ascii,
        ← length_bytes before]
      simp
    rw [onName, found]
    rw [name_char_eq_name_byte ascii] at named
    exact named

def FirstWith {Item : Type} (property : Item → Prop) (items : List Item) (item : Item) : Prop :=
  ∃ before after, items = before ++ item :: after ∧ property item ∧
    ∀ earlier ∈ before, ¬ property earlier

/-- What is left of a text without its first and its last character. -/
inductive Stripped : String → String → Prop
  | between (first last : Char) (inner : String) :
      Stripped (String.singleton first ++ inner ++ String.singleton last) inner
  | short {text : String} : text.length ≤ 1 → Stripped text ""

theorem stripped_iff (text inner : String) :
    Stripped text inner ↔ withoutDelimiters text = inner := by
  constructor
  · intro stripped
    cases stripped with
    | between first last inner => simp [withoutDelimiters]
    | short few =>
        have nothing : text.toList.tail.dropLast = [] := by
          apply List.eq_nil_of_length_eq_zero
          rw [List.length_dropLast, List.length_tail, String.length_toList]
          omega
        rw [withoutDelimiters, nothing, String.ofList_nil]
  · rintro rfl
    rw [withoutDelimiters]
    rcases characters : text.toList with _ | ⟨first, rest⟩
    · exact .short (by rw [← String.length_toList, characters]; exact Nat.zero_le _)
    · rcases List.eq_nil_or_concat rest with rfl | ⟨inner, last, rfl⟩
      · exact .short (by rw [← String.length_toList, characters]; exact Nat.le_refl _)
      · have whole : text = String.singleton first ++ String.ofList inner ++
            String.singleton last := by
          apply String.toList_inj.mp
          simp [characters]
        rw [List.concat_eq_append, List.tail_cons, List.dropLast_concat, whole]
        exact .between first last _

/-- What an attribute has at an offset: its name if it is plain, or the handler
behind the opening parenthesis of its argument. -/
inductive Attribute.Answers (attr : Attribute) (offset : Nat) : ScopeKind → Prop
  | name : attr.argument = none → attr.nameSpan.start ≤ offset → offset ≤ attr.valueSpan.start →
      attr.Answers offset (.attributeName attr.name)
  | handler (argument : Argument) {handler : String} : attr.argument = some argument →
      argument.span.start < offset → offset ≤ argument.span.stop →
      Stripped argument.rawText handler → attr.Answers offset (.attributeValue handler)

def Attribute.AnswersAt (offset : Nat) (attr : Attribute) : Prop :=
  ∃ kind, attr.Answers offset kind

def Tag.Contains (offset : Nat) (tag : Tag) : Prop :=
  tag.span.start ≤ offset ∧ offset ≤ tag.span.stop

/-- What an offset in a tag stands on. The attributes are looked at without
regard to their order in the text. -/
structure KindDeclared (text : String) (offset : Nat) (tag : Tag) (kind : ScopeKind) : Prop where
  on_tag_name : kind = .tag ↔ NameCharAt text offset ∧ offset ≤ tag.nameEnd
  on_attribute : ∀ attr answer, NameCharAt text offset → tag.nameEnd < offset →
    FirstWith (Attribute.AnswersAt offset) tag.attributes attr → attr.Answers offset answer →
    kind = answer
  elsewhere : (¬ NameCharAt text offset ∨ tag.nameEnd < offset ∧
    ∀ attr ∈ tag.attributes, ¬ attr.AnswersAt offset) → kind = .noScope

theorem kind_at_iff (attr : Attribute) (offset : Nat) (kind : ScopeKind) :
    attr.kindAt? offset = some kind ↔ attr.Answers offset kind := by
  cases given : attr.argument with
  | none =>
      simp only [Attribute.kindAt?, given]
      constructor
      · intro found
        split at found
        · rename_i covered
          cases found
          simp only [Span.covers, Bool.and_eq_true, decide_eq_true_eq] at covered
          exact .name given covered.1 covered.2
        · cases found
      · intro answers
        cases answers with
        | name _ start stop =>
            have covered : attr.nameSpan.covers offset = true := by
              simp only [Span.covers, Bool.and_eq_true, decide_eq_true_eq]
              exact ⟨start, stop⟩
            rw [if_pos covered]
        | handler argument other => simp [given] at other
  | some argument =>
      simp only [Attribute.kindAt?, given, Bool.and_eq_true, decide_eq_true_eq]
      constructor
      · intro found
        split at found
        · rename_i inside
          cases found
          exact .handler argument given inside.1 inside.2 ((stripped_iff _ _).mpr rfl)
        · cases found
      · intro answers
        cases answers with
        | name other => simp [given] at other
        | handler other same start stop stripped =>
            rw [given] at same
            cases same
            rw [if_pos ⟨start, stop⟩, (stripped_iff _ _).mp stripped]

theorem kind_at_none_iff (attr : Attribute) (offset : Nat) :
    attr.kindAt? offset = none ↔ ¬ attr.AnswersAt offset := by
  constructor
  · rintro nothing ⟨kind, answers⟩
    rw [(kind_at_iff attr offset kind).mpr answers] at nothing
    cases nothing
  · intro silent
    cases found : attr.kindAt? offset with
    | none => rfl
    | some kind => exact absurd ⟨kind, (kind_at_iff attr offset kind).mp found⟩ silent

/-- An attribute has nothing in front of its name. -/
theorem answers_behind_start {text : String} {attr : Attribute} {offset : Nat}
    (placed : AttributePlaced text attr) (answers : attr.AnswersAt offset) :
    attr.nameSpan.start ≤ offset := by
  obtain ⟨kind, answer⟩ := answers
  cases answer with
  | name _ start _ => exact start
  | handler argument given start _ _ =>
      have same := (placed.argument_placed argument given).start_eq
      change attr.valueSpan.start - attr.name.utf8ByteSize ≤ offset
      omega

theorem silent_before {text : String} {attr : Attribute} {later : List Attribute} {offset : Nat}
    (placed : ∀ other ∈ attr :: later, AttributePlaced text other)
    (ordered : (attr :: later).Pairwise fun first second =>
      first.valueSpan.stop ≤ second.nameSpan.start)
    (before : offset < attr.nameSpan.start) :
    ∀ other ∈ attr :: later, ¬ other.AnswersAt offset := by
  intro other member answers
  have behind := answers_behind_start (placed other member) answers
  rcases List.mem_cons.mp member with rfl | member
  · omega
  · have order := (List.pairwise_cons.mp ordered).1 other member
    have value := (placed attr (by simp)).value_ordered
    have name : attr.nameSpan.start ≤ attr.valueSpan.start := Nat.sub_le _ _
    omega

/-- The early end of the search makes no difference. -/
theorem attribute_kind_find {text : String} {attributes : List Attribute} (offset : Nat)
    (placed : ∀ attr ∈ attributes, AttributePlaced text attr)
    (ordered : attributes.Pairwise fun first second =>
      first.valueSpan.stop ≤ second.nameSpan.start) :
    attributeKind offset attributes =
      (attributes.findSome? fun attr => attr.kindAt? offset).getD .noScope := by
  induction attributes with
  | nil => rfl
  | cons attr later induction =>
      rw [attributeKind]
      split
      · rename_i before
        -- the search gives up here, and the search without an end finds nothing either
        have silent := silent_before placed ordered before
        have nothing : ((attr :: later).findSome? fun attr => attr.kindAt? offset) = none := by
          rw [List.findSome?_eq_none_iff]
          intro other member
          exact (kind_at_none_iff other offset).mpr (silent other member)
        rw [nothing]
        rfl
      · rw [List.findSome?_cons]
        cases attr.kindAt? offset with
        | some kind => rfl
        | none =>
            exact induction (fun other member => placed other (by simp [member]))
              (List.pairwise_cons.mp ordered).2

theorem find_some_first {items : List Attribute} {offset : Nat} {attr : Attribute}
    {answer : ScopeKind} (first : FirstWith (Attribute.AnswersAt offset) items attr)
    (answers : attr.Answers offset answer) :
    (items.findSome? fun item => item.kindAt? offset) = some answer := by
  obtain ⟨before, after, rfl, -, silent⟩ := first
  rw [List.findSome?_eq_some_iff]
  refine ⟨before, attr, after, rfl, (kind_at_iff attr offset answer).mpr answers, ?_⟩
  intro earlier member
  exact (kind_at_none_iff earlier offset).mpr (silent earlier member)

theorem answers_ne_tag {attr : Attribute} {offset : Nat} {kind : ScopeKind}
    (answers : attr.Answers offset kind) : kind ≠ .tag := by
  cases answers with
  | name => simp
  | handler => simp

theorem attribute_kind_ne_tag (offset : Nat) (attributes : List Attribute) :
    attributeKind offset attributes ≠ .tag := by
  induction attributes with
  | nil => simp [attributeKind]
  | cons attr later induction =>
      rw [attributeKind]
      split
      · simp
      · cases found : attr.kindAt? offset with
        | none => exact induction
        | some kind => exact answers_ne_tag ((kind_at_iff attr offset kind).mp found)

theorem scope_kind_declared {text : String} {tag : Tag} (placed : TagPlaced text tag)
    (offset : Nat) : KindDeclared text offset tag (tag.scopeAt text offset).kind := by
  by_cases named : onName text offset = true
  · by_cases inside : offset ≤ tag.nameEnd
    · have kind : (tag.scopeAt text offset).kind = .tag := by
        simp [Tag.scopeAt, named, inside]
      rw [kind]
      constructor
      · exact ⟨fun _ => ⟨(on_name_iff text offset).mp named, inside⟩, fun _ => rfl⟩
      · intro attr answer _ behind
        omega
      · rintro (unnamed | ⟨behind, -⟩)
        · exact absurd ((on_name_iff text offset).mp named) unnamed
        · omega
    · have kind : (tag.scopeAt text offset).kind = attributeKind offset tag.attributes := by
        simp [Tag.scopeAt, named, inside]
      have search := attribute_kind_find offset placed.attribute_placed placed.attributes_ordered
      rw [kind]
      constructor
      · constructor
        · intro same
          exact absurd same (attribute_kind_ne_tag offset tag.attributes)
        · rintro ⟨-, within⟩
          exact absurd within inside
      · intro attr answer _ _ first answers
        rw [search, find_some_first first answers]
        rfl
      · rintro (unnamed | ⟨-, silent⟩)
        · exact absurd ((on_name_iff text offset).mp named) unnamed
        · have nothing : (tag.attributes.findSome? fun item => item.kindAt? offset) = none := by
            rw [List.findSome?_eq_none_iff]
            intro other member
            exact (kind_at_none_iff other offset).mpr (silent other member)
          rw [search, nothing]
          rfl
  · have kind : (tag.scopeAt text offset).kind = .noScope := by
      simp [Tag.scopeAt, named]
    rw [kind]
    constructor
    · constructor
      · intro same
        cases same
      · rintro ⟨char, -⟩
        exact absurd ((on_name_iff text offset).mpr char) named
    · intro attr answer char
      exact absurd ((on_name_iff text offset).mpr char) named
    · intro _
      rfl

theorem covers_iff (tag : Tag) (offset : Nat) :
    tag.span.covers offset = true ↔ tag.Contains offset := by
  simp [Span.covers, Tag.Contains]

theorem scope_in_events_find (text : String) (offset : Nat) (found : List Tag) :
    scopeInEvents text offset (found.map Event.openTag ++ [Event.finished]) =
      (found.find? fun tag => tag.span.covers offset).map fun tag => tag.scopeAt text offset := by
  induction found with
  | nil => rfl
  | cons tag later induction =>
      rw [List.map_cons, List.cons_append, scopeInEvents, List.find?_cons]
      by_cases covered : tag.span.covers offset = true
      · rw [if_pos covered, covered]
        rfl
      · rw [if_neg covered, induction, Bool.not_eq_true _ |>.mp covered]

theorem scope_at_find (text : String) (offset : Nat) :
    scopeAt text offset = ((tags text).find? fun tag => tag.span.covers offset).map
      fun tag => tag.scopeAt text offset := by
  rw [scopeAt, events_eq_tags, scope_in_events_find]

theorem scope_none_iff (text : String) (offset : Nat) :
    scopeAt text offset = none ↔ ∀ tag ∈ tags text, ¬ tag.Contains offset := by
  simp only [scope_at_find, Option.map_eq_none_iff, List.find?_eq_none, covers_iff]

theorem scope_of_first {text : String} {offset : Nat} {tag : Tag}
    (first : FirstWith (Tag.Contains offset) (tags text) tag) :
    scopeAt text offset = some (tag.scopeAt text offset) := by
  obtain ⟨before, after, split, contains, outside⟩ := first
  have found : (tags text).find? (fun tag => tag.span.covers offset) = some tag := by
    rw [List.find?_eq_some_iff_append]
    refine ⟨(covers_iff tag offset).mpr contains, before, after, split, ?_⟩
    intro earlier member
    simp only [Bool.not_eq_true', Bool.eq_false_iff, ne_eq, covers_iff]
    exact outside earlier member
  rw [scope_at_find, found]
  rfl

/-- The scope of every offset of every text, and that no attribute has anything
in front of the first name behind the offset. -/
theorem scope_declared (text : String) (offset : Nat) :
    (scopeAt text offset = none ↔ ∀ tag ∈ tags text, ¬ tag.Contains offset) ∧
      (∀ tag, FirstWith (Tag.Contains offset) (tags text) tag →
        ∃ kind, scopeAt text offset = some ⟨tag.name, kind⟩ ∧ KindDeclared text offset tag kind) ∧
      ∀ tag ∈ tags text, ∀ before attr after, tag.attributes = before ++ attr :: after →
        offset < attr.nameSpan.start → ∀ later ∈ attr :: after, ¬ later.AnswersAt offset := by
  have placed := (tags_placed text).1
  refine ⟨scope_none_iff text offset, ?_, ?_⟩
  · intro tag first
    have member : tag ∈ tags text := by
      obtain ⟨before, after, split, -⟩ := first
      rw [split]
      simp
    exact ⟨(tag.scopeAt text offset).kind, scope_of_first first,
      scope_kind_declared (placed tag member) offset⟩
  · intro tag member before attr after split behind
    have attributes := (placed tag member).attribute_placed
    have ordered := (placed tag member).attributes_ordered
    rw [split] at attributes ordered
    exact silent_before (fun other later => attributes other (List.mem_append_right before later))
      (List.pairwise_append.mp ordered).2.1 behind

/-- An offset on the name of a plain attribute behind another one, and one in the
argument of a call behind both. -/
theorem scope_declared_later_attributes :
    scopeAt "<a b=c d on('go')>" 7 = some ⟨"a", .attributeName "d"⟩ ∧
      scopeAt "<a b=c d on('go')>" 13 = some ⟨"a", .attributeValue "go"⟩ := by
  have scanned : tags "<a b=c d on('go')>" =
      [⟨"a", ⟨0, 18⟩, 2, [⟨"b", ⟨4, 6⟩, none⟩, ⟨"d", ⟨8, 8⟩, none⟩,
        ⟨"on", ⟨11, 17⟩, some ⟨⟨11, 17⟩, "'go'"⟩⟩]⟩] := by decide +kernel
  constructor
  · obtain ⟨kind, found, declared⟩ := (scope_declared "<a b=c d on('go')>" 7).2.1 _
      ⟨[], [], scanned, ⟨by decide, by decide⟩, by simp⟩
    have answers : Attribute.Answers ⟨"d", ⟨8, 8⟩, none⟩ 7 (.attributeName "d") :=
      .name rfl (by decide) (by decide)
    have named : NameCharAt "<a b=c d on('go')>" 7 :=
      ⟨'d', by decide, "<a b=c ", " on('go')>", by decide⟩
    have silent : ∀ earlier ∈ [⟨"b", ⟨4, 6⟩, none⟩], ¬ Attribute.AnswersAt 7 earlier := by
      simp only [← kind_at_none_iff, List.forall_mem_singleton]
      decide
    rw [found, declared.on_attribute _ _ named (by decide)
      ⟨_, [_], rfl, ⟨_, answers⟩, silent⟩ answers]
  · obtain ⟨kind, found, declared⟩ := (scope_declared "<a b=c d on('go')>" 13).2.1 _
      ⟨[], [], scanned, ⟨by decide, by decide⟩, by simp⟩
    have answers : Attribute.Answers ⟨"on", ⟨11, 17⟩, some ⟨⟨11, 17⟩, "'go'"⟩⟩ 13
        (.attributeValue "go") :=
      .handler _ rfl (by decide) (by decide) (.between '\x27' '\x27' "go")
    have named : NameCharAt "<a b=c d on('go')>" 13 :=
      ⟨'g', by decide, "<a b=c d on('", "o')>", by decide⟩
    have silent : ∀ earlier ∈ [⟨"b", ⟨4, 6⟩, none⟩, ⟨"d", ⟨8, 8⟩, none⟩],
        ¬ Attribute.AnswersAt 13 earlier := by
      simp only [← kind_at_none_iff, List.forall_mem_cons]
      decide
    rw [found, declared.on_attribute _ _ named (by decide)
      ⟨_, [], rfl, ⟨_, answers⟩, silent⟩ answers]

end TemplateServer.Markup

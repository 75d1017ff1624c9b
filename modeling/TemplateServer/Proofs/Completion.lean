import Mathlib.Data.List.Forall2
import TemplateServer.Completion
import TemplateServer.Proofs.Dictionary

/-!
The examples of use that completion items carry. A client returns an item as it
was sent, and its data is read back as the examples that were written. Data that
comes from elsewhere may be written in other ways, and what is no list of examples
leaves its item alone.
-/

namespace TemplateServer

namespace Json

variable {Value : Type}

theorem read_then_iff {Fault Other : Type} {read : Except Fault Value}
    {next : Value → Except Fault Other} {result : Other} :
    (read >>= next) = .ok result ↔ ∃ value, read = .ok value ∧ next value = .ok result := by
  cases read with
  | error fault => simp [bind, Except.bind]
  | ok value => simp [bind, Except.bind]

/-- What may be given for a text that need not be there. -/
inductive MaybeText : Option Json → Option String → Prop
  | missing : MaybeText none none
  | null : MaybeText (some .null) none
  | text (content : String) : MaybeText (some (.string content)) (some content)

theorem maybe_text_iff (given : Option Json) (found : Option String) :
    decodeOptional decodeText (given.getD .null) = .ok found ↔ MaybeText given found := by
  constructor
  · intro decoded
    cases given with
    | none =>
        cases decoded
        exact .missing
    | some json =>
        cases json with
        | null =>
            cases decoded
            exact .null
        | string content =>
            cases decoded
            exact .text content
        | _ => cases decoded
  · intro given
    cases given with
    | missing => rfl
    | null => rfl
    | text content => rfl

theorem field_text_iff (members : List (String × Json)) (key : String) (found : Option String) :
    decodeField decodeText members key = .ok found ↔
      MaybeText (Dictionary.get? members key) found := by
  rw [← maybe_text_iff, decodeField]
  cases Dictionary.get? members key with
  | none => rfl
  | some json => rfl

theorem decode_items_iff {decodeItem : Decoder Value} {Means : Json → Value → Prop}
    (each : ∀ json value, decodeItem json = .ok value ↔ Means json value) (items : List Json)
    (values : List Value) :
    items.mapM decodeItem = .ok values ↔ List.Forall₂ Means items values := by
  induction items generalizing values with
  | nil =>
      rw [List.mapM_nil, List.forall₂_nil_left_iff]
      exact ⟨fun same => (Except.ok.inj same).symm, fun same => congrArg _ same.symm⟩
  | cons json rest induction =>
      rw [List.mapM_cons, read_then_iff, List.forall₂_cons_left_iff]
      constructor
      · rintro ⟨value, first, read⟩
        obtain ⟨later, others, same⟩ := read_then_iff.mp read
        cases same
        exact ⟨value, later, (each json value).mp first, (induction later).mp others, rfl⟩
      · rintro ⟨value, later, first, others, rfl⟩
        exact ⟨value, (each json value).mpr first,
          read_then_iff.mpr ⟨later, (induction later).mpr others, rfl⟩⟩

end Json

namespace Taglib.Autocomplete

open Json (MaybeText)

/-- The ways to write an example: its fields by their names, among others that do not
count, or one after the other, where the last ones may be left out. -/
inductive Written : Json → Autocomplete → Prop
  | named {members : List (String × Json)} {usage : Autocomplete} :
      MaybeText (Dictionary.get? members "snippet") usage.snippet →
      MaybeText (Dictionary.get? members "descriptionMoreURL") usage.moreUrl →
      Written (.object members) usage
  | listed {items : List Json} {usage : Autocomplete} : items.length ≤ 2 →
      MaybeText items[0]? usage.snippet → MaybeText items[1]? usage.moreUrl →
      Written (.array items) usage

theorem decode_end_iff (items : List Json) :
    Json.decodeEnd items 2 = .ok () ↔ items.length ≤ 2 := by
  rw [Json.decodeEnd]
  split
  · rename_i long
    exact iff_of_false nofun (Nat.not_le.mpr long)
  · rename_i short
    exact iff_of_true rfl (Nat.not_lt.mp short)

theorem decode_iff (json : Json) (usage : Autocomplete) :
    decode json = .ok usage ↔ Written json usage := by
  constructor
  · intro decoded
    cases json with
    | object members =>
        -- Members are read in the order of their keys and not of the fields, which only
        -- decides which of two faults is reported.
        obtain ⟨moreUrl, url, decoded⟩ := Json.read_then_iff.mp decoded
        obtain ⟨snippet, text, same⟩ := Json.read_then_iff.mp decoded
        cases same
        exact .named ((Json.field_text_iff _ _ _).mp text) ((Json.field_text_iff _ _ _).mp url)
    | array items =>
        obtain ⟨snippet, text, decoded⟩ := Json.read_then_iff.mp decoded
        obtain ⟨moreUrl, url, decoded⟩ := Json.read_then_iff.mp decoded
        obtain ⟨_, ended, same⟩ := Json.read_then_iff.mp decoded
        cases same
        rw [Json.maybe_text_iff, List.head?_eq_getElem?] at text
        rw [Json.maybe_text_iff, List.head?_drop] at url
        exact .listed ((decode_end_iff items).mp ended) text url
    | _ => cases decoded
  · intro written
    cases written with
    | named text url =>
        exact Json.read_then_iff.mpr ⟨_, (Json.field_text_iff _ _ _).mpr url,
          Json.read_then_iff.mpr ⟨_, (Json.field_text_iff _ _ _).mpr text, rfl⟩⟩
    | listed short text url =>
        rw [← List.head?_eq_getElem?, ← Json.maybe_text_iff] at text
        rw [← List.head?_drop, ← Json.maybe_text_iff] at url
        exact Json.read_then_iff.mpr ⟨_, text, Json.read_then_iff.mpr ⟨_, url,
          Json.read_then_iff.mpr ⟨(), (decode_end_iff _).mpr short, rfl⟩⟩⟩

def WrittenList (data : Json) (usages : List Autocomplete) : Prop :=
  ∃ items, data = .array items ∧ List.Forall₂ Written items usages

theorem decode_list_iff (data : Json) (usages : List Autocomplete) :
    Json.decodeList decode data = .ok usages ↔ WrittenList data usages := by
  constructor
  · intro decoded
    cases data with
    | array items => exact ⟨items, rfl, (Json.decode_items_iff decode_iff items usages).mp decoded⟩
    | _ => cases decoded
  · rintro ⟨items, rfl, written⟩
    exact (Json.decode_items_iff decode_iff items usages).mpr written

/-- What is written of an example can be read back, also where a field is left out. -/
theorem written_to_json (usage : Autocomplete) : Written usage.toJson usage := by
  obtain ⟨snippet, moreUrl⟩ := usage
  cases snippet with
  | none =>
      cases moreUrl with
      | none => exact .named .missing .missing
      | some url => exact .named .missing (.text url)
  | some text =>
      cases moreUrl with
      | none => exact .named (.text text) .missing
      | some url => exact .named (.text text) (.text url)

theorem written_list (usages : List Autocomplete) :
    WrittenList (.array (usages.map toJson)) usages := by
  refine ⟨_, rfl, ?_⟩
  induction usages with
  | nil => exact .nil
  | cons usage rest induction => exact .cons (written_to_json usage) induction

end Taglib.Autocomplete

namespace CompletionItem

open Taglib.Autocomplete (WrittenList written_list decode_list_iff)

section Resolve

variable {item : CompletionItem}

theorem resolve_written {data : Json} {usages : List Taglib.Autocomplete}
    (given : item.data = some data) (written : WrittenList data usages) :
    item.resolve =
      { item with documentation := some (.markdown (usageDocumentation usages)) } := by
  rw [resolve, given]
  dsimp only
  rw [(decode_list_iff data usages).mpr written]

theorem resolve_unwritten
    (foreign : ∀ data usages, item.data = some data → ¬ WrittenList data usages) :
    item.resolve = item := by
  rw [resolve]
  split
  · rfl
  · rename_i data given
    split
    · rfl
    · rename_i usages decoded
      exact absurd ((decode_list_iff data usages).mp decoded) (foreign data usages given)

/-- All that a look at an item can do to it. -/
theorem resolve_cases (item : CompletionItem) :
    (∃ data usages, item.data = some data ∧ WrittenList data usages ∧ item.resolve =
        { item with documentation := some (.markdown (usageDocumentation usages)) }) ∨
      (∀ data usages, item.data = some data → ¬ WrittenList data usages) ∧
        item.resolve = item := by
  by_cases known : ∃ data usages, item.data = some data ∧ WrittenList data usages
  · obtain ⟨data, usages, given, written⟩ := known
    exact Or.inl ⟨data, usages, given, written, resolve_written given written⟩
  · have foreign : ∀ data usages, item.data = some data → ¬ WrittenList data usages :=
      fun data usages given written => known ⟨data, usages, given, written⟩
    exact Or.inr ⟨foreign, resolve_unwritten foreign⟩

theorem resolve_resolve (item : CompletionItem) : item.resolve.resolve = item.resolve := by
  rcases resolve_cases item with ⟨data, usages, given, written, resolved⟩ | ⟨-, same⟩
  · rw [resolved]
    exact resolve_written given written
  · rw [same, same]

theorem resolve_rest (item : CompletionItem) :
    ∃ documentation, item.resolve = { item with documentation := documentation } := by
  rcases resolve_cases item with ⟨_, _, -, -, resolved⟩ | ⟨-, same⟩
  · exact ⟨_, resolved⟩
  · exact ⟨item.documentation, same⟩

end Resolve

section Offered

def offeredMembers (name : String) (data : Option (List Json)) : List (String × Json) :=
  (data.toList.map fun items => ("data", Json.array items)) ++
    [("kind", Json.natural snippetKind), ("label", .string name)]

/-- A client that returns an item has nothing to change in its form. -/
theorem fit_offered (name : String) (data : Option (List Json)) :
    Protocol.Shape.completionItem.fit? (.object (offeredMembers name data)) =
      some (.object (offeredMembers name data)) := by
  rw [Protocol.Shape.completionItem]
  cases data <;>
    simp (disch := decide +kernel) [offeredMembers, snippetKind, Json.natural,
      Protocol.Shape.fit?, Protocol.Shape.fitMembers?, Protocol.Shape.given?,
      Protocol.Shape.required, Protocol.Shape.optional, Protocol.Shape.integer32,
      Protocol.Shape.mayHold, Protocol.Shape.mayLack, Protocol.Shape.mayBeNull, Dictionary.get?,
      Dictionary.ofList, Dictionary.insertAll, Dictionary.insert_nil, Dictionary.insert_before]

/-- An item without examples has no data, and any other has all of them. -/
theorem of_tag_data (tag : Taglib.TagInfo) :
    tag.autocomplete = [] ∧ (ofTag tag).data = none ∨
      tag.autocomplete ≠ [] ∧ (ofTag tag).data =
        some (.array (tag.autocomplete.map Taglib.Autocomplete.toJson)) := by
  cases examples : tag.autocomplete with
  | nil => exact Or.inl ⟨rfl, by rw [ofTag, examples]; rfl⟩
  | cons first rest => exact Or.inr ⟨List.cons_ne_nil _ _, by rw [ofTag, examples]; rfl⟩

theorem of_tag_returned (tag : Taglib.TagInfo) : ofJson? (ofTag tag).toJson = some (ofTag tag) := by
  obtain ⟨data, carried⟩ : ∃ data : Option (List Json), (ofTag tag).data = data.map .array := by
    rcases of_tag_data tag with ⟨-, nothing⟩ | ⟨-, all⟩
    · exact ⟨none, nothing⟩
    · exact ⟨some _, all⟩
  have item : ofTag tag =
      ⟨tag.name, none, data.map .array, [("kind", Json.natural snippetKind)]⟩ := by
    rw [← carried]
    rfl
  have sent : (ofTag tag).toJson = .object (offeredMembers tag.name data) := by
    rw [item]
    cases data <;>
      simp (disch := decide +kernel) [toJson, offeredMembers, Dictionary.insertAll,
        Dictionary.insert_nil, Dictionary.insert_before, Dictionary.insert_behind]
  rw [sent, ofJson?, fit_offered, item]
  cases data with
  | none => rfl
  | some items => rfl

/-- An item that offers a tag and brings its examples back from the client. -/
structure Carries (tag : Taglib.TagInfo) (item : CompletionItem) : Prop where
  label : item.label = tag.name
  returned : ofJson? item.toJson = some item
  undocumented : item.documentation = none
  documented : tag.autocomplete ≠ [] → item.resolve =
    { item with documentation := some (.markdown (usageDocumentation tag.autocomplete)) }
  unchanged : tag.autocomplete = [] → item.resolve = item

theorem of_tag_carries (tag : Taglib.TagInfo) : Carries tag (ofTag tag) := by
  refine ⟨rfl, of_tag_returned tag, rfl, ?_, ?_⟩
  · intro examples
    rcases of_tag_data tag with ⟨empty, -⟩ | ⟨-, given⟩
    · exact absurd empty examples
    · exact resolve_written given (written_list tag.autocomplete)
  · intro empty
    rcases of_tag_data tag with ⟨-, given⟩ | ⟨examples, -⟩
    · apply resolve_unwritten
      intro data usages found
      rw [given] at found
      cases found
    · exact absurd empty examples

end Offered

/-- The items of tags are returned by a client as they were sent and are documented
with the examples of their own tags, because examples are read back as they were
written. Whatever an item is, a look at it adds the documentation that its data
describes and nothing else, a second look adds nothing, and data that does not
describe a list of examples counts as none. -/
theorem examples_survive_client :
    (∀ tags : List Taglib.TagInfo, List.Forall₂ Carries tags (completionList tags)) ∧
      (∀ usages : List Taglib.Autocomplete, Json.decodeList Taglib.Autocomplete.decode
        (.array (usages.map Taglib.Autocomplete.toJson)) = .ok usages) ∧
      (∀ data usages, Json.decodeList Taglib.Autocomplete.decode data = .ok usages ↔
        WrittenList data usages) ∧
      ∀ item : CompletionItem,
        item.resolve.resolve = item.resolve ∧
        (∃ documentation, item.resolve = { item with documentation := documentation }) ∧
        (∀ data usages, item.data = some data → WrittenList data usages → item.resolve =
          { item with documentation := some (.markdown (usageDocumentation usages)) }) ∧
        ((∀ data usages, item.data = some data → ¬ WrittenList data usages) →
          item.resolve = item) := by
  refine ⟨?_, fun usages => (decode_list_iff _ usages).mpr (written_list usages),
    decode_list_iff, ?_⟩
  · intro tags
    rw [completionList, List.forall₂_map_right_iff]
    exact List.forall₂_same.mpr fun tag _ => of_tag_carries tag
  · intro item
    exact ⟨resolve_resolve item, resolve_rest item, fun _ _ => resolve_written, resolve_unwritten⟩

def sampleTag : Taglib.TagInfo := ⟨"card", [⟨some "<card/>", some "u"⟩, ⟨none, some "v"⟩]⟩

def sampleForeign (data : Json) : CompletionItem :=
  ⟨"other", some (.plain "old"), some data, [("kind", Json.natural 3)]⟩

/-- A short list of fields, and a null among members that do not count. -/
def sampleShort : Json :=
  .array [.array [.string "<a/>"],
    .object [("descriptionMoreURL", .null), ("other", .bool true)]]

def sampleStray : Json := .object [("snippet", .string "<a/>")]

theorem examples_survive_client_foreign :
    sampleTag.autocomplete ≠ [] ∧
      (ofTag sampleTag).resolve =
        { ofTag sampleTag with
          documentation :=
            some (.markup "markdown" "Usage: <card/>\nRead more at [link](u)\n") } ∧
      WrittenList sampleShort [⟨some "<a/>", none⟩, ⟨none, none⟩] ∧
      (sampleForeign sampleShort).resolve =
        { sampleForeign sampleShort with
          documentation := some (.markup "markdown" "Usage: <a/>\n\n") } ∧
      (∀ usages, ¬ WrittenList sampleStray usages) ∧
      (sampleForeign sampleStray).resolve = sampleForeign sampleStray := by
  obtain ⟨tags, -, -, items⟩ := examples_survive_client
  have examples : sampleTag.autocomplete ≠ [] := List.cons_ne_nil _ _
  have carried : Carries sampleTag (ofTag sampleTag) :=
    (List.forall₂_cons.mp (tags [sampleTag])).1
  have short : WrittenList sampleShort [⟨some "<a/>", none⟩, ⟨none, none⟩] :=
    ⟨_, rfl, .cons (.listed (by decide) (.text _) .missing)
      (.cons (.named .missing .null) .nil)⟩
  have stray : ∀ usages, ¬ WrittenList sampleStray usages := by
    rintro usages ⟨_, same, -⟩
    cases same
  refine ⟨examples, carried.documented examples, short, ?_, stray, ?_⟩
  · exact (items (sampleForeign sampleShort)).2.2.1 _ _ rfl short
  · apply (items (sampleForeign sampleStray)).2.2.2
    intro data usages given
    cases given
    exact stray usages

end CompletionItem

end TemplateServer

import Mathlib.Data.List.Forall2
import TemplateServer.Proofs.Taglib.Sites

/-!
What descriptors declare. A library descriptor is taken whole or not at all: it
declares one tag for each key that names one, in the order of the keys, if every
value under such a key can define a tag, and otherwise the first value that
cannot is reported. A tag descriptor is read like the value of such a key.
-/

namespace TemplateServer.Taglib

open Text (bytes)

/-- A key declares a tag by its name in angle brackets; the tag that stands for
all tags may also be declared without them. -/
def Declares (key name : String) : Prop :=
  key = "*" ∧ name = globalTag ∨ key = "<" ++ name ++ ">"

theorem tag_of_key_iff (key name : String) : tagOfKey? key = some name ↔ Declares key name := by
  constructor
  · exact tag_of_key_spelled
  · intro declares
    rcases declares with ⟨bare, global⟩ | bracketed
    · rw [bare, global]
      rfl
    · have spelled : key.toList = '<' :: (name.toList ++ ['>']) := by
        rw [bracketed, String.toList_append, String.toList_append]
        rfl
      have other : key ≠ "*" := by
        intro same
        rw [same] at spelled
        cases spelled
      unfold tagOfKey?
      rw [if_neg other, spelled]
      simp only [List.getLast?_concat, if_true, List.dropLast_concat, String.ofList_toList]

/-- A value can define a tag if it is an object whose examples of use, if it has
any, are a list of such. -/
def CanDefine (value : Json) : Prop :=
  ∃ members, value = .object members ∧
    ∀ found, Dictionary.get? members "autocomplete" = some found →
      ∃ examples, Json.decodeList Autocomplete.decode found = .ok examples

inductive Refused (name : String) : Json → String → Prop
  | not_object {value : Json} : (∀ members, value ≠ .object members) →
      Refused name value ("definition of <" ++ name ++ "> must be an object")
  | examples {members : List (String × Json)} {found : Json} {cause : Json.DecodeError} :
      Dictionary.get? members "autocomplete" = some found →
      Json.decodeList Autocomplete.decode found = .error cause →
      Refused name (.object members) ("autocomplete of <" ++ name ++ ">: " ++ cause.message)

/-- An attribute is declared by a member with the sign of an attribute, or by a key
under `attributes`, which may have the sign. -/
def DeclaresAttribute (members : List (String × Json)) (attr : String) : Prop :=
  "@" ++ attr ∈ Dictionary.keys members ∨
    ∃ declared key, Dictionary.get? members "attributes" = some (.object declared) ∧
      key ∈ Dictionary.keys declared ∧
      (key = "@" ++ attr ∨ key = attr ∧ ∀ rest, key ≠ "@" ++ rest)

def mentioned? (file : Path) (members : List (String × Json)) (key : String) : Option Path :=
  ((Dictionary.get? members key).bind Json.text?).map (besideFile file)

structure DefinedBy (file : Path) (members : List (String × Json)) (name : String)
    (definition : TagDefinition) : Prop where
  named : definition.name = name
  attributes : ∀ attr,
    attr ∈ Dictionary.keys definition.attributes ↔ DeclaresAttribute members attr
  declared_here : ∀ entry ∈ definition.attributes, entry.2 = some file
  implementation : definition.implementation =
    ⟨mentioned? file members "template", mentioned? file members "renderer", some file⟩
  examples : match Dictionary.get? members "autocomplete" with
    | none => definition.autocomplete = []
    | some found => Json.decodeList Autocomplete.decode found = .ok definition.autocomplete

def DefinedUnder (file : Path) (members : List (String × Json)) (key : String)
    (definition : TagDefinition) : Prop :=
  ∃ name described, Declares key name ∧ (key, .object described) ∈ members ∧
    DefinedBy file described name definition

/-- The texts of a member that may be one text or a list, of which only the texts
count. -/
inductive Texts : Option Json → List String → Prop
  | missing : Texts none []
  | one (text : String) : Texts (some (.string text)) [text]
  | several (items : List Json) : Texts (some (.array items)) (items.filterMap Json.text?)
  | other {value : Json} : (∀ text, value ≠ .string text) → (∀ items, value ≠ .array items) →
      Texts (some value) []

structure LibraryBy (file : Path) (members : List (String × Json)) (library : Library) : Prop where
  path : library.path = file
  tags : ∃ keys : List String, keys.Pairwise (fun first second => bytes first < bytes second) ∧
    (∀ key, key ∈ keys ↔ key ∈ Dictionary.keys members ∧ ∃ name, Declares key name) ∧
    List.Forall₂ (DefinedUnder file members) keys library.tags
  directories : ∃ texts, Texts (Dictionary.get? members "tags-dir") texts ∧
    library.tagsDirs = texts.map (besideFile file)

section Attributes

theorem attribute_of_key_iff (key attr : String) :
    attributeOfKey? key = some attr ↔ key = "@" ++ attr := by
  have spelled : key = "@" ++ attr ↔ key.toList = '@' :: attr.toList := by
    rw [← String.toList_inj, String.toList_append]
    rfl
  rw [spelled]
  unfold attributeOfKey?
  split
  · rename_i rest signed
    rw [signed, List.cons.injEq, Option.some.injEq, ← String.toList_inj, String.toList_ofList]
    exact (and_iff_right rfl).symm
  · rename_i unsigned
    constructor
    · intro found
      cases found
    · intro signed
      exact absurd signed (unsigned attr.toList)

theorem attribute_of_key_default (key attr : String) :
    (attributeOfKey? key).getD key = attr ↔
      key = "@" ++ attr ∨ key = attr ∧ ∀ rest, key ≠ "@" ++ rest := by
  cases found : attributeOfKey? key with
  | none =>
      have unsigned : ∀ rest, key ≠ "@" ++ rest := by
        intro rest signed
        rw [(attribute_of_key_iff key rest).mpr signed] at found
        cases found
      rw [Option.getD_none, or_iff_right (unsigned attr), and_iff_left unsigned]
  | some rest =>
      have signed := (attribute_of_key_iff key rest).mp found
      have none : ¬ (key = attr ∧ ∀ other, key ≠ "@" ++ other) := by
        intro plain
        exact plain.2 rest signed
      rw [Option.getD_some, or_iff_left none, ← attribute_of_key_iff, found, Option.some.injEq]

theorem mem_attribute_names (members : List (String × Json)) (attr : String) :
    attr ∈ attributeNames members ↔ DeclaresAttribute members attr := by
  unfold attributeNames DeclaresAttribute
  rw [List.mem_append, List.mem_filterMap]
  apply or_congr
  · simp only [attribute_of_key_iff]
    constructor
    · intro signed
      obtain ⟨key, member, same⟩ := signed
      rwa [← same]
    · intro member
      exact ⟨_, member, rfl⟩
  · cases Dictionary.get? members "attributes" with
    | none => simp
    | some value =>
        cases value with
        | object declared =>
            simp only [List.mem_map, attribute_of_key_default, Option.some.injEq, Json.object.injEq,
              exists_and_left, exists_eq_left']
        | _ => simp

end Attributes

section Tags

variable {file : Path} {name : String} {members : List (String × Json)}

def tagWith (name : String) (file : Path) (members : List (String × Json))
    (examples : List Autocomplete) : TagDefinition :=
  { name := name
    implementation :=
      ⟨mentioned? file members "template", mentioned? file members "renderer", some file⟩
    attributes := Dictionary.ofList ((attributeNames members).map fun attr => (attr, some file))
    autocomplete := examples }

/-- Only the examples of use can be at fault. -/
theorem tag_definition_eq (name : String) (file : Path) (members : List (String × Json)) :
    tagDefinition name file members =
      match Dictionary.get? members "autocomplete" with
      | none => .ok (tagWith name file members [])
      | some found =>
          match Json.decodeList Autocomplete.decode found with
          | .ok examples => .ok (tagWith name file members examples)
          | .error cause => .error (.autocomplete name cause) := by
  unfold tagDefinition
  cases Dictionary.get? members "autocomplete" with
  | none => rfl
  | some found =>
      dsimp only
      cases Json.decodeList Autocomplete.decode found with
      | ok examples => rfl
      | error cause => rfl

theorem tag_with_defined {examples : List Autocomplete}
    (given : match Dictionary.get? members "autocomplete" with
      | none => examples = []
      | some found => Json.decodeList Autocomplete.decode found = .ok examples) :
    DefinedBy file members name (tagWith name file members examples) := by
  refine ⟨rfl, ?_, ?_, rfl, given⟩
  · intro attr
    rw [← mem_attribute_names, tagWith, Dictionary.ofList, Dictionary.mem_keys_insert_all]
    simp [Dictionary.keys]
  · intro entry member
    obtain ⟨attr, -, same⟩ := List.mem_map.mp (Dictionary.mem_of_mem_of_list member)
    rw [← same]

/-- A value is read as the definition that it describes, or refused. -/
theorem tag_of_json_cases (name : String) (file : Path) (value : Json) :
    (∃ described definition, value = .object described ∧
      tagOfJson name file value = .ok definition ∧ DefinedBy file described name definition) ∨
    ∃ fault, tagOfJson name file value = .error fault ∧ Refused name value fault.message := by
  cases value with
  | object described =>
      rw [tagOfJson, tag_definition_eq]
      cases found : Dictionary.get? described "autocomplete" with
      | none =>
          refine Or.inl ⟨described, _, rfl, rfl, tag_with_defined ?_⟩
          rw [found]
      | some examples =>
          dsimp only
          cases decoded : Json.decodeList Autocomplete.decode examples with
          | error cause => exact Or.inr ⟨_, rfl, .examples found decoded⟩
          | ok list =>
              refine Or.inl ⟨described, _, rfl, rfl, tag_with_defined ?_⟩
              rw [found]
              exact decoded
  | _ => exact Or.inr ⟨_, rfl, .not_object fun members same => by cases same⟩

theorem tag_of_json_ok {value : Json} {definition : TagDefinition}
    (read : tagOfJson name file value = .ok definition) :
    ∃ described, value = .object described ∧ DefinedBy file described name definition := by
  rcases tag_of_json_cases name file value with ⟨described, other, same, found, defined⟩ | refused
  · rw [read] at found
    cases found
    exact ⟨described, same, defined⟩
  · obtain ⟨fault, failed, -⟩ := refused
    rw [read] at failed
    cases failed

theorem tag_of_json_error {value : Json} {fault : DescriptorFault}
    (failed : tagOfJson name file value = .error fault) : Refused name value fault.message := by
  rcases tag_of_json_cases name file value with ⟨-, definition, -, read, -⟩ | refused
  · rw [failed] at read
    cases read
  · obtain ⟨other, found, refused⟩ := refused
    rw [failed] at found
    cases found
    exact refused

theorem refused_not_defining {value : Json} {text : String} (refused : Refused name value text) :
    ¬ CanDefine value := by
  intro defining
  obtain ⟨members, rfl, decodes⟩ := defining
  cases refused with
  | not_object other => exact other members rfl
  | examples found failed =>
      obtain ⟨examples, decoded⟩ := decodes _ found
      rw [failed] at decoded
      cases decoded

theorem tag_of_json_ok_iff (name : String) (file : Path) (value : Json) :
    (∃ definition, tagOfJson name file value = .ok definition) ↔ CanDefine value := by
  constructor
  · intro readable
    obtain ⟨definition, read⟩ := readable
    obtain ⟨described, rfl, defined⟩ := tag_of_json_ok read
    refine ⟨described, rfl, ?_⟩
    intro found present
    have examples := defined.examples
    rw [present] at examples
    exact ⟨definition.autocomplete, examples⟩
  · intro defining
    cases read : tagOfJson name file value with
    | ok definition => exact ⟨definition, rfl⟩
    | error fault => exact absurd defining (refused_not_defining (tag_of_json_error read))

end Tags

section Libraries

variable {file : Path} {members : List (String × Json)}

def AllDefine (members : List (String × Json)) : Prop :=
  ∀ key value name, (key, value) ∈ members → Declares key name → CanDefine value

theorem usable_iff_all_define (file : Path) (members : List (String × Json)) :
    Usable file members ↔ AllDefine members := by
  unfold Usable AllDefine
  simp only [tag_of_key_iff, tag_of_json_ok_iff]

/-- A reading that breaks off does so at the first item that cannot be read. -/
theorem filter_map_fault {Item Value Fault : Type} {read : Item → Except Fault (Option Value)}
    {items : List Item} {fault : Fault} (failed : items.filterMapM read = .error fault) :
    ∃ front item back, items = front ++ item :: back ∧
      (∀ earlier ∈ front, ∃ value, read earlier = .ok value) ∧ read item = .error fault := by
  induction items with
  | nil => cases failed
  | cons item items induction =>
      rw [List.filterMapM_cons] at failed
      cases first : read item with
      | error cause =>
          rw [first] at failed
          cases failed
          exact ⟨[], item, items, rfl, List.forall_mem_nil _, first⟩
      | ok value =>
          have rest : items.filterMapM read = .error fault := by
            cases later : items.filterMapM read with
            | error cause =>
                rw [first, later] at failed
                cases value with
                | none => exact failed
                | some value => exact failed
            | ok found =>
                rw [first, later] at failed
                cases value with
                | none => cases failed
                | some value => cases failed
          obtain ⟨front, culprit, back, rfl, readable, fails⟩ := induction rest
          refine ⟨item :: front, culprit, back, rfl, ?_, fails⟩
          rw [List.forall_mem_cons]
          exact ⟨⟨value, first⟩, readable⟩

theorem library_directories (file : Path) (members : List (String × Json)) :
    ∃ texts, Texts (Dictionary.get? members "tags-dir") texts ∧
      directoriesOf file members = texts.map (besideFile file) := by
  unfold directoriesOf
  cases Dictionary.get? members "tags-dir" with
  | none => exact ⟨[], .missing, rfl⟩
  | some value =>
      refine ⟨textOrList value, ?_, rfl⟩
      cases value with
      | string text => exact .one text
      | array items => exact .several items
      | _ => exact .other (fun text same => by cases same) (fun items same => by cases same)

def declaringKeys (members : List (String × Json)) : List String :=
  (Dictionary.keys members).filter fun key => (tagOfKey? key).isSome

/-- One definition for each key, by the value under it. -/
theorem declarations_by_key (usable : Usable file members) :
    List.Forall₂ (DefinedUnder file members) (declaringKeys members)
      (members.filterMap (declaration? file)) := by
  induction members with
  | nil => exact .nil
  | cons member rest induction =>
      obtain ⟨key, value⟩ := member
      have restUsable : Usable file rest := by
        intro other found name present declares
        exact usable other found name (List.mem_cons_of_mem _ present) declares
      have widened : ∀ other definition, DefinedUnder file rest other definition →
          DefinedUnder file ((key, value) :: rest) other definition := by
        intro other definition found
        obtain ⟨name, described, declares, present, defined⟩ := found
        exact ⟨name, described, declares, List.mem_cons_of_mem (key, value) present, defined⟩
      have later := (induction restUsable).imp widened
      unfold declaringKeys Dictionary.keys
      rw [List.map_cons, List.filter_cons, List.filterMap_cons]
      cases declares : tagOfKey? key with
      | none =>
          have nothing : declaration? file (key, value) = none := by
            simp only [declaration?, readMember, declares]
            rfl
          rw [nothing]
          exact later
      | some name =>
          obtain ⟨definition, read⟩ := usable key value name List.mem_cons_self declares
          obtain ⟨described, rfl, defined⟩ := tag_of_json_ok read
          have declared : declaration? file (key, .object described) = some definition :=
            (declaration_iff file _ definition).mpr ⟨name, declares, read⟩
          rw [declared]
          exact .cons ⟨name, described, (tag_of_key_iff key name).mp declares,
            List.mem_cons_self, defined⟩ later

/-- A descriptor that can be used gives the library that its members describe. -/
theorem library_with_by (sorted : Dictionary.Sorted members) (usable : Usable file members) :
    LibraryBy file members (libraryWith file members) := by
  refine ⟨rfl, ⟨declaringKeys members, ?_, ?_, declarations_by_key usable⟩,
    library_directories file members⟩
  · apply List.Pairwise.filter
    exact sorted.imp fun less => (Text.lt_iff_bytes_lt _ _).mp less
  · intro key
    unfold declaringKeys
    rw [List.mem_filter, Option.isSome_iff_exists]
    simp only [tag_of_key_iff]

/-- A descriptor that cannot be used has a first key at fault. -/
theorem library_fault (sorted : Dictionary.Sorted members) {fault : DescriptorFault}
    (failed : libraryOfMembers file members = .error fault) :
    ∃ key value name, (key, value) ∈ members ∧ Declares key name ∧
      Refused name value fault.message ∧
      ∀ other found tag, (other, found) ∈ members → bytes other < bytes key →
        Declares other tag → CanDefine found := by
  have stopped : members.filterMapM (readMember file) = .error fault := by
    rw [library_of_members_eq] at failed
    cases read : members.filterMapM (readMember file) with
    | ok tags =>
        rw [read] at failed
        cases failed
    | error cause =>
        rw [read] at failed
        cases failed
        rfl
  obtain ⟨front, ⟨key, value⟩, back, rfl, readable, fails⟩ := filter_map_fault stopped
  unfold readMember at fails
  dsimp only at fails
  split at fails
  · cases fails
  · rename_i name declares
    refine ⟨key, value, name, by simp, (tag_of_key_iff key name).mp declares, ?_, ?_⟩
    · cases read : tagOfJson name file value with
      | ok definition =>
          rw [read] at fails
          cases fails
      | error cause =>
          rw [read] at fails
          cases fails
          exact tag_of_json_error read
    · intro other found tag present less declaresOther
      have before := (usable_iff_all_define file front).mp ((usable_iff file front).mpr readable)
      have ordered := List.pairwise_append.mp (List.pairwise_map.mp sorted)
      rcases List.mem_append.mp present with earlier | later
      · exact before other found tag earlier declaresOther
      · exfalso
        rcases List.mem_cons.mp later with same | behind
        · cases same
          exact List.lt_irrefl _ less
        · have greater := (List.pairwise_cons.mp ordered.2.1).1 (other, found) behind
          exact List.lt_asymm less ((Text.lt_iff_bytes_lt _ _).mp greater)

end Libraries

theorem parse_library_of_members (file : Path) {contents : String}
    {members : List (String × Json)} (parsed : Json.parse? contents = some (.object members)) :
    parseLibrary file contents = libraryOfMembers file members := by
  unfold parseLibrary descriptorMembers
  rw [parsed]
  rfl

theorem parse_tag_of_members (name : String) (file : Path) {contents : String}
    {members : List (String × Json)} (parsed : Json.parse? contents = some (.object members)) :
    parseTag name file contents = tagDefinition name file members := by
  unfold parseTag descriptorMembers
  rw [parsed]
  rfl

theorem tag_of_file_ok_iff (name : String) (file : Path) (contents : String) :
    (∃ definition, TagDefinition.ofFile name file contents = .ok definition) ↔
      ∃ members, Json.parse? contents = some (.object members) ∧ CanDefine (.object members) := by
  have told : ∀ read : Except DescriptorFault TagDefinition,
      (∃ definition, read.mapError (ServerError.taglib file) = .ok definition) ↔
        ∃ definition, read = .ok definition := by
    intro read
    cases read with
    | error fault => simp [Except.mapError]
    | ok definition => simp [Except.mapError]
  unfold TagDefinition.ofFile
  rw [told]
  constructor
  · intro readable
    obtain ⟨definition, read⟩ := readable
    unfold parseTag descriptorMembers at read
    cases parsed : Json.parse? contents with
    | none =>
        rw [parsed] at read
        cases read
    | some value =>
        rw [parsed] at read
        cases value with
        | object members =>
            exact ⟨members, rfl, (tag_of_json_ok_iff name file _).mp ⟨definition, read⟩⟩
        | _ => cases read
  · intro readable
    obtain ⟨members, parsed, defining⟩ := readable
    rw [parse_tag_of_members name file parsed]
    exact (tag_of_json_ok_iff name file (.object members)).mpr defining

/-- A library descriptor with one key reads like the descriptor of that tag. -/
theorem library_of_one_tag (file : Path) (name : String) (described : List (String × Json)) :
    libraryOfMembers file [("<" ++ name ++ ">", .object described)] =
      (tagDefinition name file described).map fun definition => ⟨file, [definition], []⟩ := by
  have declares : tagOfKey? ("<" ++ name ++ ">") = some name :=
    (tag_of_key_iff _ name).mpr (Or.inr rfl)
  have noDirectories : directoriesOf file [("<" ++ name ++ ">", .object described)] = [] := by
    have other : "<" ++ name ++ ">" ≠ "tags-dir" := by
      intro same
      have declaresNone : tagOfKey? "tags-dir" = none := by decide
      rw [same, declaresNone] at declares
      cases declares
    simp only [directoriesOf, Dictionary.get?, if_neg other]
    rfl
  rw [library_of_members_eq, noDirectories, List.filterMapM_cons]
  simp only [readMember, declares, tagOfJson]
  cases tagDefinition name file described with
  | error fault => rfl
  | ok definition => rfl

/-- Descriptors are read as they are written. A library descriptor is taken if
every key that declares a tag has a value that can define one. It then declares
one tag for each such key in the order of the bytes of the keys. Otherwise the
first key at fault is reported with the file. The descriptor of a tag is the one
value of such a key. -/
theorem descriptors_exact (file : Path) :
    (∀ contents members, Json.parse? contents = some (.object members) →
      ((∃ library, Library.ofFile file contents = .ok library) ↔ AllDefine members) ∧
      (∀ error, Library.ofFile file contents = .error error →
        ∃ fault key value name, error = .taglib file fault ∧ (key, value) ∈ members ∧
          Declares key name ∧ Refused name value fault.message ∧
          ∀ other found tag, (other, found) ∈ members → bytes other < bytes key →
            Declares other tag → CanDefine found) ∧
      ∀ library, Library.ofFile file contents = .ok library → LibraryBy file members library) ∧
    ∀ name described alone inside, Json.parse? alone = some (.object described) →
      Json.parse? inside = some (.object [("<" ++ name ++ ">", .object described)]) →
      Library.ofFile file inside = (TagDefinition.ofFile name file alone).map fun definition =>
        ⟨file, [definition], []⟩ := by
  constructor
  · intro contents members parsed
    have sorted := Json.parse_members_sorted parsed
    have readable := library_of_members_iff file members
    have usable := usable_iff_all_define file members
    unfold Library.ofFile
    rw [parse_library_of_members file parsed]
    cases read : libraryOfMembers file members with
    | ok library =>
        obtain ⟨used, rfl⟩ := (readable library).mp read
        refine ⟨iff_of_true ⟨_, rfl⟩ (usable.mp used), ?_, ?_⟩
        · intro error failed
          cases failed
        · intro other same
          cases same
          exact library_with_by sorted used
    | error fault =>
        obtain ⟨key, value, name, member, declares, refused, first⟩ := library_fault sorted read
        refine ⟨iff_of_false ?_ ?_, ?_, ?_⟩
        · intro found
          obtain ⟨library, found⟩ := found
          cases found
        · intro all
          exact refused_not_defining refused (all key value name member declares)
        · intro error same
          cases same
          exact ⟨fault, key, value, name, rfl, member, declares, refused, first⟩
        · intro library found
          cases found
  · intro name described alone inside parsedAlone parsedInside
    unfold Library.ofFile TagDefinition.ofFile
    rw [parse_library_of_members file parsedInside, parse_tag_of_members name file parsedAlone,
      library_of_one_tag]
    cases tagDefinition name file described with
    | error fault => rfl
    | ok definition => rfl

def faultyTag : List (String × Json) := [("autocomplete", .array [.bool true])]

/-- Of two keys at fault the smaller one is reported, wherever it is written. -/
theorem descriptors_exact_two_faults :
    (∃ fault, Library.ofFile (Path.ofText "/marko.json")
        "\x7b\"<b>\":true,\"<a>\":\x7b\"autocomplete\":[true]\x7d\x7d" =
          .error (.taglib (Path.ofText "/marko.json") fault) ∧
      Refused "a" (.object faultyTag) fault.message) ∧
    Library.ofFile (Path.ofText "/marko.json") "\x7b\"<a>\":\x7b\"autocomplete\":[true]\x7d\x7d" =
      (TagDefinition.ofFile "a" (Path.ofText "/marko.json") "\x7b\"autocomplete\":[true]\x7d").map
        fun definition => ⟨Path.ofText "/marko.json", [definition], []⟩ := by
  have alone : Json.parse? "\x7b\"autocomplete\":[true]\x7d" = some (.object faultyTag) := by cbv
  have inside : Json.parse? "\x7b\"<a>\":\x7b\"autocomplete\":[true]\x7d\x7d" =
      some (.object [("<" ++ "a" ++ ">", .object faultyTag)]) := by cbv
  have both : Json.parse? "\x7b\"<b>\":true,\"<a>\":\x7b\"autocomplete\":[true]\x7d\x7d" =
      some (.object [("<a>", .object faultyTag), ("<b>", .bool true)]) := by cbv
  have faulty : ¬ CanDefine (.object faultyTag) := by
    have refused : Refused "a" (.object faultyTag) _ := .examples rfl rfl
    exact refused_not_defining refused
  have declares : Declares "<a>" "a" := Or.inr rfl
  have exact := descriptors_exact (Path.ofText "/marko.json")
  refine ⟨?_, exact.2 "a" faultyTag _ _ alone inside⟩
  obtain ⟨accepted, first, -⟩ := exact.1 _ _ both
  cases read : Library.ofFile (Path.ofText "/marko.json")
      "\x7b\"<b>\":true,\"<a>\":\x7b\"autocomplete\":[true]\x7d\x7d" with
  | ok library =>
      have all := accepted.mp ⟨library, read⟩
      exact absurd (all "<a>" _ "a" List.mem_cons_self declares) faulty
  | error error =>
      obtain ⟨fault, key, value, name, rfl, member, named, refused, earlier⟩ := first error read
      rcases List.mem_cons.mp member with same | member
      · cases same
        have unique : tagOfKey? "<a>" = some "a" := by decide
        rw [(tag_of_key_iff "<a>" name).mpr named] at unique
        cases unique
        exact ⟨fault, rfl, refused⟩
      · cases List.mem_singleton.mp member
        exact absurd (earlier "<a>" _ "a" List.mem_cons_self (by decide) declares) faulty

end TemplateServer.Taglib

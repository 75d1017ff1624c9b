import TemplateServer.Definition
import TemplateServer.Proofs.FileSystem.Spelling
import TemplateServer.Proofs.Text.Offset
import TemplateServer.Proofs.Text.Search

/-!
Where definitions lead. The declaration of an attribute and the definition of a
handler are looked for in one file each. The target is that file, with the range
of the leftmost place that the search is for, or with the start of the file if
there is no such place. The ends of the range lead back to the bytes of the
place.
-/

namespace TemplateServer

namespace FileSystem

variable {files : FileSystem} {path : Path} {contents : String}

/-- A path leads to a file with the bytes of a text. -/
def Holds (files : FileSystem) (path : Path) (contents : String) : Prop :=
  ∃ location, files.resolve path = .ok (location, .file (Text.bytes contents))

theorem read_text_holds : files.readText path = .ok contents ↔ files.Holds path contents := by
  rw [read_text_iff]
  constructor
  · rintro ⟨location, content, resolved, decoded⟩
    rw [Text.decode_some_iff.mp decoded] at resolved
    exact ⟨location, resolved⟩
  · rintro ⟨location, resolved⟩
    exact ⟨location, _, resolved, Text.decode_some_iff.mpr rfl⟩

end FileSystem

namespace Target

open Text

variable {contents : String} {Occurs : Nat → Nat → Prop} {found : Option (Nat × Nat)}

/-- The range that is shown of a file: that of the leftmost place where something
occurs, and the start of the file only if it occurs nowhere. -/
structure Shows (contents : String) (Occurs : Nat → Nat → Prop) (range : Text.Range) : Prop where
  leftmost : (∃ start stop, Occurs start stop) → ∃ start stop, Leftmost Occurs start stop ∧
    offset? contents range.start = some start ∧ offset? contents range.stop = some stop
  start_iff : range = startRange ↔ ¬ ∃ start stop, Occurs start stop

theorem position_of_boundary (short : contents.utf8ByteSize < coordinateLimit) {offset : Nat}
    (boundary : Boundary contents offset) :
    ∃ position, position? contents offset = some position ∧
      offset? contents position = some offset := by
  obtain ⟨before, after, rfl, rfl⟩ := boundary
  exact ⟨positionBehind before, position_at_boundary short, offset_of_position_behind before after⟩

def rangeOf (contents : String) (found : Option (Nat × Nat)) : Text.Range :=
  (found.bind fun (start, stop) => range? contents start stop).getD startRange

/-- A search that finds the leftmost place shows it. -/
theorem shows_found (short : contents.utf8ByteSize < coordinateLimit) (finds : Finds Occurs found)
    (spelled : ∀ start stop, Occurs start stop → SpellsSome contents start stop) :
    Shows contents Occurs (rangeOf contents found) := by
  cases finds with
  | nothing absent =>
      have none : ¬ ∃ start stop, Occurs start stop := fun ⟨start, stop, occurs⟩ =>
        absent start stop occurs
      exact ⟨fun some => absurd some none, iff_of_true rfl none⟩
  | @found start stop leftmost =>
      obtain ⟨opening, closing, positive⟩ :=
        spells_some_bounds (spelled start stop leftmost.occurs)
      obtain ⟨first, firstFound, firstBack⟩ := position_of_boundary short opening
      obtain ⟨last, lastFound, lastBack⟩ := position_of_boundary short closing
      have shown : range? contents start stop = some ⟨first, last⟩ := by
        rw [range?, firstFound, lastFound]
        rfl
      simp only [rangeOf, Option.bind_some, shown, Option.getD_some]
      refine ⟨fun _ => ⟨start, stop, leftmost, firstBack, lastBack⟩, ?_⟩
      refine iff_of_false ?_ (not_not_intro ⟨start, stop, leftmost.occurs⟩)
      intro same
      -- the range ends behind its first byte, so its end is not the start of the file
      have ending : last = ⟨0, 0⟩ := congrArg Text.Range.stop same
      have origin := offset_of_position_behind "" contents
      rw [String.empty_append] at origin
      rw [ending, show (⟨0, 0⟩ : Position) = positionBehind "" from rfl, origin] at lastBack
      cases lastBack
      exact absurd positive (Nat.lt_irrefl _)

section Located

variable {files : FileSystem} {path : Path} {pattern : Pattern} {number : Nat}

theorem located_unreadable (unreadable : ∀ contents, ¬ files.Holds path contents) :
    located? files path pattern number = none := by
  rw [located?]
  cases read : files.readText path with
  | error => rfl
  | ok contents => exact absurd (FileSystem.read_text_holds.mp read) (unreadable contents)

theorem located_held (holds : files.Holds path contents) :
    located? files path pattern number =
      inFile? path (rangeOf contents (pattern.find? number contents)) := by
  rw [located?, FileSystem.read_text_holds.mpr holds]
  rfl

theorem located_none_iff : located? files path pattern number = none ↔
    (∀ contents, ¬ files.Holds path contents) ∨ Url.ofFilePath? path = none := by
  by_cases readable : ∃ contents, files.Holds path contents
  · obtain ⟨contents, holds⟩ := readable
    have given : ¬ ∀ contents, ¬ files.Holds path contents := fun unreadable =>
      unreadable contents holds
    rw [located_held holds, inFile?, Option.map_eq_none_iff, or_iff_right given]
  · have unreadable := not_exists.mp readable
    exact iff_of_true (located_unreadable unreadable) (Or.inl unreadable)

end Located

end Target

namespace Definition

def FirstFile (files : FileSystem) (directory : Path) (names : List String) (file : Path) : Prop :=
  ∃ earlier name later, names = earlier ++ name :: later ∧ file = directory.child name ∧
    files.isFile file = true ∧ ∀ other ∈ earlier, files.isFile (directory.child other) = false

theorem component_file_of_first {files : FileSystem} {directory file : Path} {names : List String}
    (first : FirstFile files directory names file) :
    componentFile? files directory names = some file := by
  obtain ⟨earlier, name, later, rfl, rfl, there, missing⟩ := first
  rw [componentFile?, List.find?_eq_some_iff_append]
  refine ⟨there, earlier.map directory.child, later.map directory.child, ?_, ?_⟩
  · rw [List.map_append, List.map_cons]
  · intro other member
    obtain ⟨listed, inside, rfl⟩ := List.mem_map.mp member
    rw [missing listed inside]
    rfl

theorem child_absolute {directory : Path} (absolute : directory.absolute = true) (name : String) :
    (directory.child name).absolute = true := by
  rw [Path.child]
  cases relative : (Path.ofText name).absolute with
  | false => rw [Path.join_absolute directory relative, absolute]
  | true => rw [Path.join, if_pos relative, relative]

theorem first_file_has_url {files : FileSystem} {directory file : Path} {names : List String}
    (absolute : directory.absolute = true) (first : FirstFile files directory names file) :
    ∃ url, Url.ofFilePath? file = some url := by
  obtain ⟨_, name, _, -, rfl, -⟩ := first
  rw [Url.ofFilePath?, if_pos (child_absolute absolute name)]
  exact ⟨_, rfl⟩

/-- A descriptor and a program, each with wide characters and line feeds. -/
def sampleFiles : FileSystem :=
  { entries :=
      [(["w"], .directory),
        (["w", "marko-tag.json"], .file (Text.bytes "\"é\"\n \"@@x\"")),
        (["w", "index.js"], .file (Text.bytes "xsave(\n😀save\u00a0:"))]
    workingDirectory := ⟨true, []⟩
    configDirectory := none }

/-- A declaration of an attribute is shown in the file that declares it, and only
a missing file, one that is no text, or one without an address has no target. -/
theorem declaration_shown (registry : Registry) (files : FileSystem) (tag name : String) :
    (ofAttribute? registry files tag name = none ↔
      (∀ file, registry.attribute? tag name ≠ some (some file)) ∨
        ∃ file, registry.attribute? tag name = some (some file) ∧
          ((∀ contents, ¬ files.Holds file contents) ∨ Url.ofFilePath? file = none)) ∧
      ∀ file contents url, registry.attribute? tag name = some (some file) →
        files.Holds file contents → Url.ofFilePath? file = some url →
        ∃ range, ofAttribute? registry files tag name = some ⟨url, range⟩ ∧
          (contents.utf8ByteSize < 0x100000000 →
            Target.Shows contents (Text.DeclaredAt contents name) range) := by
  constructor
  · cases declared : registry.attribute? tag name with
    | none => simp [ofAttribute?, declared]
    | some known =>
        cases known with
        | none => simp [ofAttribute?, declared]
        | some file =>
            simp [ofAttribute?, declared, Target.located_none_iff]
  · intro file contents url declared holds addressed
    refine ⟨Target.rangeOf contents ((Text.attributePattern name).find? 0 contents), ?_, ?_⟩
    · rw [ofAttribute?, declared, Option.join_some, Option.bind_some, Target.located_held holds,
        Target.inFile?, addressed, Option.map_some]
    · intro short
      exact Target.shows_found short (Text.find_attribute_finds contents name)
        fun _ _ => Text.declared_spelled

def sampleRegistry : Registry :=
  ⟨fun _ => none, fun _ _ => some (some (Path.ofText "/w/marko-tag.json"))⟩

/-- A name that itself begins with the sign of an attribute, in a second line. -/
theorem declaration_shown_signed :
    sampleFiles.Holds (Path.ofText "/w/marko-tag.json") "\"é\"\n \"@@x\"" ∧
      "\"é\"\n \"@@x\"".utf8ByteSize < 0x100000000 ∧
      ∃ url, Url.ofFilePath? (Path.ofText "/w/marko-tag.json") = some url ∧
        ofAttribute? sampleRegistry sampleFiles "card" "@x" = some ⟨url, ⟨⟨1, 1⟩, ⟨1, 6⟩⟩⟩ ∧
        Target.Shows "\"é\"\n \"@@x\"" (Text.DeclaredAt "\"é\"\n \"@@x\"" "@x")
          ⟨⟨1, 1⟩, ⟨1, 6⟩⟩ := by
  have holds : sampleFiles.Holds (Path.ofText "/w/marko-tag.json") "\"é\"\n \"@@x\"" :=
    ⟨["w", "marko-tag.json"], by decide +kernel⟩
  have short : "\"é\"\n \"@@x\"".utf8ByteSize < 0x100000000 := by decide +kernel
  have shown : (ofAttribute? sampleRegistry sampleFiles "card" "@x").map (·.range) =
      some ⟨⟨1, 1⟩, ⟨1, 6⟩⟩ := by decide +kernel
  obtain ⟨url, addressed⟩ : ∃ url, Url.ofFilePath? (Path.ofText "/w/marko-tag.json") = some url :=
    Option.isSome_iff_exists.mp (by decide +kernel)
  obtain ⟨range, found, shows⟩ :=
    (declaration_shown sampleRegistry sampleFiles "card" "@x").2 _ _ url rfl holds addressed
  rw [found, Option.map_some, Option.some.injEq] at shown
  subst shown
  exact ⟨holds, short, url, addressed, found, shows short⟩

/-- The definition of a handler is shown in the first listed file that stands next
to the document, if that is a text. -/
theorem handler_shown (files : FileSystem) (directory : Path) (absolute : directory.absolute = true)
    (names : List String) (handler : String) :
    ((∀ name ∈ names, files.isFile (directory.child name) = false) →
      ofHandler? files directory names handler = none) ∧
      ∀ file, FirstFile files directory names file →
        ((∀ contents, ¬ files.Holds file contents) →
          ofHandler? files directory names handler = none) ∧
        ∀ contents, files.Holds file contents →
          ∃ url range, Url.ofFilePath? file = some url ∧
            ofHandler? files directory names handler = some ⟨url, range⟩ ∧
            (contents.utf8ByteSize < 0x100000000 →
              Target.Shows contents (Text.DefinedAt contents handler) range) := by
  constructor
  · intro missing
    have nothing : componentFile? files directory names = none := by
      rw [componentFile?, List.find?_eq_none]
      intro file member
      obtain ⟨name, listed, rfl⟩ := List.mem_map.mp member
      rw [missing name listed]
      exact Bool.false_ne_true
    rw [ofHandler?, nothing, Option.bind_none]
  · intro file first
    rw [ofHandler?, component_file_of_first first, Option.bind_some]
    refine ⟨Target.located_unreadable, ?_⟩
    intro contents holds
    obtain ⟨url, addressed⟩ := first_file_has_url absolute first
    refine ⟨url, Target.rangeOf contents ((Text.handlerPattern handler).find? 1 contents),
      addressed, ?_, ?_⟩
    · rw [Target.located_held holds, Target.inFile?, addressed, Option.map_some]
    · intro short
      exact Target.shows_found short (Text.find_handler_finds contents handler)
        fun _ _ => Text.defined_spelled

/-- A handler of the second listed file, which follows a longer name that ends
like it and stands behind a character of two code units. -/
theorem handler_shown_second_file :
    (Path.ofText "/w").absolute = true ∧
      FirstFile sampleFiles (Path.ofText "/w") ["component.js", "index.js"]
        (Path.ofText "/w/index.js") ∧
      sampleFiles.Holds (Path.ofText "/w/index.js") "xsave(\n😀save\u00a0:" ∧
      "xsave(\n😀save\u00a0:".utf8ByteSize < 0x100000000 ∧
      ∃ url, ofHandler? sampleFiles (Path.ofText "/w") ["component.js", "index.js"] "save" =
          some ⟨url, ⟨⟨1, 2⟩, ⟨1, 8⟩⟩⟩ ∧
        Target.Shows "xsave(\n😀save\u00a0:" (Text.DefinedAt "xsave(\n😀save\u00a0:" "save")
          ⟨⟨1, 2⟩, ⟨1, 8⟩⟩ := by
  have absolute : (Path.ofText "/w").absolute = true := by decide +kernel
  have first : FirstFile sampleFiles (Path.ofText "/w") ["component.js", "index.js"]
      (Path.ofText "/w/index.js") :=
    ⟨["component.js"], "index.js", [], rfl, by decide +kernel, by decide +kernel,
      by decide +kernel⟩
  have holds : sampleFiles.Holds (Path.ofText "/w/index.js") "xsave(\n😀save\u00a0:" :=
    ⟨["w", "index.js"], by decide +kernel⟩
  have short : "xsave(\n😀save\u00a0:".utf8ByteSize < 0x100000000 := by decide +kernel
  have shown : (ofHandler? sampleFiles (Path.ofText "/w") ["component.js", "index.js"] "save").map
      (·.range) = some ⟨⟨1, 2⟩, ⟨1, 8⟩⟩ := by decide +kernel
  obtain ⟨url, range, -, found, shows⟩ := ((handler_shown sampleFiles (Path.ofText "/w") absolute
    ["component.js", "index.js"] "save").2 _ first).2 _ holds
  rw [found, Option.map_some, Option.some.injEq] at shown
  subst shown
  exact ⟨absolute, first, holds, short, url, found, shows short⟩

end Definition

end TemplateServer

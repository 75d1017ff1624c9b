import TemplateServer.Proofs.FileSystem.Spelling
import TemplateServer.Proofs.Server.Calls
import TemplateServer.Proofs.Text.Boundary

/-!
What the server asks its client to watch. It registers patterns for the files that
the tags of a project come from, so every report of such a file was asked for. It
also works its settings out anew when its settings file is reported, but registers
no pattern that this file fits.
-/

namespace TemplateServer

namespace Glob

abbrev star : UInt8 := 0x2A
abbrev slash : UInt8 := 0x2F

/-- Whether a name fits one piece of a pattern. A star stands for any run of bytes
without a slash, and every other byte for itself. -/
def fitsName : List UInt8 → List UInt8 → Bool
  | [], name => name.isEmpty
  | byte :: pattern, name =>
      if byte = star then
        (List.range ((name.takeWhile (· != slash)).length + 1)).any fun count =>
          fitsName pattern (name.drop count)
      else name.head? == some byte && fitsName pattern name.tail

/-- Whether the names along a path fit the pieces of a pattern. Two stars stand for
any number of names. -/
def fitsNames : List (List UInt8) → List (List UInt8) → Bool
  | [], names => names.isEmpty
  | piece :: pattern, names =>
      if piece = [star, star] then
        (List.range (names.length + 1)).any fun count => fitsNames pattern (names.drop count)
      else names.head?.any (fitsName piece) && fitsNames pattern names.tail

/-- Whether a path fits a pattern. Only what the pieces of the path name counts, not
how it is spelled. -/
def fits (pattern : String) (path : Path) : Bool :=
  fitsNames (Text.pieces slash (Text.bytes pattern)) ((Path.named path.pieces).map PathPiece.bytes)

theorem fits_name_literal {pattern : List UInt8} (literal : star ∉ pattern) (name : List UInt8) :
    fitsName pattern name = true ↔ name = pattern := by
  induction pattern generalizing name with
  | nil => rw [fitsName, List.isEmpty_iff]
  | cons byte pattern induction =>
      rw [List.mem_cons, not_or] at literal
      rw [fitsName, if_neg (Ne.symm literal.1)]
      cases name with
      | nil => simp
      | cons first rest =>
          rw [List.head?_cons, List.tail_cons, Bool.and_eq_true, beq_iff_eq, Option.some.injEq,
            induction literal.2, List.cons.injEq]

theorem fits_name_ending {ending : List UInt8} (literal : star ∉ ending) {name : List UInt8}
    (whole : slash ∉ name) :
    fitsName (star :: ending) name = true ↔ ∃ run, name = run ++ ending := by
  have all : name.takeWhile (· != slash) = name := by
    have member : ∀ byte ∈ name, (byte != slash) = true := by
      intro byte member
      rw [bne_iff_ne]
      exact fun same => whole (same ▸ member)
    have unended := @List.takeWhile_append_of_pos _ _ name [] member
    rwa [List.append_nil, List.takeWhile_nil, List.append_nil] at unended
  rw [fitsName, if_pos rfl, all, List.any_eq_true]
  constructor
  · rintro ⟨count, -, fitting⟩
    rw [fits_name_literal literal] at fitting
    exact ⟨name.take count, by rw [← fitting, List.take_append_drop]⟩
  · rintro ⟨run, rfl⟩
    refine ⟨run.length, ?_, ?_⟩
    · rw [List.mem_range, List.length_append]
      omega
    · rw [List.drop_left, fits_name_literal literal]

/-- A pattern for files in any directory looks at the last name only. -/
theorem fits_names_anywhere {piece : List UInt8} (single : piece ≠ [star, star])
    (names : List (List UInt8)) :
    fitsNames [[star, star], piece] names = true ↔
      ∃ name, names.getLast? = some name ∧ fitsName piece name = true := by
  rw [fitsNames, if_pos rfl, List.any_eq_true]
  constructor
  · rintro ⟨count, -, fitting⟩
    rw [fitsNames, if_neg single] at fitting
    cases left : names.drop count with
    | nil => simp [left] at fitting
    | cons name rest =>
        rw [left, List.head?_cons, Option.any_some, List.tail_cons, Bool.and_eq_true, fitsNames,
          List.isEmpty_iff] at fitting
        obtain ⟨fitting, rfl⟩ := fitting
        refine ⟨name, ?_, fitting⟩
        rw [← List.take_append_drop count names, left, List.getLast?_concat]
  · rintro ⟨name, last, fitting⟩
    obtain ⟨leading, rfl⟩ := List.getLast?_eq_some_iff.mp last
    refine ⟨leading.length, ?_, ?_⟩
    · rw [List.mem_range, List.length_append]
      omega
    · rw [List.drop_left, fitsNames, if_neg single]
      simp [fitting, fitsNames]

/-- A pattern for a file in any directory looks at what the path names last. -/
theorem fits_anywhere {file : String} (unsliced : slash ∉ Text.bytes file)
    (single : Text.bytes file ≠ [star, star]) (path : Path) :
    fits ("**/" ++ file) path = true ↔
      ∃ piece, (Path.named path.pieces).getLast? = some piece ∧
        fitsName (Text.bytes file) piece.bytes = true := by
  have front : Text.bytes "**/" = [star, star, slash] := by decide
  have cut : Text.pieces slash (Text.bytes ("**/" ++ file)) = [[star, star], Text.bytes file] := by
    rw [Text.bytes_append, front]
    have different : star ≠ slash := by decide
    simp [Text.pieces, pieces_of_absent unsliced, different]
  rw [fits, cut, fits_names_anywhere single, List.getLast?_map]
  simp only [Option.map_eq_some_iff, exists_exists_and_eq_and]

end Glob

namespace Path

theorem file_name_named {path : Path} {piece : PathPiece} (called : path.fileName? = some piece) :
    (named path.pieces).getLast? = some piece := by
  have last : (trimmed path.pieces).getLast? = some piece := by
    rw [fileName?] at called
    split at called
    · cases called
    · exact called
  obtain ⟨front, split⟩ := List.getLast?_eq_some_iff.mp last
  -- what is left at the end after the idle pieces are gone is not idle itself
  have kept : isIdle piece = false := by
    have again := trimmed_trimmed path.pieces
    cases idle : isIdle piece with
    | false => rfl
    | true =>
        rw [split, trimmed_idle idle] at again
        have shorter := length_trimmed_le front
        rw [again, List.length_append, List.length_singleton] at shorter
        omega
  rw [← named_trimmed, split, named_append]
  simp [named, kept]

end Path

theorem PathPiece.bytes_of_bytes (source : List UInt8) :
    (PathPiece.ofBytes source).bytes = source := by
  rw [PathPiece.ofBytes]
  split
  · rename_i text decoded
    exact (Text.decode_some_iff.mp decoded).symm
  · rfl

theorem Path.of_bytes_slash_free {spelled : List UInt8} {piece : PathPiece}
    (member : piece ∈ (Path.ofBytes spelled).pieces) : Glob.slash ∉ piece.bytes := by
  have cut : ∀ source, piece ∈ (Text.pieces 0x2F source).map PathPiece.ofBytes →
      Glob.slash ∉ piece.bytes := by
    intro source found
    obtain ⟨part, present, rfl⟩ := List.mem_map.mp found
    rw [PathPiece.bytes_of_bytes]
    exact separator_absent part present
  rw [Path.ofBytes.eq_def] at member
  split at member
  · cases member
  · cases member
  · exact cut _ member
  · exact cut _ member

/-- An extension is what follows a dot at the end of a name. -/
theorem PathPiece.bytes_of_extension {piece : PathPiece} {ending : String}
    (found : piece.extension? = some (.name ending)) :
    ∃ front, piece.bytes = front ++ 0x2E :: Text.bytes ending := by
  have split := List.takeWhile_append_dropWhile (p := (· != 0x2E)) (l := piece.bytes.reverse)
  have dropped : piece.bytes.reverse.drop (piece.bytes.reverse.takeWhile (· != 0x2E)).length =
      piece.bytes.reverse.dropWhile (· != 0x2E) := by
    conv => lhs; arg 2; rw [← split]
    exact List.drop_left
  have first := List.head?_dropWhile_not (· != 0x2E) piece.bytes.reverse
  simp only [extension?, dropped] at found
  cases behind : piece.bytes.reverse.dropWhile (· != 0x2E) with
  | nil => simp [behind] at found
  | cons dot front =>
      rw [behind] at found first split
      have spelled : (piece.bytes.reverse.takeWhile (· != 0x2E)).reverse = Text.bytes ending := by
        split at found
        · cases found
        · cases found
        · rw [Option.some.injEq] at found
          rw [← bytes_of_bytes (List.reverse _), found]
          rfl
      have isDot : dot = 0x2E := by simpa using first
      refine ⟨front.reverse, ?_⟩
      rw [← List.reverse_reverse piece.bytes, ← split, List.reverse_append, List.reverse_cons,
        spelled, isDot, List.append_assoc, List.singleton_append]

namespace Server

def Registered (path : Path) : Prop :=
  ∃ patterns, ClientMessage.watchFiles patterns ∈ initialized ∧
    ∃ pattern ∈ patterns, Glob.fits pattern path = true

instance (path : Path) : Decidable (Registered path) :=
  decidable_of_iff (∃ pattern ∈ watchedPatterns, Glob.fits pattern path = true) <| by
    simp [Registered, initialized]

def registeredFiles : List String :=
  [Taglib.libraryFileName, Taglib.tagFileName, Taglib.packageFileName, "*.marko"]

theorem registered_iff (path : Path) :
    Registered path ↔ ∃ file ∈ registeredFiles, ∃ piece,
      (Path.named path.pieces).getLast? = some piece ∧
        Glob.fitsName (Text.bytes file) piece.bytes = true := by
  have proper : ∀ file ∈ registeredFiles,
      Glob.slash ∉ Text.bytes file ∧ Text.bytes file ≠ [Glob.star, Glob.star] := by decide
  constructor
  · rintro ⟨patterns, sent, pattern, member, fitting⟩
    have same : patterns = registeredFiles.map ("**/" ++ ·) := by
      have given : patterns = watchedPatterns := by simpa [initialized] using sent
      exact given
    rw [same] at member
    obtain ⟨file, listed, rfl⟩ := List.mem_map.mp member
    obtain ⟨unsliced, single⟩ := proper file listed
    exact ⟨file, listed, (Glob.fits_anywhere unsliced single path).mp fitting⟩
  · rintro ⟨file, listed, last⟩
    obtain ⟨unsliced, single⟩ := proper file listed
    exact ⟨watchedPatterns, List.mem_cons_self, _, List.mem_map_of_mem listed,
      (Glob.fits_anywhere unsliced single path).mpr last⟩

theorem registered_by_name {path : Path} {file : String} (listed : file ∈ registeredFiles)
    (literal : Glob.star ∉ Text.bytes file) (called : path.fileName? = some (.name file)) :
    Registered path := by
  rw [registered_iff]
  exact ⟨file, listed, _, Path.file_name_named called,
    (Glob.fits_name_literal literal _).mpr rfl⟩

theorem template_registered {spelled : List UInt8}
    (found : (Path.ofBytes spelled).extension? = some (.name "marko")) :
    Registered (Path.ofBytes spelled) := by
  obtain ⟨piece, called, extension⟩ := Option.bind_eq_some_iff.mp found
  have last := Path.file_name_named called
  have member : piece ∈ (Path.ofBytes spelled).pieces :=
    (List.mem_filter.mp (List.mem_of_getLast? last)).1
  obtain ⟨front, ending⟩ := PathPiece.bytes_of_extension extension
  rw [registered_iff]
  refine ⟨"*.marko", by decide, piece, last, ?_⟩
  have pattern : Text.bytes "*.marko" = Glob.star :: 0x2E :: Text.bytes "marko" := by decide
  rw [pattern, Glob.fits_name_ending (by decide) (Path.of_bytes_slash_free member)]
  exact ⟨front, ending⟩

theorem source_registered {spelled : List UInt8}
    (source : isTaglibSource (Path.ofBytes spelled) = true) :
    Registered (Path.ofBytes spelled) := by
  simp only [isTaglibSource, Bool.or_eq_true, beq_iff_eq, Option.any_eq_true] at source
  rcases source with ⟨piece, called, (rfl | rfl) | rfl⟩ | template
  · exact registered_by_name (by decide) (by decide) called
  · exact registered_by_name (by decide) (by decide) called
  · exact registered_by_name (by decide) (by decide) called
  · exact template_registered template

theorem config_unregistered {path : Path} (config : IsConfigPath path) : ¬ Registered path := by
  have apart : ∀ file ∈ registeredFiles,
      Glob.fitsName (Text.bytes file) (Text.bytes configFileName) = false := by decide
  rw [registered_iff]
  rintro ⟨file, listed, piece, last, fitting⟩
  rw [Path.file_name_named config, Option.some.injEq] at last
  subst last
  rw [PathPiece.bytes, apart file listed] at fitting
  cases fitting

theorem path_of_uri_spelled {uri : String} {path : Path} (given : pathOfUri? uri = some path) :
    ∃ spelled, path = Path.ofBytes spelled := by
  obtain ⟨url, -, found⟩ := Option.bind_eq_some_iff.mp given
  rw [Url.filePath?] at found
  split at found
  · split at found
    · cases found
      exact ⟨_, rfl⟩
    · cases found
  · cases found

/-- What the server reacts to it has asked for, with the exception of its settings
file. A file that it reacts to fits a registered pattern exactly when it is not a
settings file, and a report of files that fit none and are no settings files is
passed over. -/
theorem reactions_registered (spelled : List UInt8) (server : Server) (files : FileSystem)
    (uris : List String) :
    (isTaglibSource (Path.ofBytes spelled) = true ∨ IsConfigPath (Path.ofBytes spelled) →
        (Registered (Path.ofBytes spelled) ↔ ¬ IsConfigPath (Path.ofBytes spelled))) ∧
      ((∀ uri ∈ uris, ∀ path, pathOfUri? uri = some path →
          ¬ Registered path ∧ ¬ IsConfigPath path) →
        didChangeWatchedFiles server files uris = (server, [])) := by
  constructor
  · intro reacts
    constructor
    · intro registered config
      exact config_unregistered config registered
    · intro ordinary
      exact source_registered (reacts.resolve_right ordinary)
  · intro unregistered
    apply watched_silent
    rintro ⟨uri, listed, path, given, source | config⟩
    · obtain ⟨spelled, rfl⟩ := path_of_uri_spelled given
      exact (unregistered uri listed _ given).1 (source_registered source)
    · exact (unregistered uri listed path given).2 config

def configuredWorkspace : FileSystem :=
  { entries := [(["w"], .directory),
      (["w", "marko-ls.toml"], .file (Text.bytes "tagsDirs = [\"ui\"]"))]
    workingDirectory := ⟨true, []⟩
    configDirectory := none }

def startingServer : Server := { initial with root := some (Path.ofText "/w") }

theorem reactions_registered_template :
    Registered (Path.ofBytes (Text.bytes "/w/.cache/a.b.marko")) ∧
      ¬ Registered (Path.ofBytes (Text.bytes "/w/marko-ls.toml")) ∧
      didChangeWatchedFiles initial configuredWorkspace ["file:///w/notes.txt"] =
        (initial, []) := by
  have template := reactions_registered (Text.bytes "/w/.cache/a.b.marko") initial
    configuredWorkspace ["file:///w/notes.txt"]
  have settings := reactions_registered (Text.bytes "/w/marko-ls.toml") initial
    configuredWorkspace []
  have config : IsConfigPath (Path.ofBytes (Text.bytes "/w/marko-ls.toml")) :=
    (is_config_file_iff _).mp (by decide +kernel)
  refine ⟨?_, ?_, ?_⟩
  · refine (template.1 (Or.inl (by decide +kernel))).mpr ?_
    rw [← is_config_file_iff]
    decide +kernel
  · intro registered
    exact (settings.1 (Or.inr config)).mp registered config
  · apply template.2
    intro uri listed path given
    rw [List.mem_singleton.mp listed] at given
    have named : pathOfUri? "file:///w/notes.txt" = some (Path.ofText "/w/notes.txt") := by
      decide +kernel
    rw [named] at given
    cases given
    exact ⟨by decide +kernel, by rw [← is_config_file_iff]; decide +kernel⟩

/-- The server reads the settings of its workspace again when their file is reported,
but that file fits no pattern that it registers. -/
theorem settings_file_unregistered :
    (Path.ofText "/w/marko-ls.toml").absolute = true ∧
      isConfigFile (Path.ofText "/w/marko-ls.toml") = true ∧
      startingServer.settings.tagsDirs = ["components"] ∧
      (startingServer.didChangeWatchedFiles configuredWorkspace
        ["file:///w/marko-ls.toml"]).1.settings.tagsDirs = ["ui"] ∧
      ¬ Registered (Path.ofText "/w/marko-ls.toml") := by
  decide +kernel

end Server

end TemplateServer

import Mathlib.Algebra.GroupWithZero.Nat
import TemplateServer.FileSystem
import TemplateServer.Proofs.Dictionary

/-!
From paths to locations. A path is followed piece by piece, so what a path leads
to is what its last piece adds to where the rest leads. Every location above the
one that is reached is a directory.
-/

namespace TemplateServer

/-- A name that adds itself to a location. -/
structure ProperName (name : String) : Prop where
  not_idle : Path.isIdle (.name name) = false
  not_up : name ≠ ".."
  no_slash : '/' ∉ name.toList

theorem pieces_of_absent {Item : Type} [DecidableEq Item] {separator : Item} {items : List Item}
    (absent : separator ∉ items) : Text.pieces separator items = [items] := by
  induction items with
  | nil => rfl
  | cons item items induction =>
      rw [List.mem_cons, not_or] at absent
      rw [Text.pieces, if_neg (Ne.symm absent.1), induction absent.2]

theorem pieces_ne_nil {Item : Type} [DecidableEq Item] (separator : Item) (items : List Item) :
    Text.pieces separator items ≠ [] := by
  cases items with
  | nil => exact List.cons_ne_nil _ _
  | cons item items =>
      unfold Text.pieces
      split
      · exact List.cons_ne_nil _ _
      · split
        · exact List.cons_ne_nil _ _
        · exact List.cons_ne_nil _ _

theorem separator_absent {Item : Type} [DecidableEq Item] {separator : Item} {items : List Item} :
    ∀ piece ∈ Text.pieces separator items, separator ∉ piece := by
  induction items with
  | nil => simp [Text.pieces]
  | cons item items induction =>
      rw [Text.pieces]
      split
      · rw [List.forall_mem_cons]
        exact ⟨List.not_mem_nil, induction⟩
      · rename_i different
        split
        · simp [Ne.symm different]
        · rename_i first later split
          rw [split, List.forall_mem_cons] at induction
          rw [List.forall_mem_cons, List.mem_cons, not_or]
          exact ⟨⟨Ne.symm different, induction.1⟩, induction.2⟩

namespace Path

theorem of_text_proper {name : String} (proper : ProperName name) :
    ofText name = ⟨false, [.name name]⟩ := by
  have whole : Text.split '/' name = [name] := by
    rw [Text.split, pieces_of_absent proper.no_slash, List.map_singleton, String.ofList_toList]
  have slash := proper.no_slash
  rw [ofText]
  split
  · rename_i empty
    have idle := proper.not_idle
    rw [String.toList_eq_nil_iff.mp empty] at idle
    cases idle
  · rename_i spelled
    simp [spelled] at slash
  · rename_i rest _ spelled
    simp [spelled] at slash
  · rw [whole, List.map_singleton]

theorem of_text_given {text : String} (spelled : text ≠ "") :
    (ofText text).absolute = true ∨ (ofText text).pieces ≠ [] := by
  unfold ofText
  split
  · rename_i empty
    exact absurd (String.toList_eq_nil_iff.mp empty) spelled
  · exact Or.inl rfl
  · exact Or.inl rfl
  · apply Or.inr
    unfold Text.split
    rw [ne_eq, List.map_eq_nil_iff, List.map_eq_nil_iff]
    exact pieces_ne_nil _ _

/-- A path that is extended by a text is given. -/
theorem child_given (path : Path) {name : String} (spelled : name ≠ "") :
    (path.child name).absolute = true ∨ (path.child name).pieces ≠ [] := by
  unfold child join
  rcases of_text_given spelled with absolute | pieces
  · rw [if_pos absolute]
    exact Or.inl absolute
  · split
    · exact Or.inr pieces
    · apply Or.inr
      split
      · exact pieces
      · split
        · exact List.append_ne_nil_of_right_ne_nil _ pieces
        · exact List.append_ne_nil_of_right_ne_nil _ pieces

/-- The path of an entry of a directory: its name takes the place of the empty
piece behind a last slash, or stands behind all pieces. -/
theorem child_proper (path : Path) {name : String} (proper : ProperName name) :
    ∃ front, path.child name = ⟨path.absolute, front ++ [.name name]⟩ ∧
      (path.pieces = front ∨ path.pieces = front ++ [.name ""]) := by
  rw [child, join, of_text_proper proper, if_neg Bool.false_ne_true]
  split
  · rename_i empty
    exact ⟨[], rfl, Or.inl empty⟩
  · split
    · rename_i slash
      obtain ⟨front, pieces⟩ := List.getLast?_eq_some_iff.mp slash
      refine ⟨front, ?_, Or.inr pieces⟩
      rw [if_neg (List.cons_ne_nil _ _), pieces, List.dropLast_concat]
    · refine ⟨path.pieces, ?_, Or.inl rfl⟩
      rw [if_neg (List.cons_ne_nil _ _)]

theorem trimmed_named {piece : PathPiece} (named : isIdle piece = false)
    (front : List PathPiece) : trimmed (front ++ [piece]) = front ++ [piece] := by
  rw [trimmed, List.reverse_concat, List.dropWhile_cons, if_neg (by simp [named]),
    ← List.reverse_concat, List.reverse_reverse]

theorem size_eq_sum (path : Path) :
    path.size = (path.pieces.map fun piece => piece.bytes.length).sum +
      (path.pieces.length - 1) + (if path.absolute then 1 else 0) := by
  have fold : ∀ (pieces : List PathPiece) (start : Nat),
      pieces.foldl (fun total piece => total + piece.bytes.length) start =
        (pieces.map fun piece => piece.bytes.length).sum + start := by
    intro pieces
    induction pieces with
    | nil => simp
    | cons piece rest induction =>
        intro start
        rw [List.foldl_cons, induction, List.map_cons, List.sum_cons]
        omega
  rw [size, fold]

theorem size_le_child (path : Path) {name : String}
    (relative : (ofText name).absolute = false) : path.size ≤ (path.child name).size := by
  rw [child, join, if_neg (by simp [relative])]
  split
  · rename_i empty
    simp only [size_eq_sum, empty, List.map_nil, List.sum_nil, List.length_nil]
    omega
  · split
    · -- what is joined takes the place of the empty piece behind a last slash
      rename_i slash
      obtain ⟨front, pieces⟩ := List.getLast?_eq_some_iff.mp slash
      split
      · exact Nat.le_refl _
      · rename_i given
        have longer := List.length_pos_iff.mpr given
        have nothing : (PathPiece.name "").bytes.length = 0 := by decide
        simp only [size_eq_sum, pieces, List.dropLast_concat, List.map_append, List.sum_append,
          List.length_append, List.map_singleton, List.sum_singleton, nothing,
          List.length_singleton]
        omega
    · simp only [size_eq_sum, List.map_append, List.sum_append, List.length_append]
      omega

end Path

namespace FileSystem

variable (files : FileSystem)

def follow (location : List String) (piece : PathPiece) : Except IoError (List String) :=
  match files.entryAt? location with
  | none => .error .notFound
  | some (.file _) => .error .notDirectory
  | some .directory =>
      if Path.isIdle piece then .ok location
      else if piece = .name ".." then .ok location.dropLast
      else if greatestName < piece.bytes.length then .error .nameTooLong
      else
        match piece with
        | .name text => .ok (location ++ [text])
        | .raw _ => .error .notFound

theorem walk_cons (location : List String) (piece : PathPiece) (rest : List PathPiece) :
    files.walk location (piece :: rest) =
      files.follow location piece >>= fun next => files.walk next rest := by
  cases found : files.entryAt? location with
  | none => simp only [walk, follow, found, bind, Except.bind]
  | some entry =>
      cases entry with
      | file content => simp only [walk, follow, found, bind, Except.bind]
      | directory =>
          simp only [walk, follow, found]
          split
          · rfl
          · split
            · rfl
            · split
              · rfl
              · cases piece with
                | name text => rfl
                | raw bytes => rfl

theorem walk_append (start : List String) (front back : List PathPiece) :
    files.walk start (front ++ back) =
      files.walk start front >>= fun next => files.walk next back := by
  induction front generalizing start with
  | nil => rfl
  | cons piece front induction =>
      rw [List.cons_append, walk_cons, walk_cons]
      cases files.follow start piece with
      | error cause => rfl
      | ok next => exact induction next

theorem walk_append_ok {start last : List String} {front back : List PathPiece}
    (walked : files.walk start (front ++ back) = .ok last) :
    ∃ next, files.walk start front = .ok next ∧ files.walk next back = .ok last := by
  rw [walk_append] at walked
  cases first : files.walk start front with
  | error cause =>
      rw [first] at walked
      cases walked
  | ok next =>
      rw [first] at walked
      exact ⟨next, rfl, walked⟩

theorem walk_singleton (location : List String) (piece : PathPiece) :
    files.walk location [piece] = files.follow location piece := by
  rw [walk_cons]
  cases files.follow location piece with
  | error cause => rfl
  | ok next => rfl

/-- What one piece can do: it stays, goes up, or adds a name. -/
theorem follow_cases {location next : List String} {piece : PathPiece}
    (followed : files.follow location piece = .ok next) :
    files.entryAt? location = some .directory ∧
      (Path.isIdle piece = true ∧ next = location ∨
        piece = .name ".." ∧ next = location.dropLast ∨
        ∃ name, piece = .name name ∧ Path.isIdle piece = false ∧ name ≠ ".." ∧
          next = location ++ [name]) := by
  rw [follow.eq_def] at followed
  split at followed
  · cases followed
  · cases followed
  · rename_i directory
    refine ⟨directory, ?_⟩
    split at followed
    · rename_i idle
      cases followed
      exact Or.inl ⟨idle, rfl⟩
    · rename_i named
      split at followed
      · rename_i up
        cases followed
        exact Or.inr (Or.inl ⟨up, rfl⟩)
      · rename_i down
        split at followed
        · cases followed
        · split at followed
          · cases followed
            refine Or.inr (Or.inr ⟨_, rfl, Bool.eq_false_iff.mpr named, ?_, rfl⟩)
            rintro rfl
            exact down rfl
          · cases followed

theorem follow_proper {location next : List String} {name : String} (proper : ProperName name)
    (followed : files.follow location (.name name) = .ok next) :
    files.entryAt? location = some .directory ∧ next = location ++ [name] := by
  obtain ⟨directory, step⟩ := files.follow_cases followed
  rcases step with ⟨idle, -⟩ | ⟨up, -⟩ | ⟨other, same, -, -, rfl⟩
  · rw [proper.not_idle] at idle
    cases idle
  · cases up
    exact absurd rfl proper.not_up
  · cases same
    exact ⟨directory, rfl⟩

/-- Every location above this one is a directory. -/
def Reached (location : List String) : Prop :=
  ∀ above, above <+: location → above ≠ location → files.entryAt? above = some .directory

theorem reached_root : files.Reached [] := by
  intro above inside different
  exact absurd (List.prefix_nil.mp inside) different

theorem reached_follow {location next : List String} {piece : PathPiece}
    (reached : files.Reached location) (followed : files.follow location piece = .ok next) :
    files.Reached next := by
  obtain ⟨directory, step⟩ := files.follow_cases followed
  rcases step with ⟨-, rfl⟩ | ⟨-, rfl⟩ | ⟨name, -, -, -, rfl⟩
  · exact reached
  · intro above inside different
    have within := inside.trans (List.dropLast_prefix location)
    refine reached above within ?_
    rintro rfl
    exact different (inside.eq_of_length_le (List.dropLast_prefix _).length_le)
  · intro above inside different
    rcases List.prefix_concat_iff.mp inside with whole | within
    · exact absurd whole different
    · by_cases same : above = location
      · rw [same]
        exact directory
      · exact reached above within same

theorem reached_walk {location last : List String} {pieces : List PathPiece}
    (reached : files.Reached location) (walked : files.walk location pieces = .ok last) :
    files.Reached last := by
  induction pieces generalizing location with
  | nil =>
      cases walked
      exact reached
  | cons piece pieces induction =>
      rw [walk_cons] at walked
      cases first : files.follow location piece with
      | error cause =>
          rw [first] at walked
          cases walked
      | ok next =>
          rw [first] at walked
          exact induction (files.reached_follow reached first) walked

def piecesFromRoot (path : Path) : List PathPiece :=
  if path.absolute then path.pieces else files.workingDirectory.pieces ++ path.pieces

/-- The location that a path names, whether or not anything is there. -/
def locate (path : Path) : Except IoError (List String) :=
  files.walk [] (files.piecesFromRoot path)

theorem resolve_ok_iff (path : Path) (location : List String) (entry : FileEntry) :
    files.resolve path = .ok (location, entry) ↔
      (path.absolute = true ∨ path.pieces ≠ []) ∧ path.size ≤ greatestPath ∧
        files.locate path = .ok location ∧ files.entryAt? location = some entry := by
  have given : (path.absolute = true ∨ path.pieces ≠ []) ↔
      ¬ (!path.absolute && path.pieces.isEmpty) = true := by
    cases path.absolute with
    | true => simp
    | false => simp
  rw [given, resolve, locate, piecesFromRoot]
  by_cases empty : (!path.absolute && path.pieces.isEmpty) = true
  · rw [if_pos empty]
    simp [empty, throw, throwThe, MonadExceptOf.throw, bind, Except.bind]
  · rw [if_neg empty]
    by_cases long : greatestPath < path.size
    · simp [empty, long, Nat.not_le.mpr long, throw, throwThe, MonadExceptOf.throw, bind,
        Except.bind]
    · simp only [if_neg long, empty, Nat.not_lt.mp long, true_and]
      cases files.walk [] _ with
      | error cause => simp [bind, Except.bind]
      | ok next =>
          simp only [bind, Except.bind, Except.ok.injEq, Bool.false_eq_true, not_false_eq_true,
            true_and]
          cases found : files.entryAt? next with
          | none =>
              constructor
              · intro failed
                cases failed
              · rintro ⟨rfl, there⟩
                rw [found] at there
                cases there
          | some other =>
              constructor
              · intro done
                cases done
                exact ⟨rfl, found⟩
              · rintro ⟨rfl, there⟩
                rw [found] at there
                cases there
                rfl

theorem is_file_iff (path : Path) :
    files.isFile path = true ↔
      ∃ location content, files.resolve path = .ok (location, .file content) := by
  rw [isFile]
  split
  · rename_i location content resolved
    exact ⟨fun _ => ⟨location, content, resolved⟩, fun _ => rfl⟩
  · rename_i other
    refine ⟨fun found => Bool.noConfusion found, fun found => ?_⟩
    obtain ⟨location, content, resolved⟩ := found
    exact absurd resolved (other location content)

theorem is_directory_iff (path : Path) :
    files.isDirectory path = true ↔
      ∃ location, files.resolve path = .ok (location, .directory) := by
  rw [isDirectory]
  split
  · rename_i location resolved
    exact ⟨fun _ => ⟨location, resolved⟩, fun _ => rfl⟩
  · rename_i other
    refine ⟨fun found => Bool.noConfusion found, fun found => ?_⟩
    obtain ⟨location, resolved⟩ := found
    exact absurd resolved (other location)

theorem read_text_iff (path : Path) (text : String) :
    files.readText path = .ok text ↔
      ∃ location content, files.resolve path = .ok (location, .file content) ∧
        Text.decode? content = some text := by
  rw [readText]
  cases resolved : files.resolve path with
  | error cause => simp [bind, Except.bind]
  | ok found =>
      obtain ⟨location, entry⟩ := found
      cases entry with
      | directory => simp [bind, Except.bind, throw, throwThe, MonadExceptOf.throw]
      | file content =>
          simp only [bind, Except.bind]
          cases decoded : Text.decode? content with
          | none => simp [decoded, throw, throwThe, MonadExceptOf.throw]
          | some spelled => simp [decoded, pure, Except.pure]

theorem name_below_iff (directory location : List String) (name : String) :
    nameBelow? directory location = some name ↔ location = directory ++ [name] := by
  rw [nameBelow?]
  constructor
  · intro below
    split at below
    · rename_i inside
      obtain ⟨front, rfl⟩ := List.getLast?_eq_some_iff.mp below
      rw [List.dropLast_concat] at inside
      rw [eq_of_beq inside]
    · cases below
  · intro same
    rw [same, List.dropLast_concat, beq_self_eq_true, if_pos rfl, List.getLast?_concat]

/-- The names in a directory are those at which something stands below it. -/
theorem mem_list_iff {path : Path} {names : List String} (listed : files.list? path = some names) :
    ∃ location, files.resolve path = .ok (location, .directory) ∧
      ∀ name, name ∈ names ↔ (files.entryAt? (location ++ [name])).isSome = true := by
  rw [list?] at listed
  split at listed
  · rename_i location resolved
    cases listed
    refine ⟨location, resolved, ?_⟩
    intro name
    have below : location ++ [name] ≠ [] := by simp
    rw [Dictionary.mem_sorted_names, List.mem_filterMap, entryAt?, if_neg below,
      Option.isSome_map, List.find?_isSome]
    simp only [name_below_iff, beq_iff_eq]
  · cases listed

theorem list_sorted {path : Path} {names : List String} (listed : files.list? path = some names) :
    names.Pairwise (· < ·) := by
  rw [list?] at listed
  split at listed
  · cases listed
    exact Dictionary.sorted_names_sorted _
  · cases listed

/-- What an entry of a directory is called decides where it is. -/
theorem locate_child {directory : Path} {name : String} {location : List String}
    (proper : ProperName name) (located : files.locate (directory.child name) = .ok location) :
    ∃ parent, files.locate directory = .ok parent ∧ location = parent ++ [name] := by
  obtain ⟨front, child, pieces⟩ := directory.child_proper proper
  have split : files.piecesFromRoot (directory.child name) =
      files.piecesFromRoot ⟨directory.absolute, front⟩ ++ [.name name] := by
    rw [child, piecesFromRoot, piecesFromRoot]
    split
    · rfl
    · rw [List.append_assoc]
  rw [locate, split] at located
  obtain ⟨parent, walked, followed⟩ := files.walk_append_ok located
  rw [walk_singleton] at followed
  obtain ⟨isDirectory, rfl⟩ := files.follow_proper proper followed
  refine ⟨parent, ?_, rfl⟩
  rcases pieces with same | slash
  · rw [locate, piecesFromRoot, same]
    exact walked
  · -- a last slash stays at the directory
    have last : files.piecesFromRoot directory =
        files.piecesFromRoot ⟨directory.absolute, front⟩ ++ [.name ""] := by
      rw [piecesFromRoot, piecesFromRoot, slash]
      split
      · rfl
      · rw [List.append_assoc]
    have stays : files.follow parent (.name "") = .ok parent := by
      simp only [follow, isDirectory]
      rfl
    rw [locate, last, walk_append, walked]
    change files.walk parent [.name ""] = .ok parent
    rw [walk_singleton, stays]

/-- What holds a file is a directory. -/
theorem is_directory_of_child {path : Path} {name : String} (proper : ProperName name)
    (given : path.absolute = true ∨ path.pieces ≠ [])
    (holds : files.isFile (path.child name) = true) : files.isDirectory path = true := by
  obtain ⟨place, content, resolved⟩ := (files.is_file_iff _).mp holds
  obtain ⟨-, short, located, -⟩ := (files.resolve_ok_iff _ place (.file content)).mp resolved
  obtain ⟨parent, above, same⟩ := files.locate_child proper located
  have reached := files.reached_walk files.reached_root located
  have directory : files.entryAt? parent = some .directory := by
    apply reached parent
    · rw [same]
      exact List.prefix_append parent [name]
    · rw [same]
      simp
  have relative : (Path.ofText name).absolute = false := by
    rw [Path.of_text_proper proper]
  apply (files.is_directory_iff path).mpr
  refine ⟨parent, (files.resolve_ok_iff path parent .directory).mpr ⟨given, ?_, above, directory⟩⟩
  exact Nat.le_trans (path.size_le_child relative) short

/-- A path that leads to no directory ends in the name of what it leads to. -/
theorem file_name_of_located {path : Path} {location : List String}
    (absolute : path.absolute = true) (located : files.locate path = .ok location)
    (noDirectory : files.entryAt? location ≠ some .directory) :
    ∃ parent name, location = parent ++ [name] ∧ path.fileName? = some (.name name) ∧
      .name name ∈ path.pieces ∧ Path.isIdle (.name name) = false ∧ name ≠ ".." := by
  rw [locate, piecesFromRoot, if_pos absolute] at located
  rcases List.eq_nil_or_concat path.pieces with empty | ⟨front, last, pieces⟩
  · rw [empty] at located
    cases located
    exact absurd rfl noDirectory
  · rw [pieces, List.concat_eq_append] at located
    obtain ⟨parent, walked, followed⟩ := files.walk_append_ok located
    rw [walk_singleton] at followed
    obtain ⟨directory, step⟩ := files.follow_cases followed
    rcases step with ⟨-, rfl⟩ | ⟨-, rfl⟩ | ⟨name, rfl, named, down, rfl⟩
    · exact absurd directory noDirectory
    · have reached := files.reached_walk files.reached_root walked
      by_cases root : parent = []
      · rw [root] at noDirectory
        exact absurd rfl noDirectory
      · refine absurd (reached parent.dropLast (List.dropLast_prefix parent) ?_) noDirectory
        intro same
        have shorter := congrArg List.length same
        have positive := List.length_pos_iff.mpr root
        rw [List.length_dropLast] at shorter
        omega
    · refine ⟨parent, name, rfl, ?_, by simp [pieces], named, down⟩
      rw [Path.fileName?, pieces, List.concat_eq_append, Path.trimmed_named named front,
        List.getLast?_concat]
      split
      · rename_i up
        cases up
        exact absurd rfl down
      · rfl

end FileSystem

end TemplateServer

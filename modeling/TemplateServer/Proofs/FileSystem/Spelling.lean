import TemplateServer.Proofs.FileSystem.Location
import TemplateServer.Url.Basic

/-!
Spellings of a path. Empty pieces and dots lead nowhere, so a path can be spelled
in many ways. Whatever is asked of a path, from its address to what it resolves
to, is the same for all spellings that end alike, with one exception: a spelling
may be too long to be followed at all.
-/

namespace TemplateServer

namespace Path

def named (pieces : List PathPiece) : List PathPiece :=
  pieces.filter fun piece => !isIdle piece

/-- The path in its shortest spelling. Where nothing is named at the end, a slash
is left there, since only a directory can be spelled so. -/
def plain (path : Path) : Path :=
  ⟨path.absolute, named path.pieces ++
    if path.pieces.getLast?.any isIdle then [.name ""] else []⟩

theorem named_append (front back : List PathPiece) :
    named (front ++ back) = named front ++ named back := List.filter_append _ _

theorem named_idle {piece : PathPiece} (idle : isIdle piece = true) : named [piece] = [] := by
  simp [named, idle]

theorem slash_idle : isIdle (.name "") = true := by decide

theorem trimmed_idle {piece : PathPiece} (idle : isIdle piece = true) (front : List PathPiece) :
    trimmed (front ++ [piece]) = trimmed front := by
  rw [trimmed, List.reverse_concat, List.dropWhile_cons, if_pos idle, trimmed]

theorem named_trimmed (pieces : List PathPiece) : named (trimmed pieces) = named pieces := by
  induction pieces using List.reverseRecOn with
  | nil => rfl
  | append_singleton front piece induction =>
      cases idle : isIdle piece with
      | true => rw [trimmed_idle idle, induction, named_append, named_idle idle, List.append_nil]
      | false => rw [trimmed_named idle]

theorem named_plain (path : Path) : named path.plain.pieces = named path.pieces := by
  have again : named (named path.pieces) = named path.pieces := by
    simp only [named, List.filter_filter, Bool.and_self]
  rw [plain, named_append, again]
  split
  · rw [named_idle slash_idle, List.append_nil]
  · exact List.append_nil _

theorem plain_empty_iff (path : Path) : path.plain.pieces = [] ↔ path.pieces = [] := by
  constructor
  · intro empty
    obtain ⟨nothing, ending⟩ := List.append_eq_nil_iff.mp empty
    rcases List.eq_nil_or_concat path.pieces with none | ⟨front, piece, split⟩
    · exact none
    · -- the last piece is either named or leaves a slash
      rw [List.concat_eq_append] at split
      rw [split, List.getLast?_concat] at ending
      rw [split, named_append] at nothing
      cases idle : isIdle piece with
      | true => simp [idle] at ending
      | false => simp [named, idle] at nothing
  · intro empty
    rw [plain, empty]
    rfl

theorem join_absolute (path : Path) {other : Path} (relative : other.absolute = false) :
    (path.join other).absolute = path.absolute := by
  rw [join, if_neg (by simp [relative])]
  split
  · rfl
  · split
    · split
      · rfl
      · rfl
    · rfl

/-- A join keeps what the path names, and the other path decides how it ends. -/
theorem join_pieces (path : Path) {other : Path} (relative : other.absolute = false) :
    ∃ front, named front = named path.pieces ∧ (path.pieces = [] → front = []) ∧
      (path.join other).pieces = front ++
        if other.pieces = [] then (if path.pieces = [] then [] else [.name ""])
        else other.pieces := by
  rw [join, if_neg (by simp [relative])]
  split
  · rename_i empty
    refine ⟨[], by rw [empty], fun _ => rfl, ?_⟩
    split
    · rename_i nothing
      exact nothing
    · rfl
  · rename_i given
    split
    · rename_i slash
      obtain ⟨front, pieces⟩ := List.getLast?_eq_some_iff.mp slash
      refine ⟨front, ?_, fun empty => absurd empty given, ?_⟩
      · rw [pieces, named_append, named_idle slash_idle, List.append_nil]
      · split
        · exact pieces
        · rw [pieces, List.dropLast_concat]
    · exact ⟨path.pieces, rfl, id, rfl⟩

theorem named_join (path : Path) {other : Path} (relative : other.absolute = false) :
    named (path.join other).pieces = named path.pieces ++ named other.pieces := by
  obtain ⟨front, same, -, pieces⟩ := path.join_pieces relative
  rw [pieces, named_append, same]
  split
  · rename_i nothing
    rw [nothing]
    split
    · rfl
    · rw [named_idle slash_idle]
      rfl
  · rfl

theorem plain_join (path : Path) {other : Path} (relative : other.absolute = false) :
    (path.join other).plain = ⟨path.absolute, named path.pieces ++
      if other.pieces = [] then (if path.pieces = [] then [] else [.name ""])
      else other.plain.pieces⟩ := by
  obtain ⟨front, -, none, pieces⟩ := path.join_pieces relative
  rw [plain, path.join_absolute relative, path.named_join relative, pieces]
  split
  · rename_i nothing
    rw [nothing]
    split
    · rename_i empty
      rw [none empty, empty]
      rfl
    · rw [List.getLast?_concat, Option.any_some, if_pos slash_idle]
      exact congrArg (Path.mk _) (congrArg (· ++ _) (List.append_nil _))
  · rename_i given
    rw [List.getLast?_append, Option.or_of_isSome (List.getLast?_isSome.mpr given),
      List.append_assoc]
    rfl

section Alike

variable {path other : Path} (same : path.plain = other.plain)

include same

theorem absolute_of_plain : path.absolute = other.absolute := congrArg (·.absolute) same

theorem named_of_plain : named path.pieces = named other.pieces := by
  rw [← named_plain, same, named_plain]

theorem empty_of_plain : path.pieces = [] ↔ other.pieces = [] := by
  rw [← plain_empty_iff, same, plain_empty_iff]

theorem plain_child (name : String) : (path.child name).plain = (other.child name).plain := by
  cases relative : (ofText name).absolute with
  | true => rw [child, child, join, join, if_pos relative, if_pos relative]
  | false =>
      rw [child, child, plain_join path relative, plain_join other relative,
        absolute_of_plain same, named_of_plain same]
      simp only [empty_of_plain same]

end Alike

/-- Cleaning looks at nothing but the pieces that name something. -/
theorem cleaned_eq {path other : Path} (absolute : path.absolute = other.absolute)
    (pieces : named path.pieces = named other.pieces) : path.cleaned = other.cleaned := by
  rw [named, named] at pieces
  rw [cleaned, cleaned, components, components, pieces, absolute]
  cases other.absolute with
  | true => rfl
  | false =>
      -- a dot at the front is a component of its own, which the first step leaves out
      by_cases dot : path.pieces.head? = some (.name ".")
      · by_cases also : other.pieces.head? = some (.name ".")
        · rw [if_pos dot, if_pos also]
        · rw [if_pos dot, if_neg also]
          rfl
      · by_cases also : other.pieces.head? = some (.name ".")
        · rw [if_neg dot, if_pos also]
          rfl
        · rw [if_neg dot, if_neg also]

/-- The directory of a named file, as far as it names something. -/
theorem parent_of_child (path : Path) {name : String} (proper : ProperName name) :
    ∃ parent, (path.child name).parent? = some parent ∧ parent.absolute = path.absolute ∧
      named parent.pieces = named path.pieces := by
  obtain ⟨front, child, pieces⟩ := path.child_proper proper
  have same : named front = named path.pieces := by
    rcases pieces with same | slash
    · rw [same]
    · rw [slash, named_append, named_idle slash_idle, List.append_nil]
  rw [child, ← same]
  cases path.absolute with
  | true =>
      refine ⟨⟨true, trimmed front⟩, ?_, rfl, named_trimmed front⟩
      rw [parent?, if_pos rfl, trimmed_named proper.not_idle]
      split
      · rename_i nothing
        exact absurd nothing (by simp)
      · rename_i split
        rw [← split, List.dropLast_concat]
  | false =>
      generalize chosen : (if (front ++ [PathPiece.name name]).head? = some (.name ".")
        then 1 else 0) = lead
      -- a dot at the front of a relative path stays, and is never the name itself
      have within : lead ≤ front.length := by
        cases front with
        | nil =>
            have other : name ≠ "." := by
              rintro rfl
              exact absurd proper.not_idle (by decide)
            rw [← chosen, if_neg (by simp [other])]
            exact Nat.zero_le _
        | cons first rest =>
            rw [← chosen, List.length_cons]
            split
            · omega
            · omega
      refine ⟨⟨false, front.take lead ++ trimmed (front.drop lead)⟩, ?_, rfl, ?_⟩
      · rw [parent?, if_neg Bool.false_ne_true]
        simp only [chosen]
        rw [List.drop_append_of_le_length within, List.take_append_of_le_length within,
          trimmed_named proper.not_idle]
        split
        · rename_i nothing
          exact absurd nothing (by simp)
        · rename_i split
          rw [← split, List.dropLast_concat]
      · rw [named_append, named_trimmed, ← named_append, List.take_append_drop]

/-- A path from the root that ends in what it names. The directory of a document is
one, or is the empty path where the document has none. -/
def Settled (path : Path) : Prop :=
  path.absolute = true ∧ trimmed path.pieces = path.pieces ∨ path = ⟨false, []⟩

theorem trimmed_trimmed (pieces : List PathPiece) : trimmed (trimmed pieces) = trimmed pieces := by
  induction pieces using List.reverseRecOn with
  | nil => rfl
  | append_singleton front piece induction =>
      cases idle : isIdle piece with
      | true => rw [trimmed_idle idle, induction]
      | false => rw [trimmed_named idle, trimmed_named idle]

/-- Components tell the pieces that name something apart. -/
theorem named_of_same {path other : Path} (absolute : path.absolute = true)
    (also : other.absolute = true) (same : path.same other = true) :
    named path.pieces = named other.pieces := by
  have apart : Function.Injective fun piece : PathPiece =>
      if piece = .name ".." then Component.parent else .normal piece := by
    intro piece next equal
    dsimp only at equal
    split at equal
    · rename_i up
      split at equal
      · rename_i again
        rw [up, again]
      · cases equal
    · split at equal
      · cases equal
      · cases equal
        rfl
  rw [Path.same, beq_iff_eq, components, components, if_pos absolute, if_pos also,
    List.cons.injEq] at same
  exact (List.map_inj_right fun _ _ equal => apart equal).mp same.2

theorem plain_of_trimmed {path : Path} (trimmed : trimmed path.pieces = path.pieces) :
    path.plain = ⟨path.absolute, named path.pieces⟩ := by
  have ending : path.pieces.getLast?.any isIdle = false := by
    rcases List.eq_nil_or_concat path.pieces with none | ⟨front, piece, split⟩
    · rw [none]
      rfl
    · rw [List.concat_eq_append] at split
      rw [split, List.getLast?_concat, Option.any_some]
      cases idle : isIdle piece with
      | false => rfl
      | true =>
          have shorter := length_trimmed_le front
          rw [split, trimmed_idle idle] at trimmed
          rw [trimmed, List.length_append, List.length_singleton] at shorter
          omega
  rw [plain, ending, if_neg Bool.false_ne_true, List.append_nil]

theorem plain_of_settled {path other : Path} (settled : Settled path) (also : Settled other)
    (same : path.same other = true) : path.plain = other.plain := by
  rcases settled with ⟨absolute, trimmed⟩ | rfl
  · rcases also with ⟨alsoAbsolute, alsoTrimmed⟩ | rfl
    · rw [plain_of_trimmed trimmed, plain_of_trimmed alsoTrimmed, absolute, alsoAbsolute,
        named_of_same absolute alsoAbsolute same]
    · simp [Path.same, components, absolute] at same
  · rcases also with ⟨alsoAbsolute, alsoTrimmed⟩ | rfl
    · simp [Path.same, components, alsoAbsolute] at same
    · rfl

theorem parent_settled {path parent : Path} (absolute : path.absolute = true)
    (found : path.parent? = some parent) : Settled parent := by
  rw [parent?, if_pos absolute] at found
  split at found
  · cases found
  · cases found
    exact .inl ⟨rfl, trimmed_trimmed _⟩

theorem ancestors_settled {path : Path} (settled : Settled path) :
    ∀ ancestor ∈ path.ancestors, Settled ancestor := by
  fun_induction ancestors path with
  | case1 path top =>
      intro ancestor member
      rw [List.mem_singleton.mp member]
      exact settled
  | case2 path parent found induction =>
      rw [List.forall_mem_cons]
      refine ⟨settled, induction ?_⟩
      rcases settled with ⟨absolute, -⟩ | rfl
      · exact parent_settled absolute found
      · cases found

end Path

theorem Url.of_file_path_plain {path other : Path} (same : path.plain = other.plain) :
    Url.ofFilePath? path = Url.ofFilePath? other := by
  have pieces := Path.named_of_plain same
  rw [Path.named, Path.named] at pieces
  rw [Url.ofFilePath?, Url.ofFilePath?, Path.absolute_of_plain same, pieces]

namespace FileSystem

variable (files : FileSystem)

theorem follow_idle {piece other : PathPiece} (idle : Path.isIdle piece = true)
    (also : Path.isIdle other = true) (location : List String) :
    files.follow location piece = files.follow location other := by
  simp only [follow.eq_def, idle, also, if_true]

/-- In front of another piece an idle one checks nothing that the other does not
check. -/
theorem walk_idle_cons {piece : PathPiece} (idle : Path.isIdle piece = true)
    (location : List String) {rest : List PathPiece} (followed : rest ≠ []) :
    files.walk location (piece :: rest) = files.walk location rest := by
  obtain ⟨next, rest, rfl⟩ := List.exists_cons_of_ne_nil followed
  cases found : files.entryAt? location with
  | none => simp only [walk, found]
  | some entry =>
      cases entry with
      | file content => simp only [walk, found]
      | directory => simp only [walk, found, idle, if_true]

theorem walk_plain (location : List String) (path : Path) :
    files.walk location path.plain.pieces = files.walk location path.pieces := by
  obtain ⟨absolute, pieces⟩ := path
  induction pieces generalizing location with
  | nil => rfl
  | cons piece rest induction =>
      cases idle : Path.isIdle piece with
      | true =>
          cases rest with
          | nil =>
              have slash : Path.plain ⟨absolute, [piece]⟩ = ⟨absolute, [.name ""]⟩ := by
                simp [Path.plain, Path.named, idle]
              rw [slash, walk_singleton, walk_singleton, follow_idle files Path.slash_idle idle]
          | cons next later =>
              have shorter : Path.plain ⟨absolute, piece :: next :: later⟩ =
                  Path.plain ⟨absolute, next :: later⟩ := by
                simp [Path.plain, Path.named, idle]
              rw [shorter, induction, walk_idle_cons files idle _ (List.cons_ne_nil _ _)]
      | false =>
          have kept : (Path.plain ⟨absolute, piece :: rest⟩).pieces =
              piece :: (Path.plain ⟨absolute, rest⟩).pieces := by
            cases rest with
            | nil => simp [Path.plain, Path.named, idle]
            | cons next later => simp [Path.plain, Path.named, idle]
          rw [kept, walk_cons, walk_cons]
          simp only [induction]

theorem resolve_plain {path other : Path} (same : path.plain = other.plain)
    (alike : path.size ≤ greatestPath ↔ other.size ≤ greatestPath) :
    files.resolve path = files.resolve other := by
  have absolute := Path.absolute_of_plain same
  have empty : path.pieces.isEmpty = other.pieces.isEmpty := by
    rw [Bool.eq_iff_iff, List.isEmpty_iff, List.isEmpty_iff, Path.empty_of_plain same]
  have long : greatestPath < path.size ↔ greatestPath < other.size := by
    rw [← Nat.not_le, ← Nat.not_le, alike]
  have walked : ∀ location, files.walk location path.pieces = files.walk location other.pieces := by
    intro location
    rw [← walk_plain, same, walk_plain]
  have located : files.walk []
      (if other.absolute then path.pieces else files.workingDirectory.pieces ++ path.pieces) =
      files.walk []
        (if other.absolute then other.pieces
          else files.workingDirectory.pieces ++ other.pieces) := by
    split
    · exact walked []
    · simp only [walk_append, walked]
  rw [resolve, resolve, absolute, empty]
  simp only [long]
  rw [located]

end FileSystem

end TemplateServer

import TemplateServer.Text.Split
import TemplateServer.Text.Utf8

/-!
File paths. A path is kept as it was written, so that messages and addresses
show the same text; two paths that differ only in empty and `.` pieces name the
same components.
-/

namespace TemplateServer

/-- What stands between two slashes: a name, or bytes that spell no text. -/
inductive PathPiece where
  | name (text : String)
  | raw (bytes : List UInt8)
  deriving DecidableEq

namespace PathPiece

def ofBytes (bytes : List UInt8) : PathPiece :=
  match Text.decode? bytes with
  | some text => .name text
  | none => .raw bytes

def bytes : PathPiece → List UInt8
  | .name text => Text.bytes text
  | .raw bytes => bytes

def text : PathPiece → String
  | .name text => text
  | .raw bytes => Text.decodeLossy bytes

def extension? (piece : PathPiece) : Option PathPiece :=
  let reversed := piece.bytes.reverse
  let ending := reversed.takeWhile (· != 0x2E)
  match reversed.drop ending.length with
  | [] => none
  | [_] => none
  | _ => some (ofBytes ending.reverse)

end PathPiece

/-- A path as the pieces between its slashes, the leading slash apart. The empty
text and a lone slash have no pieces; a trailing slash leaves an empty one. -/
structure Path where
  absolute : Bool
  pieces : List PathPiece
  deriving DecidableEq

namespace Path

def ofText (text : String) : Path :=
  match text.toList with
  | [] => ⟨false, []⟩
  | ['/'] => ⟨true, []⟩
  | '/' :: rest => ⟨true, (Text.split '/' (String.ofList rest)).map .name⟩
  | _ => ⟨false, (Text.split '/' text).map .name⟩

def ofBytes (bytes : List UInt8) : Path :=
  match bytes with
  | [] => ⟨false, []⟩
  | [0x2F] => ⟨true, []⟩
  | 0x2F :: rest => ⟨true, (Text.pieces 0x2F rest).map PathPiece.ofBytes⟩
  | _ => ⟨false, (Text.pieces 0x2F bytes).map PathPiece.ofBytes⟩

def text (path : Path) : String :=
  (if path.absolute then "/" else "") ++ String.intercalate "/" (path.pieces.map PathPiece.text)

def text? (path : Path) : Option String :=
  if path.pieces.all fun piece => (Text.decode? piece.bytes).isSome then some path.text else none

def size (path : Path) : Nat :=
  path.pieces.foldl (fun total piece => total + piece.bytes.length) (path.pieces.length - 1) +
    (if path.absolute then 1 else 0)

def isIdle (piece : PathPiece) : Bool := piece == .name "" || piece == .name "."

def trimmed (pieces : List PathPiece) : List PathPiece :=
  (pieces.reverse.dropWhile isIdle).reverse

def join (path other : Path) : Path :=
  if other.absolute then other
  else if path.pieces = [] then ⟨path.absolute, other.pieces⟩
  else if path.pieces.getLast? = some (.name "") then
    if other.pieces = [] then path else ⟨path.absolute, path.pieces.dropLast ++ other.pieces⟩
  else ⟨path.absolute, path.pieces ++ (if other.pieces = [] then [.name ""] else other.pieces)⟩

def child (path : Path) (name : String) : Path := path.join (ofText name)

/-- The path without its last component; none for a root and for the empty
path. -/
def parent? (path : Path) : Option Path :=
  if path.absolute then
    match trimmed path.pieces with
    | [] => none
    | first :: rest => some ⟨true, trimmed (first :: rest).dropLast⟩
  else
    let lead := if path.pieces.head? = some (.name ".") then 1 else 0
    match trimmed (path.pieces.drop lead) with
    | [] => if lead = 0 then none else some ⟨false, []⟩
    | first :: rest =>
        some ⟨false, path.pieces.take lead ++ trimmed (first :: rest).dropLast⟩

theorem length_trimmed_le (pieces : List PathPiece) : (trimmed pieces).length ≤ pieces.length := by
  simp only [trimmed, List.length_reverse]
  calc (pieces.reverse.dropWhile isIdle).length
      ≤ pieces.reverse.length := (List.dropWhile_sublist isIdle).length_le
    _ = pieces.length := List.length_reverse

theorem parent_shorter (path parent : Path) (found : path.parent? = some parent) :
    parent.pieces.length < path.pieces.length := by
  unfold parent? at found
  split at found
  · split at found
    · cases found
    · rename_i first rest equation
      cases found
      have whole := length_trimmed_le path.pieces
      have shorter := length_trimmed_le (first :: rest).dropLast
      rw [equation] at whole
      simp only [List.length_dropLast, List.length_cons] at whole shorter ⊢
      omega
  · simp only at found
    split at found
    · split at found
      · rename_i lead
        cases found
        cases equation : path.pieces with
        | nil => simp [equation] at lead
        | cons first rest => simp
      · cases found
    · rename_i first rest equation
      cases found
      have whole := length_trimmed_le
        (path.pieces.drop (if path.pieces.head? = some (.name ".") then 1 else 0))
      have shorter := length_trimmed_le (first :: rest).dropLast
      rw [equation] at whole
      simp only [List.length_dropLast, List.length_cons, List.length_drop, List.length_append,
        List.length_take] at whole shorter ⊢
      omega

def ancestors (path : Path) : List Path :=
  match _found : path.parent? with
  | none => [path]
  | some parent => path :: ancestors parent
termination_by path.pieces.length
decreasing_by exact parent_shorter path parent _found

/-- The last component, unless it leads upwards. -/
def fileName? (path : Path) : Option PathPiece :=
  match (trimmed path.pieces).getLast? with
  | some (.name "..") => none
  | name => name

def extension? (path : Path) : Option PathPiece := path.fileName?.bind PathPiece.extension?

inductive Component where
  | root
  | current
  | parent
  | normal (piece : PathPiece)
  deriving DecidableEq

/-- The components that the pieces name. A `.` counts only at the start of a
relative path. -/
def components (path : Path) : List Component :=
  let named := (path.pieces.filter (fun piece => !isIdle piece)).map fun piece =>
    if piece = .name ".." then .parent else .normal piece
  if path.absolute then .root :: named
  else if path.pieces.head? = some (.name ".") then .current :: named
  else named

/-- Equal components mean equal paths, whatever their texts. -/
def same (left right : Path) : Bool := left.components == right.components

def Component.piece : Component → PathPiece
  | .root => .name ""
  | .current => .name "."
  | .parent => .name ".."
  | .normal piece => piece

/-- Removes `.`, and `..` together with the component in front of it, looking at
the text alone. -/
def cleaned (path : Path) : Path :=
  let named := path.components.foldl
    (fun kept component =>
      match component, kept with
      | .root, _ => kept
      | .current, _ => kept
      | .parent, .normal _ :: rest => rest
      | .parent, _ => if path.absolute then kept else .parent :: kept
      | .normal piece, _ => .normal piece :: kept)
    []
  if named.isEmpty && !path.absolute then ⟨false, [.name "."]⟩
  else ⟨path.absolute, (named.reverse.map Component.piece)⟩

/-- The path as seen from the root, where `directory` is the current directory.
Parent components stay, and so does a trailing slash. -/
def fromRoot (path directory : Path) : Path :=
  let named := (path.pieces.filter fun piece => !isIdle piece)
  let base := if path.absolute then [] else directory.pieces
  let slash := if path.pieces.getLast? = some (.name "") then [.name ""] else []
  ⟨true, base ++ named ++ slash⟩

end Path

end TemplateServer

import TemplateServer.Dictionary
import TemplateServer.Path
import TemplateServer.Text.Utf8

/-!
The files that the program sees, as a value. A location is the list of names
from the root down. Paths are resolved as an operating system does it: every
component in front of the last has to be a directory, and `..` leads to the
directory above. Names and paths have greatest lengths.
-/

namespace TemplateServer

inductive FileEntry where
  | file (content : List UInt8)
  | directory
  deriving DecidableEq

inductive IoError where
  | notFound
  | notDirectory
  | isDirectory
  | nameTooLong
  | invalidText
  deriving DecidableEq

def IoError.message : IoError → String
  | .notFound => "No such file or directory (os error 2)"
  | .notDirectory => "Not a directory (os error 20)"
  | .isDirectory => "Is a directory (os error 21)"
  | .nameTooLong => "File name too long (os error 36)"
  | .invalidText => "stream did not contain valid UTF-8"

structure FileSystem where
  entries : List (List String × FileEntry)
  /-- Where relative paths start. -/
  workingDirectory : Path
  /-- Where programs keep the configuration of the user. -/
  configDirectory : Option Path

namespace FileSystem

def entryAt? (files : FileSystem) (location : List String) : Option FileEntry :=
  if location = [] then some .directory
  else (files.entries.find? fun entry => entry.1 == location).map (·.2)

def greatestName : Nat := 255

def greatestPath : Nat := 4095

/-- Follows path pieces from a location. Bytes that spell no text name nothing
that is there. -/
def walk (files : FileSystem) (location : List String) :
    List PathPiece → Except IoError (List String)
  | [] => .ok location
  | piece :: rest =>
      match files.entryAt? location with
      | none => .error .notFound
      | some (.file _) => .error .notDirectory
      | some .directory =>
          if Path.isIdle piece then files.walk location rest
          else if piece = .name ".." then files.walk location.dropLast rest
          else if greatestName < piece.bytes.length then .error .nameTooLong
          else
            match piece with
            | .name text => files.walk (location ++ [text]) rest
            | .raw _ => .error .notFound

def resolve (files : FileSystem) (path : Path) : Except IoError (List String × FileEntry) := do
  if !path.absolute && path.pieces.isEmpty then throw .notFound
  if greatestPath < path.size then throw .nameTooLong
  let pieces := if path.absolute then path.pieces else files.workingDirectory.pieces ++ path.pieces
  let location ← files.walk [] pieces
  match files.entryAt? location with
  | none => throw .notFound
  | some entry => return (location, entry)

def fileExists (files : FileSystem) (path : Path) : Bool :=
  match files.resolve path with
  | .ok _ => true
  | .error _ => false

def isFile (files : FileSystem) (path : Path) : Bool :=
  match files.resolve path with
  | .ok (_, .file _) => true
  | _ => false

def isDirectory (files : FileSystem) (path : Path) : Bool :=
  match files.resolve path with
  | .ok (_, .directory) => true
  | _ => false

def readText (files : FileSystem) (path : Path) : Except IoError String := do
  match ← files.resolve path with
  | (_, .directory) => throw .isDirectory
  | (_, .file content) =>
      match Text.decode? content with
      | some text => return text
      | none => throw .invalidText

def nameBelow? (directory location : List String) : Option String :=
  if location.dropLast == directory then location.getLast? else none

/-- The names in a directory, in order; none if there is no such directory. -/
def list? (files : FileSystem) (path : Path) : Option (List String) :=
  match files.resolve path with
  | .ok (location, .directory) =>
      let names := files.entries.filterMap fun entry => nameBelow? location entry.1
      some (Dictionary.sortedNames names)
  | _ => none

def put (files : FileSystem) (location : List String) (entry : FileEntry) : FileSystem :=
  { files with
    entries := (files.entries.filter fun old => old.1 != location) ++ [(location, entry)] }

def makeDirectories (files : FileSystem) (location : List String) : FileSystem :=
  (List.range location.length).foldl
    (fun built depth =>
      let directory := location.take (depth + 1)
      if (built.entryAt? directory).isSome then built else built.put directory .directory)
    files

/-- Writes a file, with the directories that lead to it. -/
def write (files : FileSystem) (location : List String) (content : List UInt8) : FileSystem :=
  (files.makeDirectories location.dropLast).put location (.file content)

/-- Removes a file, or a directory with all that is in it. -/
def delete (files : FileSystem) (location : List String) : FileSystem :=
  { files with entries := files.entries.filter fun entry => !location.isPrefixOf entry.1 }

end FileSystem

end TemplateServer

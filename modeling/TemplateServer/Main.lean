import TemplateServer.Command
import TemplateServer.Protocol.Envelope

/-!
The program. It reads the part of the disk that a command or a message is about
into a file system value, and leaves the rest to the library.
-/

namespace TemplateServer.Program

def locationText (location : List String) : String := "/" ++ String.intercalate "/" location

partial def addTree (files : FileSystem) (location : List String) : IO FileSystem := do
  let place := (← IO.currentDir) / locationText location
  if ← place.isDir then
    let mut grown := files.makeDirectories location
    for found in ← place.readDir do
      grown ← addTree grown (location ++ [found.fileName])
    return grown
  else if ← place.pathExists then
    return files.write location (← IO.FS.readBinFile place).data.toList
  else return files

/-- Adds the package files on the way from the root to a location, and gives the
nearest directory that has one. -/
def addPackages (files : FileSystem) (location : List String) :
    IO (FileSystem × Option (List String)) := do
  let mut grown := files
  let mut nearest := none
  for depth in List.range (location.length + 1) do
    let directory := location.take depth
    let package := directory ++ [Taglib.packageFileName]
    let place := (← IO.currentDir) / locationText package
    if ← place.pathExists then
      grown ← addTree grown package
      nearest := some directory
  return (grown, nearest)

/-- The names of an absolute path, read without looking at the disk. -/
def locationOf (path : Path) : List String :=
  (path.cleaned.pieces.filter fun piece => !Path.isIdle piece).map PathPiece.text

/-- The project that a directory belongs to, and the directory itself. -/
def addProject (files : FileSystem) (directory : Path) : IO FileSystem := do
  let location := locationOf directory
  let (grown, nearest) ← addPackages files location
  addTree (← addTree grown (nearest.getD location)) location

def startFiles : IO FileSystem := do
  let home := (← IO.getEnv "HOME").map fun home => home ++ "/.config"
  let config := ((← IO.getEnv "XDG_CONFIG_HOME").filter fun text => text.startsWith "/").or home
  let files : FileSystem :=
    { entries := []
      workingDirectory := Path.ofText (← IO.currentDir).toString
      configDirectory := config.map Path.ofText }
  let prepared := files.makeDirectories (locationOf files.workingDirectory)
  match userConfigPath? prepared with
  | some path => addTree prepared (locationOf path)
  | none => return prepared

partial def readHeader (input : IO.FS.Stream) (length : Nat) : IO (Option Nat) := do
  let line ← input.getLine
  if line.isEmpty then return none
  else if line.toList.all (fun char => char == '\r' || char == '\n') then return some length
  else readHeader input ((Protocol.contentLength? line).getD length)

partial def readBody (input : IO.FS.Stream) (length : Nat) (read : ByteArray) : IO ByteArray := do
  if length ≤ read.size then return read
  else
    let more ← input.read (length - read.size).toUSize
    if more.isEmpty then return read else readBody input length (read ++ more)

partial def serve (input output : IO.FS.Stream) (session : Session) : IO Unit := do
  match ← readHeader input 0 with
  | none => return ()
  | some length =>
      let body ← readBody input length ByteArray.empty
      match (String.fromUTF8? body).bind Json.parse? with
      | none => serve input output session
      | some message =>
          let files ←
            (Protocol.directories session message).foldlM addProject (← startFiles)
          let (next, replies) := Protocol.handle session files message
          for reply in replies do
            output.putStr (Protocol.framed reply)
          output.flush
          serve input output next

end TemplateServer.Program

open TemplateServer in
def main (arguments : List String) : IO UInt32 := do
  let command := Command.parse arguments
  let files ← Program.startFiles
  let seen ←
    match command with
    | .inspect file _ =>
        let path := file.fromRoot files.workingDirectory
        Program.addProject files (Definition.directoryOf path)
    | .serve => do
        Program.serve (← IO.getStdin) (← IO.getStdout) Session.initial
        pure files
    | _ => pure files
  let result := command.run seen
  (← IO.getStdout).putStr result.output
  for line in result.errors do
    (← IO.getStderr).putStrLn line
  return result.code.toUInt32

import TemplateServer.Inspect

/-!
The command line: what the arguments ask for, and what is written in answer.
-/

namespace TemplateServer

inductive HelpTopic where
  | general
  | inspect
  | help

inductive Command where
  | serve
  | version
  | help (topic : HelpTopic)
  | inspect (file : Path) (position : Text.Position)
  | usageError

structure CommandResult where
  code : Nat
  output : String
  errors : List String

namespace Command

structure InspectArguments where
  file : Option String
  line : Option Nat
  column : Option Nat

/-- A number below `2 ^ 32` in decimal. It may have a sign, but only zero may have
a minus. -/
def number32? (text : String) : Option Nat :=
  let sign := text.toList.head?
  let digits := if sign = some '+' || sign = some '-' then text.toList.tail else text.toList
  let value := digits.foldl (fun sum digit => sum * 10 + Json.digitValue digit) 0
  if digits.isEmpty || !digits.all Char.isDigit || 0x100000000 ≤ value ||
      (sign = some '-' && value ≠ 0) then none
  else some value

inductive InspectOption where
  | line
  | column

def optionName? (text : String) : Option InspectOption :=
  if text = "--line" then some .line
  else if text = "--character" then some .column
  else none

def InspectArguments.set? (arguments : InspectArguments) (option : InspectOption) (value : String) :
    Option InspectArguments := do
  let number ← number32? value
  match option with
  | .line => if arguments.line.isSome then none else some { arguments with line := some number }
  | .column =>
      if arguments.column.isSome then none else some { arguments with column := some number }

def InspectArguments.setFile? (arguments : InspectArguments) (name : String) :
    Option InspectArguments :=
  if name = "" || arguments.file.isSome then none else some { arguments with file := some name }

def InspectArguments.command (arguments : InspectArguments) : Command :=
  match arguments.file, arguments.line, arguments.column with
  | some file, some line, some column => .inspect (Path.ofText file) ⟨line, column⟩
  | _, _, _ => .usageError

/-- The first letter of an option or a group of options in one letter each. Where
a letter ends the program, the letters behind it do not count. -/
def shortOption? (text : String) : Option Char :=
  match text.toList with
  | '-' :: letter :: _ => if letter = '-' then none else some letter
  | _ => none

def asksForHelp (text : String) : Bool := text = "--help" || shortOption? text = some 'h'

def asksForVersion (text : String) : Bool := text = "--version" || shortOption? text = some 'V'

def looksLikeOption (text : String) : Bool := text.toList.head? = some '-' && text ≠ "-"

def assignedOption? (text : String) : Option (InspectOption × String) :=
  let name := text.toList.takeWhile (· != '=')
  if name.length < text.length then
    (optionName? (String.ofList name)).map fun option =>
      (option, String.ofList (text.toList.drop (name.length + 1)))
  else none

/-- Reads the arguments of an inspection. Behind `--` nothing is an option. -/
def parseInspect (arguments : InspectArguments) : List String → Command
  | [] => arguments.command
  | "--" :: names =>
      match names.foldlM InspectArguments.setFile? arguments with
      | some all => all.command
      | none => .usageError
  | text :: rest =>
      match optionName? text, assignedOption? text with
      | some option, _ =>
          match rest with
          | value :: later =>
              if looksLikeOption value then .usageError
              else
                match arguments.set? option value with
                | some next => parseInspect next later
                | none => .usageError
          | [] => .usageError
      | none, some (option, value) =>
          match arguments.set? option value with
          | some next => parseInspect next rest
          | none => .usageError
      | none, none =>
          if asksForHelp text then .help .inspect
          else if looksLikeOption text then .usageError
          else
            match arguments.setFile? text with
            | some next => parseInspect next rest
            | none => .usageError

def parse : List String → Command
  | [] => .serve
  | ["--"] => .serve
  | ["help"] => .help .general
  | ["help", "inspect"] => .help .inspect
  | ["help", "help"] => .help .help
  | first :: rest =>
      if first = "inspect" then parseInspect ⟨none, none, none⟩ rest
      else if asksForVersion first then .version
      else if asksForHelp first then .help .general
      else .usageError

def helpText : HelpTopic → String
  | .general =>
      "A Language Server Protocol (LSP) server for Marko templates\n\n" ++
        "Usage: marko-ls [COMMAND]\n\n" ++
        "Commands:\n" ++
        "  inspect  Print the scope and definition targets at a position as JSON\n" ++
        "  help     Print this message or the help of the given subcommand(s)\n\n" ++
        "Options:\n" ++
        "  -h, --help     Print help\n" ++
        "  -V, --version  Print version\n"
  | .inspect =>
      "Print the scope and definition targets at a position as JSON\n\n" ++
        "Usage: marko-ls inspect --line <LINE> --character <CHARACTER> <FILE>\n\n" ++
        "Arguments:\n" ++
        "  <FILE>  The template file to inspect\n\n" ++
        "Options:\n" ++
        "      --line <LINE>            Zero-based line\n" ++
        "      --character <CHARACTER>  Zero-based UTF-16 column\n" ++
        "  -h, --help                   Print help\n"
  | .help =>
      "Print this message or the help of the given subcommand(s)\n\n" ++
        "Usage: marko-ls help [COMMAND]...\n\n" ++
        "Arguments:\n" ++
        "  [COMMAND]...  Print help for the subcommand(s)\n"

/-- The result of a command. To serve writes nothing by itself; a session ends
when its input does. -/
def run (files : FileSystem) : Command → CommandResult
  | .serve => ⟨0, "", []⟩
  | .version => ⟨0, Protocol.serverName ++ " " ++ Protocol.serverVersion ++ "\n", []⟩
  | .help topic => ⟨0, helpText topic, []⟩
  | .usageError => ⟨2, "", ["error: invalid arguments; try --help"]⟩
  | .inspect file position =>
      match Inspection.ofFile files file position with
      | .ok inspection => ⟨0, inspection.toJson.indented 0 ++ "\n", []⟩
      | .error error => ⟨1, "", ["Error: " ++ error.message]⟩

end Command

end TemplateServer

import TemplateServer.Json.Basic

/-!
The text of a JSON value, on one line or indented by two spaces a level.
-/

namespace TemplateServer.Json

/-- The characters that stand for one character of a string. Quotes,
backslashes and control characters are escaped, the rest stands for itself. -/
def escapedChar (char : Char) : List Char :=
  if char = '"' then ['\\', '"']
  else if char = '\\' then ['\\', '\\']
  else if char = '\n' then ['\\', 'n']
  else if char = '\r' then ['\\', 'r']
  else if char = '\t' then ['\\', 't']
  else if char.toNat = 8 then ['\\', 'b']
  else if char.toNat = 12 then ['\\', 'f']
  else if char.toNat < 32 then
    ['\\', 'u', '0', '0', Nat.digitChar (char.toNat / 16), Nat.digitChar (char.toNat % 16)]
  else [char]

def quoted (text : String) : String :=
  String.ofList ('"' :: text.toList.flatMap escapedChar ++ ['"'])

def Number.text : Number → String
  | .integer value => toString value
  | .float value => value.text

mutual

def compact : Json → String
  | .null => "null"
  | .bool true => "true"
  | .bool false => "false"
  | .number value => value.text
  | .string text => quoted text
  | .array items => "[" ++ String.intercalate "," (compactItems items) ++ "]"
  | .object members => "\x7b" ++ String.intercalate "," (compactMembers members) ++ "\x7d"

def compactItems : List Json → List String
  | [] => []
  | item :: rest => compact item :: compactItems rest

def compactMembers : List (String × Json) → List String
  | [] => []
  | (key, value) :: rest => (quoted key ++ ":" ++ compact value) :: compactMembers rest

end

def newLine (level : Nat) : String := String.ofList ('\n' :: List.replicate (2 * level) ' ')

mutual

def indented (level : Nat) : Json → String
  | .array [] => "[]"
  | .array (item :: rest) =>
      "[" ++ newLine (level + 1) ++
        String.intercalate ("," ++ newLine (level + 1))
          (indentedItems (level + 1) (item :: rest)) ++
        newLine level ++ "]"
  | .object [] => "\x7b\x7d"
  | .object (first :: rest) =>
      "\x7b" ++ newLine (level + 1) ++
        String.intercalate ("," ++ newLine (level + 1))
          (indentedMembers (level + 1) (first :: rest)) ++
        newLine level ++ "\x7d"
  | json => compact json

def indentedItems (level : Nat) : List Json → List String
  | [] => []
  | item :: rest => indented level item :: indentedItems level rest

def indentedMembers (level : Nat) : List (String × Json) → List String
  | [] => []
  | (key, value) :: rest =>
      (quoted key ++ ": " ++ indented level value) :: indentedMembers level rest

end

end TemplateServer.Json

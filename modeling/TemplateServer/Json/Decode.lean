import TemplateServer.Json.Printer
import TemplateServer.Text.Quoted

/-!
Reading typed values out of JSON. A record may be written as an object, whose
unknown members do not count, or as the array of its fields. The fields of an
object are read in the order of their keys and the first fault is reported.
-/

namespace TemplateServer.Json

inductive DecodeError where
  | invalidType (found : Json) (expected : String)
  | invalidLength (length : Nat) (expected : String)

def kindText : Json → String
  | .null => "null"
  | .bool true => "boolean \x60true\x60"
  | .bool false => "boolean \x60false\x60"
  | .number (.integer value) => "integer \x60" ++ toString value ++ "\x60"
  | .number (.float value) => "floating point \x60" ++ value.text ++ "\x60"
  | .string text => "string " ++ Text.shown text
  | .array _ => "sequence"
  | .object _ => "map"

def DecodeError.message : DecodeError → String
  | .invalidType found expected => "invalid type: " ++ found.kindText ++ ", expected " ++ expected
  | .invalidLength length expected =>
      "invalid length " ++ toString length ++ ", expected " ++ expected

abbrev Decoder (Value : Type) := Json → Except DecodeError Value

variable {Value : Type}

def decodeText : Decoder String
  | .string text => .ok text
  | found => .error (.invalidType found "a string")

def decodeBool : Decoder Bool
  | .bool value => .ok value
  | found => .error (.invalidType found "a boolean")

def decodeList (decodeItem : Decoder Value) : Decoder (List Value)
  | .array items => items.mapM decodeItem
  | found => .error (.invalidType found "a sequence")

/-- Null stands for no value. -/
def decodeOptional (decodeValue : Decoder Value) : Decoder (Option Value)
  | .null => .ok none
  | found => (decodeValue found).map some

def decodeField (decodeValue : Decoder Value) (members : List (String × Json)) (key : String) :
    Except DecodeError (Option Value) :=
  match Dictionary.get? members key with
  | none => .ok none
  | some found => decodeOptional decodeValue found

/-- No array of fields may hold more than the record has. -/
def decodeEnd (items : List Json) (count : Nat) : Except DecodeError Unit :=
  if count < items.length then .error (.invalidLength items.length "fewer elements in array")
  else .ok ()

end TemplateServer.Json

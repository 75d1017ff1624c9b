import TemplateServer.Dictionary
import TemplateServer.Json.Binary64

/-!
JSON values. The members of an object are a dictionary: they have the order of
their keys and each key once.
-/

namespace TemplateServer

namespace Json

/-- A number of a document: a whole number that fits a 64-bit word, signed or
unsigned, or a floating-point number. -/
inductive Number where
  | integer (value : Int)
  | float (value : Binary64)
  deriving DecidableEq

end Json

inductive Json where
  | null
  | bool (value : Bool)
  | number (value : Json.Number)
  | string (text : String)
  | array (items : List Json)
  | object (members : List (String × Json))

namespace Json

def natural (value : Nat) : Json := .number (.integer value)

def member? (json : Json) (key : String) : Option Json :=
  match json with
  | .object members => Dictionary.get? members key
  | _ => none

def text? : Json → Option String
  | .string text => some text
  | _ => none

end Json

end TemplateServer

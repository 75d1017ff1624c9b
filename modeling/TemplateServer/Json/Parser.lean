import TemplateServer.Json.Token

/-!
Reading JSON text. The tokens of a document are taken one after the other by a
machine that holds the containers still open, innermost first. Of equal keys in
an object the last one counts. Containers nest at most `depthLimit` deep.
-/

namespace TemplateServer.Json

/-- A container that is still open: the items so far, last first, or the members
so far with the key that waits for its value. -/
inductive Frame where
  | array (items : List Json)
  | object (members : List (String × Json)) (key : String)

inductive Expected where
  | value
  | firstItem
  | firstKey (members : List (String × Json))
  | key (members : List (String × Json))
  | colon
  | separator (last : Json)

structure Machine where
  frames : List Frame
  expected : Expected

namespace Machine

def depthLimit : Nat := 127

def start : Machine := ⟨[], .value⟩

def push? (frames : List Frame) (frame : Frame) (expected : Expected) : Option Machine :=
  if frames.length < depthLimit then some ⟨frame :: frames, expected⟩ else none

/-- The start of a value. The object that opens is not framed until its first
key, so it is checked against the limit with the others. -/
def value? (frames : List Frame) : Token → Option Machine
  | .literal value => some ⟨frames, .separator value⟩
  | .string text => some ⟨frames, .separator (.string text)⟩
  | .openArray => push? frames (.array []) .firstItem
  | .openObject => if frames.length < depthLimit then some ⟨frames, .firstKey []⟩ else none
  | _ => none

def step? (machine : Machine) (token : Token) : Option Machine :=
  match machine.expected, token, machine.frames with
  | .value, token, frames => value? frames token
  | .firstItem, .closeArray, .array _ :: frames => some ⟨frames, .separator (.array [])⟩
  | .firstItem, token, frames => value? frames token
  | .firstKey _, .closeObject, frames => some ⟨frames, .separator (.object [])⟩
  | .firstKey members, .string key, frames => some ⟨.object members key :: frames, .colon⟩
  | .key members, .string key, frames => some ⟨.object members key :: frames, .colon⟩
  | .colon, .colon, frames => some ⟨frames, .value⟩
  | .separator last, .comma, .array items :: frames =>
      some ⟨.array (last :: items) :: frames, .value⟩
  | .separator last, .closeArray, .array items :: frames =>
      some ⟨frames, .separator (.array (last :: items).reverse)⟩
  | .separator last, .comma, .object members key :: frames =>
      some ⟨frames, .key (Dictionary.insert members key last)⟩
  | .separator last, .closeObject, .object members key :: frames =>
      some ⟨frames, .separator (.object (Dictionary.insert members key last))⟩
  | _, _, _ => none

def result? : Machine → Option Json
  | ⟨[], .separator value⟩ => some value
  | _ => none

end Machine

def parse? (text : String) : Option Json := do
  let machine ← (← tokens? text.toList).foldlM Machine.step? Machine.start
  machine.result?

end TemplateServer.Json

/-!
Open tags as the scanner reports them. All offsets are byte offsets into the
scanned text.
-/

namespace TemplateServer.Markup

structure Span where
  start : Nat
  stop : Nat
  deriving DecidableEq

namespace Span

/-- Both ends count: a cursor right after the last character is still inside. -/
def covers (span : Span) (offset : Nat) : Bool := span.start ≤ offset && offset ≤ span.stop

def shift (span : Span) (amount : Nat) : Span := ⟨span.start + amount, span.stop + amount⟩

end Span

/-- The argument of a call-style attribute such as `on-click('save')`. -/
structure Argument where
  /-- From the opening parenthesis to just past the closing one. -/
  span : Span
  /-- The text between the parentheses, quotes included. -/
  rawText : String
  deriving DecidableEq

structure Attribute where
  name : String
  /-- Starts where the name ends and covers the argument and the value, if any. -/
  valueSpan : Span
  argument : Option Argument
  deriving DecidableEq

namespace Attribute

/-- The range of the name, counted back from the start of the value. -/
def nameSpan (attr : Attribute) : Span :=
  ⟨attr.valueSpan.start - attr.name.utf8ByteSize, attr.valueSpan.start⟩

end Attribute

structure Tag where
  name : String
  /-- From the `<` to just past the `>`, or to where the tag is cut off. -/
  span : Span
  nameEnd : Nat
  attributes : List Attribute
  deriving DecidableEq

inductive Event where
  | openTag (tag : Tag)
  | finished
  deriving DecidableEq

end TemplateServer.Markup

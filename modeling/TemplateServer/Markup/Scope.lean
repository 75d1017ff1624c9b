import TemplateServer.Markup.Scan

/-!
What a cursor offset stands on: the name of an open tag, the name of a plain
attribute, the handler named in the argument of a call-style attribute, or
nothing that can be acted on.
-/

namespace TemplateServer.Markup

inductive ScopeKind where
  | tag
  | attributeName (name : String)
  | attributeValue (handler : String)
  | noScope
  deriving DecidableEq

structure Scope where
  tagName : String
  kind : ScopeKind
  deriving DecidableEq

/-- The characters at which a cursor counts as being on a name. All of them are
ASCII, so a byte of this class is always a character of its own. -/
def isNameByte (byte : UInt8) : Bool :=
  isLetter byte || isDigit byte || byte == 0x5F || byte == 0x2E || byte == 0x3A ||
    byte == 0x2D || byte == 0x23

def onName (text : String) (offset : Nat) : Bool :=
  match (Text.bytes text)[offset]? with
  | some byte => isNameByte byte
  | none => false

def withoutDelimiters (text : String) : String :=
  String.ofList text.toList.tail.dropLast

namespace Attribute

def kindAt? (attr : Attribute) (offset : Nat) : Option ScopeKind :=
  match attr.argument with
  | none => if attr.nameSpan.covers offset then some (.attributeName attr.name) else none
  | some argument =>
      if argument.span.start < offset && offset ≤ argument.span.stop then
        some (.attributeValue (withoutDelimiters argument.rawText))
      else none

end Attribute

/-- The first attribute that has something at the offset decides. An offset in
front of an attribute's name ends the search: attributes are in text order. -/
def attributeKind (offset : Nat) : List Attribute → ScopeKind
  | [] => .noScope
  | attr :: rest =>
      if offset < attr.nameSpan.start then .noScope
      else
        match attr.kindAt? offset with
        | some kind => kind
        | none => attributeKind offset rest

namespace Tag

def scopeAt (tag : Tag) (text : String) (offset : Nat) : Scope :=
  { tagName := tag.name
    kind :=
      if !onName text offset then .noScope
      else if offset ≤ tag.nameEnd then .tag
      else attributeKind offset tag.attributes }

end Tag

/-- The scope of an offset by a given sequence of events: the first open tag
around the offset decides, and nothing after the end of the text counts. -/
def scopeInEvents (text : String) (offset : Nat) : List Event → Option Scope
  | [] => none
  | .finished :: _ => none
  | .openTag tag :: rest =>
      if tag.span.covers offset then some (tag.scopeAt text offset)
      else scopeInEvents text offset rest

def scopeAt (text : String) (offset : Nat) : Option Scope :=
  scopeInEvents text offset (events text)

end TemplateServer.Markup

import TemplateServer.Text.Pattern

/-!
Looking for names in files: the definition of a handler in a program, and the
declaration of an attribute in a descriptor.
-/

namespace TemplateServer.Text

def isWhiteSpace (char : Char) : Bool :=
  let code := char.toNat
  (0x09 ≤ code && code ≤ 0x0D) || code = 0x20 || code = 0x85 || code = 0xA0 || code = 0x1680 ||
    (0x2000 ≤ code && code ≤ 0x200A) || code = 0x2028 || code = 0x2029 || code = 0x202F ||
    code = 0x205F || code = 0x3000

def isIdentifierChar (char : Char) : Bool := char.isAlphanum || char == '_' || char == '$'

def isDefiningMark (char : Char) : Bool := char == '(' || char == ':'

def definitionPattern (handler : String) : Pattern :=
  .sequence (.literal handler.toList) (.sequence (.run isWhiteSpace) (.oneOf isDefiningMark))

/-- The definition of a whole name. A character that would continue another name
may not stand in front of it; one that may is read, but is not in the group. -/
def handlerPattern (handler : String) : Pattern :=
  .sequence (.either .textStart (.oneOf fun char => !isIdentifierChar char))
    (.group (definitionPattern handler))

def attributePattern (name : String) : Pattern :=
  .sequence (.literal ['"'])
    (.sequence (.either (.literal ['@']) (.literal []))
      (.sequence (.literal name.toList) (.literal ['"'])))

end TemplateServer.Text

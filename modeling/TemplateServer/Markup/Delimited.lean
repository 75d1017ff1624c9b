import TemplateServer.Markup.Byte

/-!
Lengths of the delimited pieces of markup. Each function looks at the bytes
from its piece on and gives the number of bytes that the piece takes; a piece
that is not closed takes all of them. Because nothing but the following bytes
is looked at, a length never depends on where in a text the piece stands.
-/

namespace TemplateServer.Markup

def runLength (member : UInt8 → Bool) (input : List UInt8) : Nat :=
  (input.takeWhile member).length

def lengthThrough (pattern : List UInt8) : List UInt8 → Nat
  | [] => 0
  | byte :: rest =>
      if pattern.isPrefixOf (byte :: rest) then pattern.length
      else 1 + lengthThrough pattern rest

/-- The bytes of a quoted string after its opening quote, the closing quote
included. A backslash takes the next byte with it. -/
def stringTail (quote : UInt8) : List UInt8 → Nat
  | [] => 0
  | byte :: rest =>
      if byte = Byte.backslash then
        match rest with
        | [] => 1
        | _ :: later => 2 + stringTail quote later
      else if byte = quote then 1
      else 1 + stringTail quote rest

/-- The bytes of a bracket group after its opening bracket, the closing bracket
included, where `outer` groups are open around it. The kinds of the brackets
need not match, and brackets in quoted strings do not count. -/
def groupTail (outer : Nat) : List UInt8 → Nat
  | [] => 0
  | byte :: rest =>
      if isQuote byte then
        let quoted := stringTail byte rest
        1 + quoted + groupTail outer (rest.drop quoted)
      else if isOpener byte then 1 + groupTail (outer + 1) rest
      else if isCloser byte then
        match outer with
        | 0 => 1
        | inner + 1 => 1 + groupTail inner rest
      else 1 + groupTail outer rest
termination_by input => input.length
decreasing_by all_goals (simp only [List.length_cons, List.length_drop]; omega)

/-- The bytes of an unquoted value. It ends before `>`, `/>`, `<`, a comma or a
blank, but strings and groups in it are taken whole and an arrow `=>` continues
it, with any blanks around the arrow. -/
def expressionLength : List UInt8 → Nat
  | [] => 0
  | byte :: rest =>
      if isOpener byte then
        let group := groupTail 0 rest
        1 + group + expressionLength (rest.drop group)
      else if isQuote byte then
        let quoted := stringTail byte rest
        1 + quoted + expressionLength (rest.drop quoted)
      else if byte = Byte.equals && rest.head? == some Byte.greater then
        let taken := 1 + runLength isBlank rest.tail
        1 + taken + expressionLength (rest.drop taken)
      else if byte = Byte.slash && rest.head? == some Byte.greater then 0
      else if byte = Byte.greater || byte = Byte.less || byte = Byte.comma then 0
      else if isBlank byte then
        let blanks := runLength isBlank rest
        if [Byte.equals, Byte.greater].isPrefixOf (rest.drop blanks) then
          1 + blanks + expressionLength (rest.drop blanks)
        else 0
      else 1 + expressionLength rest
termination_by input => input.length
decreasing_by all_goals (simp only [List.length_cons, List.length_drop]; omega)

def valueLength : List UInt8 → Nat
  | [] => 0
  | byte :: rest =>
      if isQuote byte then 1 + stringTail byte rest else expressionLength (byte :: rest)

def groupLength (opener : UInt8) : List UInt8 → Nat
  | [] => 0
  | byte :: rest => if byte = opener then 1 + groupTail 0 rest else 0

end TemplateServer.Markup

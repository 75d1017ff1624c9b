import TemplateServer.Markup.Delimited
import TemplateServer.Markup.Tag
import TemplateServer.Text.Utf8

/-!
The scan of a template for its open tags. Text, closing tags, comments,
declarations, placeholders and the bodies of raw elements are passed over. The
scan never fails: an unterminated piece runs to the end of the text, and a tag
that is not closed ends where the next one begins.
-/

namespace TemplateServer.Markup

def tagNameLength (input : List UInt8) : Nat :=
  if [Byte.dollar, Byte.openBrace].isPrefixOf input then 1 + groupLength Byte.openBrace input.tail
  else runLength isTagByte input

def shorthandLength (input : List UInt8) : Nat :=
  match input.head? with
  | some byte =>
      if byte = Byte.dot || byte = Byte.hash then
        runLength (fun next => isTagByte next || next == Byte.dot || next == Byte.hash) input
      else 0
  | none => 0

def parametersLength (input : List UInt8) : Nat :=
  if input.head? = some Byte.bar then 1 + lengthThrough [Byte.bar] input.tail else 0

/-- The bytes between a tag name and the first separator: suffixes, parameters
and the tag's own argument. -/
def tagSuffixLength (input : List UInt8) : Nat :=
  let shorthand := shorthandLength input
  let afterShorthand := input.drop shorthand
  let parameters := parametersLength afterShorthand
  shorthand + parameters + groupLength Byte.openParenthesis (afterShorthand.drop parameters)

def assignedLength (input : List UInt8) : Nat :=
  let blanks := runLength isBlank input
  let sign := input.drop blanks
  if sign.head? = some Byte.equals then
    let more := runLength isBlank sign.tail
    blanks + 1 + more + valueLength (sign.tail.drop more)
  else 0

/-- What stands between the parentheses of an argument group. An argument that
is not closed, or is closed by another bracket, keeps its last byte. -/
def argumentText (group : List UInt8) : List UInt8 :=
  let inner := group.tail
  if inner.getLast? = some Byte.closeParenthesis then inner.dropLast else inner

def attributeAt (position : Nat) (input : List UInt8) : Attribute :=
  let name := input.takeWhile isAttributeByte
  let afterName := input.drop name.length
  let nameEnd := position + name.length
  let argument := groupLength Byte.openParenthesis afterName
  let value := assignedLength (afterName.drop argument)
  { name := Text.decode name
    valueSpan := ⟨nameEnd, nameEnd + argument + value⟩
    argument :=
      if argument = 0 then none
      else some
        { span := ⟨nameEnd, nameEnd + argument⟩
          rawText := Text.decode (argumentText (afterName.take argument)) } }

def attributeLength (input : List UInt8) : Nat :=
  let name := runLength isAttributeByte input
  let afterName := input.drop name
  let argument := groupLength Byte.openParenthesis afterName
  name + argument + assignedLength (afterName.drop argument)

/-- How an open tag goes on after its name: the attributes, the number of bytes
up to its end, and whether it opens a body. -/
structure TagRemainder where
  attributes : List Attribute
  length : Nat
  opensBody : Bool

namespace TagRemainder

def after (remainder : TagRemainder) (count : Nat) : TagRemainder :=
  { remainder with length := count + remainder.length }

def withAttribute (remainder : TagRemainder) (attr : Attribute) : TagRemainder :=
  { remainder with attributes := attr :: remainder.attributes }

end TagRemainder

theorem attribute_length_pos (byte : UInt8) (rest : List UInt8)
    (named : isAttributeByte byte = true) : 0 < attributeLength (byte :: rest) := by
  simp only [attributeLength, runLength, List.takeWhile_cons, named, if_true, List.length_cons]
  omega

/-- Reads attributes up to the end of the tag: `>`, `/>`, the next `<`, or the
end of the text. A byte that starts no attribute is passed over, and so is a
string that is no value. -/
def tagRemainder (position : Nat) (input : List UInt8) : TagRemainder :=
  let separators := runLength isSeparator input
  match found : input.drop separators with
  | [] => ⟨[], separators, false⟩
  | byte :: rest =>
      if byte = Byte.greater then ⟨[], separators + 1, true⟩
      else if byte = Byte.slash && rest.head? == some Byte.greater then ⟨[], separators + 2, false⟩
      else if byte = Byte.less then ⟨[], separators, false⟩
      else if named : isAttributeByte byte then
        let start := position + separators
        let taken := attributeLength (byte :: rest)
        ((tagRemainder (start + taken) ((byte :: rest).drop taken)).withAttribute
          (attributeAt start (byte :: rest))).after (separators + taken)
      else
        let taken := if isQuote byte then stringTail byte rest else 0
        (tagRemainder (position + separators + 1 + taken) (rest.drop taken)).after
          (separators + 1 + taken)
termination_by input.length
decreasing_by
  · have shorter : (byte :: rest).length ≤ input.length := by
      rw [← found, List.length_drop]; omega
    have positive := attribute_length_pos byte rest named
    simp only [List.length_drop, List.length_cons] at shorter ⊢
    omega
  · have shorter : (byte :: rest).length ≤ input.length := by
      rw [← found, List.length_drop]; omega
    simp only [List.length_drop, List.length_cons] at shorter ⊢
    omega

theorem tag_remainder_end {input : List UInt8}
    (ended : input.drop (runLength isSeparator input) = []) (position : Nat) :
    tagRemainder position input = ⟨[], runLength isSeparator input, false⟩ := by
  rw [tagRemainder]
  split
  · rfl
  · rename_i found
    rw [ended] at found
    cases found

theorem tag_remainder_cons {input rest : List UInt8} {byte : UInt8}
    (found : input.drop (runLength isSeparator input) = byte :: rest) (position : Nat) :
    tagRemainder position input =
      let separators := runLength isSeparator input
      if byte = Byte.greater then ⟨[], separators + 1, true⟩
      else if byte = Byte.slash && rest.head? == some Byte.greater then ⟨[], separators + 2, false⟩
      else if byte = Byte.less then ⟨[], separators, false⟩
      else if isAttributeByte byte then
        let start := position + separators
        let taken := attributeLength (byte :: rest)
        ((tagRemainder (start + taken) ((byte :: rest).drop taken)).withAttribute
          (attributeAt start (byte :: rest))).after (separators + taken)
      else
        let taken := if isQuote byte then stringTail byte rest else 0
        (tagRemainder (position + separators + 1 + taken) (rest.drop taken)).after
          (separators + 1 + taken) := by
  rw [tagRemainder]
  split
  · rename_i ended
    rw [found] at ended
    cases ended
  · rename_i other later same
    rw [found] at same
    cases same
    rfl

def isRawElement (name : List UInt8) : Bool :=
  let lower := name.map lowerByte
  lower == Text.bytes "script" || lower == Text.bytes "style"

def startsClosing (name input : List UInt8) : Bool :=
  (input.take (2 + name.length)).map lowerByte ==
    [Byte.less, Byte.slash] ++ name.map lowerByte

/-- The bytes of a raw body: up to the closing tag of that name in any letter
case, or to the end of the text. -/
def rawBodyLength (name : List UInt8) : List UInt8 → Nat
  | [] => 0
  | byte :: rest =>
      if startsClosing name (byte :: rest) then 0 else 1 + rawBodyLength name rest

def tagAt (position : Nat) (input : List UInt8) : Tag :=
  let name := tagNameLength input
  let suffix := tagSuffixLength (input.drop name)
  let nameEnd := position + 1 + name
  let remainder := tagRemainder (nameEnd + suffix) (input.drop (name + suffix))
  { name := Text.decode (input.take name)
    span := ⟨position, nameEnd + suffix + remainder.length⟩
    nameEnd := nameEnd
    attributes := remainder.attributes }

/-- The bytes that the scan passes over with a tag after its `<`: the tag itself
and, for a raw element that opens a body, that body. -/
def tagExtent (input : List UInt8) : Nat :=
  let name := tagNameLength input
  let suffix := tagSuffixLength (input.drop name)
  let remainder := tagRemainder 0 (input.drop (name + suffix))
  let extent := name + suffix + remainder.length
  if remainder.opensBody && isRawElement (input.take name) then
    extent + rawBodyLength (input.take name) (input.drop extent)
  else extent

/-- The bytes of a closing tag or declaration after its first two: through the
`>`, but never over the `<` of a following tag. -/
def declarationTail : List UInt8 → Nat
  | [] => 0
  | byte :: rest =>
      if byte = Byte.greater then 1
      else if byte = Byte.less then 0
      else 1 + declarationTail rest

/-- The number of further bytes to pass over with a byte between tags; none
where an open tag starts. -/
def passOver? (byte : UInt8) (rest : List UInt8) : Option Nat :=
  if byte = Byte.dollar then some (groupLength Byte.openBrace rest)
  else if byte = Byte.less then
    if [Byte.exclamation, Byte.hyphen, Byte.hyphen].isPrefixOf rest then
      some (3 + lengthThrough [Byte.hyphen, Byte.hyphen, Byte.greater] (rest.drop 3))
    else
      match rest with
      | [] => some 0
      | next :: later =>
          if next = Byte.exclamation || next = Byte.question || next = Byte.slash then
            some (1 + declarationTail later)
          else if isTagStart next then none
          else some 0
  else some 0

def gapLength : List UInt8 → Nat
  | [] => 0
  | byte :: rest =>
      match passOver? byte rest with
      | none => 0
      | some more => 1 + more + gapLength (rest.drop more)
termination_by input => input.length
decreasing_by simp only [List.length_cons, List.length_drop]; omega

/-- A place in a text: its offset and the bytes from there on. -/
structure Cursor where
  position : Nat
  rest : List UInt8
  deriving DecidableEq

namespace Cursor

def advance (cursor : Cursor) (count : Nat) : Cursor :=
  ⟨cursor.position + count, cursor.rest.drop count⟩

def nextTag? (cursor : Cursor) : Option (Tag × Cursor) :=
  let start := cursor.advance (gapLength cursor.rest)
  match start.rest with
  | [] => none
  | _ :: input => some (tagAt start.position input, start.advance (1 + tagExtent input))

theorem next_tag_shorter (cursor after : Cursor) (tag : Tag)
    (found : cursor.nextTag? = some (tag, after)) : after.rest.length < cursor.rest.length := by
  simp only [nextTag?] at found
  split at found
  · cases found
  · rename_i byte input equation
    cases found
    have dropped : (byte :: input).length ≤ cursor.rest.length := by
      rw [← equation, advance, List.length_drop]; omega
    simp only [advance, List.length_drop, List.length_cons] at *
    omega

def tags (cursor : Cursor) : List Tag :=
  match _found : cursor.nextTag? with
  | none => []
  | some (tag, after) => tag :: tags after
termination_by cursor.rest.length
decreasing_by exact next_tag_shorter cursor after tag _found

end Cursor

structure Scanner where
  cursor : Cursor
  finished : Bool
  deriving DecidableEq

namespace Scanner

def start (text : String) : Scanner := ⟨⟨0, Text.bytes text⟩, false⟩

/-- The next event and the scan after it; a finished scan reports nothing. -/
def next? (scanner : Scanner) : Option (Event × Scanner) :=
  if scanner.finished then none
  else
    match scanner.cursor.nextTag? with
    | some (tag, after) => some (.openTag tag, ⟨after, false⟩)
    | none => some (.finished, ⟨scanner.cursor.advance scanner.cursor.rest.length, true⟩)

def run (scanner : Scanner) : List Event × Scanner :=
  if scanner.finished then ([], scanner)
  else
    match _found : scanner.cursor.nextTag? with
    | none => ([.finished], ⟨scanner.cursor.advance scanner.cursor.rest.length, true⟩)
    | some (tag, after) =>
        let (events, last) := run ⟨after, false⟩
        (.openTag tag :: events, last)
termination_by scanner.cursor.rest.length
decreasing_by exact Cursor.next_tag_shorter scanner.cursor after tag _found

end Scanner

def tags (text : String) : List Tag := Cursor.tags ⟨0, Text.bytes text⟩

def events (text : String) : List Event := (Scanner.start text).run.1

theorem Scanner.run_eq_tags (cursor : Cursor) :
    (Scanner.run ⟨cursor, false⟩).1 = cursor.tags.map Event.openTag ++ [Event.finished] := by
  fun_induction Cursor.tags cursor with
  | case1 cursor ended =>
      unfold Scanner.run
      simp only [Bool.false_eq_true, if_false]
      split
      · rfl
      · rename_i found; simp [ended] at found
  | case2 cursor tag after next induction =>
      unfold Scanner.run
      simp only [Bool.false_eq_true, if_false]
      split
      · rename_i found; simp [next] at found
      · rename_i found
        rw [next] at found
        cases found
        simp [induction]

/-- A scan reports every open tag in order, then the end, and nothing else. -/
theorem events_eq_tags (text : String) :
    events text = (tags text).map Event.openTag ++ [Event.finished] :=
  Scanner.run_eq_tags ⟨0, Text.bytes text⟩

end TemplateServer.Markup

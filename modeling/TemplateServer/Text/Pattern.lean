import TemplateServer.Text.Position

/-!
Patterns and their leftmost match. From one place a pattern can be read in
several ways. They are listed in the order of preference: the first of two
alternatives before the second, a longer run before a shorter one. The match in
a text is the preferred reading at the leftmost place that has any.
-/

namespace TemplateServer.Text

inductive Pattern where
  /-- Nothing, at the start of the text only. -/
  | textStart
  | oneOf (accepts : Char → Bool)
  | literal (chars : List Char)
  /-- Any number of characters, as many as possible before fewer. -/
  | run (accepts : Char → Bool)
  | either (preferred other : Pattern)
  | sequence (first second : Pattern)
  /-- The inner pattern, whose bytes a match tells apart. -/
  | group (inner : Pattern)

/-- A place in a text: its offset and the characters from there on. -/
structure Place where
  offset : Nat
  rest : List Char

/-- A way to read a pattern: the place behind it and the bytes of its group. -/
structure Reading where
  stop : Place
  group : Option (Nat × Nat)

/-- The places behind accepted characters, the farthest first, in front of
nearer ones that are known already. -/
def runStops (accepts : Char → Bool) (nearer : List Place) (offset : Nat) :
    List Char → List Place
  | [] => ⟨offset, []⟩ :: nearer
  | char :: rest =>
      if accepts char then
        runStops accepts (⟨offset, char :: rest⟩ :: nearer) (offset + char.utf8Size) rest
      else ⟨offset, char :: rest⟩ :: nearer

/-- The ways to read a pattern from a place, the preferred one first. -/
def Pattern.readings : Pattern → Place → List Reading
  | .textStart, place => if place.offset = 0 then [⟨place, none⟩] else []
  | .oneOf accepts, place =>
      match place.rest with
      | [] => []
      | char :: rest => if accepts char then [⟨⟨place.offset + char.utf8Size, rest⟩, none⟩] else []
  | .literal chars, place =>
      if chars.isPrefixOf place.rest then
        [⟨⟨place.offset + size chars, place.rest.drop chars.length⟩, none⟩]
      else []
  | .run accepts, place => (runStops accepts [] place.offset place.rest).map (⟨·, none⟩)
  | .either preferred other, place => preferred.readings place ++ other.readings place
  | .sequence first second, place =>
      (first.readings place).flatMap fun lead =>
        (second.readings lead.stop).map fun last => ⟨last.stop, last.group.or lead.group⟩
  | .group inner, place =>
      (inner.readings place).map fun reading =>
        ⟨reading.stop, some (place.offset, reading.stop.offset)⟩

structure Match where
  whole : Nat × Nat
  group : Option (Nat × Nat)

def Match.get? (found : Match) : Nat → Option (Nat × Nat)
  | 0 => some found.whole
  | 1 => found.group
  | _ => none

def Pattern.matchFrom? (pattern : Pattern) (offset : Nat) (chars : List Char) : Option Match :=
  match pattern.readings ⟨offset, chars⟩ with
  | reading :: _ => some ⟨(offset, reading.stop.offset), reading.group⟩
  | [] =>
      match chars with
      | [] => none
      | char :: rest => pattern.matchFrom? (offset + char.utf8Size) rest

def Pattern.leftmost? (pattern : Pattern) (text : String) : Option Match :=
  pattern.matchFrom? 0 text.toList

/-- The pattern as it is searched for; none if an engine refuses it. It is assumed
that none is refused: names go into patterns as literals, so no pattern has a
fault, and a limit on its size is not counted. -/
def Pattern.compile? (pattern : Pattern) : Option Pattern := some pattern

def Pattern.find? (pattern : Pattern) (number : Nat) (text : String) : Option (Nat × Nat) :=
  (pattern.leftmost? text).bind fun found => found.get? number

end TemplateServer.Text

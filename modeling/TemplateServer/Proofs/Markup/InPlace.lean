import TemplateServer.Markup.Scan
import TemplateServer.Proofs.Text.Boundary

/-!
The scan of a text in place. It goes through the bytes of the text by index, cuts
names and arguments out of the text, and counts the groups that it has entered.
Nothing in its definition keeps an index inside the text or on a character
boundary, or makes a loop come to an end: an access that is not allowed stops the
scan, and a loop may go on for ever.
-/

namespace TemplateServer.Markup.InPlace

open Text (bytes decode Boundary)

instance (text : String) (offset : Nat) : Decidable (Boundary text offset) :=
  decidable_of_iff (String.Pos.Raw.IsValid text ⟨offset⟩) <| by
    rw [String.Pos.Raw.isValid_iff_exists_append, Boundary]
    constructor
    · rintro ⟨before, after, same, size⟩
      exact ⟨before, after, same, (String.Pos.Raw.ext_iff.mp size).symm⟩
    · rintro ⟨before, after, same, size⟩
      exact ⟨before, after, same, String.Pos.Raw.ext size.symm⟩

/-- What a scan does that is not allowed everywhere. -/
inductive Access where
  | byte (index : Nat)
  | rest (index : Nat)
  | slice (start stop : Nat)
  | search (index : Nat)
  | span (start stop : Nat)
  | leave (depth : Nat)

/-- A byte is read inside the text, and the rest of the text is taken from an index
inside or at its end. A slice runs forward between two characters of the text, and a
search starts between two characters. A span does not end before it starts, and a
group is left only after one has been entered. -/
def Access.Allowed (text : String) : Access → Prop
  | .byte index => index < text.utf8ByteSize
  | .rest index => index ≤ text.utf8ByteSize
  | .slice start stop =>
      start ≤ stop ∧ stop ≤ text.utf8ByteSize ∧ Boundary text start ∧ Boundary text stop
  | .search index => Boundary text index
  | .span start stop => start ≤ stop
  | .leave depth => 0 < depth

instance (text : String) : (access : Access) → Decidable (access.Allowed text)
  | .byte index => inferInstanceAs (Decidable (index < text.utf8ByteSize))
  | .rest index => inferInstanceAs (Decidable (index ≤ text.utf8ByteSize))
  | .slice start stop => inferInstanceAs (Decidable
      (start ≤ stop ∧ stop ≤ text.utf8ByteSize ∧ Boundary text start ∧ Boundary text stop))
  | .search index => inferInstanceAs (Decidable (Boundary text index))
  | .span start stop => inferInstanceAs (Decidable (start ≤ stop))
  | .leave depth => inferInstanceAs (Decidable (0 < depth))

/-- A computation that may be stopped at an access, and that may never end. -/
abbrev Run := ExceptT Access Option

inductive Turn (State Result : Type) where
  | again (state : State)
  | done (result : Result)

/-- Makes rounds from a turn on until one gives a result. -/
def Turn.follow {State Result : Type} (round : State → Run (Turn State Result))
    (turn : Turn State Result) : Run Result :=
  match turn with
  | .again state => do
      let next ← round state
      next |>.follow round
  | .done result => pure result
partial_fixpoint

def loop {State Result : Type} (round : State → Run (Turn State Result)) (state : State) :
    Run Result :=
  Turn.follow round (.again state)

section Scan

variable (text : String)

def demand (access : Access) : Run Unit :=
  if access.Allowed text then pure () else throw access

def byteAt (index : Nat) : Run UInt8 := do
  demand text (.byte index)
  return (bytes text).getD index 0

def peek (index : Nat) : Option UInt8 := (bytes text)[index]?

def startsAt (index : Nat) (pattern : List UInt8) : Bool :=
  pattern.isPrefixOf ((bytes text).drop index)

def slice (start stop : Nat) : Run String := do
  demand text (.slice start stop)
  return decode (((bytes text).drop start).take (stop - start))

def spanOf (start stop : Nat) : Run Span := do
  demand text (.span start stop)
  return ⟨start, stop⟩

def offsetWhere (test : List UInt8 → Bool) : List UInt8 → Option Nat
  | [] => none
  | byte :: rest =>
      if test (byte :: rest) then some 0 else (offsetWhere test rest).map (1 + ·)

/-- Where the first occurrence of a pattern from an index on ends; the end of the text
if there is none. -/
def searchPast (index : Nat) (pattern : List UInt8) : Run Nat := do
  demand text (.search index)
  match offsetWhere pattern.isPrefixOf ((bytes text).drop index) with
  | some offset => return index + offset + pattern.length
  | none => return text.utf8ByteSize

def runRound (member : UInt8 → Bool) (index : Nat) : Run (Turn Nat Nat) :=
  if index < text.utf8ByteSize then do
    if member (← byteAt text index) then return .again (index + 1) else return .done index
  else return .done index

def skipRun (member : UInt8 → Bool) (index : Nat) : Run Nat := loop (runRound text member) index

def stringRound (quote : UInt8) (index : Nat) : Run (Turn Nat Nat) :=
  if index < text.utf8ByteSize then do
    let byte ← byteAt text index
    if byte = Byte.backslash then return .again (index + 2)
    else if byte = quote then return .done (index + 1)
    else return .again (index + 1)
  else return .done text.utf8ByteSize

def skipString (index : Nat) : Run Nat := do
  let quote ← byteAt text index
  loop (stringRound text quote) (index + 1)

structure GroupState where
  index : Nat
  depth : Nat

def groupRound (state : GroupState) : Run (Turn GroupState Nat) :=
  if state.index < text.utf8ByteSize then do
    let byte ← byteAt text state.index
    if isQuote byte then return .again ⟨← skipString text state.index, state.depth⟩
    else if isOpener byte then return .again ⟨state.index + 1, state.depth + 1⟩
    else if isCloser byte then
      demand text (.leave state.depth)
      if state.depth - 1 = 0 then return .done (state.index + 1)
      else return .again ⟨state.index + 1, state.depth - 1⟩
    else return .again ⟨state.index + 1, state.depth⟩
  else return .done text.utf8ByteSize

def skipGroup (index : Nat) : Run Nat := loop (groupRound text) ⟨index, 0⟩

def declarationRound (index : Nat) : Run (Turn Nat Nat) :=
  if index < text.utf8ByteSize then do
    let byte ← byteAt text index
    if byte = Byte.greater then return .done (index + 1)
    else if byte = Byte.less then return .done index
    else return .again (index + 1)
  else return .done text.utf8ByteSize

def skipDeclaration (index : Nat) : Run Nat := loop (declarationRound text) index

def valueRound (index : Nat) : Run (Turn Nat Nat) :=
  if index < text.utf8ByteSize then do
    let byte ← byteAt text index
    if isOpener byte then return .again (← skipGroup text index)
    else if isQuote byte then return .again (← skipString text index)
    else if byte = Byte.equals && peek text (index + 1) == some Byte.greater then
      return .again (← skipRun text isBlank (index + 2))
    else if byte = Byte.slash && peek text (index + 1) == some Byte.greater then
      return .done index
    else if byte = Byte.greater || byte = Byte.less || byte = Byte.comma then return .done index
    else if isBlank byte then
      let next ← skipRun text isBlank index
      if startsAt text next [Byte.equals, Byte.greater] then return .again next
      else return .done index
    else return .again (index + 1)
  else return .done index

def skipValue (index : Nat) : Run Nat :=
  if index < text.utf8ByteSize then do
    if isQuote (← byteAt text index) then skipString text index
    else loop (valueRound text) index
  else return text.utf8ByteSize

def gapRound (index : Nat) : Run (Turn Nat (Option Nat)) :=
  if index < text.utf8ByteSize then do
    let byte ← byteAt text index
    if byte = Byte.dollar && peek text (index + 1) == some Byte.openBrace then
      return .again (← skipGroup text (index + 1))
    else if byte = Byte.less then
      if startsAt text index [Byte.less, Byte.exclamation, Byte.hyphen, Byte.hyphen] then
        return .again (← searchPast text (index + 4) [Byte.hyphen, Byte.hyphen, Byte.greater])
      else
        match peek text (index + 1) with
        | none => return .again (index + 1)
        | some next =>
            if next = Byte.exclamation || next = Byte.question || next = Byte.slash then
              return .again (← skipDeclaration text (index + 2))
            else if isTagStart next then return .done (some index)
            else return .again (index + 1)
    else return .again (index + 1)
  else return .done none

def tagStart (index : Nat) : Run (Option Nat) := loop (gapRound text) index

def skipName (index : Nat) : Run Nat :=
  if startsAt text index [Byte.dollar, Byte.openBrace] then skipGroup text (index + 1)
  else skipRun text isTagByte index

def shorthandRound (index : Nat) : Run (Turn Nat Nat) :=
  if index < text.utf8ByteSize then do
    let byte ← byteAt text index
    if byte = Byte.dot || byte = Byte.hash then
      return .again (← skipRun text isTagByte (index + 1))
    else return .done index
  else return .done index

def skipParameters (index : Nat) : Run Nat :=
  if peek text index = some Byte.bar then searchPast text (index + 1) [Byte.bar]
  else return index

def skipParentheses (index : Nat) : Run Nat :=
  if peek text index = some Byte.openParenthesis then skipGroup text index else return index

def skipSuffix (index : Nat) : Run Nat := do
  let shorthand ← loop (shorthandRound text) index
  let parameters ← skipParameters text shorthand
  skipParentheses text parameters

def innerStop (start stop : Nat) : Run Nat :=
  if start + 1 < stop then do
    if (← byteAt text (stop - 1)) = Byte.closeParenthesis then return stop - 1 else return stop
  else return stop

def argumentBetween (start stop : Nat) : Run Argument := do
  let inner ← innerStop text start stop
  let span ← spanOf text start stop
  let rawText ← slice text (start + 1) inner
  return ⟨span, rawText⟩

def argumentAt (index : Nat) : Run (Option Argument × Nat) :=
  if peek text index = some Byte.openParenthesis then do
    let stop ← skipGroup text index
    let argument ← argumentBetween text index stop
    return (some argument, stop)
  else return (none, index)

def skipAssigned (index : Nat) : Run Nat := do
  let sign ← skipRun text isBlank index
  if peek text sign = some Byte.equals then
    let start ← skipRun text isBlank (sign + 1)
    skipValue text start
  else return index

def attributeNamed (start nameEnd : Nat) : Run (Attribute × Nat) := do
  let name ← slice text start nameEnd
  let (argument, behind) ← argumentAt text nameEnd
  let stop ← skipAssigned text behind
  let valueSpan ← spanOf text nameEnd stop
  return (⟨name, valueSpan, argument⟩, stop)

structure TagState where
  index : Nat
  attributes : List Attribute

structure TagEnd where
  stop : Nat
  opensBody : Bool
  attributes : List Attribute

def attributeRound (state : TagState) : Run (Turn TagState TagEnd) := do
  let index ← skipRun text isSeparator state.index
  match peek text index with
  | none => return .done ⟨text.utf8ByteSize, false, state.attributes⟩
  | some byte =>
      if byte = Byte.greater then return .done ⟨index + 1, true, state.attributes⟩
      else if byte = Byte.slash && peek text (index + 1) == some Byte.greater then
        return .done ⟨index + 2, false, state.attributes⟩
      else if byte = Byte.less then return .done ⟨index, false, state.attributes⟩
      else
        let nameEnd ← skipRun text isAttributeByte index
        if nameEnd = index then
          if isQuote byte then return .again ⟨← skipString text index, state.attributes⟩
          else return .again ⟨index + 1, state.attributes⟩
        else
          let (attr, stop) ← attributeNamed text index nameEnd
          return .again ⟨stop, state.attributes ++ [attr]⟩

def skipRawBody (name : List UInt8) (index : Nat) : Run Nat := do
  demand text (.rest index)
  match offsetWhere (startsClosing name) ((bytes text).drop index) with
  | some offset => return index + offset
  | none => return text.utf8ByteSize

def openTag (start : Nat) : Run (Tag × Nat) := do
  let nameEnd ← skipName text (start + 1)
  let name ← slice text (start + 1) nameEnd
  let behind ← skipSuffix text nameEnd
  let last ← loop (attributeRound text) ⟨behind, []⟩
  let next ←
    if last.opensBody && isRawElement (bytes name) then skipRawBody text (bytes name) last.stop
    else pure last.stop
  let span ← spanOf text start last.stop
  return (⟨name, span, nameEnd, last.attributes⟩, next)

structure Scan where
  position : Nat
  finished : Bool

def next (scan : Scan) : Run (Option Event × Scan) :=
  if scan.finished then return (none, scan)
  else do
    match ← tagStart text scan.position with
    | some start =>
        let (tag, position) ← openTag text start
        return (some (.openTag tag), ⟨position, false⟩)
    | none => return (some .finished, ⟨text.utf8ByteSize, true⟩)

def eventRound (state : Scan × List Event) : Run (Turn (Scan × List Event) (List Event)) := do
  match ← next text state.1 with
  | (some event, after) => return .again (after, state.2 ++ [event])
  | (none, _) => return .done state.2

def scan : Run (List Event) := loop (eventRound text) (⟨0, false⟩, [])

end Scan

end TemplateServer.Markup.InPlace

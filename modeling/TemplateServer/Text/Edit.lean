import TemplateServer.Text.Position

/-!
Changes that an editor sends for an open document. They apply one after the
other, each to the text that the one before it left.
-/

namespace TemplateServer.Text

structure Change where
  range : Option Range
  text : String
  deriving DecidableEq

def replaceBytes (text : String) (start stop : Nat) (replacement : String) : String :=
  String.ofList
    (takeBytes start text.toList ++ replacement.toList ++ dropBytes stop text.toList)

def offsetOrEnd (text : String) (position : Position) : Nat :=
  (offset? text position).getD (size text.toList)

/-- The offsets that a range covers. A range that ends before it starts covers
nothing. -/
def Range.offsets (range : Range) (text : String) : Nat × Nat :=
  let start := offsetOrEnd text range.start
  (start, max (offsetOrEnd text range.stop) start)

def Change.apply (change : Change) (text : String) : String :=
  match change.range with
  | none => change.text
  | some range =>
      let (start, stop) := range.offsets text
      replaceBytes text start stop change.text

def applyChanges (text : String) (changes : List Change) : String :=
  changes.foldl (fun running change => change.apply running) text

end TemplateServer.Text

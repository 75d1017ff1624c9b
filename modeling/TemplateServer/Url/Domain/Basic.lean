import TemplateServer.Text.Split
import TemplateServer.Url.Domain.Direction
import TemplateServer.Url.Domain.Label

/-!
Domain names in ASCII. The characters of a name are mapped and composed, then
each of its labels is checked and coded.
-/

namespace TemplateServer.Url.Domain

def labels? (name : List Char) : Option (List (List Char)) := do
  let mapped ← name.mapM mapped?
  let labels ← (Text.pieces '.' (Text.composed mapped.flatten)).mapM plain?
  if labels.any (fun label => label.any runsBackward) && !labels.all isReadable then none
  else some labels

/-- The ASCII form of a name; none if it is no name. -/
def ascii? (name : List Char) : Option String := do
  let labels ← labels? name
  let coded ← labels.mapM coded?
  some (String.intercalate "." (coded.map String.ofList))

end TemplateServer.Url.Domain

/-!
Cutting a sequence, such as the characters of a text, at a separator.
-/

namespace TemplateServer.Text

/-- The pieces between separators; there is always at least one. -/
def pieces {Item : Type} [DecidableEq Item] (separator : Item) : List Item → List (List Item)
  | [] => [[]]
  | item :: rest =>
      if item = separator then [] :: pieces separator rest
      else
        match pieces separator rest with
        | [] => [[item]]
        | first :: later => (item :: first) :: later

def split (separator : Char) (text : String) : List String :=
  (pieces separator text.toList).map String.ofList

end TemplateServer.Text

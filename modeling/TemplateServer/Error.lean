import TemplateServer.FileSystem
import TemplateServer.Json.Decode

/-!
The ways in which the program fails, and the texts that tell of them.
-/

namespace TemplateServer

inductive DescriptorFault where
  | malformed
  | notObject
  | tagNotObject (tag : String)
  | autocomplete (tag : String) (cause : Json.DecodeError)

def DescriptorFault.message : DescriptorFault → String
  | .malformed => "<json error>"
  | .notObject => "expected a JSON object"
  | .tagNotObject tag => "definition of <" ++ tag ++ "> must be an object"
  | .autocomplete tag cause => "autocomplete of <" ++ tag ++ ">: " ++ cause.message

inductive ConfigurationFault where
  | invalidToml
  | lineMissing (line : Nat) (path : Path)

def ConfigurationFault.message : ConfigurationFault → String
  | .invalidToml => "<toml error>"
  | .lineMissing line path => "line " ++ toString line ++ " is past the end of " ++ path.text

inductive ServerError where
  | unresolvedTag (tag : String)
  | taglib (path : Path) (fault : DescriptorFault)
  | configuration (fault : ConfigurationFault)
  | io (cause : IoError)

def ServerError.message : ServerError → String
  | .unresolvedTag tag => "Couldn't find a definition for tag: " ++ tag
  | .taglib path fault => "Invalid taglib " ++ path.text ++ ": " ++ fault.message
  | .configuration fault => "Invalid configuration: " ++ fault.message
  | .io cause => "IO error: " ++ cause.message

end TemplateServer

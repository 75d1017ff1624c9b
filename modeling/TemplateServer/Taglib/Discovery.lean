import TemplateServer.Settings.Basic
import TemplateServer.Taglib.Lookup

/-!
Finding the tags of a project. Definitions are collected in order of rising
precedence: libraries of installed packages, configured directories, and the
library descriptor of the project with its own directories first. A descriptor
that cannot be used is passed over.
-/

namespace TemplateServer.Taglib

structure DiscoveryOptions where
  tagsDirs : List String
  installedTaglibs : Bool
  deriving DecidableEq

namespace DiscoveryOptions

def ofSettings (settings : Settings) : DiscoveryOptions :=
  ⟨settings.tagsDirs, settings.installedTaglibs⟩

def default : DiscoveryOptions := ofSettings Settings.default

end DiscoveryOptions

def libraryFileName : String := "marko.json"

def tagFileName : String := "marko-tag.json"

def packageFileName : String := "package.json"

/-- The nearest directory, from the given one upwards, with a package file; the
given one if there is none. -/
def projectRoot (files : FileSystem) (directory : Path) : Path :=
  (directory.ancestors.find? fun candidate =>
    files.isFile (candidate.child packageFileName)).getD directory

def readLibrary? (files : FileSystem) (path : Path) : Option Library :=
  match files.readText path with
  | .error _ => none
  | .ok contents => (parseLibrary path contents).toOption

def readTag? (files : FileSystem) (name : String) (path : Path) : Option TagDefinition :=
  match files.readText path with
  | .error _ => none
  | .ok contents => (parseTag name path contents).toOption

def firstFile? (files : FileSystem) (directory : Path) (names : List String) : Option Path :=
  (names.map directory.child).find? files.isFile

/-- Takes the implementation files of a tag's directory where its descriptor
names none. -/
def withFilesOf (files : FileSystem) (directory : Path) (definition : TagDefinition) :
    TagDefinition :=
  let given := definition.implementation
  { definition with
    implementation :=
      { given with
        template := given.template.or
          (firstFile? files directory ["index.marko", "template.marko"])
        renderer := given.renderer.or (firstFile? files directory ["renderer.js"]) } }

/-- The tag that a directory holds: one with a descriptor, or one with an
implementation. A descriptor that cannot be used hides the tag. -/
def tagOfDirectory? (files : FileSystem) (directory : Path) (name : String) (owner : Option Path) :
    Option TagDefinition :=
  let descriptor := directory.child tagFileName
  if files.isFile descriptor then
    (readTag? files name descriptor).map (withFilesOf files directory)
  else
    let definition := withFilesOf files directory ⟨name, ⟨none, none, owner⟩, [], []⟩
    if definition.isResolvable then some definition else none

def withoutEnding? (ending text : String) : Option String :=
  let length := text.length - ending.length
  if ending.length ≤ text.length && text.toList.drop length == ending.toList then
    some (String.ofList (text.toList.take length))
  else none

/-- The tag that an entry of a tag directory stands for. Hidden entries are
none. -/
def entryTag? (files : FileSystem) (directory : Path) (owner : Option Path) (name : String) :
    Option TagDefinition :=
  let path := directory.child name
  if name.toList.head? = some '.' then none
  else if files.isDirectory path then tagOfDirectory? files path name owner
  else
    (withoutEnding? ".marko" name).map fun tag => ⟨tag, ⟨some path, none, owner⟩, [], []⟩

def tagsOfDirectory (files : FileSystem) (owner : Option Path) (directory : Path) :
    List TagDefinition :=
  ((files.list? directory).getD []).filterMap (entryTag? files directory owner)

def tagsOfLibrary (files : FileSystem) (library : Library) : List TagDefinition :=
  library.tagsDirs.flatMap (tagsOfDirectory files (some library.path)) ++ library.tags

def packageMembers? (files : FileSystem) (directory : Path) : Option (List (String × Json)) :=
  match files.readText (directory.child packageFileName) with
  | .error _ => none
  | .ok contents =>
      match Json.parse? contents with
      | some (.object members) => some members
      | _ => none

def dependencyNames (members : List (String × Json)) : List String :=
  let names := ["dependencies", "devDependencies", "peerDependencies"].flatMap fun group =>
    match Dictionary.get? members group with
    | some (.object dependencies) => Dictionary.keys dependencies
    | _ => []
  Dictionary.sortedNames names

def installedLibraries (files : FileSystem) (root : Path) : List Library :=
  let names := ((packageMembers? files root).map dependencyNames).getD []
  let paths := names.map fun name => ((root.child "node_modules").child name).child libraryFileName
  (paths.filter files.isFile).filterMap (readLibrary? files)

def rootLibrary? (files : FileSystem) (root : Path) : Option Library :=
  let path := root.child libraryFileName
  if files.isFile path then readLibrary? files path else none

/-- All definitions that a project sees, those of higher precedence later. -/
def definitions (files : FileSystem) (options : DiscoveryOptions) (root : Path) :
    List TagDefinition :=
  let installed :=
    if options.installedTaglibs then
      (installedLibraries files root).flatMap (tagsOfLibrary files)
    else []
  let library := rootLibrary? files root
  let configured := options.tagsDirs.flatMap fun directory =>
    tagsOfDirectory files (library.map (·.path)) (root.child directory)
  let own := (library.map (tagsOfLibrary files)).getD []
  installed ++ configured ++ own

def markoVersion? (files : FileSystem) (root : Path) : Option Nat := do
  let members ← packageMembers? files ((root.child "node_modules").child "marko")
  let version ← (← Dictionary.get? members "version").text?
  let digits := version.toList.takeWhile Char.isDigit
  let value := digits.foldl (fun sum digit => sum * 10 + Json.digitValue digit) 0
  if digits.isEmpty || 0x10000000000000000 ≤ value then none else some value

def load (files : FileSystem) (options : DiscoveryOptions) (root : Path) : Lookup :=
  Lookup.ofDefinitions root (definitions files options root) (markoVersion? files root)

end TemplateServer.Taglib

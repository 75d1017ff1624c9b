import TemplateServer.Taglib.Discovery

/-!
The projects that have been loaded. A project is loaded when it is first asked
for and kept until the cache is cleared, which a change of options does.
-/

namespace TemplateServer.Taglib

structure Cache where
  options : DiscoveryOptions
  /-- Each project under its root. -/
  lookups : List (Path × Lookup)
  deriving DecidableEq

namespace Cache

def empty (options : DiscoveryOptions) : Cache := ⟨options, []⟩

def find? (cache : Cache) (root : Path) : Option Lookup :=
  (cache.lookups.find? fun entry => entry.1.same root).map (·.2)

def lookup (cache : Cache) (files : FileSystem) (directory : Path) : Lookup × Cache :=
  let root := projectRoot files directory
  match cache.find? root with
  | some found => (found, cache)
  | none =>
      let loaded := load files cache.options root
      (loaded, { cache with lookups := cache.lookups ++ [(root, loaded)] })

/-- Looks a project up by a task of its own, which works on the options and the
projects of the moment it is started. A task that breaks off has done nothing,
and the project is looked up without it. -/
def preload (cache : Cache) (files : FileSystem) (directory : Path) (breaksOff : Bool) :
    Lookup × Cache :=
  if breaksOff then cache.lookup files directory
  else
    let (found, loaded) := lookup ⟨cache.options, cache.lookups⟩ files directory
    (found, { cache with lookups := loaded.lookups })

def tag (cache : Cache) (files : FileSystem) (directory : Path) (name : String) :
    Option Implementation × Cache :=
  let (found, next) := cache.lookup files directory
  (found.tag? name, next)

def tagAttribute (cache : Cache) (files : FileSystem) (directory : Path) (tag name : String) :
    Option (Option Path) × Cache :=
  let (found, next) := cache.lookup files directory
  (found.attribute? tag name, next)

def sortedInfos (cache : Cache) (files : FileSystem) (directory : Path) : List TagInfo × Cache :=
  let (found, next) := cache.lookup files directory
  (found.sortedInfos, next)

def clear (cache : Cache) : Cache := { cache with lookups := [] }

/-- Other options than before make all that was loaded invalid. -/
def setOptions (cache : Cache) (options : DiscoveryOptions) : Cache :=
  if cache.options = options then cache else empty options

def size (cache : Cache) : Nat := cache.lookups.length

end Cache

end TemplateServer.Taglib

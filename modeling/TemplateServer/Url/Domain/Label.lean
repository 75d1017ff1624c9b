import TemplateServer.Text.Mark
import TemplateServer.Url.Domain.Joining
import TemplateServer.Url.Domain.Mapping
import TemplateServer.Url.Punycode

/-!
The labels of a domain name. A label with characters outside ASCII has a coded
form, which a mark in front tells from other labels; a name may hold either, and
both are checked alike.
-/

namespace TemplateServer.Url.Domain

def codeMark : List Char := ['x', 'n', '-', '-']

def isAscii (label : List Char) : Bool := label.all fun char => char.toNat < 0x80

def isForbidden (char : Char) : Bool :=
  char.toNat ≤ 0x20 || char.toNat = 0x7F ||
    ['%', '#', '/', ':', '<', '>', '?', '@', '[', '\\', ']', '^', '|'].contains char

/-- The lengths beyond which labels are neither read from their coded form nor
written in it. -/
def greatestCoded : Nat := 2000

def greatestPlain : Nat := 1000

def isSound (label : List Char) : Bool :=
  !label.any isForbidden &&
    (isAscii label ||
      (!codeMark.isPrefixOf label && !label.head?.any Text.isMark && joinsWell [] label))

/-- The label that a coded one stands for. It has to be one that mapping and
composing leave as it is, and that needs to be coded. -/
def uncoded? (digits : List Char) : Option (List Char) :=
  if greatestCoded < digits.length then none
  else
    match Punycode.decode? digits with
    | none => none
    | some label =>
        if !isAscii label && (label.all fun char => mapped? char == some [char]) &&
            Text.composed label == label && isSound label then
          some label
        else none

def plain? (label : List Char) : Option (List Char) :=
  if codeMark.isPrefixOf label then
    if isAscii label then uncoded? (label.drop codeMark.length) else none
  else if isSound label then some label
  else none

def coded? (label : List Char) : Option (List Char) :=
  if isAscii label then some label
  else if greatestPlain < label.length then none
  else some (codeMark ++ Punycode.encode label)

end TemplateServer.Url.Domain

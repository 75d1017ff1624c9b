import TemplateServer.Url.Host

/-!
The strict syntax of absolute addresses, which clients have to keep to: only
the characters of each part, every percent sign with two hexadecimal digits,
and square brackets nowhere but around the host.
-/

namespace TemplateServer.Url

def isUnreserved (char : Char) : Bool :=
  char.isAlphanum || char == '-' || char == '.' || char == '_' || char == '~'

def isSubDelimiter (char : Char) : Bool :=
  ['!', '$', '&', '\x27', '(', ')', '*', '+', ',', ';', '='].contains char

def isStrictPart (member : Char → Bool) : List Char → Bool
  | '%' :: high :: low :: rest =>
      (Text.hexDigit? high).isSome && (Text.hexDigit? low).isSome && isStrictPart member rest
  | char :: rest =>
      (isUnreserved char || isSubDelimiter char || member char) && isStrictPart member rest
  | [] => true

def isPathChar (char : Char) : Bool := char == ':' || char == '@' || char == '/'

def isQueryChar (char : Char) : Bool := isPathChar char || char == '?'

/-- A host in square brackets: an IPv6 address, or `v`, a version and a dot in
front of an address of that version. -/
def isStrictLiteral (inner : List Char) : Bool :=
  match inner with
  | letter :: rest =>
      if letter == 'v' || letter == 'V' then
        let version := rest.takeWhile (· != '.')
        let address := rest.drop (version.length + 1)
        !version.isEmpty && version.all Text.isHexDigit &&
          !address.isEmpty &&
          address.all fun char => isUnreserved char || isSubDelimiter char || char == ':'
      else (longAddress? inner).isSome
  | [] => false

def isStrictAuthority (input : List Char) : Bool :=
  let hostPort := (input.reverse.takeWhile (· != '@')).reverse
  let user := input.take (input.length - hostPort.length - 1)
  let userIsStrict := isStrictPart (· == ':') user
  let hostIsStrict :=
    match hostPort with
    | '[' :: rest =>
        let inner := rest.takeWhile (· != ']')
        let port := rest.drop (inner.length + 1)
        inner.length < rest.length && isStrictLiteral inner &&
          (port.isEmpty || (port.head? == some ':' && port.tail.all Char.isDigit))
    | _ =>
        let host := hostPort.takeWhile (· != ':')
        isStrictPart (fun _ => false) host && (hostPort.drop (host.length + 1)).all Char.isDigit
  userIsStrict && hostIsStrict

def isStrict (text : String) : Bool :=
  let chars := text.toList
  let scheme := chars.takeWhile (· != ':')
  let rest := chars.drop (scheme.length + 1)
  let beforeFragment := rest.takeWhile (· != '#')
  let fragment := rest.drop (beforeFragment.length + 1)
  let main := beforeFragment.takeWhile (· != '?')
  let query := beforeFragment.drop (main.length + 1)
  let mainIsStrict :=
    match main with
    | '/' :: '/' :: body =>
        let authority := body.takeWhile (· != '/')
        isStrictAuthority authority && isStrictPart isPathChar (body.drop authority.length)
    | _ => isStrictPart isPathChar main
  scheme.length < chars.length && scheme.head?.any Char.isAlpha &&
    scheme.all (fun char => char.isAlphanum || char == '+' || char == '-' || char == '.') &&
    mainIsStrict && isStrictPart isQueryChar query && isStrictPart isQueryChar fragment

end TemplateServer.Url

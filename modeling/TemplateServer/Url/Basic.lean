import TemplateServer.Path
import TemplateServer.Url.Host

/-!
Addresses of documents. Reading an address normalises it: the scheme and the
host are in lower case, default ports and the local host of files are left out,
dot segments are resolved, and backslashes count as slashes where the scheme
has a known meaning. Escapes stay as they are written. Two addresses are the
same if their texts are.
-/

namespace TemplateServer

namespace Url

inductive PathPart where
  | plain (text : String)
  | segments (names : List String)
  deriving DecidableEq

end Url

structure Url where
  scheme : String
  /-- What stands after `//`: user, host and port. -/
  authority : Option String
  path : Url.PathPart
  query : Option String
  fragment : Option String
  deriving DecidableEq

namespace Url

def PathPart.text : PathPart → String
  | .plain text => text
  | .segments names => String.join (names.map ("/" ++ ·))

def text (url : Url) : String :=
  let authority :=
    match url.authority, url.path with
    | some authority, _ => "//" ++ authority
    | none, .segments ("" :: _ :: _) => "/."
    | none, _ => ""
  let query := (url.query.map ("?" ++ ·)).getD ""
  let fragment := (url.fragment.map ("#" ++ ·)).getD ""
  url.scheme ++ ":" ++ authority ++ url.path.text ++ query ++ fragment

/-- The schemes of known meaning other than `file`, with their default ports. -/
def defaultPort? (scheme : String) : Option Nat :=
  if scheme = "http" || scheme = "ws" then some 80
  else if scheme = "https" || scheme = "wss" then some 443
  else if scheme = "ftp" then some 21
  else none

def isSlash (char : Char) : Bool := char == '/' || char == '\\'

def isDriveLetter (segment : String) : Bool :=
  match segment.toList with
  | [letter, mark] => letter.isAlpha && (mark == ':' || mark == '|')
  | _ => false

def beginsWithDrive (segment : String) : Bool :=
  isDriveLetter (String.ofList (segment.toList.takeWhile (· != '\\')))

def isSingleDot (segment : String) : Bool :=
  segment = "." || segment.toLower = "%2e"

def isDoubleDot (segment : String) : Bool :=
  let lower := segment.toLower
  lower = ".." || lower = "%2e." || lower = ".%2e" || lower = "%2e%2e"

/-- Tabs and line breaks count for nothing in an address. -/
def isIgnored (char : Char) : Bool := char == '\t' || char == '\n' || char == '\r'

structure PathDraft where
  kept : List String
  /-- What is read of the segment behind them. -/
  segment : String
  /-- The segment stands for itself, whatever it looks like. -/
  isLiteral : Bool
  /-- The path begins with a drive, so that its file is on no other host. -/
  namesDrive : Bool

namespace PathDraft

def empty : PathDraft := ⟨[], "", false, false⟩

/-- Adds characters between which nothing is ignored. In the path of a file, a
first segment that was cut off behind the name of a drive ends there. -/
def addChunk (isFile : Bool) (draft : PathDraft) (chunk : List Char) : PathDraft :=
  let text := escaped pathReserved (String.ofList chunk)
  if chunk.isEmpty then draft
  else if isFile && draft.kept.isEmpty && isDriveLetter draft.segment &&
      draft.segment.toList.getLast? == some ':' then
    { draft with kept := [draft.segment], segment := text, isLiteral := true }
  else { draft with segment := draft.segment ++ text }

def addSegment (isFile : Bool) (draft : PathDraft) (source : List Char) : PathDraft :=
  let chunks := Text.pieces '\n' (source.map fun char => if isIgnored char then '\n' else char)
  chunks.foldl (addChunk isFile) { draft with segment := "", isLiteral := false }

/-- The segments without the last one, which stays if it begins with a drive. -/
def withoutLast : List String → List String
  | [] => []
  | last :: earlier => if beginsWithDrive last then last :: earlier else earlier

/-- Takes the meaning of the segment that was read: dots lead nowhere or upwards,
and the first segment of a file may name a drive. -/
def resolved (isFile : Bool) (draft : PathDraft) : PathDraft :=
  if draft.isLiteral then draft
  else if isDoubleDot draft.segment then
    { draft with kept := withoutLast draft.kept, segment := "" }
  else if isSingleDot draft.segment then { draft with segment := "" }
  else if isFile && draft.kept.isEmpty && isDriveLetter draft.segment then
    { draft with
      segment := String.ofList (draft.segment.toList.take 1 ++ [':'])
      namesDrive := true }
  else draft

def isDots (draft : PathDraft) : Bool :=
  !draft.isLiteral && (isDoubleDot draft.segment || isSingleDot draft.segment)

def read (isFile : Bool) (draft : PathDraft) : List (List Char) → PathDraft
  | [] => draft
  | source :: rest =>
      let added := draft.addSegment isFile source
      let next := added.resolved isFile
      if rest.isEmpty then next
      else if added.isDots then read isFile next rest
      else read isFile { next with kept := next.segment :: next.kept } rest

def segments (draft : PathDraft) : List String := (draft.segment :: draft.kept).reverse

end PathDraft

def pathDraft (isFile : Bool) (slash : Char → Bool) (input : List Char) : PathDraft :=
  let slashed := input.map fun char => if slash char then '/' else char
  PathDraft.empty.read isFile (Text.pieces '/' slashed)

def segmentPath (slash : Char → Bool) (input : List Char) : List String :=
  (pathDraft false slash input).segments

def behindSlash (slash : Char → Bool) (input : List Char) : List Char :=
  match input.dropWhile isIgnored with
  | char :: rest => if slash char then rest else input
  | [] => input

/-- A port with its colon, and what stands behind it. The default port of the
scheme is left out. -/
def port? (scheme : String) (input : List Char) : Option (String × List Char) :=
  match input with
  | ':' :: rest => do
      let digits := rest.takeWhile Char.isDigit
      let behind := rest.drop digits.length
      let port ← digitsValue? 10 digits
      if 65535 < port || !(behind.isEmpty || behind.head? == some '\\') then none
      else if digits.isEmpty || defaultPort? scheme = some port then some ("", behind)
      else some (":" ++ toString port, behind)
  | _ => some ("", input)

def hostLength (inside : Bool) : List Char → Nat
  | [] => 0
  | char :: rest =>
      if char = ':' && !inside then 0
      else 1 + hostLength (char = '[' || (inside && char != ']')) rest

/-- User name and password with the sign behind them. An empty password has no
colon, and without both there is no sign. -/
def userText (input : List Char) : String :=
  let name := escaped userReserved (String.ofList (input.takeWhile (· != ':')))
  let secret := escaped userReserved (String.ofList ((input.dropWhile (· != ':')).drop 1))
  if secret ≠ "" then name ++ ":" ++ secret ++ "@"
  else if name ≠ "" then name ++ "@"
  else ""

/-- The normal text of user, host and port, and what stands behind the port. Only
an address whose scheme has no known meaning may lack a host, and then it has no
user and no port. A lone sign of a user has to be followed by something, or be at
the end. -/
def authority? (scheme : String) (input : List Char) (isAtEnd : Bool) :
    Option (String × List Char) := do
  let known := (defaultPort? scheme).isSome
  let afterUser := (input.reverse.takeWhile (· != '@')).reverse
  let user := userText (input.take (input.length - afterUser.length - 1))
  let name := String.ofList (afterUser.take (hostLength false afterUser))
  let behind := afterUser.drop name.length
  let host ← if known then namedHost? name else plainHost? name
  if input == ['@'] && !isAtEnd then none
  else if host = "" && (user ≠ "" || !behind.isEmpty) then none
  else
    let (port, rest) ← port? scheme behind
    some (user ++ host ++ port, rest)

/-- Host and path of a file address. A drive letter is never a host, the local
host is none, and a path that names a drive has none. -/
def filePart? (input : List Char) : Option (String × List String) :=
  let hostless (path : List Char) : String × List String :=
    ("", (pathDraft true isSlash path).segments)
  match input.dropWhile isIgnored with
  | [] => some (hostless input)
  | first :: behindFirst =>
      match isSlash first, behindFirst.dropWhile isIgnored with
      | true, second :: body =>
          if isSlash second then
            let source := body.takeWhile fun char => !isSlash char
            let name := String.ofList (source.filter fun char => !isIgnored char)
            let path := body.drop source.length
            if isDriveLetter name then some (hostless body)
            else if name = "" then some (hostless path)
            else
              (namedHost? name).map fun host =>
                if host = "localhost" then hostless path
                else
                  let draft := pathDraft true isSlash (behindSlash isSlash path)
                  (if draft.namesDrive then "" else host, draft.segments)
          else some (hostless behindFirst)
      | true, [] => some (hostless behindFirst)
      | false, _ => some (hostless input)

def withoutLeadingSlashes (segments : List String) : List String :=
  match segments.dropWhile (· == "") with
  | [] => [""]
  | named => named

/-- Authority and path behind the colon of the scheme. Of a file, the input still
holds what is ignored elsewhere. -/
def mainPart? (scheme : String) (source : List Char) (isAtEnd : Bool) :
    Option (Option String × PathPart) :=
  let input := source.filter fun char => !isIgnored char
  if scheme = "file" then
    (filePart? source).map fun (host, path) => (some host, .segments (withoutLeadingSlashes path))
  else if (defaultPort? scheme).isSome then do
    let body := input.dropWhile isSlash
    let authority := body.takeWhile fun char => !isSlash char
    let path := body.drop authority.length
    let (text, _) ← authority? scheme authority (isAtEnd && path.isEmpty)
    some (some text, .segments (segmentPath isSlash (behindSlash isSlash path)))
  else
    let slash : Char → Bool := (· == '/')
    match input with
    | '/' :: '/' :: body => do
        let authority := body.takeWhile (· != '/')
        let path := body.drop authority.length
        let (text, behind) ← authority? scheme authority (isAtEnd && path.isEmpty)
        let whole := behind ++ path
        some
          (some text,
            .segments (if whole.isEmpty then [] else segmentPath slash (behindSlash slash whole)))
    | '/' :: path => some (none, .segments (segmentPath slash path))
    | _ => some (none, .plain (escaped [] (String.ofList input)))

def partBehind (mark : Char) (input : List Char) : Option (List Char) :=
  match input.dropWhile (· != mark) with
  | [] => none
  | _ :: rest => some rest

def isSchemeChar (char : Char) : Bool :=
  char.isAlphanum || char == '+' || char == '-' || char == '.'

/-- Reads an address; none if it is no absolute address. Blanks around it do not
count. -/
def parse? (input : String) : Option Url := do
  let isEdge (char : Char) : Bool := char.toNat ≤ 0x20
  let chars := ((input.toList.dropWhile isEdge).reverse.dropWhile isEdge).reverse
  let visible (part : List Char) : String :=
    String.ofList (part.filter fun char => !isIgnored char)
  let name := (visible (chars.takeWhile (· != ':'))).toList
  let rest ← partBehind ':' chars
  if !(name.head?.any Char.isAlpha && name.all isSchemeChar) then none
  else
    let scheme := String.ofList (name.map Char.toLower)
    let beforeFragment := rest.takeWhile (· != '#')
    let beforeQuery := beforeFragment.takeWhile (· != '?')
    let (authority, path) ← mainPart? scheme beforeQuery (beforeQuery.length == rest.length)
    let known := scheme = "file" || (defaultPort? scheme).isSome
    let inQuery := if known then '\x27' :: queryReserved else queryReserved
    some
      { scheme := scheme
        authority := authority
        path := path
        query := (partBehind '?' beforeFragment).map fun part => escaped inQuery (visible part)
        fragment := (partBehind '#' rest).map fun part => escaped fragmentReserved (visible part) }

/-- The file path that a file address without a host names. The name of a drive
has a slash behind it. -/
def filePath? (url : Url) : Option Path :=
  match url.path with
  | .segments names =>
      if url.scheme = "file" && (url.authority = some "" || url.authority = some "localhost") then
        let bytes := names.flatMap fun name => 0x2F :: unescapedBytes (Text.bytes name)
        let drive := Text.decodeLossy (bytes.drop (bytes.length - 2))
        let ending := if 2 < bytes.length && isDriveLetter drive then [0x2F] else []
        some (Path.ofBytes (bytes ++ ending))
      else none
  | .plain _ => none

def ofFilePath? (path : Path) : Option Url :=
  if path.absolute then
    let names := (path.pieces.filter fun piece => !Path.isIdle piece).map fun piece =>
      escapedBytes segmentReserved piece.bytes
    some
      { scheme := "file"
        authority := some ""
        path := .segments (if names.isEmpty then [""] else names)
        query := none
        fragment := none }
  else none

end Url

end TemplateServer

import QueryTree.Url.Host

/-! # Reading URLs

A text is read from left to right: scheme, authority, path, query and fragment. In a special scheme a
backslash counts as a slash, and there is always a host and a path. -/

namespace QueryTree.Url

/-! ## Schemes -/

def specialSchemes : List String := ["http", "https", "ws", "wss", "ftp", "file"]

def isSpecialScheme (scheme : String) : Bool := specialSchemes.contains scheme

def defaultPort? : String → Option Nat
  | "http" | "ws" => some 80
  | "https" | "wss" => some 443
  | "ftp" => some 21
  | _ => none

def isSchemeChar (c : Char) : Bool := c.isAlphanum || "+-.".toList.contains c

/-- The scheme in lower case and what follows its colon. -/
def splitScheme? (text : List Char) : Option (String × List Char) :=
  let scheme := text.takeWhile isSchemeChar
  match scheme, text.dropWhile isSchemeChar with
  | c :: _, ':' :: rest =>
    if c.isAlpha then some (String.ofList (scheme.map Char.toLower), rest) else none
  | _, _ => none

/-! ## Authorities -/

def isSlash (isSpecial : Bool) (c : Char) : Bool := c == '/' || (isSpecial && c == '\\')

def endsAuthority (isSpecial : Bool) (c : Char) : Bool :=
  isSlash isSpecial c || c == '?' || c == '#'

/-- What stands before and after the last `@`. -/
def splitCredentials (text : List Char) : Option (List Char × List Char) :=
  if text.contains '@' then
    let host := (text.reverse.takeWhile (· != '@')).reverse
    some (text.take (text.length - host.length - 1), host)
  else none

/-- A user name and a password behind a colon, an empty one of either being the same as none. -/
def credentialsOf (text : List Char) : Option Credentials :=
  let username := text.takeWhile (· != ':')
  let password := (text.dropWhile (· != ':')).drop 1
  if username.isEmpty && password.isEmpty then none
  else
    let encode (part : List Char) := String.ofList (encodeWith needsEncodingInCredentials part)
    some ⟨encode username, if password.isEmpty then none else some (encode password)⟩

/-- The host, and the port text behind the first colon that stands outside of brackets. -/
def splitPort (inBrackets : Bool) : List Char → List Char × Option (List Char)
  | [] => ([], none)
  | c :: rest =>
    if c == ':' && !inBrackets then ([], some rest)
    else
      let (host, port) := splitPort (if c == '[' then true else if c == ']' then false else inBrackets)
        rest
      (c :: host, port)

def maxPort : Nat := 65535

/-- No digits stand for no port, and so does the scheme's own port. -/
def portOf? (scheme : String) (digits : List Char) : Except UrlError (Option Nat) :=
  if digits.isEmpty then .ok none
  else
    match Decimal.natural? digits with
    | none => .error .badPort
    | some port =>
      if maxPort < port then .error .badPort
      else if some port = defaultPort? scheme then .ok none
      else .ok (some port)

/-- The authority and what follows its port. A host may be empty only in a scheme that is not
special, without a port, a user name or a password, and not behind a lone `@` before a path or
query. -/
def authorityOf? (scheme : String) (text : List Char) (isLast : Bool) :
    Except UrlError (Authority × List Char) := do
  let isSpecial := isSpecialScheme scheme
  let (user, rest) := (splitCredentials text).getD ([], text)
  let credentials := credentialsOf user
  let (hostText, portText) := splitPort false rest
  let needsHost :=
    isSpecial || credentials.isSome || portText.isSome || (text == ['@'] && !isLast)
  if hostText.isEmpty && needsHost then .error .emptyHost
  let host ← if isSpecial then Host.ofText? hostText else Host.ofOpaqueText? hostText
  let digits := (portText.getD []).takeWhile (· != '\\')
  let port ← portOf? scheme digits
  .ok (⟨credentials, host, port⟩, (portText.getD []).drop digits.length)

/-! ## Paths -/

def dotSpellings : List String := [".", "%2e"]

def twoDotSpellings : List String := ["..", ".%2e", "%2e.", "%2e%2e"]

def isDot (segment : String) : Bool := dotSpellings.contains segment.toLower

def isTwoDots (segment : String) : Bool := twoDotSpellings.contains segment.toLower

/-- A letter and a colon, or a bar in its place. -/
def isDriveLetter : List Char → Bool
  | [letter, mark] => letter.isAlpha && (mark == ':' || mark == '|')
  | _ => false

/-- A drive letter is not left by going up, and neither is one with a backslash behind it. -/
def isKept (segment : String) : Bool :=
  isDriveLetter (segment.toList.take 2) && (segment.toList.drop 2).head?.all (· == '\\')

/-- The segments without the last one. -/
def shorten (segments : List String) : List String :=
  if segments.getLast?.any isKept then segments else segments.dropLast

def normalDrive (isFile isFirst : Bool) (segment : String) : String :=
  if isFile && isFirst && isDriveLetter segment.toList then
    String.ofList (segment.toList.take 1 ++ [':'])
  else segment

/-- Adds segments one after the other. One dot stays where it is and two dots go up; at the end of
the path they leave an empty segment. -/
def addSegments (isFile : Bool) (path : List String) : List String → List String
  | [] => path
  | segment :: rest =>
    let path :=
      if isTwoDots segment then shorten path ++ if rest.isEmpty then [""] else []
      else if isDot segment then path ++ if rest.isEmpty then [""] else []
      else path ++ [normalDrive isFile path.isEmpty segment]
    addSegments isFile path rest

/-- The segments between the slashes of a text. -/
def segmentsIn (isSpecial : Bool) (text : List Char) : List String :=
  (Text.splitBy (isSlash isSpecial) text).map fun segment =>
    String.ofList (encodeWith needsEncodingInPath segment)

def segmentsOf (isSpecial : Bool) (text : List Char) : List String :=
  addSegments false [] (segmentsIn isSpecial text)

/-- The path behind an authority. -/
def pathOf (isSpecial : Bool) (text : List Char) : UrlPath :=
  match text with
  | [] => .segments (if isSpecial then [""] else [])
  | c :: rest =>
    .segments (segmentsOf isSpecial (if isSlash isSpecial c then rest else text))

/-- A path without segments. A space at its end is encoded if something follows. -/
def opaquePathOf (text : List Char) (isLast : Bool) : UrlPath :=
  match text.reverse with
  | ' ' :: front =>
    if isLast then .opaqueText (String.ofList (encodeWith isControl text))
    else .opaqueText (String.ofList (encodeWith isControl front.reverse ++ "%20".toList))
  | _ => .opaqueText (String.ofList (encodeWith isControl text))

/-! ## Files -/

/-- A path of a file has no empty segments at its start. -/
def filePathOf (segments : List String) : List String :=
  match segments.dropWhile (· == "") with
  | [] => [""]
  | named => named

def fileHostOf? (text : List Char) : Except UrlError Host :=
  if text.isEmpty then .ok (.domain "")
  else
    match Host.ofText? text with
    | .error error => .error error
    | .ok host => .ok (if host = .domain "localhost" then .domain "" else host)

def localFile (text : List Char) : Authority × List String :=
  (⟨none, .domain "", none⟩, filePathOf (addSegments true [] (segmentsIn true text)))

/-- A path behind a host. A drive letter at its start leaves no host. Behind an empty host the slash
counts as a segment, so that nothing stands at the start. -/
def fileOn (host : Host) (text : List Char) : Authority × List String :=
  let start := if host = .domain "" then [""] else []
  let segments := addSegments true start (segmentsIn true text)
  let startsAtDrive := segments.head?.any fun name => isDriveLetter name.toList
  (⟨none, if startsAtDrive then .domain "" else host, none⟩, filePathOf segments)

/-- The host behind two slashes and the path. A drive letter is no host but belongs to the path. -/
def fileOf? (text : List Char) : Except UrlError (Authority × List String) :=
  match text with
  | [] => .ok (localFile [])
  | first :: behindFirst =>
    if !isSlash true first then .ok (localFile text)
    else
      match behindFirst with
      | [] => .ok (localFile [])
      | second :: rest =>
        if !isSlash true second then .ok (localFile behindFirst)
        else
          let host := rest.takeWhile fun c => !isSlash true c
          if isDriveLetter host then .ok (localFile rest)
          else (fileHostOf? host).map fun found => fileOn found (rest.drop (host.length + 1))

/-! ## Whole URLs -/

def isTrimmed (c : Char) : Bool := c.toNat ≤ 0x20

def isSkipped (c : Char) : Bool := c == '\t' || c == '\n' || c == '\r'

/-- The text without controls and spaces at its ends and without tabs and line breaks. -/
def cleaned (text : List Char) : List Char :=
  ((text.dropWhile isTrimmed).reverse.dropWhile isTrimmed).reverse.filter fun c => !isSkipped c

structure Tail where
  query : Option String
  fragment : Option String

/-- The query and fragment at the end of a URL. -/
def tailOf (isSpecial : Bool) (text : List Char) : Tail :=
  let query := text.takeWhile (· != '#')
  let fragment := text.dropWhile (· != '#')
  ⟨if query.isEmpty then none
    else some (String.ofList (encodeWith (needsEncodingInQuery isSpecial) (query.drop 1))),
  if fragment.isEmpty then none
    else some (String.ofList (encodeWith needsEncodingInFragment (fragment.drop 1)))⟩

def isPathChar (c : Char) : Bool := c != '?' && c != '#'

/-- The authority, unless there is none, and the path of a URL that is no file. -/
def authorityAndPath? (scheme : String) (text : List Char) (isLast : Bool) :
    Except UrlError (Option Authority × UrlPath) :=
  let isSpecial := isSpecialScheme scheme
  let behindSlashes : Option (List Char) :=
    match isSpecial, text with
    | true, _ => some (text.dropWhile (isSlash true))
    | false, '/' :: '/' :: rest => some rest
    | false, _ => none
  match behindSlashes, text with
  | some rest, _ =>
    let authority := rest.takeWhile fun c => !endsAuthority isSpecial c
    let path := rest.drop authority.length
    (authorityOf? scheme authority (isLast && path.isEmpty)).map fun (found, behindPort) =>
      (some found, pathOf isSpecial (behindPort ++ path))
  | none, '/' :: rest => .ok (none, .segments (segmentsOf false rest))
  | none, _ => .ok (none, opaquePathOf text isLast)

/-- The URL that a text spells. -/
def ofText? (text : String) : Except UrlError Url :=
  match splitScheme? (cleaned text.toList) with
  | none => .error .relative
  | some (scheme, rest) =>
    let front := rest.takeWhile isPathChar
    let tail := tailOf (isSpecialScheme scheme) (rest.dropWhile isPathChar)
    if scheme = "file" then
      (fileOf? front).map fun (authority, segments) =>
        ⟨scheme, some authority, .segments segments, tail.query, tail.fragment⟩
    else
      (authorityAndPath? scheme front (front.length == rest.length)).map fun (authority, path) =>
        ⟨scheme, authority, path, tail.query, tail.fragment⟩

end QueryTree.Url

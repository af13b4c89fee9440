import QueryTree.Decimal.Digits

/-! # URLs

A URL has a scheme, an authority unless it is of a scheme without one, a path, and at most one query
and fragment. All parts are kept in the form in which they are written. -/

namespace QueryTree

/-! ## Hosts -/

inductive Host where
  | domain (name : String)
  | ipv4 (address : BitVec 32)
  | ipv6 (address : BitVec 128)
  deriving DecidableEq

namespace Host

/-- The numbers of an IPv4 address, the highest first. -/
def octets (address : BitVec 32) : List Nat :=
  (List.range 4).map fun i => address.toNat >>> (8 * (3 - i)) % 256

/-- The pieces of an IPv6 address, the highest first. -/
def pieces (address : BitVec 128) : List Nat :=
  (List.range 8).map fun i => address.toNat >>> (16 * (7 - i)) % 65536

/-- Where the first longest run of zero pieces starts and how long it is. -/
def zeroRun (pieces : List Nat) : Nat × Nat :=
  (List.range pieces.length).foldl (fun best start =>
    let length := ((pieces.drop start).takeWhile (· == 0)).length
    if best.2 < length then (start, length) else best) (0, 0)

def hexPieces (pieces : List Nat) : String :=
  ":".intercalate (pieces.map fun piece => String.ofList (Nat.toDigits 16 piece))

/-- Two colons stand for the first longest run of two or more zero pieces. -/
def ipv6Text (pieces : List Nat) : String :=
  let (start, length) := zeroRun pieces
  if length < 2 then hexPieces pieces
  else hexPieces (pieces.take start) ++ "::" ++ hexPieces (pieces.drop (start + length))

def toText : Host → String
  | .domain name => name
  | .ipv4 address =>
    ".".intercalate ((octets address).map fun octet => String.ofList (Decimal.digits octet))
  | .ipv6 address => "[" ++ ipv6Text (pieces address) ++ "]"

end Host

/-! ## Authorities and paths -/

structure Credentials where
  username : String
  password : Option String
  deriving DecidableEq

structure Authority where
  credentials : Option Credentials
  host : Host
  port : Option Nat
  deriving DecidableEq

inductive UrlPath where
  | opaqueText (text : String)
  | segments (names : List String)
  deriving DecidableEq

structure Url where
  scheme : String
  authority : Option Authority
  path : UrlPath
  query : Option String
  fragment : Option String
  deriving DecidableEq

def Credentials.toText (credentials : Credentials) : String :=
  credentials.username ++ (credentials.password.map (":" ++ ·)).getD "" ++ "@"

def Authority.toText (authority : Authority) : String :=
  (authority.credentials.map Credentials.toText).getD "" ++ authority.host.toText ++
    (authority.port.map fun port => ":" ++ String.ofList (Decimal.digits port)).getD ""

def UrlPath.toText : UrlPath → String
  | .opaqueText text => text
  | .segments names => String.join (names.map ("/" ++ ·))

namespace Url

/-- Keeps a path that starts with two slashes from being taken for an authority. -/
def pathGuard (url : Url) : String :=
  if url.authority.isNone && "//".toList.isPrefixOf url.path.toText.toList then "/." else ""

def toText (url : Url) : String :=
  url.scheme ++ ":" ++ (url.authority.map fun authority => "//" ++ authority.toText).getD "" ++
    url.pathGuard ++ url.path.toText ++ (url.query.map ("?" ++ ·)).getD "" ++
    (url.fragment.map ("#" ++ ·)).getD ""

def credentials (url : Url) : Option Credentials := url.authority.bind Authority.credentials

def withoutCredentials (url : Url) : Url :=
  { url with authority := url.authority.map fun authority => { authority with credentials := none } }

def withoutFragment (url : Url) : Url := { url with fragment := none }

def isWeb (url : Url) : Bool := url.scheme == "http" || url.scheme == "https"

end Url

/-! ## Errors -/

inductive UrlError where
  | relative
  | emptyHost
  | badPort
  | badIpv4
  | badIpv6
  | badDomain
  | badHostCharacter
  deriving DecidableEq

def UrlError.message : UrlError → String
  | .relative => "relative URL without a base"
  | .emptyHost => "empty host"
  | .badPort => "invalid port number"
  | .badIpv4 => "invalid IPv4 address"
  | .badIpv6 => "invalid IPv6 address"
  | .badDomain => "invalid international domain name"
  | .badHostCharacter => "invalid domain character"

end QueryTree

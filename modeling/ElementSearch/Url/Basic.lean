/-!
# URLs

A URL in parts and its text. The parts hold the text in its final form: everything is percent-encoded
and folded, and a default port is left out. A path without an authority that does not start with a
slash is opaque, and nothing can be resolved against it.
-/

namespace ElementSearch

/-- Why a text is no URL. -/
inductive UrlError where
  | emptyHost
  | invalidDomain
  | invalidPort
  | invalidIpv4
  | invalidIpv6
  | forbiddenHostCharacter
  | relativeWithoutBase
  | relativeToOpaque
  deriving DecidableEq

/-- The text of a URL error. -/
def UrlError.message : UrlError → String
  | .emptyHost => "empty host"
  | .invalidDomain => "invalid international domain name"
  | .invalidPort => "invalid port number"
  | .invalidIpv4 => "invalid IPv4 address"
  | .invalidIpv6 => "invalid IPv6 address"
  | .forbiddenHostCharacter => "invalid domain character"
  | .relativeWithoutBase => "relative URL without a base"
  | .relativeToOpaque => "relative URL with a cannot-be-a-base base"

namespace Url

/-- Who and where a URL addresses: credentials, host and port. -/
structure Authority where
  username : List Char
  password : List Char
  host : List Char
  port : Option Nat
  deriving DecidableEq

/-- The authority that names nothing. -/
def Authority.nowhere : Authority := ⟨[], [], [], none⟩

/-- The credentials of an authority with the sign behind them, or nothing if there are none. -/
def Authority.credentials (authority : Authority) : List Char :=
  if authority.username = [] ∧ authority.password = [] then
    []
  else
    authority.username ++
      (if authority.password = [] then [] else ':' :: authority.password) ++ ['@']

/-- The text of an authority. -/
def Authority.render (authority : Authority) : List Char :=
  authority.credentials ++ authority.host ++
    authority.port.elim [] fun port => ':' :: Nat.toDigits 10 port

/-- The schemes that are treated alike: files, the other schemes of the web, and all the rest. -/
inductive SchemeKind where
  | file
  | web
  | other
  deriving DecidableEq

/-- Whether a backslash counts as a slash and a path is never empty. -/
def SchemeKind.isSpecial : SchemeKind → Bool
  | .other => false
  | _ => true

/-- The kind of a scheme. -/
def SchemeKind.ofScheme (scheme : List Char) : SchemeKind :=
  match String.ofList scheme with
  | "file" => .file
  | "http" | "https" | "ws" | "wss" | "ftp" => .web
  | _ => .other

/-- The port that a scheme implies. -/
def defaultPort? (scheme : List Char) : Option Nat :=
  match String.ofList scheme with
  | "http" | "ws" => some 80
  | "https" | "wss" => some 443
  | "ftp" => some 21
  | _ => none

end Url

/-- A URL, split into parts. -/
structure Url where
  scheme : List Char
  authority : Option Url.Authority
  path : List Char
  query : Option (List Char)
  fragment : Option (List Char)
  deriving DecidableEq

namespace Url

/-- The kind of the URL's scheme. -/
def kind (url : Url) : SchemeKind :=
  SchemeKind.ofScheme url.scheme

/-- An opaque URL is one that nothing can be resolved against. -/
def isOpaque (url : Url) : Bool :=
  url.authority.isNone && url.path.head? != some '/'

/-- The text of a URL. Before a path that starts with two slashes and follows no authority stands `/.`,
so that reading the text does not find an authority there. -/
def render (url : Url) : List Char :=
  let front := match url.authority with
    | some authority => '/' :: '/' :: authority.render
    | none => if ['/', '/'].isPrefixOf url.path then ['/', '.'] else []
  url.scheme ++ [':'] ++ front ++ url.path ++
    url.query.elim [] ('?' :: ·) ++ url.fragment.elim [] ('#' :: ·)

/-- The text of a URL as a string. -/
def toString (url : Url) : String :=
  String.ofList url.render

end Url

end ElementSearch

import ElementSearch.Url.Address
import ElementSearch.Url.Domain
import ElementSearch.Url.Path

/-!
# Reading URLs

A text is read as a URL of its own or relative to a base. Controls and spaces around it are dropped, and
tabs and line breaks anywhere in it. Under a special scheme a backslash counts as a slash, and a host is
read as a domain name or a numeric address; under any other it is taken as it is written.
-/

namespace ElementSearch.Url

/-- A text without the controls and spaces around it. -/
def trimmed (text : List Char) : List Char :=
  let isPadding := fun character : Char => decide (character ≤ ' ')
  ((text.dropWhile isPadding).reverse.dropWhile isPadding).reverse

/-- Whether a character can stand in a scheme behind the first letter. -/
def isSchemeCharacter (character : Char) : Bool :=
  character.isAlphanum || character ∈ ['+', '-', '.']

/-- The scheme at the start of a text, folded, and what follows its colon. -/
def splitScheme? (text : List Char) : Option (List Char × List Char) :=
  match text, text.dropWhile isSchemeCharacter with
  | first :: _, ':' :: rest =>
    if first.isAlpha then some ((text.takeWhile isSchemeCharacter).map Char.toLower, rest) else none
  | _, _ => none

/-- Whether a character is a slash, or a backslash that stands for one. -/
def isSlash (character : Char) : Bool :=
  character == '/' || character == '\\'

/-- Whether a character ends the part of a text that holds the authority. -/
def endsAuthority (kind : SchemeKind) (character : Char) : Bool :=
  character ∈ ['/', '?', '#'] || (kind.isSpecial && character == '\\')

/-- The query and the fragment at the end of a text. -/
def queryAndFragment (kind : SchemeKind) (text : List Char) :
    Option (List Char) × Option (List Char) :=
  let fragmentOf := fun rest : List Char =>
    match rest with
    | '#' :: fragment => some (percentEncode inFragmentSet fragment)
    | _ => none
  match text with
  | '?' :: rest =>
    (some (percentEncode (inQuerySet kind.isSpecial) (rest.takeWhile (· ≠ '#'))),
      fragmentOf (rest.dropWhile (· ≠ '#')))
  | _ => (none, fragmentOf text)

/-- Whether a character ends the path. -/
def endsPath (character : Char) : Bool :=
  character == '?' || character == '#'

/-- The URL with a path that a text goes on with, and the query and the fragment behind it. -/
def withPathText (kind : SchemeKind) (scheme : List Char) (authority : Option Authority)
    (path text : List Char) : Url :=
  let (query, fragment) := queryAndFragment kind
    (withoutBreaks (text.dropWhile fun character => !endsPath character))
  ⟨scheme, authority, extendPath kind path (text.takeWhile fun character => !endsPath character),
    query, fragment⟩

/-- The credentials in front of a host, and the text from the host on. -/
def splitCredentials (kind : SchemeKind) (text : List Char) :
    Except UrlError (List Char × List Char × List Char) :=
  let front := text.takeWhile fun character => !endsAuthority kind character
  if '@' ∉ front then
    .ok ([], [], text)
  else
    let host := (front.reverse.takeWhile (· ≠ '@')).reverse
    let credentials := front.take (front.length - host.length - 1)
    let rest := text.drop (credentials.length + 1)
    if credentials = [] ∧ rest.head?.any (endsAuthority kind) then
      .error .emptyHost
    else
      let username := credentials.takeWhile (· ≠ ':')
      let password := (credentials.dropWhile (· ≠ ':')).drop 1
      .ok (percentEncode inUserinfoSet username, percentEncode inUserinfoSet password, rest)

/-- The host at the start of a text, and what follows it. A colon ends it unless brackets are open. -/
def splitHost (kind : SchemeKind) (bracketed : Bool) : List Char → List Char × List Char
  | [] => ([], [])
  | character :: rest =>
    if endsAuthority kind character || (character == ':' && !bracketed) then
      ([], character :: rest)
    else
      let inside := if character = '[' then true else if character = ']' then false else bracketed
      let (host, after) := splitHost kind inside rest
      (character :: host, after)

/-- The address in a host that starts with a bracket. -/
def bracketedHost (host : List Char) : Except UrlError (List Char) :=
  match host.getLast?, Ipv6.parse? (host.drop 1).dropLast with
  | some ']', some groups => .ok (['['] ++ Ipv6.render groups ++ [']'])
  | _, _ => .error .invalidIpv6

/-- The form of a host under a special scheme. -/
def specialHost (host : List Char) : Except UrlError (List Char) :=
  if host.head? = some '[' then
    bracketedHost host
  else
    match domain? host with
    | none => .error .invalidDomain
    | some [] => .error .emptyHost
    | some domain =>
      if Ipv4.looksNumeric domain then
        match Ipv4.parse? domain with
        | some address => .ok (Ipv4.render address)
        | none => .error .invalidIpv4
      else
        .ok domain

/-- The characters that a host under other schemes cannot hold. -/
def isForbiddenInHost (character : Char) : Bool :=
  character ∈
    ['\x00', '\t', '\n', '\r', ' ', '#', '/', ':', '<', '>', '?', '@', '[', '\\', ']', '^', '|']

/-- The form of a host under a scheme that is not special. It may be empty. -/
def opaqueHost (host : List Char) : Except UrlError (List Char) :=
  if host.head? = some '[' then
    bracketedHost host
  else if host.any isForbiddenInHost then
    .error .forbiddenHostCharacter
  else
    .ok (percentEncode isControl host)

/-- The port at the start of a text and what follows it. No digits stand for no port. -/
def splitPort (text : List Char) : Except UrlError (Option Nat × List Char) :=
  let digits := text.takeWhile Char.isDigit
  let rest := text.drop digits.length
  let value := Text.numeral 10 digits
  if 65535 < value ∨ rest.head?.any (· ∉ ['/', '\\', '?', '#']) then
    .error .invalidPort
  else
    .ok (if digits = [] then none else some value, rest)

/-- The path with which the text behind a host starts: a special URL always has one. -/
def afterHost (kind : SchemeKind) (scheme : List Char) (authority : Authority) (text : List Char) :
    Url :=
  match kind, text with
  | .other, [] => withPathText kind scheme (some authority) [] []
  | .other, character :: rest =>
    let path := if character = '/' ∨ endsPath character then [] else ['/']
    withPathText kind scheme (some authority) path (character :: rest)
  | _, text =>
    let rest := if text.head?.any isSlash then text.drop 1 else text
    withPathText kind scheme (some authority) ['/'] rest

/-- The URL whose authority starts a text. -/
def withAuthority (kind : SchemeKind) (scheme text : List Char) : Except UrlError Url := do
  let (username, password, text) ← splitCredentials kind text
  let (hostText, rest) := splitHost kind false text
  let host ←
    if kind.isSpecial then
      if hostText = [] then .error .emptyHost else specialHost hostText
    else
      opaqueHost hostText
  if host = [] ∧ rest.head? = some ':' then
    .error .emptyHost
  let (port, rest) ← match rest with
    | ':' :: portText => splitPort portText
    | _ => .ok (none, rest)
  let port := if port = defaultPort? scheme then none else port
  let authority : Authority := ⟨username, password, host, port⟩
  if host = [] ∧ authority.credentials ≠ [] then
    .error .emptyHost
  else
    .ok (afterHost kind scheme authority rest)

/-- The scheme of files. -/
def fileScheme : List Char := "file".toList

/-- The file URL whose host starts a text, which holds its breaks. A drive letter is no host, and the local
host is none. -/
def fileWithHost (text : List Char) : Except UrlError Url := do
  let endsHost := fun character : Char => isSlash character || endsPath character
  let front := text.takeWhile fun character => !endsHost character
  let hostText := withoutBreaks front
  let rest := if isDriveLetter hostText then text else text.drop front.length
  let host ←
    if hostText = [] ∨ isDriveLetter hostText then .ok [] else specialHost hostText
  if host = [] ∨ host = "localhost".toList then
    .ok (withPathText .file fileScheme (some .nowhere) ['/'] rest)
  else
    let behind := if rest.head?.any isSlash then rest.drop 1 else rest
    let segments := (behind.takeWhile fun character => !endsPath character).splitOnP (isSeparator .file)
    let authority : Authority :=
      if meetsDriveLetter ['/'] segments then .nowhere else { Authority.nowhere with host }
    .ok (withPathText .file fileScheme (some authority) ['/'] behind)

/-- The first segment of a path. -/
def firstSegment (path : List Char) : List Char :=
  (path.drop 1).takeWhile (· ≠ '/')

/-- The file URL that a text, which holds its breaks, writes behind the scheme, perhaps relative to
another file. -/
def file (base : Option Url) (text : List Char) : Except UrlError Url :=
  match text.dropWhile isBreak with
  | first :: rest =>
    if isSlash first then
      match rest.dropWhile isBreak with
      | second :: behind =>
        if isSlash second then fileWithHost behind else .ok (rooted text rest)
      | [] => .ok (rooted text rest)
    else
      .ok (relativeTo text)
  | [] => .ok (relativeTo text)
where
  /-- A path from the root: of the base's drive, or on the base's host. -/
  rooted (text rest : List Char) : Url :=
    match base with
    | some base =>
      if startsWithDriveLetter (withoutBreaks rest) then
        withPathText .file fileScheme (some .nowhere) [] text
      else if isCanonicalDriveLetter (firstSegment base.path) then
        withPathText .file fileScheme (some .nowhere) ('/' :: firstSegment base.path) text
      else
        withPathText .file fileScheme base.authority [] text
    | none => withPathText .file fileScheme (some .nowhere) [] text
  /-- A path from the directory of the base. -/
  relativeTo (text : List Char) : Url :=
    match base with
    | none => withPathText .file fileScheme (some .nowhere) ['/'] text
    | some base =>
      let input := withoutBreaks text
      match input with
      | [] => { base with fragment := none }
      | '?' :: _ =>
        let (query, fragment) := queryAndFragment .file input
        { base with query, fragment }
      | '#' :: _ => { base with fragment := (queryAndFragment .file input).2 }
      | _ =>
        if startsWithDriveLetter input then
          withPathText .file fileScheme (some .nowhere) ['/'] text
        else
          withPathText .file fileScheme base.authority (withoutLastSegment .file base.path) text

/-- The URL that a text writes relative to a base that is neither opaque nor a file. -/
def relative (base : Url) (text : List Char) : Except UrlError Url :=
  let kind := base.kind
  match text with
  | [] => .ok { base with fragment := none }
  | '?' :: _ =>
    let (query, fragment) := queryAndFragment kind text
    .ok { base with query, fragment }
  | '#' :: _ => .ok { base with fragment := (queryAndFragment kind text).2 }
  | first :: rest =>
    if isSlash first then
      match text with
      | '/' :: '/' :: behind => withAuthority kind base.scheme behind
      | _ =>
        if rest.head?.any isSlash then
          withAuthority kind base.scheme (text.dropWhile isSlash)
        else
          .ok (withPathText kind base.scheme base.authority ['/'] rest)
    else
      let directory := withoutLastSegment kind base.path
      let path := if directory = [] then ['/'] else directory
      .ok (withPathText kind base.scheme base.authority path text)

/-- The URL that a text writes behind a scheme and its colon. Behind the scheme of files the text holds its
breaks. -/
def withScheme (base : Option Url) (scheme text written : List Char) : Except UrlError Url :=
  match SchemeKind.ofScheme scheme with
  | .file => file (base.filter (·.kind = .file)) written
  | .web =>
    let slashes := text.takeWhile isSlash
    match base.filter (·.scheme = scheme) with
    | some base =>
      if slashes.length < 2 then relative base text
      else withAuthority .web scheme (text.dropWhile isSlash)
    | none => withAuthority .web scheme (text.dropWhile isSlash)
  | .other =>
    match text with
    | '/' :: '/' :: behind => withAuthority .other scheme behind
    | '/' :: behind => .ok (withPathText .other scheme none ['/'] behind)
    | _ =>
      let (query, fragment) := queryAndFragment .other (text.dropWhile fun character => !endsPath character)
      let path := text.takeWhile fun character => !endsPath character
      .ok ⟨scheme, none, percentEncode isControl path, query, fragment⟩

/-- The URL that a text writes, relative to a base if there is one. -/
def read (base : Option Url) (text : String) : Except UrlError Url :=
  let written := trimmed text.toList
  let input := withoutBreaks written
  match splitScheme? input, base with
  | some (scheme, rest), _ => withScheme base scheme rest ((written.dropWhile (· ≠ ':')).drop 1)
  | none, none => .error .relativeWithoutBase
  | none, some base =>
    match input with
    | '#' :: _ => .ok { base with fragment := (queryAndFragment base.kind input).2 }
    | _ =>
      if base.isOpaque then .error .relativeToOpaque
      else if base.kind = .file then file (some base) written
      else relative base input

/-- The URL that a text writes on its own. -/
def parse (text : String) : Except UrlError Url :=
  read none text

/-- The URL that a text writes relative to a base. -/
def join (base : Url) (text : String) : Except UrlError Url :=
  read (some base) text

end ElementSearch.Url

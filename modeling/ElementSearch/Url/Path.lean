import ElementSearch.Url.Basic
import ElementSearch.Url.Percent

/-!
# Paths of URLs

A path is built segment by segment behind what is there already, which is empty or starts with a
slash. Single dots vanish, double dots take the segment before them away, and everything else is
percent-encoded. A drive letter is never taken away. In a file path a leading drive letter is spelled
with a colon, and slashes at the start are collapsed into one.

The tabs and line breaks in a text count for nothing, but one behind a leading drive letter of a file path
makes this letter a segment of its own. Segments of file paths therefore hold their breaks.
-/

namespace ElementSearch.Url

/-- A tab or a line break. -/
def isBreak (character : Char) : Bool :=
  character ∈ ['\t', '\n', '\r']

/-- A text without its tabs and line breaks. -/
def withoutBreaks (text : List Char) : List Char :=
  text.filter fun character => !isBreak character

/-- Whether a text is a drive letter: a letter of ASCII followed by a colon or a bar. -/
def isDriveLetter : List Char → Bool
  | [letter, mark] => letter.isAlpha && (mark == ':' || mark == '|')
  | _ => false

/-- Whether a text is a drive letter spelled with a colon. -/
def isCanonicalDriveLetter (text : List Char) : Bool :=
  isDriveLetter text && text.getLast? == some ':'

/-- Whether a text starts with a drive letter that ends there or where a delimiter follows. -/
def startsWithDriveLetter : List Char → Bool
  | letter :: mark :: rest =>
    isDriveLetter [letter, mark] && rest.head?.all (· ∈ ['/', '\\', '?', '#'])
  | _ => false

/-- Whether a segment stands for the one it is in. -/
def isSingleDot (segment : List Char) : Bool :=
  String.ofList (segment.map Char.toLower) ∈ [".", "%2e"]

/-- Whether a segment stands for the one before. -/
def isDoubleDot (segment : List Char) : Bool :=
  String.ofList (segment.map Char.toLower) ∈ ["..", ".%2e", "%2e.", "%2e%2e"]

/-- What follows the last slash of a path. -/
def lastSegment (path : List Char) : List Char :=
  (path.reverse.takeWhile (· ≠ '/')).reverse

/-- The path up to its last slash. -/
def upToLastSlash (path : List Char) : List Char :=
  (path.reverse.dropWhile (· ≠ '/')).reverse

/-- Whether a path ends with a slash. -/
def endsWithSlash (path : List Char) : Bool :=
  path.getLast? == some '/'

/-- The path without its last segment, but for a drive letter of a file path, which stays. -/
def withoutLastSegment (kind : SchemeKind) (path : List Char) : List Char :=
  if kind = .file ∧ isCanonicalDriveLetter (lastSegment path) then path else upToLastSlash path

/-- The path without a slash at its end, unless it is the first one or closes a drive letter. -/
def withoutClosingSlash (path : List Char) : List Char :=
  let opened := path.dropLast
  if endsWithSlash path ∧ '/' ∈ opened ∧ ¬ startsWithDriveLetter (lastSegment opened ++ ['/']) then
    opened
  else
    path

/-- The path with a slash at its end. -/
def closed (path : List Char) : List Char :=
  if endsWithSlash path then path else path ++ ['/']

/-- The drive letter at the start of a segment that a break cuts off, and what is behind the break. -/
def brokenOff? (segment : List Char) : Option (List Char × List Char) :=
  match segment.dropWhile isBreak with
  | [] => none
  | letter :: rest =>
    match rest.dropWhile isBreak with
    | ':' :: behind =>
      if letter.isAlpha ∧ behind.head?.any isBreak ∧ withoutBreaks behind ≠ [] then
        some ([letter, ':'], withoutBreaks behind)
      else
        none
    | _ => none

/-- A segment as it stands in a path. A drive letter is special where it `leads`. -/
def segmentText (leads : Bool) (segment : List Char) : List Char :=
  let text := withoutBreaks segment
  if leads && isDriveLetter text then
    text.take 1 ++ [':']
  else
    match (if leads then brokenOff? segment else none) with
    | some (drive, behind) => drive ++ '/' :: percentEncode inPathSet behind
    | none => percentEncode inPathSet text

/-- Appends a segment to a path. A segment that is not the last one is followed by a slash. -/
def appendSegment (kind : SchemeKind) (path segment : List Char) (isLast : Bool) : List Char :=
  let text := withoutBreaks segment
  let start :=
    if kind = .file ∧ text ≠ [] ∧ isCanonicalDriveLetter (path.drop 1) then path ++ ['/'] else path
  if isDoubleDot text then
    let shortened := withoutLastSegment kind (withoutClosingSlash start)
    if isLast then shortened else closed shortened
  else if isSingleDot text then
    closed start
  else
    let leads := kind = .file ∧ start.length = 1
    start ++ segmentText leads segment ++ (if isLast then [] else ['/'])

/-- Appends segments to a path, the last of them without a slash behind it. -/
def appendSegments (kind : SchemeKind) : List Char → List (List Char) → List Char
  | path, [] => path
  | path, [segment] => appendSegment kind path segment true
  | path, segment :: segments => appendSegments kind (appendSegment kind path segment false) segments

/-- Whether a character separates segments. -/
def isSeparator (kind : SchemeKind) (character : Char) : Bool :=
  character == '/' || (kind.isSpecial && character == '\\')

/-- The path that a text, which goes up to the query or the fragment, makes behind another path. -/
def extendPath (kind : SchemeKind) (path text : List Char) : List Char :=
  let extended := appendSegments kind path (text.splitOnP (isSeparator kind))
  if kind = .file then '/' :: extended.dropWhile (· == '/') else extended

/-- Whether a drive letter comes to stand first while segments are appended. A file path of which this
is true has no host. -/
def meetsDriveLetter (path : List Char) : List (List Char) → Bool
  | [] => false
  | segment :: segments =>
    (path.length == 1 && isDriveLetter (withoutBreaks segment)) ||
      meetsDriveLetter (appendSegment .file path segment segments.isEmpty) segments

end ElementSearch.Url

import ElementSearch.Text.Composed
import ElementSearch.Text.Lowercase
import ElementSearch.Url.Label
import ElementSearch.Url.NameTable
import ElementSearch.Url.Percent
import ElementSearch.Url.Punycode

/-!
# Domain names

A host name is percent-decoded, its characters are brought into the form in which they stand in names,
and the name is spelled in ASCII: labels with characters above ASCII in Punycode behind `xn--`. A label
that is already spelled in Punycode has to stand for one that needs it. A name in ASCII without such
labels is only folded to lowercase.
-/

namespace ElementSearch.Url

open Text

/-- The ASCII characters that no domain name can hold. -/
def isForbiddenInDomain (character : Char) : Bool :=
  isControl character ||
    character ∈ [' ', '#', '%', '/', ':', '<', '>', '?', '@', '[', '\\', ']', '^', '|']

/-- Whether a text is all ASCII. -/
def isAscii (text : List Char) : Bool :=
  text.all (·.toNat < 0x80)

/-- The form in which a character above ASCII stands in a domain name. Unlike in running text it does not
depend on the neighbours. -/
def foreignForm (character : Char) : List Char :=
  match nameForms.find? fun entry => inRange entry.codes character.toNat with
  | some entry => (entry.of character.toNat).map Char.ofNat
  | none => lowercaseCharacter character

/-- The form in which a character stands in a domain name, if it can stand there. It is empty for a
character that is left out. -/
def nameForm? (character : Char) : Option (List Char) :=
  if character.toNat < 0x80 then some [character.toLower]
  else if inRanges barredRanges character then none
  else if inRanges ignoredRanges character then some []
  else some (foreignForm character)

/-- A text as it stands in a domain name, if it can stand there. -/
def foldedName? (text : List Char) : Option (List Char) :=
  (text.mapM nameForm?).map fun forms => composed forms.flatten

/-- Whether a text is one that stands in domain names as it is. -/
def isFolded (text : List Char) : Bool :=
  text.all (fun character => nameForm? character == some [character]) && composed text == text

/-- A label as it is displayed and as it is spelled. -/
structure Label where
  displayed : List Char
  spelled : List Char
  deriving DecidableEq

/-- What stands before the Punycode in the spelling of a label. -/
def punycodeMark : List Char := ['x', 'n', '-', '-']

/-- The number of characters that the Punycode of a label may have. -/
def longestPunycode : Nat := 2000

/-- The label that Punycode stands for. -/
def Label.ofPunycode? (spelling : List Char) : Option Label :=
  if longestPunycode < spelling.length then none
  else
    match Punycode.decode? spelling with
    | none => none
    | some displayed =>
      if !isAscii displayed && isFolded displayed && isWellFormed displayed then
        some ⟨displayed, punycodeMark ++ spelling⟩
      else
        none

/-- The label that a folded text is or stands for. -/
def Label.read? (text : List Char) : Option Label :=
  if punycodeMark.isPrefixOf text then ofPunycode? (text.drop punycodeMark.length)
  else if isAscii text then some ⟨text, text⟩
  else if isWellFormed text then some ⟨text, punycodeMark ++ Punycode.encode text⟩
  else none

/-- The labels of a folded domain name, if they can stand beside each other. -/
def labels? (name : List Char) : Option (List Label) :=
  ((name.splitOn '.').mapM Label.read?).filter fun labels =>
    directionsAgree (labels.map Label.displayed)

/-- Whether a name in ASCII has a label in Punycode. -/
def hasPunycode (name : List Char) : Bool :=
  (name.splitOn '.').any punycodeMark.isPrefixOf

/-- The ASCII spelling of a folded domain name. -/
def spelledName? (name : List Char) : Option (List Char) :=
  if name.any isForbiddenInDomain then none
  else if isAscii name && !hasPunycode name then some name
  else (labels? name).map fun labels => List.intercalate ['.'] (labels.map Label.spelled)

/-- The ASCII spelling of a domain name. -/
def asciiDomain? (name : List Char) : Option (List Char) :=
  (if isAscii name then some (name.map Char.toLower) else foldedName? name).bind spelledName?

/-- The characters of a percent-encoded text, if its bytes are UTF-8. -/
def percentDecoded? (text : List Char) : Option (List Char) :=
  let bytes := percentDecode (text.flatMap String.utf8EncodeChar)
  (String.fromUTF8? ⟨bytes.toArray⟩).map String.toList

/-- The ASCII spelling of a percent-encoded domain name. -/
def domain? (text : List Char) : Option (List Char) :=
  (percentDecoded? text).bind asciiDomain?

end ElementSearch.Url

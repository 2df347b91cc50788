import ElementSearch.Text.Digit

/-!
# Percent encoding

A byte is written as `%` and two hexadecimal digits. Encoding works on the UTF-8 bytes of the characters
that an encode set names; characters above ASCII are always encoded. Decoding leaves a `%` alone that
two hexadecimal digits do not follow.
-/

namespace ElementSearch.Url

open Text

/-- The percent-encoded form of a byte. -/
def percentByte (byte : UInt8) : List Char :=
  ['%', hexDigit (byte.toNat / 16), hexDigit (byte.toNat % 16)]

/-- The controls of ASCII: the characters below the space, and the delete character. -/
def isControl (character : Char) : Bool :=
  character.toNat < 0x20 || character.toNat == 0x7f

/-- What is encoded in a fragment. -/
def inFragmentSet (character : Char) : Bool :=
  isControl character || character ∈ [' ', '"', '<', '>', '\x60']

/-- What is encoded in a path. -/
def inPathSet (character : Char) : Bool :=
  inFragmentSet character || character ∈ ['#', '?', '\x7b', '\x7d']

/-- What is encoded in a user name or a password. -/
def inUserinfoSet (character : Char) : Bool :=
  inPathSet character || character ∈ ['/', ':', ';', '=', '@', '[', '\\', ']', '^', '|']

/-- What is encoded in a query; under a special scheme the apostrophe too. -/
def inQuerySet (special : Bool) (character : Char) : Bool :=
  isControl character || character ∈ [' ', '"', '#', '<', '>'] || (special && character.toNat == 0x27)

/-- A text with the characters of a set, and all characters above ASCII, percent-encoded. -/
def percentEncode (inSet : Char → Bool) (text : List Char) : List Char :=
  text.flatMap fun character =>
    if 0x80 ≤ character.toNat ∨ inSet character then
      (String.utf8EncodeChar character).flatMap percentByte
    else
      [character]

/-- Bytes with the percent-encoded ones among them decoded. -/
def percentDecode : List UInt8 → List UInt8
  | [] => []
  | [byte] => [byte]
  | [byte, next] => [byte, next]
  | byte :: high :: low :: rest =>
    if byte = '%'.toUInt8 then
      match hexDigit? (Char.ofNat high.toNat), hexDigit? (Char.ofNat low.toNat) with
      | some upper, some lower => (16 * upper + lower).toUInt8 :: percentDecode rest
      | _, _ => byte :: percentDecode (high :: low :: rest)
    else
      byte :: percentDecode (high :: low :: rest)

end ElementSearch.Url

import ElementSearch.Text.DecompositionTable

/-!
# Composed text

A letter with marks can be written in several ways. The composed form of a text is the one in which
every letter stands together with those of its marks that have a common character with it, and the
other marks stand in the order of their combining classes.
-/

namespace ElementSearch.Text

/-- The combining class of a character. It is zero for letters and all that is no mark. -/
def combiningClass (character : Char) : Nat :=
  if character.toNat < 0x300 then 0
  else ((combiningClasses.find? fun entry => inRange entry.1 character.toNat).map (·.2)).getD 0

/-- The first syllable of Hangul. -/
def firstSyllable : Nat := 0xac00

/-- The parts of a syllable of Hangul, if the character is one: a leading consonant, a vowel, and
perhaps a consonant behind it. -/
def syllableParts? (character : Char) : Option (List Char) :=
  let place := character.toNat - firstSyllable
  if firstSyllable ≤ character.toNat ∧ place < 19 * 21 * 28 then
    let trailing := place % 28
    some ([Char.ofNat (0x1100 + place / (21 * 28)), Char.ofNat (0x1161 + place / 28 % 21)] ++
      (if trailing = 0 then [] else [Char.ofNat (0x11a7 + trailing)]))
  else
    none

/-- The syllable of Hangul that two parts make: a leading consonant and a vowel, or a syllable without a
trailing consonant and such a consonant. -/
def syllable? (first second : Char) : Option Char :=
  let lead := first.toNat - 0x1100
  let vowel := second.toNat - 0x1161
  let place := first.toNat - firstSyllable
  let trailing := second.toNat - 0x11a7
  if 0x1100 ≤ first.toNat ∧ lead < 19 ∧ 0x1161 ≤ second.toNat ∧ vowel < 21 then
    some (Char.ofNat (firstSyllable + (lead * 21 + vowel) * 28))
  else if firstSyllable ≤ first.toNat ∧ place < 19 * 21 * 28 ∧ place % 28 = 0 ∧
      0x11a7 < second.toNat ∧ trailing < 28 then
    some (Char.ofNat (first.toNat + trailing))
  else
    none

/-- A character taken apart in one step. -/
def parts (character : Char) : List Char :=
  if character.toNat < 0xc0 then [character]
  else
    match syllableParts? character with
    | some parts => parts
    | none =>
      match decompositions.find? (·.code == character.toNat) with
      | some entry => entry.parts.map Char.ofNat
      | none => [character]

/-- A text with every character taken apart. No character takes more than three steps. -/
def takenApart (text : List Char) : List Char :=
  ((text.flatMap parts).flatMap parts).flatMap parts

/-- Puts a character behind a text that is read backwards; a mark goes before the marks of greater
classes at the end. -/
def insertMark (character : Char) : List Char → List Char
  | [] => [character]
  | last :: before =>
    if combiningClass character ≠ 0 ∧ combiningClass character < combiningClass last then
      last :: insertMark character before
    else
      character :: last :: before

/-- A text with its marks in the order of their classes; marks of one class keep their order. -/
def inClassOrder (text : List Char) : List Char :=
  (text.foldl (fun before character => insertMark character before) []).reverse

/-- The character that two characters make together, if there is one. -/
def pair? (first second : Char) : Option Char :=
  if second.toNat < 0x300 then none
  else
    syllable? first second <|>
      (decompositions.find? fun entry =>
        entry.restored && entry.parts == [first.toNat, second.toNat]).map fun entry =>
          Char.ofNat entry.code

/-- Whether a character that follows marks can still be joined to the letter before them: nothing stands
between, or only marks of lesser classes. -/
def isReachable (marks : List Char) (character : Char) : Bool :=
  match marks.getLast? with
  | none => true
  | some last => combiningClass last < combiningClass character

/-- Joins what follows a letter to it, behind the marks that could not be joined. -/
def joinFrom (letter : Char) (marks : List Char) : List Char → List Char
  | [] => letter :: marks
  | character :: rest =>
    match (if isReachable marks character then pair? letter character else none) with
    | some joined => joinFrom joined marks rest
    | none =>
      if combiningClass character = 0 then
        letter :: marks ++ joinFrom character [] rest
      else
        joinFrom letter (marks ++ [character]) rest

/-- Joins marks to the letters before them. Marks at the start have no letter. -/
def joined : List Char → List Char
  | [] => []
  | character :: rest =>
    if combiningClass character = 0 then joinFrom character [] rest else character :: joined rest

/-- The composed form of a text. -/
def composed (text : List Char) : List Char :=
  joined (inClassOrder (takenApart text))

end ElementSearch.Text

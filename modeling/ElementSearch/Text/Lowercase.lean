import ElementSearch.Text.CaseTable
import ElementSearch.Text.CodeTable

/-!
# Lowercase text

The full lowercase mapping of Unicode. It maps a text and not its characters one by one: a capital
sigma becomes `ς` at the end of a word and `σ` elsewhere, and `İ` becomes two characters. All
comparisons of ids, classes and values go through it.
-/

namespace ElementSearch.Text

/-- The Unicode property `Cased`. -/
def isCased : Char → Bool := inRanges casedRanges

/-- The Unicode property `Case_Ignorable`. -/
def isCaseIgnorable : Char → Bool := inRanges caseIgnorableRanges

/-- The lowercase form of a character that does not depend on its neighbours. -/
def lowercaseCharacter (character : Char) : List Char :=
  if character.toNat < 0x80 then
    [character.toLower]
  else if character = '\u0130' then
    ['i', '\u0307']
  else
    [Char.ofNat ((lowercaseRuns.findSome? (·.mapped? character.toNat)).getD character.toNat)]

/-- Whether the first character that is not case-ignorable is a cased one. -/
def startsCased (text : List Char) : Bool :=
  ((text.dropWhile isCaseIgnorable).head?).any isCased

/-- The place after `before`, read backwards, and ahead of `after` ends a word: there is a cased
letter before it and none after it, case-ignorable characters being passed over. -/
def endsWord (before after : List Char) : Bool :=
  startsCased before && !startsCased after

/-- The lowercase form of `text`, where `before` is what precedes it, read backwards. -/
def lowercaseAfter (before : List Char) : List Char → List Char
  | [] => []
  | character :: after =>
    let form :=
      if character = 'Σ' then
        [if endsWord before after then 'ς' else 'σ']
      else
        lowercaseCharacter character
    form ++ lowercaseAfter (character :: before) after

/-- The lowercase form of a text. -/
def lowercase (text : List Char) : List Char :=
  lowercaseAfter [] text

/-- The lowercase form of a string. -/
def lowercased (text : String) : String :=
  String.ofList (lowercase text.toList)

theorem toList_lowercased (text : String) :
    (lowercased text).toList = lowercase text.toList := by
  simp [lowercased]

end ElementSearch.Text

import ElementSearch.Text.Digit

/-!
# Numeric addresses

The addresses of version 4 and 6 that a host can be written as. A version 4 address may have fewer
than four parts, the last one filling the remaining bytes, and parts in base eight or sixteen; a version
6 address may leave out one run of zeros and end in a version 4 address. Each has one printed form.
-/

namespace ElementSearch.Url

open Text

namespace Ipv4

/-- The value of a part of an address: hexadecimal behind `0x`, octal behind `0`, else decimal. -/
def part? : List Char → Option Nat
  | [] => none
  | '0' :: 'x' :: digits => numeral? 16 digits
  | '0' :: 'X' :: digits => numeral? 16 digits
  | '0' :: digit :: digits => numeral? 8 (digit :: digits)
  | digits => numeral? 10 digits

/-- The parts between dots, without an empty one at the end. -/
def parts (host : List Char) : List (List Char) :=
  let pieces := host.splitOn '.'
  if pieces.getLast? = some [] then pieces.dropLast else pieces

/-- Whether a host has to be read as an address: its last part consists of digits or is a number. -/
def looksNumeric (host : List Char) : Bool :=
  match (parts host).getLast? with
  | none => false
  | some last => (!last.isEmpty && last.all Char.isDigit) || (part? last).isSome

/-- The 32-bit value of an address. All parts but the last are bytes; the last fills the bytes that are
left. -/
def parse? (host : List Char) : Option Nat := do
  let numbers ← (parts host).mapM part?
  let last ← numbers.getLast?
  let leading := numbers.dropLast
  if numbers.length ≤ 4 ∧ leading.all (· ≤ 255) ∧ last < Nat.pow 256 (4 - leading.length) then
    some (leading.foldl (256 * · + ·) 0 * Nat.pow 256 (4 - leading.length) + last)
  else
    none

/-- The dotted form of an address. -/
def render (address : Nat) : List Char :=
  List.intercalate ['.'] ([3, 2, 1, 0].map fun place =>
    Nat.toDigits 10 (address / Nat.pow 256 place % 256))

end Ipv4

namespace Ipv6

/-- A group of up to four hexadecimal digits. -/
def group? (text : List Char) : Option Nat :=
  if text ≠ [] ∧ text.length ≤ 4 then numeral? 16 text else none

/-- A byte in decimal without leading zeros. -/
def byte? (text : List Char) : Option Nat :=
  if text = [] ∨ (text.head? = some '0' ∧ text ≠ ['0']) then none
  else (numeral? 10 text).filter (· ≤ 255)

/-- The two groups that a version 4 address of four bytes stands for. -/
def embedded? (text : List Char) : Option (List Nat) := do
  match ← (text.splitOn '.').mapM byte? with
  | [first, second, third, fourth] => some [256 * first + second, 256 * third + fourth]
  | _ => none

/-- The groups between single colons. Only the last piece may be a version 4 address, and only where
`final` allows it. -/
def groups? (final : Bool) : List (List Char) → Option (List Nat)
  | [] => some []
  | [last] => ((group? last).map ([·])) <|> (if final then embedded? last else none)
  | piece :: pieces => do
    let group ← group? piece
    let groups ← groups? final pieces
    some (group :: groups)

/-- What stands before and behind the first double colon. -/
def splitAtGap? : List Char → Option (List Char × List Char)
  | ':' :: ':' :: after => some ([], after)
  | [] => none
  | character :: rest => (splitAtGap? rest).map fun (before, after) => (character :: before, after)

/-- The pieces between single colons; none of an empty text. -/
def pieces (text : List Char) : List (List Char) :=
  if text = [] then [] else text.splitOn ':'

/-- The eight groups of an address. A double colon stands for at least one group of zero. -/
def parse? (text : List Char) : Option (List Nat) := do
  match splitAtGap? text with
  | none =>
    let groups ← groups? true (text.splitOn ':')
    if groups.length = 8 then some groups else none
  | some (before, after) =>
    let left ← groups? false (pieces before)
    let right ← groups? true (pieces after)
    if left.length + right.length ≤ 7 then
      some (left ++ List.replicate (8 - left.length - right.length) 0 ++ right)
    else
      none

/-- The first of the longest runs of at least two zeros: where it starts and how long it is. -/
def longestGap? (groups : List Nat) : Option (Nat × Nat) :=
  [8, 7, 6, 5, 4, 3, 2].findSome? fun length =>
    ((List.range (9 - length)).find? fun start =>
      ((groups.drop start).take length).all (· == 0)).map (·, length)

/-- The groups in hexadecimal, with single colons between them. -/
def renderGroups (groups : List Nat) : List Char :=
  List.intercalate [':'] (groups.map (Nat.toDigits 16))

/-- The printed form of an address, a double colon standing for the longest gap. -/
def render (groups : List Nat) : List Char :=
  match longestGap? groups with
  | none => renderGroups groups
  | some (start, length) =>
    renderGroups (groups.take start) ++ [':', ':'] ++ renderGroups (groups.drop (start + length))

end Ipv6

end ElementSearch.Url

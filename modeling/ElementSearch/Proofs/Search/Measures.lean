import ElementSearch.Proofs.Text.Lengths
import ElementSearch.Rule.Holds

/-!
# Predicates that measure a side

A predicate that asks for a width or a height compares the integer of its value with a measure of the node. It looks at the
value without its unit, but the integer is that of the whole value, so on every host two values with the same integer ask
for the same nodes: `holds_measuring_congr`. A unit behind a value, or any text behind an integer that does not go on with
a digit, makes no difference (`countsInteger`).
-/

namespace ElementSearch

open Pixels

/-- A side of a node that can be measured. -/
inductive Side where
  | width
  | height
  deriving DecidableEq

/-- The property that stands for a side. -/
def Side.text : Side → String
  | .width => "w"
  | .height => "h"

namespace Predicate

/-- The predicate that asks for a length of a side. -/
def measuring (side : Side) (length : String) : Predicate :=
  ⟨side.text, length, by cases side <;> decide⟩

section Hosts

variable {Node : Type} [DecidableEq Node] {host : Host Node} {side : Side} {node : Node}

/-- Values with the same integer ask for the same nodes. -/
theorem holds_measuring_congr {first second : String}
    (same : leadingInteger first = leadingInteger second) :
    (measuring side first).holds host node = (measuring side second).holds host node := by
  have sameCut : leadingInteger (withoutUnit first) = leadingInteger (withoutUnit second) := by
    rw [leadingInteger_withoutUnit, leadingInteger_withoutUnit, same]
  have measure : ∀ ofRect ofSize, (measuring side first).hasMeasure host ofRect ofSize node =
      (measuring side second).hasMeasure host ofRect ofSize node := by
    intro ofRect ofSize
    simp only [hasMeasure, measuring, sameCut]
  cases side with
  | width => exact measure Rect.width Size.width
  | height => exact measure Rect.height Size.height

end Hosts

/-- Whether nothing but its integer counts of a length: neither the cut at its last unit nor what is written behind it
makes a difference. -/
structure CountsInteger (length : String) : Prop where
  cut : ¬ unit <:+: length.toList ∧ withoutUnit length = length ∨
    ∃ behind, length.toList = (withoutUnit length).toList ++ (unit ++ behind) ∧ ¬ unit <:+: behind
  integer : leadingInteger (withoutUnit length) = leadingInteger length
  withUnit : ∀ {Node : Type} [DecidableEq Node] (host : Host Node) (side : Side) (node : Node),
    (measuring side (length ++ "px")).holds host node = (measuring side length).holds host node
  withText : (leadingInteger length).isSome → ∀ behind : String,
    (∀ character, behind.toList.head? = some character → character.isDigit = false) →
    ∀ {Node : Type} [DecidableEq Node] (host : Host Node) (side : Side) (node : Node),
      (measuring side (length ++ behind)).holds host node = (measuring side length).holds host node
  /-- The cut at the unit is made between two characters. -/
  cutsWhole : cutAtUnit? length.toList = some (withoutUnit length).toList
  /-- So are the cuts around the digits. -/
  readsWhole : readByBytes? length.toList = some (leadingInteger length)

/-- Of every length nothing but its integer counts. -/
theorem countsInteger (length : String) : CountsInteger length where
  cut := withoutUnit_cases length
  integer := leadingInteger_withoutUnit length
  withUnit host side node := by
    refine holds_measuring_congr ?_
    rw [← leadingInteger_withoutUnit (length ++ "px"), withoutUnit_append]
  withText isInteger behind stops _ _ host side node :=
    holds_measuring_congr (leadingInteger_append isInteger stops)
  cutsWhole := cutAtUnit?_eq length
  readsWhole := readByBytes?_eq length

example : withoutUnit " +12px٣px." = " +12px٣" ∧ (leadingInteger " +12px٣px.").isSome := by
  decide

end Predicate

end ElementSearch

import ElementSearch.Proofs.Arena.FoldedSearch
import ElementSearch.Proofs.Snapshot.Folding

/-!
# Respelled histories

A history is respelled by changing the case of ASCII letters in its tags, ids and classes, and nothing else; so is a
rule in the values of its predicates for ids, classes and tags. A history and a respelled one have the same folded form,
and folding a history folds the arena that it leads to (`after_folded`). Hence searches for a rule and for a respelled
one return the same nodes in the same order in both arenas, in each of the four combinations: `findsAlike_respelled`.
How deep the arenas are does not matter. Letters beyond ASCII are not respelled: tags are looked up without folding
these.
-/

namespace ElementSearch

open Text

namespace Operation

/-- The operation with its tags, ids and classes in small letters. -/
def folded : Operation → Operation
  | .createElement tag => .createElement (asciiLowercase tag)
  | .addElement parent tag attributes =>
    .addElement parent (asciiLowercase tag) (attributes.map foldedEntry)
  | .setAttribute node name value => .setAttribute node name (foldedValue name value)
  | .build snapshot => .build snapshot.folded
  | other => other

/-- The folded operation does to the folded arena what the operation does to the arena, and answers the same. -/
theorem apply_folded (operation : Operation) (arena : Arena) :
    operation.folded.apply arena.folded = Arena.foldedFirst (operation.apply arena) := by
  cases operation with
  | createDocument baseUrl => exact congrArg made (Arena.push_folded (.document baseUrl none))
  | createElement tag => exact congrArg made (Arena.push_folded (.element (.plain tag)))
  | createText text => exact congrArg made (Arena.push_folded (.text text))
  | appendChild parent child => exact congrArg changed (Arena.appendChild_folded parent child)
  | addElement parent tag attributes =>
    exact congrArg made (Arena.addElement_folded parent tag attributes)
  | addText parent text => exact congrArg made (Arena.addText_folded parent text)
  | setAttribute node name value => exact congrArg changed (Arena.setAttribute_folded node name value)
  | setStyle node style =>
    exact congrArg changed (Arena.restyle_folded ({ · with style }) (fun _ => rfl) node)
  | setRect node rect =>
    exact congrArg changed (Arena.restyle_folded ({ · with rect := some rect }) (fun _ => rfl) node)
  | setClientSize node size =>
    exact congrArg changed (Arena.restyle_folded ({ · with clientSize := some size }) (fun _ => rfl) node)
  | attachFrame frame document => exact congrArg changed (Arena.attachFrame_folded frame document)
  | build snapshot =>
    simp only [folded, apply, Snapshot.buildInto_folded]
    rfl

/-- Whether two histories are the same up to the case of ASCII letters in tags, ids and classes. -/
def Respells (history other : List Operation) : Prop :=
  other.map folded = history.map folded

end Operation

/-- Whether two rules are the same up to the case of ASCII letters in what they ask of ids, classes and tags. -/
def Rule.Respells (rule other : Rule) : Prop :=
  other.folded = rule.folded

instance (rule other : Rule) : Decidable (rule.Respells other) :=
  decEq other.folded rule.folded

/-- Whether searches in a scope, for one rule in one host and for another rule in another host, start from the same
nodes and return the same nodes, in the same order. -/
structure Rule.FindsAlike (host : Host Handle) (rule : Rule) (otherHost : Host Handle) (other : Rule)
    (scope : Handle) : Prop where
  roots : other.roots otherHost scope = rule.roots host scope
  locateOutermost : other.locateOutermost otherHost scope = rule.locateOutermost host scope
  locateEvery : other.locateEvery otherHost scope = rule.locateEvery host scope

namespace Arena

/-- Running folded operations on a folded arena is running the operations first and folding then.
-/
theorem after_folded (arena : Arena) (history : List Operation) :
    arena.folded.after (history.map Operation.folded) = (arena.after history).folded := by
  induction history generalizing arena with
  | nil => rfl
  | cons operation history ih =>
    rw [List.map_cons, after, after, Operation.apply_folded]
    exact ih _

/-- Arenas and rules with the same folded forms are searched alike. -/
theorem findsAlike_of_folded_eq {arena other : Arena} {rule otherRule : Rule}
    (sameArena : other.folded = arena.folded) (sameRule : otherRule.folded = rule.folded)
    (scope : Handle) : rule.FindsAlike arena.host other.host otherRule scope := by
  have located : ∀ traversal, otherRule.locate other.host traversal scope =
      rule.locate arena.host traversal scope := by
    intro traversal
    rw [← other.locate_folded, ← arena.locate_folded, sameArena, sameRule]
  refine ⟨?_, located .outermost, located .every⟩
  rw [← other.roots_folded, ← arena.roots_folded, sameArena, sameRule]

/-- Searches ignore the case of ASCII letters, in the arena and in the rule. -/
theorem findsAlike_respelled {history respelled : List Operation}
    (sameHistory : Operation.Respells history respelled) {rule asked : Rule}
    (sameRule : rule.Respells asked) (scope : Handle) :
    ∀ other ∈ [history, respelled], ∀ otherRule ∈ [rule, asked],
      rule.FindsAlike (empty.after history).host (empty.after other).host otherRule scope := by
  have sameArena : (empty.after respelled).folded = (empty.after history).folded := by
    rw [← after_folded, ← after_folded, sameHistory]
  intro other isOther otherRule isRule
  refine findsAlike_of_folded_eq ?_ ?_ scope
  · rcases List.mem_pair.mp isOther with rfl | rfl
    · rfl
    · exact sameArena
  · rcases List.mem_pair.mp isRule with rfl | rfl
    · rfl
    · exact sameRule

section Greek

/-- A page that is a list with some classes, and an item with an id, which is then put into the list. -/
def greek (listTag classes itemTag itemId : String) : List Operation :=
  [.build (.mk none (.mk ⟨listTag, [("class", classes)], none, none, none⟩ [] none)),
    .addElement 1 itemTag [("ID", itemId), ("lang", "El")]]

/-- Respelling changes ASCII letters of ids, classes and tags, and leaves Greek ones alone. -/
theorem respells_greek :
    Operation.Respells (greek "ul" "Xσ x" "li" "AΣ") (greek "UL" "xσ X" "Li" "aΣ") := by
  have isClass : foldedValue "class" = asciiLowercase :=
    foldedValue_eq_asciiLowercase (.inr (by decide))
  have isId : foldedValue "ID" = asciiLowercase := foldedValue_eq_asciiLowercase (.inl (by decide))
  have listTag : asciiLowercase "UL" = asciiLowercase "ul" := by decide
  have classes : asciiLowercase "xσ X" = asciiLowercase "Xσ x" := by decide
  have itemTag : asciiLowercase "Li" = asciiLowercase "li" := by decide
  have itemId : asciiLowercase "aΣ" = asciiLowercase "AΣ" := by decide
  simp only [Operation.Respells, greek, List.map_cons, List.map_nil, Operation.folded,
    Snapshot.folded, ElementSnapshot.folded, ElementFields.folded, foldedEntry, isClass, isId,
    listTag, classes, itemTag, itemId]

/-- The rule that a text gives. -/
def ruleOf (text : String) : Rule :=
  (Rule.parse? text).getD ⟨[]⟩

/-- The item is found by its respelled tag, id and parent in the respelled page, from the same roots. The sigma at the
end of its id is the final one, whichever case the letter before it has. -/
theorem findsAlike_greek :
    2 ∈ (ruleOf "tag=LI;id=aΣ;pcl=X").locateEvery (empty.after (greek "UL" "xσ X" "Li" "aΣ")).host 0 ∧
      (ruleOf "tag=LI;id=aΣ;pcl=X").roots (empty.after (greek "UL" "xσ X" "Li" "aΣ")).host 0 =
        (ruleOf "tag=li;id=AΣ;pcl=x").roots (empty.after (greek "ul" "Xσ x" "li" "AΣ")).host 0 := by
  have sameRule : (ruleOf "tag=li;id=AΣ;pcl=x").Respells (ruleOf "tag=LI;id=aΣ;pcl=X") := by
    decide +kernel
  have found : 2 ∈ (ruleOf "tag=li;id=AΣ;pcl=x").locateEvery
      (empty.after (greek "ul" "Xσ x" "li" "AΣ")).host 0 := by decide +kernel
  have alike := findsAlike_respelled respells_greek sameRule 0 (greek "UL" "xσ X" "Li" "aΣ")
    (by simp) (ruleOf "tag=LI;id=aΣ;pcl=X") (by simp)
  rw [alike.locateEvery]
  exact ⟨found, alike.roots⟩

end Greek

end Arena

end ElementSearch

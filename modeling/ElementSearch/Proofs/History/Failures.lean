import ElementSearch.Proofs.Arena.FrameLinks
import ElementSearch.Proofs.History.Reachable

/-!
# What failed operations leave behind

An operation on nodes that fails leaves the arena as it was, with one exception: an attachment tells the document of
its owner before it looks at the owner. If the owner is no element, the document keeps it: `Arena.Misattaches` says
when this makes a difference. Everything else that fails can be left out of a history: `after_succeeding`.

Builds are not single operations in this sense. What a build has made stays in the arena if it fails.
-/

namespace ElementSearch

/-- Whether an attachment fails and leaves the document with an owner that it did not have before. -/
def Arena.Misattaches (arena : Arena) (frame document : Handle) : Prop :=
  arena.kind document = .document ∧ arena.kind frame ≠ .element ∧
    arena.frameOwner document ≠ some frame

namespace Operation

/-- Whether an operation succeeds in an arena. -/
def succeeds (operation : Operation) (arena : Arena) : Bool :=
  (operation.apply arena).2.isOk

/-- Whether an operation is the build of a page. -/
def IsBuild (operation : Operation) : Prop :=
  ∃ snapshot, operation = .build snapshot

/-- Whether an operation is an attachment, whatever becomes of it. -/
def IsAttachment (operation : Operation) : Prop :=
  ∃ frame document, operation = .attachFrame frame document

/-- Whether an operation is an attachment that fails and leaves its trace. -/
def Misattaches (operation : Operation) (arena : Arena) : Prop :=
  ∃ frame document, operation = .attachFrame frame document ∧ arena.Misattaches frame document

end Operation

namespace Arena

/-- The operations of a history that succeed. -/
def succeeding (arena : Arena) : List Operation → List Operation
  | [] => []
  | operation :: history =>
    let later := succeeding (operation.apply arena).1 history
    if operation.succeeds arena then operation :: later else later

variable {arena : Arena} {frame document : Handle}

/-- A change that changes nothing of the record it is given leaves the arena as it is. -/
theorem modifyRecord_eq_self {node : Handle} {change : Record → Record}
    (same : ∀ record, arena.record? node = some record → change record = record) :
    arena.modifyRecord node change = arena := by
  have records : (arena.modifyRecord node change).records = arena.records := by
    refine Array.ext_getElem? fun other => ?_
    refine (arena.record?_modifyRecord node change other).trans ?_
    split
    · next isNode =>
      rw [isNode]
      cases present : arena.record? node with
      | none => exact present.symm
      | some record => exact (congrArg some (same record present)).trans present.symm
    · rfl
  cases arena
  exact congrArg (Arena.mk · _ _) records

/-- Telling a document of its owner changes nothing if and only if it has that owner. -/
theorem setFrameOwner_eq_self_iff (isDocument : arena.kind document = .document) :
    arena.setFrameOwner document frame = arena ↔ arena.frameOwner document = some frame := by
  constructor
  · intro same
    have owner := @frameOwner_setFrameOwner arena frame document isDocument document
    rwa [same, if_pos rfl] at owner
  · intro owner
    refine modifyRecord_eq_self fun record present => ?_
    have known := (frameOwner_of_record? present).symm.trans owner
    obtain ⟨up, below, content⟩ := record
    cases content with
    | document baseUrl former =>
      obtain rfl : former = some frame := known
      rfl
    | element known => rfl
    | text text => rfl

/-- A failed attachment leaves the arena as it was unless the document has got a new owner. -/
theorem attachFrame_eq_self_iff {error : TreeError}
    (fails : (arena.attachFrame frame document).2 = .error error) :
    (arena.attachFrame frame document).1 = arena ↔ ¬ arena.Misattaches frame document := by
  rcases arena.attachFrame_cases frame document with
    ⟨noDocument, refused⟩ | ⟨isDocument, noElement, refused⟩ | ⟨_, _, links⟩
  · rw [refused]
    exact iff_of_true rfl fun misattaches => noDocument misattaches.1
  · rw [refused, setFrameOwner_eq_self_iff isDocument]
    simp [Misattaches, isDocument, noElement]
  · rw [links] at fails
    cases fails

/-- A misattachment changes the owner of the document and nothing else. -/
theorem attachFrame_of_misattaches (misattaches : arena.Misattaches frame document) :
    arena.attachFrame frame document =
      (arena.setFrameOwner document frame, .error (.notAnElement frame)) := by
  obtain ⟨isDocument, noElement, _⟩ := misattaches
  rcases arena.attachFrame_cases frame document with
    ⟨noDocument, _⟩ | ⟨_, _, refused⟩ | ⟨_, isElement, _⟩
  · exact absurd isDocument noDocument
  · exact refused
  · exact absurd isElement noElement

/-- A failing append changes nothing: its checks come before its first write. -/
theorem appendChild_eq_self {parent child : Handle} {error : TreeError}
    (fails : (arena.appendChild parent child).2 = .error error) :
    (arena.appendChild parent child).1 = arena := by
  rcases arena.appendChild_cases parent child with ⟨_, refused⟩ | ⟨_, moved⟩
  · rw [refused]
  · rw [moved] at fails
    cases fails

/-- A failing change of an element changes nothing. -/
theorem onElement_eq_self {node : Handle} {changed : Arena} {error : TreeError}
    (fails : (arena.onElement node changed).2 = .error error) :
    (arena.onElement node changed).1 = arena := by
  rcases arena.onElement_cases node changed with ⟨_, changes⟩ | ⟨_, refused⟩
  · rw [changes] at fails
    cases fails
  · rw [refused]

end Arena

namespace Operation

open Arena

section Refusals

variable {arena : Arena} {result : Arena × Except TreeError Unit}
  (fails : (changed result).2.isOk = false)
include fails

/-- What fails, fails with an error. -/
theorem exists_error_of_fails : ∃ error, result.2 = .error error := by
  obtain ⟨left, error | done⟩ := result
  · exact ⟨error, rfl⟩
  · cases fails

/-- What changes nothing whenever it errs changes nothing when it fails. -/
theorem eq_self_of_fails (unchanged : ∀ {error}, result.2 = .error error → result.1 = arena) :
    result.1 = arena := by
  obtain ⟨error, refused⟩ := exists_error_of_fails fails
  exact unchanged refused

end Refusals

/-- An attachment misattaches exactly when its two nodes do so in the arena. -/
theorem misattaches_attachFrame_iff {arena : Arena} {frame document : Handle} :
    Operation.Misattaches (.attachFrame frame document) arena ↔ arena.Misattaches frame document := by
  constructor
  · rintro ⟨_, _, same, misattaches⟩
    cases same
    exact misattaches
  · exact fun misattaches => ⟨frame, document, rfl, misattaches⟩

variable {operation : Operation} {arena : Arena} (single : ¬ operation.IsBuild)
  (fails : operation.succeeds arena = false)
include single fails

/-- A failing operation other than an attachment leaves the arena as it was. -/
theorem apply_eq_self (other : ¬ operation.IsAttachment) : (operation.apply arena).1 = arena := by
  cases operation with
  | build snapshot => exact absurd ⟨snapshot, rfl⟩ single
  | attachFrame frame document => exact absurd ⟨frame, document, rfl⟩ other
  | appendChild parent child => exact eq_self_of_fails fails appendChild_eq_self
  | setAttribute node name value => exact eq_self_of_fails fails onElement_eq_self
  | setStyle node style => exact eq_self_of_fails fails onElement_eq_self
  | setRect node rect => exact eq_self_of_fails fails onElement_eq_self
  | setClientSize node size => exact eq_self_of_fails fails onElement_eq_self
  | createDocument | createElement | createText | addElement | addText => cases fails

/-- A failed operation on nodes leaves the arena as it was if and only if it is no misattachment. -/
theorem apply_eq_self_iff : (operation.apply arena).1 = arena ↔ ¬ operation.Misattaches arena := by
  by_cases attaches : operation.IsAttachment
  · obtain ⟨frame, document, rfl⟩ := attaches
    obtain ⟨error, refused⟩ := exists_error_of_fails fails
    rw [misattaches_attachFrame_iff]
    exact attachFrame_eq_self_iff refused
  · refine iff_of_true (apply_eq_self single fails attaches) ?_
    rintro ⟨frame, document, same, _⟩
    exact attaches ⟨frame, document, same⟩

end Operation

namespace Arena

/-- Failed operations that leave the arena as it was can be left out of a history. -/
theorem after_succeeding {history : List Operation} {arena : Arena}
    (unchanged : ∀ passed operation, passed ++ [operation] <+: history →
      operation.succeeds (arena.after passed) = false →
        (operation.apply (arena.after passed)).1 = arena.after passed) :
    arena.after (arena.succeeding history) = arena.after history := by
  induction history generalizing arena with
  | nil => rfl
  | cons operation history ih =>
    have later : (operation.apply arena).1.after ((operation.apply arena).1.succeeding history) =
        (operation.apply arena).1.after history :=
      ih fun passed next isPrefix => unchanged (operation :: passed) next
        (List.cons_prefix_cons.mpr ⟨rfl, isPrefix⟩)
    cases done : operation.succeeds arena with
    | true => simpa [succeeding, done, after] using later
    | false =>
      have same := unchanged [] operation (List.cons_prefix_cons.mpr ⟨rfl, List.nil_prefix⟩) done
      simpa [succeeding, done, after, show (operation.apply arena).1 = arena from same] using later

/-- What failures leave behind, in whatever a history leads to. An operation on nodes that fails leaves everything
as it was unless it is a misattachment, and this gives the document an owner and changes nothing else. A history in
which nothing else fails leads to where its successful operations lead. -/
theorem failures_exact (history : List Operation) :
    (∀ operation : Operation, ¬ operation.IsBuild →
      operation.succeeds (empty.after history) = false →
        ((operation.apply (empty.after history)).1 = empty.after history ↔
          ¬ operation.Misattaches (empty.after history))) ∧
      (∀ frame document, (empty.after history).Misattaches frame document →
        (empty.after history).attachFrame frame document =
            ((empty.after history).setFrameOwner document frame, .error (.notAnElement frame)) ∧
          ∀ node, ((empty.after history).setFrameOwner document frame).frameOwner node =
            if node = document then some frame else (empty.after history).frameOwner node) ∧
      ((∀ passed operation, passed ++ [operation] <+: history →
          operation.succeeds (empty.after passed) = false →
            ¬ operation.IsBuild ∧ ¬ operation.Misattaches (empty.after passed)) →
        empty.after (empty.succeeding history) = empty.after history) := by
  refine ⟨fun operation single fails => Operation.apply_eq_self_iff single fails, ?_, ?_⟩
  · intro frame document misattaches
    exact ⟨attachFrame_of_misattaches misattaches, frameOwner_setFrameOwner misattaches.1⟩
  · intro clean
    refine after_succeeding fun passed operation isPrefix fails => ?_
    obtain ⟨single, attached⟩ := clean passed operation isPrefix fails
    exact (Operation.apply_eq_self_iff single fails).mpr attached

/-- A document keeps an owner that does not exist, though its attachment failed. -/
theorem failed_attachment_leaves_owner :
    (empty.after [.createDocument none]).Reachable ∧
      ((empty.after [.createDocument none]).attachFrame 7 0).2 = .error (.notAnElement 7) ∧
      (empty.after [.createDocument none]).frameOwner 0 = none ∧
      ((empty.after [.createDocument none]).attachFrame 7 0).1.frameOwner 0 = some 7 ∧
      ((empty.after [.createDocument none]).attachFrame 7 0).1 ≠ empty.after [.createDocument none] := by
  have before : (empty.after [.createDocument none]).frameOwner 0 = none := by decide
  have left : ((empty.after [.createDocument none]).attachFrame 7 0).1.frameOwner 0 = some 7 := by
    decide
  refine ⟨⟨_, rfl⟩, rfl, before, left, fun same => ?_⟩
  rw [same, before] at left
  cases left

end Arena

end ElementSearch

import ElementSearch.Search.Distinct
import ElementSearch.Tree.Host
import Mathlib.Data.List.Perm.Subperm
import Mathlib.Logic.Relation

/-!
# Documents inside frames

The search for embedded documents goes through a queue. Its invariant is `IsFrontier`: what was found is reached
through frames, and whatever a document embeds that is no longer queued was found. There are as many rounds as
the host has nodes and one more, so the queue runs empty if every embedded document is a node of the host. The
search then finds exactly the documents that are reached, however frames are nested: `mem_frameDocuments_iff`.
-/

namespace ElementSearch.Host

variable {Node : Type} [DecidableEq Node]

/-- Whether a frame of a document holds another one. -/
def Embeds (host : Host Node) (outer inner : Node) : Prop :=
  inner ∈ host.embeddedDocuments outer

/-- All documents that a host embeds are among as many nodes as the host counts. -/
def EmbedsWithin (host : Host Node) (nodes : List Node) : Prop :=
  nodes.length ≤ host.size ∧ ∀ {outer inner}, host.Embeds outer inner → inner ∈ nodes

/-- The documents that a document embeds and that are neither found nor outermost. -/
def freshDocuments (host : Host Node) (outermost : Node) (found : List Node) (document : Node) :
    List Node :=
  distinct ((host.embeddedDocuments document).filter fun embedded =>
    embedded ≠ outermost ∧ embedded ∉ found)

/-- The state of the search for embedded documents. -/
structure IsFrontier (host : Host Node) (outermost : Node) (pending found : List Node) :
    Prop where
  nodup : found.Nodup
  outermost_not_mem : outermost ∉ found
  reached : ∀ document ∈ found, Relation.ReflTransGen host.Embeds outermost document
  known : ∀ document ∈ pending, document = outermost ∨ document ∈ found
  closed : ∀ {outer inner}, outer = outermost ∨ outer ∈ found → outer ∉ pending →
    host.Embeds outer inner → inner = outermost ∨ inner ∈ found

section Rounds

variable {host : Host Node} {outermost document : Node} {pending found : List Node}

theorem frameDocumentsWithin_cons (rounds : Nat) :
    host.frameDocumentsWithin outermost (rounds + 1) (document :: pending) found =
      host.frameDocumentsWithin outermost rounds
        (pending ++ host.freshDocuments outermost found document)
        (found ++ host.freshDocuments outermost found document) := rfl

theorem frameDocumentsWithin_nil (rounds : Nat) :
    host.frameDocumentsWithin outermost rounds [] found = found := by
  cases rounds <;> rfl

/-- A document is fresh that is embedded, is not the start and was not found before. -/
theorem mem_freshDocuments_iff {embedded : Node} :
    embedded ∈ host.freshDocuments outermost found document ↔
      host.Embeds document embedded ∧ embedded ≠ outermost ∧ embedded ∉ found := by
  rw [freshDocuments, mem_distinct, List.mem_filter, decide_eq_true_iff]
  rfl

omit [DecidableEq Node] in
/-- At the start nothing was found and the start alone is pending. -/
theorem IsFrontier.initial (host : Host Node) (outermost : Node) :
    host.IsFrontier outermost [outermost] [] where
  nodup := .nil
  outermost_not_mem := List.not_mem_nil
  reached _ member := absurd member List.not_mem_nil
  known _ member := .inl (List.mem_singleton.mp member)
  closed := by
    rintro outer inner (rfl | member) looked
    · exact absurd (List.mem_singleton_self outer) looked
    · exact absurd member List.not_mem_nil

/-- One round keeps the invariant: the document that leaves the queue is looked into. -/
theorem IsFrontier.step (frontier : host.IsFrontier outermost (document :: pending) found) :
    host.IsFrontier outermost (pending ++ host.freshDocuments outermost found document)
      (found ++ host.freshDocuments outermost found document) := by
  have isKnown := frontier.known document List.mem_cons_self
  have documentReached : Relation.ReflTransGen host.Embeds outermost document := by
    rcases isKnown with rfl | member
    · exact .refl
    · exact frontier.reached document member
  constructor
  · refine List.nodup_append.mpr ⟨frontier.nodup, nodup_distinct _, ?_⟩
    rintro old member new fresh rfl
    exact (mem_freshDocuments_iff.mp fresh).2.2 member
  · intro member
    rcases List.mem_append.mp member with old | fresh
    · exact frontier.outermost_not_mem old
    · exact (mem_freshDocuments_iff.mp fresh).2.1 rfl
  · intro other member
    rcases List.mem_append.mp member with old | fresh
    · exact frontier.reached other old
    · exact documentReached.tail (mem_freshDocuments_iff.mp fresh).1
  · intro other member
    rcases List.mem_append.mp member with queued | fresh
    · exact (frontier.known other (List.mem_cons_of_mem _ queued)).imp_right
        (List.mem_append_left _)
    · exact .inr (List.mem_append_right _ fresh)
  · intro outer inner outerKnown looked embeds
    by_cases same : outer = document
    · by_cases innerKnown : inner = outermost ∨ inner ∈ found
      · exact innerKnown.imp_right (List.mem_append_left _)
      · rw [not_or] at innerKnown
        exact .inr (List.mem_append_right _ (mem_freshDocuments_iff.mpr ⟨same ▸ embeds, innerKnown⟩))
    · have old : outer = outermost ∨ outer ∈ found := by
        refine outerKnown.imp_right fun member => ?_
        -- what is fresh has just been queued
        exact (List.mem_append.mp member).resolve_right fun fresh =>
          looked (List.mem_append_right _ fresh)
      have notPending : outer ∉ document :: pending := by
        rw [List.mem_cons, not_or]
        exact ⟨same, fun queued => looked (List.mem_append_left _ queued)⟩
      exact (frontier.closed old notPending embeds).imp_right (List.mem_append_left _)

variable {nodes : List Node} (within : host.EmbedsWithin nodes)
include within

omit [DecidableEq Node] in
/-- What a search found is among the nodes that documents may be. -/
theorem IsFrontier.length_found_le (frontier : host.IsFrontier outermost pending found) :
    found.length ≤ nodes.length := by
  refine (List.subperm_of_subset frontier.nodup fun document member => ?_).length_le
  rcases (frontier.reached document member).cases_tail with same | ⟨_, _, embeds⟩
  · exact absurd (same ▸ member) frontier.outermost_not_mem
  · exact within.2 embeds

/-- A search comes to its end if there is a round for each queued document and for each one that may still be found. So
what holds at the end, and holds before each round if it holds behind it, holds of the search. -/
theorem IsFrontier.rounds_induction {motive : List Node → List Node → List Node → Prop}
    (done : ∀ {found}, host.IsFrontier outermost [] found → motive [] found found)
    (look : ∀ {document pending found result},
      motive (pending ++ host.freshDocuments outermost found document)
        (found ++ host.freshDocuments outermost found document) result →
      motive (document :: pending) found result)
    {rounds : Nat} (frontier : host.IsFrontier outermost pending found)
    (enough : pending.length + (nodes.length - found.length) ≤ rounds) :
    motive pending found (host.frameDocumentsWithin outermost rounds pending found) := by
  induction rounds generalizing pending found with
  | zero =>
    have none : pending = [] := List.length_eq_zero_iff.mp (by omega)
    subst none
    rw [frameDocumentsWithin_nil]
    exact done frontier
  | succ rounds ih =>
    cases pending with
    | nil =>
      rw [frameDocumentsWithin_nil]
      exact done frontier
    | cons document pending =>
      rw [frameDocumentsWithin_cons]
      -- what is queued anew is found anew as well, so the sum falls with each round
      refine look (ih frontier.step ?_)
      have bound := frontier.step.length_found_le within
      rw [List.length_append] at bound
      rw [List.length_cons] at enough
      rw [List.length_append, List.length_append]
      omega

/-- The search for the documents inside a document has rounds enough. -/
theorem frameDocuments_induction {document : Node} {motive : List Node → List Node → List Node → Prop}
    (done : ∀ {found}, host.IsFrontier document [] found → motive [] found found)
    (look : ∀ {next pending found result},
      motive (pending ++ host.freshDocuments document found next)
        (found ++ host.freshDocuments document found next) result →
      motive (next :: pending) found result) :
    motive [document] [] (host.frameDocuments document) := by
  refine (IsFrontier.initial host document).rounds_induction within done look ?_
  have small := within.1
  rw [List.length_singleton, List.length_nil]
  omega

/-- At the end of the search nothing is queued. -/
theorem isFrontier_frameDocuments (document : Node) :
    host.IsFrontier document [] (host.frameDocuments document) :=
  frameDocuments_induction (motive := fun _ _ result => host.IsFrontier document [] result) within
    (fun ended => ended) (fun ended => ended)

/-- No frame document is listed twice. -/
theorem nodup_frameDocuments (document : Node) : (host.frameDocuments document).Nodup :=
  (isFrontier_frameDocuments within document).nodup

/-- The embedded documents of a document are the other ones that are reached from it through frames. -/
theorem mem_frameDocuments_iff {document node : Node} :
    node ∈ host.frameDocuments document ↔
      node ≠ document ∧ Relation.ReflTransGen host.Embeds document node := by
  have frontier := isFrontier_frameDocuments within document
  constructor
  · intro member
    refine ⟨?_, frontier.reached node member⟩
    rintro rfl
    exact frontier.outermost_not_mem member
  · rintro ⟨ne, reached⟩
    have found : node = document ∨ node ∈ host.frameDocuments document := by
      induction reached with
      | refl => exact .inl rfl
      | @tail outer inner _ embeds ih =>
        by_cases same : outer = document
        · exact frontier.closed (.inl same) List.not_mem_nil embeds
        · exact frontier.closed (ih same) List.not_mem_nil embeds
    exact found.resolve_left ne

end Rounds

end ElementSearch.Host

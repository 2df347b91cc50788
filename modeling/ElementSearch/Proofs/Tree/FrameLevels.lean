import ElementSearch.Proofs.Tree.Frames
import Mathlib.Order.Lattice.Nat

/-!
# Documents inside frames, level by level

The search for embedded documents needs no bound on its rounds: `Exhausts` describes it without one, and it ends with
what the bounded search returns, and with nothing else. The queue is the end of the list of what was found, so documents
leave it in the order in which they were found. The invariant `IsLevelled` adds that this is the order of their distance
from the start, and that what is queued lies on at most two neighbouring levels. A document that was not found yet is
farther away than the one at the head of the queue, however it is reached; so documents come out in the order of their
distance, whether frames share documents or lead back to outer ones.
-/

namespace ElementSearch.Host

variable {Node : Type} [DecidableEq Node]

/-- Whether a document is reached from another one through a number of frames. -/
def EmbedsIn (host : Host Node) (outermost : Node) : Nat → Node → Prop
  | 0, document => document = outermost
  | steps + 1, document => ∃ outer, host.EmbedsIn outermost steps outer ∧ host.Embeds outer document

/-- The least number of frames through which a document is reached from another one. -/
noncomputable def frameDistance (host : Host Node) (outermost document : Node) : Nat :=
  sInf {steps | host.EmbedsIn outermost steps document}

/-- The search for embedded documents without a bound: with a queue and what was found so far it ends and has found
`result`. -/
inductive Exhausts (host : Host Node) (outermost : Node) :
    List Node → List Node → List Node → Prop where
  | done {found} : Exhausts host outermost [] found found
  | look {document pending found result}
      (further : Exhausts host outermost (pending ++ host.freshDocuments outermost found document)
        (found ++ host.freshDocuments outermost found document) result) :
      Exhausts host outermost (document :: pending) found result

/-- The state of a search that finds documents in the order of their distance. -/
structure IsLevelled (host : Host Node) (outermost : Node) (pending found : List Node) : Prop
    extends host.IsFrontier outermost pending found where
  pending_suffix : pending <:+ outermost :: found
  ordered : (outermost :: found).Pairwise fun first second =>
    host.frameDistance outermost first ≤ host.frameDistance outermost second
  distance_found_le : ∀ head ∈ pending.head?, ∀ document ∈ found,
    host.frameDistance outermost document ≤ host.frameDistance outermost head + 1

variable {host : Host Node} {outermost document : Node} {pending found : List Node}

section Distance

omit [DecidableEq Node] in
/-- A document is reached through frames exactly when it is reached in some number of steps. -/
theorem reflTransGen_iff_exists_embedsIn :
    Relation.ReflTransGen host.Embeds outermost document ↔
      ∃ steps, host.EmbedsIn outermost steps document := by
  constructor
  · intro reached
    induction reached with
    | refl => exact ⟨0, rfl⟩
    | @tail outer inner _ embeds ih =>
      obtain ⟨steps, inSteps⟩ := ih
      exact ⟨steps + 1, outer, inSteps, embeds⟩
  · rintro ⟨steps, inSteps⟩
    induction steps generalizing document with
    | zero => exact inSteps ▸ .refl
    | succ steps ih =>
      obtain ⟨outer, before, embeds⟩ := inSteps
      exact (ih before).tail embeds

omit [DecidableEq Node] in
/-- The distance of a document is the least number of steps to it. -/
theorem frameDistance_le {steps : Nat} (inSteps : host.EmbedsIn outermost steps document) :
    host.frameDistance outermost document ≤ steps :=
  Nat.sInf_le inSteps

omit [DecidableEq Node] in
/-- A document that is reached is reached in as many steps as its distance says. -/
theorem embedsIn_frameDistance
    (reached : Relation.ReflTransGen host.Embeds outermost document) :
    host.EmbedsIn outermost (host.frameDistance outermost document) document :=
  Nat.sInf_mem (reflTransGen_iff_exists_embedsIn.mp reached)

end Distance

section Exhaustion

/-- A search ends in one way only. -/
theorem Exhausts.unique {first second : List Node}
    (left : host.Exhausts outermost pending found first)
    (right : host.Exhausts outermost pending found second) : first = second := by
  induction left with
  | done =>
    cases right
    rfl
  | look _ ih =>
    cases right with
    | look further => exact ih further

/-- The bounded search for the documents inside a document is one that ends by itself. -/
theorem exhausts_frameDocuments {nodes : List Node} (within : host.EmbedsWithin nodes)
    (document : Node) : host.Exhausts document [document] [] (host.frameDocuments document) :=
  frameDocuments_induction within (fun _ => .done) .look

end Exhaustion

section Levels

omit [DecidableEq Node] in
/-- At the start the queue holds the start alone, at distance zero. -/
theorem IsLevelled.initial (host : Host Node) (outermost : Node) :
    host.IsLevelled outermost [outermost] [] where
  toIsFrontier := .initial host outermost
  pending_suffix := List.suffix_refl _
  ordered := List.pairwise_singleton _ _
  distance_found_le _ _ _ member := absurd member List.not_mem_nil

section Round

variable (levelled : host.IsLevelled outermost (document :: pending) found)
include levelled

omit [DecidableEq Node] in
/-- The document at the head of the queue is a nearest one of those queued. -/
theorem IsLevelled.distance_head_le {queued : Node} (member : queued ∈ document :: pending) :
    host.frameDistance outermost document ≤ host.frameDistance outermost queued := by
  have ordered := levelled.ordered.sublist levelled.pending_suffix.sublist
  rcases List.mem_cons.mp member with rfl | behind
  · exact Nat.le_refl _
  · exact (List.pairwise_cons.mp ordered).1 queued behind

/-- What was not found yet is farther away than the head of the queue: on the way to it, the last document that was
found is queued. -/
theorem IsLevelled.distance_head_lt {steps : Nat} {node : Node}
    (inSteps : host.EmbedsIn outermost steps node) (ne : node ≠ outermost) (new : node ∉ found) :
    host.frameDistance outermost document < steps := by
  induction steps generalizing node with
  | zero => exact absurd inSteps ne
  | succ steps ih =>
    obtain ⟨outer, before, embeds⟩ := inSteps
    by_cases outerKnown : outer = outermost ∨ outer ∈ found
    · have queued : outer ∈ document :: pending := by
        by_contra looked
        exact (levelled.closed outerKnown looked embeds).elim ne new
      exact Nat.lt_succ_of_le ((levelled.distance_head_le queued).trans (frameDistance_le before))
    · rw [not_or] at outerKnown
      exact Nat.lt_succ_of_lt (ih before outerKnown.1 outerKnown.2)

/-- What a round finds lies one level below the document that it looks into. -/
theorem IsLevelled.distance_fresh {node : Node}
    (fresh : node ∈ host.freshDocuments outermost found document) :
    host.frameDistance outermost node = host.frameDistance outermost document + 1 := by
  obtain ⟨embeds, ne, new⟩ := mem_freshDocuments_iff.mp fresh
  have documentReached : Relation.ReflTransGen host.Embeds outermost document := by
    rcases levelled.known document List.mem_cons_self with rfl | member
    · exact .refl
    · exact levelled.reached document member
  have inSteps := embedsIn_frameDistance (documentReached.tail embeds)
  refine Nat.le_antisymm (frameDistance_le ?_) (levelled.distance_head_lt inSteps ne new)
  exact ⟨document, embedsIn_frameDistance documentReached, embeds⟩

/-- One round keeps the order. -/
theorem IsLevelled.step :
    host.IsLevelled outermost (pending ++ host.freshDocuments outermost found document)
      (found ++ host.freshDocuments outermost found document) where
  toIsFrontier := levelled.toIsFrontier.step
  pending_suffix := by
    obtain ⟨looked, split⟩ := levelled.pending_suffix
    refine ⟨looked ++ [document], ?_⟩
    rw [← List.cons_append, ← split]
    simp
  ordered := by
    -- fresh documents are one step further than the head, and nothing known lies beyond that
    have nearer : ∀ known ∈ outermost :: found,
        host.frameDistance outermost known ≤ host.frameDistance outermost document + 1 := by
      intro known member
      rcases List.mem_cons.mp member with rfl | old
      · have inNoStep : host.EmbedsIn known 0 known := rfl
        exact (frameDistance_le inNoStep).trans (Nat.zero_le _)
      · exact levelled.distance_found_le document rfl known old
    rw [← List.cons_append]
    refine List.pairwise_append.mpr ⟨levelled.ordered, ?_, fun known member node fresh => ?_⟩
    · refine List.pairwise_of_forall_mem_list fun first isFirst second isSecond => ?_
      rw [levelled.distance_fresh isFirst, levelled.distance_fresh isSecond]
    · rw [levelled.distance_fresh fresh]
      exact nearer known member
  distance_found_le := by
    intro head isHead known member
    have isQueued := List.mem_of_mem_head? isHead
    have further : host.frameDistance outermost document ≤ host.frameDistance outermost head := by
      rcases List.mem_append.mp isQueued with queued | fresh
      · exact levelled.distance_head_le (List.mem_cons_of_mem _ queued)
      · exact (levelled.distance_fresh fresh).symm ▸ Nat.le_succ _
    rcases List.mem_append.mp member with old | fresh
    · exact (levelled.distance_found_le document rfl known old).trans (Nat.succ_le_succ further)
    · exact (levelled.distance_fresh fresh).trans_le (Nat.succ_le_succ further)

end Round

/-- A search that ends has found documents in the order of their distance. -/
theorem IsLevelled.exhausted {result : List Node} (levelled : host.IsLevelled outermost pending found)
    (ends : host.Exhausts outermost pending found result) : host.IsLevelled outermost [] result := by
  induction ends with
  | done => exact levelled
  | look _ ih => exact ih levelled.step

/-- The embedded documents of a document come in the order of their distance from it. -/
theorem pairwise_frameDocuments {nodes : List Node} (within : host.EmbedsWithin nodes)
    (document : Node) :
    (host.frameDocuments document).Pairwise fun first second =>
      host.frameDistance document first ≤ host.frameDistance document second :=
  (List.pairwise_cons.mp
    ((IsLevelled.initial host document).exhausted (exhausts_frameDocuments within document)).ordered).2

end Levels

end ElementSearch.Host

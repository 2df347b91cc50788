import ElementSearch.Proofs.Arena.Hanging
import ElementSearch.Proofs.Tree.FrameLevels
import ElementSearch.Proofs.Tree.Subtrees

/-!
# Which embedded documents are found

In a reachable arena without cycles of parents, frames may hold any document: one that is outside, their own one, or
one that another frame holds as well. The search for embedded documents still ends, since each document enters the queue
once, and it returns what frames lead to, nearest documents first: `Reachable.findsDocuments`. A frame counts where a
walk down finds it, that is, where elements only lie between it and the start; below a text that has children it is not
found.
-/

namespace ElementSearch.Arena

/-- What the search for embedded documents returns, from whatever node it starts. -/
structure FindsDocuments (arena : Arena) (start : Handle) : Prop where
  ends : ∀ result,
    arena.host.Exhausts start [start] [] result ↔ result = arena.host.frameDocuments start
  walks_end : ∀ depth, arena.size ≤ depth → ∀ scope,
    arena.outline.descendantsWithin depth scope = arena.outline.descendants scope
  embeds_iff : ∀ outer inner, arena.host.Embeds outer inner ↔
    ∃ frame, Relation.TransGen arena.outline.IsElementChild outer frame ∧
      arena.host.contentDocument frame = some inner
  nodup : (arena.host.frameDocuments start).Nodup
  start_not_mem : start ∉ arena.host.frameDocuments start
  mem_iff : ∀ document, document ∈ arena.host.frameDocuments start ↔
    arena.kind document = .document ∧ document ≠ start ∧
      Relation.TransGen arena.host.Embeds start document
  ordered : (arena.host.frameDocuments start).Pairwise fun first second =>
    arena.host.frameDistance start first ≤ arena.host.frameDistance start second

variable {arena : Arena}

/-- The frame documents are the one list that exhausts the queue of the start. -/
theorem HasLinks.exhausts_iff (links : arena.HasLinks) {start : Handle} {result : List Handle} :
    arena.host.Exhausts start [start] [] result ↔ result = arena.host.frameDocuments start := by
  have ends := Host.exhausts_frameDocuments links.embedsWithin start
  exact ⟨fun other => other.unique ends, fun same => same ▸ ends⟩

/-- A document embeds what the frames hold that elements lead to. -/
theorem HasLinks.embeds_iff (links : arena.HasLinks) (acyclic : arena.outline.IsAcyclic)
    {outer inner : Handle} :
    arena.host.Embeds outer inner ↔
      ∃ frame, Relation.TransGen arena.outline.IsElementChild outer frame ∧
        arena.host.contentDocument frame = some inner := by
  simp only [← (links.isForest acyclic).mem_descendants_iff_transGen]
  exact List.mem_filterMap

/-- The frame documents of a document are the other documents that frames lead to from it. -/
theorem HasLinks.mem_frameDocuments_iff (links : arena.HasLinks) {start document : Handle} :
    document ∈ arena.host.frameDocuments start ↔
      arena.kind document = .document ∧ document ≠ start ∧
        Relation.TransGen arena.host.Embeds start document := by
  rw [Host.mem_frameDocuments_iff links.embedsWithin, Relation.reflTransGen_iff_eq_or_transGen]
  constructor
  · rintro ⟨ne, same | reached⟩
    · exact absurd same ne
    · obtain ⟨_, _, embeds⟩ := Relation.TransGen.tail'_iff.mp reached
      exact ⟨links.kind_of_embeds embeds, ne, reached⟩
  · rintro ⟨_, ne, reached⟩
    exact ⟨ne, .inr reached⟩

/-- However frames are linked, the search for embedded documents ends and returns what they lead to, nearest documents
first. -/
theorem Reachable.findsDocuments (reachable : arena.Reachable) (acyclic : arena.outline.IsAcyclic)
    (start : Handle) : arena.FindsDocuments start where
  ends _ := reachable.hasLinks.exhausts_iff
  walks_end _ le := (reachable.hasLinks.isForest acyclic).descendantsWithin_eq_descendants le
  embeds_iff _ _ := reachable.hasLinks.embeds_iff acyclic
  nodup := Host.nodup_frameDocuments reachable.hasLinks.embedsWithin start
  start_not_mem member := (reachable.hasLinks.mem_frameDocuments_iff.mp member).2.1 rfl
  mem_iff _ := reachable.hasLinks.mem_frameDocuments_iff
  ordered := Host.pairwise_frameDocuments reachable.hasLinks.embedsWithin start

section Entangled

/-- A document with two frames. The document in the first one has a frame that holds the outermost document and one that
holds a document which holds itself and is held by the second frame's document too. -/
def entangled : Arena :=
  empty.after
    [.createDocument none, .addElement 0 "iframe" [], .addElement 0 "iframe" [],
      .createDocument none, .addElement 3 "iframe" [], .addElement 3 "iframe" [],
      .createDocument none, .addElement 6 "iframe" [], .createDocument none,
      .addElement 8 "iframe" [], .attachFrame 1 3, .attachFrame 2 8, .attachFrame 4 0,
      .attachFrame 5 6, .attachFrame 7 6, .attachFrame 9 6]

theorem reachable_entangled : entangled.Reachable := ⟨_, rfl⟩

theorem isShallow_entangled : entangled.outline.IsShallow :=
  reachable_entangled.hasLinks.isShallow_of_older (by decide +kernel) (by decide +kernel)

/-- Both documents in the frames of the outermost one come before the third one, which is found once. The outermost one
is reached as well, but not returned. -/
theorem findsDocuments_entangled :
    entangled.host.Exhausts 0 [0] [] [3, 8, 6] ∧
      Relation.TransGen entangled.host.Embeds 0 6 ∧ 0 ∉ entangled.host.frameDocuments 0 ∧
      entangled.host.frameDistance 0 8 ≤ entangled.host.frameDistance 0 6 := by
  have finds := reachable_entangled.findsDocuments isShallow_entangled.isAcyclic 0
  have found : [3, 8, 6] = entangled.host.frameDocuments 0 := by decide +kernel
  have reached := ((finds.mem_iff 6).mp (found ▸ by decide)).2.2
  have ordered := finds.ordered
  rw [← found] at ordered
  refine ⟨(finds.ends _).mpr found, reached, finds.start_not_mem, ?_⟩
  exact (List.pairwise_cons.mp (List.pairwise_cons.mp ordered).2).1 6 (List.mem_singleton_self 6)

end Entangled

end ElementSearch.Arena

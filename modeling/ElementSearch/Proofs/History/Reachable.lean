import ElementSearch.Proofs.Snapshot.Building
import Mathlib.Data.List.Infix

/-!
# What holds of reachable arenas

Every operation is growth or one accepted move. So what holds of the empty arena and is kept by growth and by
accepted moves holds of every reachable arena: `Reachable.induction`. What some operations break holds all along a
history if and only if no operation of the history is one of these: `after_prefixes_iff`.
-/

namespace ElementSearch

namespace Operation

open Arena

/-- An operation adds to the arena, or it is an accepted move, an attachment or a build. -/
theorem adds_or_differs (operation : Operation) (arena : Arena) :
    arena.Adds 0 (operation.apply arena).1 ∨
      (∃ parent child, operation = .appendChild parent child ∧
        arena.appendError? parent child = none ∧
        (operation.apply arena).1 = arena.attach parent child) ∨
      (∃ frame document, operation = .attachFrame frame document) ∨
      ∃ snapshot, operation = .build snapshot := by
  have all : ∀ node : Handle, 0 ≤ node := Nat.zero_le
  cases operation with
  | appendChild parent child =>
    rcases arena.appendChild_cases parent child with ⟨error, failed⟩ | ⟨accepted, moved⟩
    · refine .inl ?_
      rw [apply, changed, failed]
      exact .refl arena
    · refine .inr (.inl ⟨parent, child, rfl, accepted, ?_⟩)
      rw [apply, changed, moved]
  | attachFrame frame document => exact .inr (.inr (.inl ⟨frame, document, rfl⟩))
  | build snapshot => exact .inr (.inr (.inr ⟨snapshot, rfl⟩))
  | createDocument baseUrl => exact .inl (arena.adds_push rfl (all _))
  | createElement tag => exact .inl (arena.adds_push rfl (all _))
  | createText text => exact .inl (arena.adds_push trivial (all _))
  | addElement parent tag attributes => exact .inl (arena.adds_addElement (all _) (all parent) tag attributes)
  | addText parent text => exact .inl (arena.adds_addText (all _) (all parent) text)
  | setAttribute node name value => exact .inl (arena.adds_setAttribute (all node) name value)
  | setStyle node style => exact .inl (arena.adds_restyle (all node) fun _ => ⟨rfl, rfl, rfl⟩)
  | setRect node rect => exact .inl (arena.adds_restyle (all node) fun _ => ⟨rfl, rfl, rfl⟩)
  | setClientSize node size => exact .inl (arena.adds_restyle (all node) fun _ => ⟨rfl, rfl, rfl⟩)

/-- An operation is growth or an accepted move. -/
theorem grows_or_moves (operation : Operation) (arena : Arena) :
    Grows arena (operation.apply arena).1 ∨
      ∃ parent child, operation = .appendChild parent child ∧
        arena.appendError? parent child = none ∧
        (operation.apply arena).1 = arena.attach parent child := by
  rcases operation.adds_or_differs arena with
    adds | moves | ⟨frame, document, rfl⟩ | ⟨snapshot, rfl⟩
  · exact .inl adds.grows
  · exact .inr moves
  · exact .inl (arena.growsBeside_attachFrame (Nat.zero_le frame) (Nat.zero_le document)).grows
  · exact .inl (Snapshot.growsBeside_buildInto snapshot arena).grows

end Operation

namespace Arena

variable {Holds : Arena → Prop}

/-- What each step of a growth preserves, the whole growth preserves. -/
theorem Grows.preserves (step : ∀ {before after}, Growth before after → Holds before → Holds after)
    {before after : Arena} (grows : Grows before after) (holds : Holds before) : Holds after := by
  induction grows with
  | refl => exact holds
  | tail _ last ih => exact step last ih

/-- What every growth and every accepted move keep, each history keeps. -/
theorem after_preserves
    (growth : ∀ {before after}, Growth before after → Holds before → Holds after)
    (move : ∀ {arena : Arena} {parent child},
      arena.appendError? parent child = none → Holds arena → Holds (arena.attach parent child))
    {arena : Arena} (holds : Holds arena) (history : List Operation) :
    Holds (arena.after history) := by
  induction history generalizing arena with
  | nil => exact holds
  | cons operation history ih =>
    refine ih ?_
    rcases operation.grows_or_moves arena with grows | ⟨parent, child, _, accepted, moved⟩
    · exact grows.preserves growth holds
    · rw [moved]
      exact move accepted holds

/-- Building a page leads from reachable arenas to reachable ones, whether it is finished or not. -/
theorem Reachable.buildInto {arena : Arena} (reachable : arena.Reachable) (snapshot : Snapshot) :
    (snapshot.buildInto arena).1.Reachable :=
  reachable.apply (.build snapshot)

/-- The invariant principle of reachable arenas. -/
theorem Reachable.induction (base : Holds .empty)
    (growth : ∀ {before after}, Growth before after → Holds before → Holds after)
    (move : ∀ {arena : Arena} {parent child},
      arena.appendError? parent child = none → Holds arena → Holds (arena.attach parent child))
    {arena : Arena} (reachable : arena.Reachable) : Holds arena := by
  obtain ⟨history, rfl⟩ := reachable
  exact after_preserves growth move base history

/-- If an operation breaks what holds in exactly some cases, a history passes only through arenas of which it holds
if and only if none of its operations is such a case. -/
theorem after_prefixes_iff {Breaks : Operation → Arena → Prop} {arena : Arena} (holds : Holds arena)
    (step : ∀ passed operation, Holds (arena.after passed) →
      (Holds (operation.apply (arena.after passed)).1 ↔ ¬ Breaks operation (arena.after passed)))
    (history : List Operation) :
    (∀ passed, passed <+: history → Holds (arena.after passed)) ↔
      ∀ passed operation, passed ++ [operation] <+: history →
        ¬ Breaks operation (arena.after passed) := by
  have next : ∀ passed operation, Holds (arena.after passed) →
      (Holds (arena.after (passed ++ [operation])) ↔ ¬ Breaks operation (arena.after passed)) := by
    intro passed operation soFar
    rw [after_append]
    exact step passed operation soFar
  induction history using List.reverseRecOn with
  | nil =>
    refine iff_of_true ?_ ?_
    · intro passed isPrefix
      rw [List.prefix_nil.mp isPrefix]
      exact holds
    · intro passed operation isPrefix
      simp at isPrefix
  | append_singleton history last ih =>
    constructor
    · intro all passed operation isPrefix
      have before := all passed ((List.prefix_append _ _).trans isPrefix)
      exact (next passed operation before).mp (all _ isPrefix)
    · intro never passed isPrefix
      have earlier := ih.mpr fun passed operation inside =>
        never passed operation (inside.trans (List.prefix_append _ _))
      -- a prefix is the whole history or one without the last operation
      rcases List.prefix_concat_iff.mp isPrefix with rfl | inside
      · exact (next history last (earlier history List.prefix_rfl)).mpr
          (never history last List.prefix_rfl)
      · exact earlier passed inside

end Arena

end ElementSearch

import ElementSearch.Snapshot.Building

/-!
# Operations on arenas

The operations by which arenas change, as values. A history is a list of them; it is carried out from
the first to the last, whether or not they succeed. The arenas that histories lead to from the empty one
are the reachable ones.
-/

namespace ElementSearch

/-- A change of an arena. -/
inductive Operation where
  | createDocument (baseUrl : Option Url)
  | createElement (tag : String)
  | createText (text : String)
  | appendChild (parent child : Handle)
  | addElement (parent : Handle) (tag : String) (attributes : List (String × String))
  | addText (parent : Handle) (text : String)
  | setAttribute (node : Handle) (name value : String)
  | setStyle (node : Handle) (style : Style)
  | setRect (node : Handle) (rect : Rect)
  | setClientSize (node : Handle) (size : Size)
  | attachFrame (frame document : Handle)
  | build (snapshot : Snapshot)

namespace Operation

/-- What an operation answers that always makes a node. -/
def made (result : Arena × Handle) : Arena × Except SnapshotError (Option Handle) :=
  (result.1, .ok (some result.2))

/-- What an operation answers that changes nodes. -/
def changed (result : Arena × Except TreeError Unit) :
    Arena × Except SnapshotError (Option Handle) :=
  (result.1, (result.2.map fun _ => none).mapError .tree)

/-- Carries out an operation: the arena that it leaves behind, and the node that it made, if it made one,
or why it failed. -/
def apply (operation : Operation) (arena : Arena) :
    Arena × Except SnapshotError (Option Handle) :=
  match operation with
  | .createDocument baseUrl => made (arena.createDocument baseUrl)
  | .createElement tag => made (arena.createElement tag)
  | .createText text => made (arena.createText text)
  | .appendChild parent child => changed (arena.appendChild parent child)
  | .addElement parent tag attributes => made (arena.addElement parent tag attributes)
  | .addText parent text => made (arena.addText parent text)
  | .setAttribute node name value => changed (arena.setAttribute node name value)
  | .setStyle node style => changed (arena.setStyle node style)
  | .setRect node rect => changed (arena.setRect node rect)
  | .setClientSize node size => changed (arena.setClientSize node size)
  | .attachFrame frame document => changed (arena.attachFrame frame document)
  | .build snapshot =>
    let (built, result) := snapshot.buildInto arena
    (built, result.map some)

end Operation

namespace Arena

/-- The arena that a history leads to. -/
def after (arena : Arena) : List Operation → Arena
  | [] => arena
  | operation :: history => after (operation.apply arena).1 history

/-- An arena is reachable if some history leads to it from the arena without nodes. -/
def Reachable (arena : Arena) : Prop :=
  ∃ history, arena = empty.after history

/-- A history of two parts is run by running the second part on what the first left. -/
theorem after_append (arena : Arena) (history further : List Operation) :
    arena.after (history ++ further) = (arena.after history).after further := by
  induction history generalizing arena with
  | nil => rfl
  | cons operation history ih => exact ih _

theorem Reachable.empty : Reachable Arena.empty := ⟨[], rfl⟩

/-- One more operation leads from a reachable arena to a reachable arena, whether it fails or not.
-/
theorem Reachable.apply {arena : Arena} (reachable : arena.Reachable) (operation : Operation) :
    (operation.apply arena).1.Reachable := by
  obtain ⟨history, rfl⟩ := reachable
  exact ⟨history ++ [operation], by rw [after_append]; rfl⟩

end Arena

end ElementSearch

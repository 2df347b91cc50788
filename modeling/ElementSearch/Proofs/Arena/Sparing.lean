import ElementSearch.Proofs.Arena.Records
import ElementSearch.Proofs.Arena.Refiling

/-!
# What changes leave alone

A change concerns the records of a node and of its parents, and entries of the indexes for that node. So if these are
all newer than some handle, it spares the nodes up to that handle: their records stay what they are, and each name is
filed for the same ones of them, in the same order. Other nodes may be filed under the same name, before or behind them.
-/

namespace ElementSearch

namespace Index

/-- Whether two indexes file the same older nodes under each name, in the same order. -/
def Spares (bound : Nat) (before after : Index) : Prop :=
  ∀ name, (after.nodes name).filter (· < bound) = (before.nodes name).filter (· < bound)

section Spares

variable {bound : Nat} {before between after : Index} {node : Handle}

theorem Spares.refl (index : Index) : index.Spares bound index := fun _ => rfl

/-- Indexes that spare the old nodes at each step spare them altogether. -/
theorem Spares.trans (first : before.Spares bound between) (second : between.Spares bound after) :
    before.Spares bound after :=
  fun name => (second name).trans (first name)

/-- What passes a test that only older nodes pass, and is filed under a name, was filed there before. -/
theorem Spares.filter_nodes (spares : before.Spares bound after) {name : String}
    (older : ∀ node ∈ before.nodes name, node < bound) {test other : Handle → Bool}
    (same : ∀ node < bound, other node = test node) (onlyOlder : ∀ node, other node → node < bound) :
    (after.nodes name).filter other = (before.nodes name).filter test :=
  calc (after.nodes name).filter other
    _ = ((after.nodes name).filter (· < bound)).filter other := by
      rw [List.filter_filter]
      refine List.filter_congr fun node _ => ?_
      cases passes : other node with
      | false => rfl
      | true => simp [onlyOlder node passes]
    _ = ((before.nodes name).filter (· < bound)).filter other := by rw [spares name]
    _ = (before.nodes name).filter other := by
      rw [List.filter_eq_self.mpr fun node member => decide_eq_true (older node member)]
    _ = (before.nodes name).filter test :=
      List.filter_congr fun node member => same node (older node member)

variable (newer : bound ≤ node)
include newer

/-- Filing a newer node adds it behind the older ones. -/
theorem spares_file (index : Index) (name : String) :
    index.Spares bound (index.file name node) := by
  intro other
  rw [nodes_file]
  split
  · next fresh => simp [newer, fresh.1]
  · rfl

/-- Unfiling a newer node takes none of the older ones away. -/
theorem spares_unfile (index : Index) (name : String) :
    index.Spares bound (index.unfile name node) := by
  intro other
  rw [nodes_unfile]
  split
  · next same =>
    rw [List.filter_filter, same]
    refine List.filter_congr fun older _ => ?_
    by_cases lt : older < bound
    · simp [lt, Nat.ne_of_lt (Nat.lt_of_lt_of_le lt newer)]
    · simp [lt]
  · rfl

/-- Filing a newer node anew spares the older ones. -/
theorem spares_refile (index : Index) (former names : List String) :
    index.Spares bound (index.refile node former names) := by
  refine refile_induction (fun earlier name spares => ?_) (fun earlier name spares => ?_)
    (.refl index) former names
  · exact spares.trans (spares_file newer earlier name)
  · exact spares.trans (spares_unfile newer earlier name)

end Spares

end Index

namespace Arena

/-- Whether an arena has changed without regard to the nodes up to a handle. -/
structure Spares (bound : Nat) (before after : Arena) : Prop where
  size_le : before.size ≤ after.size
  record? : ∀ node < bound, after.record? node = before.record? node
  ids : before.ids.Spares bound after.ids
  classes : before.classes.Spares bound after.classes

section Changes

variable {bound : Nat} {before between after : Arena}

theorem Spares.refl (arena : Arena) : arena.Spares bound arena :=
  ⟨Nat.le_refl _, fun _ _ => rfl, .refl _, .refl _⟩

/-- Arenas that spare the old nodes at each step spare them altogether. -/
theorem Spares.trans (first : before.Spares bound between) (second : between.Spares bound after) :
    before.Spares bound after where
  size_le := Nat.le_trans first.size_le second.size_le
  record? node lt := (second.record? node lt).trans (first.record? node lt)
  ids := first.ids.trans second.ids
  classes := first.classes.trans second.classes

variable (arena : Arena)

/-- A new node is newer than any other. -/
theorem spares_push (le : bound ≤ arena.size) (content : Content) :
    arena.Spares bound (arena.push content).1 where
  size_le := by simp
  record? node lt := by
    rw [record?_push, if_neg (Nat.ne_of_lt (Nat.lt_of_lt_of_le lt le))]
  ids := .refl _
  classes := .refl _

variable {node : Handle} (newer : bound ≤ node)
include newer

/-- The record of a newer node is no record of an older one. -/
theorem spares_modifyRecord (change : Record → Record) :
    arena.Spares bound (arena.modifyRecord node change) where
  size_le := by simp
  record? older lt := by
    rw [record?_modifyRecord, if_neg (Nat.ne_of_lt (Nat.lt_of_lt_of_le lt newer))]
  ids := .refl _
  classes := .refl _

/-- Setting an attribute of a newer node changes its record and files it anew. -/
theorem spares_writeAttribute (name value : String) :
    arena.Spares bound (arena.writeAttribute node name value) where
  size_le := by simp
  record? := (arena.spares_modifyRecord newer _).record?
  ids := by
    obtain ⟨former, names, same⟩ := arena.exists_ids_writeAttribute_eq node name value
    exact same ▸ Index.spares_refile newer arena.ids former names
  classes := by
    obtain ⟨former, names, same⟩ := arena.exists_classes_writeAttribute_eq node name value
    exact same ▸ Index.spares_refile newer arena.classes former names

/-- Moving a node that has no parent yet concerns it and its new parent. -/
theorem spares_attach {parent : Handle} (newerParent : bound ≤ parent)
    (loose : arena.parent node = none) : arena.Spares bound (arena.attach parent node) := by
  unfold attach detach
  rw [loose]
  exact (arena.spares_modifyRecord newer _).trans (spares_modifyRecord _ newerParent _)

end Changes

end Arena

end ElementSearch

/-!
# Indexes of nodes by name

An index files nodes under names, for each name in the order in which they were filed. Names without
nodes are not kept. `nodes_put` says all there is to say about an index: what is filed under a name is
what was put there last.
-/

namespace ElementSearch

/-- The place of a node in its arena. Any number is a handle; one that is out of range names no node. -/
abbrev Handle := Nat

/-- Nodes filed under names. -/
structure Index where
  entries : List (String × List Handle)

namespace Index

/-- The index under whose names nothing is filed. -/
def empty : Index := ⟨[]⟩

/-- The entry of a name, if nodes are filed under it. -/
def get? (index : Index) (name : String) : Option (List Handle) :=
  index.entries.lookup name

/-- The nodes filed under a name. -/
def nodes (index : Index) (name : String) : List Handle :=
  (index.get? name).getD []

/-- Replaces what is filed under a name. -/
def put (index : Index) (name : String) (filed : List Handle) : Index :=
  let others := index.entries.filter fun entry => entry.1 ≠ name
  ⟨if filed = [] then others else (name, filed) :: others⟩

/-- Files a node under a name, unless it is there already. -/
def file (index : Index) (name : String) (node : Handle) : Index :=
  if node ∈ index.nodes name then index else index.put name (index.nodes name ++ [node])

/-- Takes a node away from under a name. -/
def unfile (index : Index) (name : String) (node : Handle) : Index :=
  index.put name ((index.nodes name).filter (· ≠ node))

theorem nodes_empty (name : String) : empty.nodes name = [] := rfl

/-- Without the entries of one name, that name is not found and all other names are found as
before. -/
private theorem lookup_filter_ne (entries : List (String × List Handle)) (name other : String) :
    (entries.filter fun entry => entry.1 ≠ name).lookup other =
      if other = name then none else entries.lookup other := by
  induction entries with
  | nil => simp
  | cons entry rest ih => grind

/-- Replacing the bucket of one name leaves the buckets of all other names as they were. -/
theorem nodes_put (index : Index) (name other : String) (filed : List Handle) :
    (index.put name filed).nodes other = if other = name then filed else index.nodes other := by
  unfold nodes get? put
  have kept := lookup_filter_ne index.entries name other
  by_cases none : filed = []
  · simp only [none, if_true, kept]
    split <;> simp
  · simp only [none, if_false, List.lookup_cons, kept]
    by_cases same : other = name
    · simp [same]
    · have differs : (other == name) = false := by simpa using same
      simp [differs, same]

/-- Filing a node puts it last in the bucket of the name, unless it is there already, and touches
no other bucket. -/
theorem nodes_file (index : Index) (name other : String) (node : Handle) :
    (index.file name node).nodes other =
      if other = name ∧ node ∉ index.nodes name then index.nodes name ++ [node]
      else index.nodes other := by
  unfold file
  split
  · simp [*]
  · rw [nodes_put]
    simp [*]

/-- Unfiling a node takes it out of the bucket of the name, keeps the order of the others, and
touches no other bucket. -/
theorem nodes_unfile (index : Index) (name other : String) (node : Handle) :
    (index.unfile name node).nodes other =
      if other = name then (index.nodes name).filter (· ≠ node) else index.nodes other := by
  rw [unfile, nodes_put]

end Index

end ElementSearch

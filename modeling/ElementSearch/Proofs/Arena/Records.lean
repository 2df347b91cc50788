import ElementSearch.Arena.Edit

/-!
# What each operation does to the records

For every primitive change of an arena, the parent, the children, the kind and the element of each node after
it, in terms of those before it. Proofs about arenas use these equations and do not open the operations.
-/

namespace ElementSearch.Arena

variable (arena : Arena)

/-- A handle has a record exactly when it is in range. -/
theorem record?_isSome_iff (node : Handle) : (arena.record? node).isSome ↔ node < arena.size := by
  simp [record?, size]

/-- Handles at the end of the arena and behind it name nothing. -/
theorem record?_eq_none_iff (node : Handle) : arena.record? node = none ↔ arena.size ≤ node := by
  simp [record?, size]

section Record

variable {arena} {node : Handle} {record : Record} (present : arena.record? node = some record)
include present

theorem parent_of_record? : arena.parent node = record.parent := by
  rw [parent, present]
  rfl

theorem children_of_record? : arena.children node = record.children := by
  rw [children, present]
  rfl

theorem kind_of_record? : arena.kind node = record.content.kind := by
  rw [kind, content?, present]
  rfl

theorem element?_of_record? : arena.element? node = record.content.element? := by
  rw [element?, content?, present]
  rfl

theorem frameOwner_of_record? : arena.frameOwner node = record.content.frameOwner? := by
  rw [frameOwner, content?, present]
  rfl

end Record

section Push

variable (content : Content)

/-- Pushing adds one node. -/
@[simp] theorem size_push : (arena.push content).1.size = arena.size + 1 := by
  simp [push, size]

/-- Pushing adds a detached record at the first free handle and leaves the others alone. -/
theorem record?_push (node : Handle) :
    (arena.push content).1.record? node =
      if node = arena.size then some (.detached content) else arena.record? node := by
  unfold record? push size
  exact Array.getElem?_push

/-- What reads the same off a new record as off none reads the same everywhere. -/
theorem read_push {α : Type} (read : Option Record → α)
    (same : read (some (.detached content)) = read none) (node : Handle) :
    read ((arena.push content).1.record? node) = read (arena.record? node) := by
  rw [record?_push]
  split
  · next new => rw [same, (arena.record?_eq_none_iff node).mpr (Nat.le_of_eq new.symm)]
  · rfl

/-- A new node has no parent, like the handle that it takes had none before. -/
@[simp] theorem parent_push : (arena.push content).1.parent = arena.parent :=
  funext (arena.read_push content (fun record? => record?.bind (·.parent)) rfl)

/-- A new node has no children, like the handle that it takes had none before. -/
@[simp] theorem children_push : (arena.push content).1.children = arena.children :=
  funext (arena.read_push content (fun record? => record?.elim [] (·.children)) rfl)

/-- Pushing adds content at the first free handle only. -/
theorem content?_push (node : Handle) :
    (arena.push content).1.content? node =
      if node = arena.size then some content else arena.content? node := by
  unfold content?
  rw [record?_push]
  split <;> rfl

/-- Pushing gives the first free handle the kind of the content, and no other handle another kind.
-/
theorem kind_push (node : Handle) :
    (arena.push content).1.kind node =
      if node = arena.size then content.kind else arena.kind node := by
  unfold kind
  rw [content?_push]
  split <;> rfl

/-- Pushing gives the first free handle the element of the content, and no other handle another
element. -/
theorem element?_push (node : Handle) :
    (arena.push content).1.element? node =
      if node = arena.size then content.element? else arena.element? node := by
  unfold element?
  rw [content?_push]
  split <;> rfl

end Push

/-- Whether an arena has got one more node, which is detached. -/
structure HasNew (before : Arena) (content : Content) (after : Arena) : Prop where
  size : after.size = before.size + 1
  record? : ∀ node, after.record? node =
    if node = before.size then some (.detached content) else before.record? node

/-- A pushed arena has the content as its new, detached last node. -/
theorem hasNew_push (content : Content) : arena.HasNew content (arena.push content).1 where
  size := arena.size_push content
  record? := arena.record?_push content

section HasNew

variable {before after : Arena} {content : Content} (new : before.HasNew content after)
include new

/-- The new node has a detached record. -/
theorem HasNew.record?_size : after.record? before.size = some (.detached content) := by
  rw [new.record?, if_pos rfl]

/-- The new node has no parent. -/
theorem HasNew.parent_size : after.parent before.size = none :=
  parent_of_record? new.record?_size

/-- The new node has no children. -/
theorem HasNew.children_size : after.children before.size = [] :=
  children_of_record? new.record?_size

/-- The new node has the kind of its content. -/
theorem HasNew.kind_size : after.kind before.size = content.kind :=
  kind_of_record? new.record?_size

end HasNew

/-- The first free handle has no content. -/
theorem content?_size : arena.content? arena.size = none := by
  rw [content?, (arena.record?_eq_none_iff _).mpr (Nat.le_refl _)]
  rfl

/-- A handle has no content exactly when it is out of range. -/
theorem content?_eq_none_iff (node : Handle) : arena.content? node = none ↔ arena.size ≤ node := by
  rw [content?, Option.map_eq_none_iff, record?_eq_none_iff]

/-- Only a handle that names no node is of another kind than documents, elements and texts. -/
theorem kind_eq_other_iff (node : Handle) : arena.kind node = .other ↔ arena.size ≤ node := by
  rw [← content?_eq_none_iff, kind]
  cases arena.content? node with
  | none => simp
  | some content => cases content <;> simp [Content.kind]

/-- A handle with a kind is in range. -/
theorem lt_size_of_kind_eq {node : Handle} {kind : NodeKind} (isKind : arena.kind node = kind)
    (known : kind ≠ .other) : node < arena.size :=
  Nat.lt_of_not_le fun outside =>
    known (isKind.symm.trans ((arena.kind_eq_other_iff node).mpr outside))

/-- A handle has an element exactly when its kind says so. -/
theorem element?_isSome_iff (node : Handle) :
    (arena.element? node).isSome ↔ arena.kind node = .element := by
  rw [element?, kind]
  cases arena.content? node with
  | none => simp
  | some content => cases content <;> simp [Content.kind, Content.element?]

/-- A handle with a parent is in range. -/
theorem lt_size_of_parent_eq_some {node up : Handle} (linked : arena.parent node = some up) :
    node < arena.size := by
  rw [← record?_isSome_iff]
  obtain ⟨record, present, _⟩ := Option.bind_eq_some_iff.mp linked
  rw [present]
  rfl

/-- A handle with an element is in range. -/
theorem lt_size_of_element?_eq_some {node : Handle} {element : Element}
    (present : arena.element? node = some element) : node < arena.size := by
  obtain ⟨content, isContent, _⟩ := Option.bind_eq_some_iff.mp present
  refine Nat.lt_of_not_le fun outside => ?_
  rw [(arena.content?_eq_none_iff node).mpr outside] at isContent
  cases isContent

/-- A handle with an attribute is in range. -/
theorem lt_size_of_attributeValue_eq_some {node : Handle} {name value : String}
    (present : arena.attributeValue node name = some value) : node < arena.size := by
  obtain ⟨element, isElement, _⟩ := Option.bind_eq_some_iff.mp present
  exact arena.lt_size_of_element?_eq_some isElement

theorem element?_size : arena.element? arena.size = none := by
  rw [element?, content?_size]
  rfl

theorem kind_size : arena.kind arena.size = .other := by
  rw [kind, content?_size]
  rfl

section ModifyRecord

variable (target : Handle) (change : Record → Record)

/-- Changing a record adds no node. -/
@[simp] theorem size_modifyRecord : (arena.modifyRecord target change).size = arena.size := by
  simp [modifyRecord, size]

/-- Changing one record leaves all others alone. -/
theorem record?_modifyRecord (node : Handle) :
    (arena.modifyRecord target change).record? node =
      if node = target then (arena.record? node).map change else arena.record? node := by
  simp only [modifyRecord, record?, Array.getElem?_modify, eq_comm]

variable {change}

/-- What a change of records keeps reads the same everywhere. -/
theorem read_modifyRecord {α : Type} (read : Option Record → α)
    (same : ∀ record, read (some (change record)) = read (some record)) (node : Handle) :
    read ((arena.modifyRecord target change).record? node) = read (arena.record? node) := by
  rw [record?_modifyRecord]
  split
  · cases arena.record? node with
    | none => rfl
    | some record => exact same record
  · rfl

/-- A change that keeps the parent of every record moves no node. -/
theorem parent_modifyRecord (same : ∀ record, (change record).parent = record.parent) :
    (arena.modifyRecord target change).parent = arena.parent :=
  funext (arena.read_modifyRecord target (fun record? => record?.bind (·.parent)) same)

/-- A change that keeps the children of every record keeps every list of children. -/
theorem children_modifyRecord (same : ∀ record, (change record).children = record.children) :
    (arena.modifyRecord target change).children = arena.children :=
  funext (arena.read_modifyRecord target (fun record? => record?.elim [] (·.children)) same)

/-- A change that keeps the kind of every record keeps the kind of every node. -/
theorem kind_modifyRecord (same : ∀ record, (change record).content.kind = record.content.kind) :
    (arena.modifyRecord target change).kind = arena.kind :=
  funext (arena.read_modifyRecord target
    (fun record? => (record?.map Record.content).elim NodeKind.other Content.kind) same)

/-- A change that keeps the element of every record keeps every element. -/
theorem element?_modifyRecord
    (same : ∀ record, (change record).content.element? = record.content.element?) :
    (arena.modifyRecord target change).element? = arena.element? :=
  funext (arena.read_modifyRecord target
    (fun record? => (record?.map Record.content).bind Content.element?) same)

/-- A change that keeps the frame owner of every record keeps every frame owner. -/
theorem frameOwner_modifyRecord
    (same : ∀ record, (change record).content.frameOwner? = record.content.frameOwner?) :
    (arena.modifyRecord target change).frameOwner = arena.frameOwner :=
  funext (arena.read_modifyRecord target
    (fun record? => (record?.map Record.content).bind Content.frameOwner?) same)

end ModifyRecord

/-- Kinds and elements are read off contents. -/
theorem kind_eq_of_content?_eq {before after : Arena} (same : after.content? = before.content?) :
    after.kind = before.kind := by
  funext node
  rw [kind, kind, same]

/-- Arenas with the same contents have the same elements. -/
theorem element?_eq_of_content?_eq {before after : Arena}
    (same : after.content? = before.content?) : after.element? = before.element? := by
  funext node
  rw [element?, element?, same]

section ModifyElement

variable (target : Handle) (change : Element → Element)

/-- Changing an element adds no node. -/
@[simp] theorem size_modifyElement : (arena.modifyElement target change).size = arena.size :=
  arena.size_modifyRecord target _

/-- Changing an element moves no node. -/
@[simp] theorem parent_modifyElement : (arena.modifyElement target change).parent = arena.parent :=
  arena.parent_modifyRecord target fun record => by split <;> rfl

/-- Changing an element keeps every list of children. -/
@[simp] theorem children_modifyElement :
    (arena.modifyElement target change).children = arena.children :=
  arena.children_modifyRecord target fun record => by split <;> rfl

/-- Changing an element changes the content of that node only, and only if it is an element. -/
theorem content?_modifyElement (node : Handle) :
    (arena.modifyElement target change).content? node =
      if node = target then
        (arena.content? node).map fun content =>
          match content with
          | .element element => .element (change element)
          | other => other
      else arena.content? node := by
  unfold content? modifyElement
  rw [record?_modifyRecord]
  split
  · cases arena.record? node with
    | none => rfl
    | some record =>
      simp only [Option.map_some]
      split <;> simp_all
  · rfl

/-- Changing an element keeps the kind of every node. -/
@[simp] theorem kind_modifyElement : (arena.modifyElement target change).kind = arena.kind :=
  arena.kind_modifyRecord target fun record => by rcases record with ⟨_, _, _ | _ | _⟩ <;> rfl

/-- Elements stand in no frame, so a change of one moves none out of a frame. -/
theorem frameOwner_modifyElement : (arena.modifyElement target change).frameOwner = arena.frameOwner :=
  arena.frameOwner_modifyRecord target fun record => by rcases record with ⟨_, _, _ | _ | _⟩ <;> rfl

/-- Changing an element leaves all other elements alone. -/
theorem element?_modifyElement (node : Handle) :
    (arena.modifyElement target change).element? node =
      if node = target then (arena.element? node).map change else arena.element? node := by
  unfold element?
  rw [content?_modifyElement]
  split
  · cases arena.content? node with
    | none => rfl
    | some content => cases content <;> rfl
  · rfl

end ModifyElement

section WriteAttribute

variable (target : Handle) (name value : String)

/-- Writing an attribute adds no node. -/
@[simp] theorem size_writeAttribute :
    (arena.writeAttribute target name value).size = arena.size :=
  arena.size_modifyElement target _

/-- Writing an attribute moves no node. -/
@[simp] theorem parent_writeAttribute :
    (arena.writeAttribute target name value).parent = arena.parent :=
  arena.parent_modifyElement target _

/-- Writing an attribute keeps every list of children. -/
@[simp] theorem children_writeAttribute :
    (arena.writeAttribute target name value).children = arena.children :=
  arena.children_modifyElement target _

/-- Writing an attribute keeps the kind of every node. -/
@[simp] theorem kind_writeAttribute :
    (arena.writeAttribute target name value).kind = arena.kind :=
  arena.kind_modifyElement target _

/-- Writing an attribute sets it on the target, under the folded name, and on no other element. -/
theorem element?_writeAttribute (node : Handle) :
    (arena.writeAttribute target name value).element? node =
      if node = target then
        (arena.element? node).map (·.withAttribute (Text.asciiLowercase name) value)
      else arena.element? node :=
  arena.element?_modifyElement target _ node

end WriteAttribute

section SetFrameOwner

variable (document owner : Handle)

/-- Naming a frame owner adds no node. -/
@[simp] theorem size_setFrameOwner : (arena.setFrameOwner document owner).size = arena.size :=
  arena.size_modifyRecord document _

/-- Naming a frame owner moves no node. -/
@[simp] theorem parent_setFrameOwner :
    (arena.setFrameOwner document owner).parent = arena.parent :=
  arena.parent_modifyRecord document fun record => by split <;> rfl

/-- Naming a frame owner keeps every list of children. -/
@[simp] theorem children_setFrameOwner :
    (arena.setFrameOwner document owner).children = arena.children :=
  arena.children_modifyRecord document fun record => by split <;> rfl

/-- Naming a frame owner changes the content of that document only. -/
theorem content?_setFrameOwner (node : Handle) :
    (arena.setFrameOwner document owner).content? node =
      if node = document then
        (arena.content? node).map fun content =>
          match content with
          | .document baseUrl _ => .document baseUrl (some owner)
          | other => other
      else arena.content? node := by
  unfold content? setFrameOwner
  rw [record?_modifyRecord]
  split
  · cases arena.record? node with
    | none => rfl
    | some record =>
      simp only [Option.map_some]
      split <;> simp_all
  · rfl

/-- Naming a frame owner keeps the kind of every node. -/
@[simp] theorem kind_setFrameOwner : (arena.setFrameOwner document owner).kind = arena.kind :=
  arena.kind_modifyRecord document fun record => by rcases record with ⟨_, _, _ | _ | _⟩ <;> rfl

/-- Naming a frame owner keeps every element. -/
@[simp] theorem element?_setFrameOwner :
    (arena.setFrameOwner document owner).element? = arena.element? :=
  arena.element?_modifyRecord document fun record => by rcases record with ⟨_, _, _ | _ | _⟩ <;> rfl

end SetFrameOwner

section Attach

variable (newParent child : Handle)

/-- Detaching removes no node. -/
@[simp] theorem size_detach : (arena.detach child).size = arena.size := by
  unfold detach
  split <;> simp

/-- Detaching a node clears its parent and drops it from the children of its former one. -/
theorem record?_detach (node : Handle) :
    (arena.detach child).record? node = (arena.record? node).map fun record =>
      { record with
        parent := if node = child then none else record.parent
        children :=
          if arena.parent child = some node then record.children.filter (· ≠ child)
          else record.children } := by
  unfold detach
  split
  · next top =>
    cases present : arena.record? node with
    | none => rfl
    | some record =>
      by_cases same : node = child
      · subst same
        have orphan : record.parent = none := by simpa [parent, present] using top
        cases record with
        | mk up below content =>
          subst orphan
          simp [top]
      · simp [top, same]
  · next former up =>
    rw [record?_modifyRecord, record?_modifyRecord, up]
    cases arena.record? node with
    | none => simp
    | some record =>
      by_cases isFormer : former = node
      · subst isFormer
        by_cases same : former = child <;> simp [same]
      · have differs : node ≠ former := fun eq => isFormer eq.symm
        by_cases same : node = child
        · subst same
          simp [isFormer, differs]
        · simp [isFormer, differs, same]

/-- The whole effect of a move: the link up is replaced, and the child goes from one list to the end of
another one. -/
theorem record?_attach (node : Handle) :
    (arena.attach newParent child).record? node = (arena.record? node).map fun record =>
      { record with
        parent := if node = child then some newParent else record.parent
        children :=
          (if arena.parent child = some node then record.children.filter (· ≠ child)
            else record.children) ++ if node = newParent then [child] else [] } := by
  unfold attach
  rw [record?_modifyRecord, record?_modifyRecord, record?_detach]
  cases arena.record? node with
  | none => simp
  | some record =>
    by_cases isParent : node = newParent
    · subst isParent
      by_cases same : node = child <;> simp [same]
    · by_cases same : node = child
      · subst same
        simp [isParent]
      · simp [isParent, same]

/-- Attaching adds no node. -/
@[simp] theorem size_attach : (arena.attach newParent child).size = arena.size := by
  simp [attach]

/-- Attaching keeps every content. -/
@[simp] theorem content?_attach : (arena.attach newParent child).content? = arena.content? := by
  funext node
  unfold content?
  rw [record?_attach]
  cases arena.record? node <;> rfl

/-- Attaching keeps the kind of every node. -/
@[simp] theorem kind_attach : (arena.attach newParent child).kind = arena.kind :=
  kind_eq_of_content?_eq (arena.content?_attach newParent child)

/-- Attaching keeps every element. -/
@[simp] theorem element?_attach : (arena.attach newParent child).element? = arena.element? :=
  element?_eq_of_content?_eq (arena.content?_attach newParent child)

/-- Attaching gives the child its new parent and moves no other node. -/
theorem parent_attach {child : Handle} (lt : child < arena.size) (node : Handle) :
    (arena.attach newParent child).parent node =
      if node = child then some newParent else arena.parent node := by
  unfold parent
  rw [record?_attach]
  cases present : arena.record? node with
  | none =>
    have outside := (arena.record?_eq_none_iff node).mp present
    have differs : node ≠ child := by
      rintro rfl
      exact Nat.not_lt_of_le outside lt
    rw [if_neg differs]
    rfl
  | some record => simp

/-- Attaching drops the child from the children of its former parent and adds it behind those of
the new one. -/
theorem children_attach {newParent : Handle} (lt : newParent < arena.size) (node : Handle) :
    (arena.attach newParent child).children node =
      (if arena.parent child = some node then (arena.children node).filter (· ≠ child)
        else arena.children node) ++ if node = newParent then [child] else [] := by
  unfold children
  rw [record?_attach]
  cases present : arena.record? node with
  | none =>
    have outside := (arena.record?_eq_none_iff node).mp present
    have differs : node ≠ newParent := by
      rintro rfl
      exact Nat.not_lt_of_le outside lt
    simp [differs]
  | some record => simp

end Attach

end ElementSearch.Arena

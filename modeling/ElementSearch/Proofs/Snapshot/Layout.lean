import ElementSearch.Proofs.Arena.Extension

/-!
# Where a snapshot lies in an arena

The nodes of a page lie one behind the other: its document, then its root element. Behind an element lie the nodes
of its children, and behind these the page inside it. `LiesAt` says this record by record. A build that succeeds
appends the nodes of the page in this layout and changes nothing else: `liesAt_of_build`.
-/

namespace ElementSearch.Snapshot

open Arena

mutual

/-- The number of nodes of a page, pages inside it included. -/
def count : Snapshot → Nat
  | .mk _ root => 1 + countElement root

/-- The number of nodes of an element, of what is below it and of the page inside it. -/
def countElement : ElementSnapshot → Nat
  | .mk _ children frame =>
    1 + countChildren children + match frame with
      | none => 0
      | some page => count page

/-- The number of nodes of children and of what is below them. -/
def countChildren : List ChildSnapshot → Nat
  | [] => 0
  | .text _ :: rest => 1 + countChildren rest
  | .element child :: rest => countElement child + countChildren rest

end

/-- The handles of children whose nodes lie from a handle on. -/
def handles : (first : Nat) → List ChildSnapshot → List Handle
  | _, [] => []
  | first, .text _ :: rest => first :: handles (first + 1) rest
  | first, .element child :: rest => first :: handles (first + countElement child) rest

/-- The base URL of a page as it is read. -/
def readUrl? (baseUrl : Option String) : Option Url :=
  baseUrl.bind fun text => (Url.parse text).toOption

mutual

/-- Whether the nodes of a page lie from a document on, which has an owner if the page is in a frame. -/
def LiesAt (arena : Arena) : (owner : Option Handle) → (document : Nat) → Snapshot → Prop
  | owner, document, .mk baseUrl root =>
    arena.record? document =
        some ⟨none, [document + 1], .document (readUrl? baseUrl) owner⟩ ∧
      ElementLiesAt arena document (document + 1) root

/-- Whether the nodes of an element lie from a handle on, below a parent. -/
def ElementLiesAt (arena : Arena) : (parent node : Nat) → ElementSnapshot → Prop
  | parent, node, .mk fields children frame =>
    arena.record? node = some ⟨some parent, handles (node + 1) children, .element
        { fields.element with frame := frame.map fun _ => node + 1 + countChildren children }⟩ ∧
      ChildrenLieAt arena node (node + 1) children ∧
      match frame with
      | none => True
      | some page => LiesAt arena (some node) (node + 1 + countChildren children) page

/-- Whether the nodes of children lie from a handle on, below a parent. -/
def ChildrenLieAt (arena : Arena) : (parent first : Nat) → List ChildSnapshot → Prop
  | _, _, [] => True
  | parent, first, .text text :: rest =>
    arena.record? first = some ⟨some parent, [], .text text⟩ ∧
      ChildrenLieAt arena parent (first + 1) rest
  | parent, first, .element child :: rest =>
    ElementLiesAt arena parent first child ∧
      ChildrenLieAt arena parent (first + countElement child) rest

end

section Same

variable {before after : Arena}

mutual

/-- Where a page lies depends on the records of its nodes only. -/
theorem LiesAt.of_same : {snapshot : Snapshot} → {owner : Option Handle} → {document : Nat} →
    LiesAt before owner document snapshot →
    (∀ node, document ≤ node → node < document + count snapshot →
      after.record? node = before.record? node) →
    LiesAt after owner document snapshot
  | .mk baseUrl root, owner, document, lies, same => by
    obtain ⟨record, lies⟩ := lies
    unfold count at same
    refine ⟨(same document (by omega) (by omega)).trans record, lies.of_same ?_⟩
    intro node le lt
    exact same node (by omega) (by omega)

/-- An element lies where it lay if the records of its nodes are the same. -/
theorem ElementLiesAt.of_same : {snapshot : ElementSnapshot} → {parent node : Nat} →
    ElementLiesAt before parent node snapshot →
    (∀ other, node ≤ other → other < node + countElement snapshot →
      after.record? other = before.record? other) →
    ElementLiesAt after parent node snapshot
  | .mk fields children none, parent, node, lies, same => by
    obtain ⟨record, below, _⟩ := lies
    unfold countElement at same
    refine ⟨(same node (by omega) (by omega)).trans record, below.of_same ?_, trivial⟩
    intro other le lt
    exact same other (by omega) (by omega)
  | .mk fields children (some page), parent, node, lies, same => by
    obtain ⟨record, below, inside⟩ := lies
    simp only [countElement] at same
    refine ⟨(same node (by omega) (by omega)).trans record, below.of_same ?_, inside.of_same ?_⟩
    · intro other le lt
      exact same other (by omega) (by omega)
    · intro other le lt
      exact same other (by omega) (by omega)

/-- A list of children lies where it lay if the records of its nodes are the same. -/
theorem ChildrenLieAt.of_same : {children : List ChildSnapshot} → {parent first : Nat} →
    ChildrenLieAt before parent first children →
    (∀ node, first ≤ node → node < first + countChildren children →
      after.record? node = before.record? node) →
    ChildrenLieAt after parent first children
  | [], _, _, _, _ => trivial
  | .text text :: rest, parent, first, lies, same => by
    obtain ⟨record, behind⟩ := lies
    unfold countChildren at same
    refine ⟨(same first (by omega) (by omega)).trans record, behind.of_same ?_⟩
    intro node le lt
    exact same node (by omega) (by omega)
  | .element child :: rest, parent, first, lies, same => by
    obtain ⟨lies, behind⟩ := lies
    unfold countChildren at same
    refine ⟨lies.of_same fun node le lt => ?_, behind.of_same fun node le lt => ?_⟩
    · exact same node (by omega) (by omega)
    · exact same node (by omega) (by omega)

end

end Same

section Steps

variable {before after : Arena}

/-- Reading a base URL builds nothing and gives the URL that was read. -/
theorem of_on_readBaseUrl {baseUrl : Option String} {url : Option Url}
    (reads : (readBaseUrl baseUrl).on before = (.ok url, after)) :
    after = before ∧ url = readUrl? baseUrl := by
  cases baseUrl with
  | none =>
    cases reads
    exact ⟨rfl, rfl⟩
  | some text =>
    unfold readBaseUrl at reads
    cases parsed : Url.parse text with
    | error cause =>
      simp only [parsed] at reads
      cases reads
    | ok read =>
      simp only [parsed] at reads
      cases reads
      simp [readUrl?, parsed, Except.toOption]

/-- A step that makes an arena grow keeps its links. -/
theorem hasLinks_of_on {α : Type} {bound : Nat} {step : Building α} {result : Except SnapshotError α}
    (links : before.HasLinks) (beside : before.GrowsBeside bound (step.on before).2)
    (ran : step.on before = (result, after)) : after.HasLinks := by
  rw [ran] at beside
  exact beside.grows.preserves HasLinks.grow links

end Steps

/-- Whether an arena has got an element with its children, below an older node. -/
structure IsFilled (before filled : Arena) (parent : Nat) (fields : ElementFields)
    (children : List ChildSnapshot) : Prop where
  links : filled.HasLinks
  extended : before.ExtendedBy (1 + countChildren children) (onlyAt parent [before.size]) filled
  record? : filled.record? before.size =
    some ⟨some parent, handles (before.size + 1) children, .element fields.element⟩
  below : ChildrenLieAt filled before.size (before.size + 1) children

section Elements

variable {before adopted filled after : Arena} {parent : Nat} {fields : ElementFields}
  {children : List ChildSnapshot} {frame : Option Snapshot} {node : Handle}

/-- An element below an older one is made and appended without fail. What may fail is its inside. -/
theorem on_buildElement (links : before.HasLinks) (lt : parent < before.size)
    (fields : ElementFields) (children : List ChildSnapshot) (frame : Option Snapshot) :
    ∃ adopted, before.HasNewChild parent (.element fields.element) adopted ∧
      (buildElement parent (.mk fields children frame)).on before =
        Building.on (do
          buildChildren before.size children
          buildFrame before.size frame
          pure before.size) adopted := by
  obtain ⟨described, describes, grown⟩ := on_buildFields fields before
  have new := grown.hasNew
  have newLinks := grown.grows.preserves HasLinks.grow links
  have adopts : (performing (·.appendChild parent before.size)).on described =
      (.ok (), described.attach parent before.size) := by
    rw [on_performing, new.appendChild_eq lt newLinks nofun]
    rfl
  refine ⟨_, new.hasNewChild lt newLinks nofun, ?_⟩
  rw [buildElement_eq, on_bind_of_ok before describes]
  exact on_bind_of_ok described adopts

/-- The steps of building an element. -/
theorem buildElement_cases (links : before.HasLinks) (lt : parent < before.size)
    (succeeds : (buildElement parent (.mk fields children frame)).on before = (.ok node, after)) :
    node = before.size ∧ ∃ adopted filled,
      before.HasNewChild parent (.element fields.element) adopted ∧
      (buildChildren before.size children).on adopted = (.ok (), filled) ∧
      (buildFrame before.size frame).on filled = (.ok (), after) := by
  obtain ⟨adopted, new, same⟩ := on_buildElement links lt fields children frame
  obtain ⟨_, filled, fills, rest⟩ := (on_bind_eq_ok_iff adopted).mp (same.symm.trans succeeds)
  obtain ⟨_, framed, frames, rest⟩ := (on_bind_eq_ok_iff filled).mp rest
  cases rest
  exact ⟨rfl, adopted, filled, new, fills, frames⟩

/-- The children of a new element lie right behind it. -/
theorem isFilled_of_build (new : before.HasNewChild parent (.element fields.element) adopted)
    (fills : (buildChildren before.size children).on adopted = (.ok (), filled))
    (extended : adopted.ExtendedBy (countChildren children)
      (onlyAt before.size (handles adopted.size children)) filled)
    (below : ChildrenLieAt filled before.size adopted.size children) :
    IsFilled before filled parent fields children := by
  rw [new.size] at extended below
  refine ⟨?_, ?_, ?_, below⟩
  · exact hasLinks_of_on new.links (growsBeside_buildChildren children _ _ (Nat.zero_le _) (Nat.zero_le _)) fills
  · refine (new.trans extended).of_added_eq fun other old => ?_
    rw [onlyAt_of_ne (Nat.ne_of_lt old), List.append_nil]
  · rw [extended.record? before.size (new.size ▸ Nat.lt_succ_self _), new.child, onlyAt_self]
    rfl

/-- An element without a frame is done once its children are built. -/
theorem IsFilled.elementLiesAt (isFilled : IsFilled before filled parent fields children) :
    ElementLiesAt filled parent before.size (.mk fields children none) :=
  ⟨isFilled.record?, isFilled.below, trivial⟩

/-- A page that is built behind an element leaves the element alone. -/
theorem IsFilled.record?_of_extendedBy
    (isFilled : IsFilled before filled parent fields children) {more : Nat} {built : Arena}
    (extended : filled.ExtendedBy more (fun _ => []) built) :
    built.record? before.size =
      some ⟨some parent, handles (before.size + 1) children, .element fields.element⟩ := by
  have size := isFilled.extended.size
  rw [extended.record? before.size (by omega), isFilled.record?]
  simp

/-- A page that is embedded stays where it lies and learns of its owner. -/
theorem IsFilled.elementLiesAt_of_frame
    (isFilled : IsFilled before filled parent fields children) {page : Snapshot} {built : Arena}
    (extended : filled.ExtendedBy (count page) (fun _ => []) built)
    (inside : LiesAt built none filled.size page)
    (embeds : (performing (·.attachFrame before.size filled.size)).on built = (.ok (), after)) :
    before.ExtendedBy (1 + countChildren children + count page) (onlyAt parent [before.size])
        after ∧
      ElementLiesAt after parent before.size (.mk fields children (some page)) := by
  have size := isFilled.extended.size
  have isFrame := isFilled.record?_of_extendedBy extended
  have below : ChildrenLieAt built before.size (before.size + 1) children := by
    refine isFilled.below.of_same fun other _ lt => ?_
    rw [extended.record? other (by omega)]
    simp
  obtain ⟨baseUrl, root⟩ := page
  obtain ⟨isDocument, rootLies⟩ := inside
  obtain ⟨embedded, attaches, sameSize, atFrame, atDocument, elsewhere⟩ :=
    attachFrame_of_record?_eq isFrame isDocument
  rw [on_performing, attaches] at embeds
  cases embeds
  -- the page begins where the children end
  have behind : before.size + 1 + countChildren children = filled.size := by omega
  refine ⟨?_, ?_, ?_, ?_⟩
  · refine ((isFilled.extended.trans extended).of_added_eq (by simp)).of_record?_eq sameSize ?_
    intro other old
    have before : other < filled.size := by omega
    exact elsewhere other (Nat.ne_of_lt old) (Nat.ne_of_lt before)
  · rw [atFrame, behind]
    rfl
  · refine below.of_same fun other le lt => elsewhere other ?_ ?_
    · exact Nat.ne_of_gt le
    · exact Nat.ne_of_lt (behind ▸ lt)
  · dsimp only
    rw [behind]
    refine ⟨atDocument, rootLies.of_same fun other le lt => elsewhere other ?_ ?_⟩
    · have behindFrame : before.size < other := by omega
      exact Nat.ne_of_gt behindFrame
    · exact Nat.ne_of_gt le

end Elements

mutual

/-- A build that succeeds appends the nodes of the page and changes no older node. -/
theorem liesAt_of_build : (snapshot : Snapshot) → {before after : Arena} → {document : Handle} →
    before.HasLinks → (build snapshot).on before = (.ok document, after) →
    document = before.size ∧ before.ExtendedBy (count snapshot) (fun _ => []) after ∧
      LiesAt after none before.size snapshot
  | .mk baseUrl root, before, after, document, links, succeeds => by
    unfold build at succeeds
    obtain ⟨url, read, reads, rest⟩ := (on_bind_eq_ok_iff _).mp succeeds
    obtain ⟨rfl, rfl⟩ := of_on_readBaseUrl reads
    obtain ⟨_, created, makes, rest⟩ := (on_bind_eq_ok_iff _).mp rest
    cases makes
    obtain ⟨_, built, builds, rest⟩ := (on_bind_eq_ok_iff _).mp rest
    cases rest
    have new := read.hasNew_push (.document (readUrl? baseUrl) none)
    have newLinks : (read.push (.document (readUrl? baseUrl) none)).1.HasLinks := links.push rfl
    have isNew : read.size < (read.push (.document (readUrl? baseUrl) none)).1.size :=
      new.size ▸ Nat.lt_succ_self read.size
    obtain ⟨_, extended, lies⟩ := elementLiesAt_of_build root newLinks isNew builds
    rw [new.size] at extended lies
    refine ⟨rfl, (new.extendedBy.trans extended).of_added_eq fun node old => ?_, ?_, lies⟩
    · exact onlyAt_of_ne (Nat.ne_of_lt old) _
    · rw [extended.record? read.size isNew, new.record?_size, onlyAt_self]
      rfl

/-- Building an element appends its nodes, and gives its parent one more child. -/
theorem elementLiesAt_of_build : (snapshot : ElementSnapshot) → {before after : Arena} →
    {parent : Nat} → {node : Handle} → before.HasLinks → parent < before.size →
    (buildElement parent snapshot).on before = (.ok node, after) →
    node = before.size ∧
      before.ExtendedBy (countElement snapshot) (onlyAt parent [before.size]) after ∧
      ElementLiesAt after parent before.size snapshot
  | .mk fields children none, before, after, parent, node, links, lt, succeeds => by
    obtain ⟨rfl, adopted, filled, new, fills, frames⟩ := buildElement_cases links lt succeeds
    cases frames
    obtain ⟨extended, below⟩ := childrenLieAt_of_build children new.links new.lt_size fills
    have isFilled := isFilled_of_build new fills extended below
    exact ⟨rfl, isFilled.extended, isFilled.elementLiesAt⟩
  | .mk fields children (some page), before, after, parent, node, links, lt, succeeds => by
    obtain ⟨rfl, adopted, filled, new, fills, frames⟩ := buildElement_cases links lt succeeds
    obtain ⟨extended, below⟩ := childrenLieAt_of_build children new.links new.lt_size fills
    have isFilled := isFilled_of_build new fills extended below
    obtain ⟨_, built, builds, embeds⟩ := (on_bind_eq_ok_iff _).mp frames
    obtain ⟨rfl, further, inside⟩ := liesAt_of_build page isFilled.links builds
    exact ⟨rfl, isFilled.elementLiesAt_of_frame further inside embeds⟩

/-- Building children appends their nodes, and gives their parent as many more children. -/
theorem childrenLieAt_of_build : (children : List ChildSnapshot) → {before after : Arena} →
    {parent : Nat} → before.HasLinks → parent < before.size →
    (buildChildren parent children).on before = (.ok (), after) →
    before.ExtendedBy (countChildren children) (onlyAt parent (handles before.size children))
        after ∧
      ChildrenLieAt after parent before.size children
  | [], before, after, parent, _, _, succeeds => by
    cases succeeds
    refine ⟨(ExtendedBy.refl before).of_added_eq fun node _ => ?_, trivial⟩
    simp [handles, onlyAt]
  | .text text :: rest, before, after, parent, links, lt, succeeds => by
    have new := links.hasNewChild_addText lt text
    have behind : (buildChildren parent rest).on (before.addText parent text).1 =
        (.ok (), after) := by
      unfold buildChildren at succeeds
      exact succeeds
    obtain ⟨further, others⟩ :=
      childrenLieAt_of_build rest new.links (Nat.lt_trans lt new.lt_size) behind
    rw [new.size] at further others
    refine ⟨(new.trans further).of_added_eq fun node _ => onlyAt_append .., ?_, others⟩
    rw [further.record? before.size new.lt_size, new.child,
      onlyAt_of_ne (Nat.ne_of_gt lt)]
    rfl
  | .element child :: rest, before, after, parent, links, lt, succeeds => by
    unfold buildChildren at succeeds
    obtain ⟨_, added, adds, behind⟩ := (on_bind_eq_ok_iff _).mp succeeds
    obtain ⟨rfl, first, lies⟩ := elementLiesAt_of_build child links lt adds
    have addedLinks := hasLinks_of_on links
      (growsBeside_buildElement child parent before (Nat.zero_le _) (Nat.zero_le _)) adds
    have size := first.size
    obtain ⟨further, others⟩ := childrenLieAt_of_build rest addedLinks (by omega) behind
    rw [size] at further others
    refine ⟨(first.trans further).of_added_eq fun node _ => onlyAt_append .., ?_, others⟩
    -- later siblings change the parent only, which is older than all nodes of the child
    refine lies.of_same fun node le inside => ?_
    have behindParent : parent < node := by omega
    rw [further.record? node (by omega), onlyAt_of_ne (Nat.ne_of_gt behindParent)]
    simp

end

end ElementSearch.Snapshot

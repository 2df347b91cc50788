import ElementSearch.Proofs.Arena.Hanging
import ElementSearch.Proofs.Snapshot.Layout
import ElementSearch.Snapshot.Loading

/-!
# How deep a loaded page is

A page that is read is no deeper than a snapshot may be nested: `height_le_of_read`. Where a page lies in an
arena, its nodes hang from its document, each after fewer links than the page is high. So the arena of a loaded page
hangs from its document, and no walk towards the root is cut off in it: `hangsFrom_of_load`.
-/

namespace ElementSearch.Snapshot

mutual

/-- How many nodes of a page lie one below or inside the other. -/
def height : Snapshot → Nat
  | .mk _ root => heightElement root + 1

/-- How many nodes of an element lie one below or inside the other, itself included. -/
def heightElement : ElementSnapshot → Nat
  | .mk _ children frame =>
    max (heightChildren children) (match frame with
      | none => 0
      | some page => height page) + 1

/-- How many nodes of children lie one below or inside the other. -/
def heightChildren : List ChildSnapshot → Nat
  | [] => 0
  | .text _ :: rest => max 1 (heightChildren rest)
  | .element child :: rest => max (heightElement child) (heightChildren rest)

end

section Hanging

variable {arena : Arena} {outermost : Nat}

/-- Where a snapshot lies, its document is the document of a page. -/
theorem LiesAt.isPage {snapshot : Snapshot} {document : Nat} {owner : Option Handle}
    (lies : LiesAt arena owner document snapshot) : arena.IsPage document owner := by
  obtain ⟨baseUrl, fields, children, frame⟩ := snapshot
  obtain ⟨record, root⟩ := lies
  cases frame with
  | none => exact ⟨⟨_, record⟩, Arena.kind_of_record? root.1⟩
  | some page => exact ⟨⟨_, record⟩, Arena.kind_of_record? root.1⟩

mutual

/-- Where a page lies, its nodes hang from its document. -/
theorem LiesAt.hangsAt : {snapshot : Snapshot} → {owner : Option Handle} →
    {document level : Nat} → LiesAt arena owner document snapshot →
    arena.HangsAt outermost level document → ∀ node, document ≤ node →
    node < document + count snapshot →
    ∃ below < level + height snapshot, arena.HangsAt outermost below node
  | .mk baseUrl root, owner, document, level, lies, hangs, node, le, lt => by
    obtain ⟨_, lies⟩ := lies
    simp only [count] at lt
    simp only [height]
    by_cases same : node = document
    · exact ⟨level, by omega, same ▸ hangs⟩
    · obtain ⟨below, low, hangs⟩ := lies.hangsAt hangs node (by omega) (by omega)
      exact ⟨below, by omega, hangs⟩

/-- The nodes of an element snapshot hang no deeper than its height below the parent. -/
theorem ElementLiesAt.hangsAt : {snapshot : ElementSnapshot} → {parent first level : Nat} →
    ElementLiesAt arena parent first snapshot → arena.HangsAt outermost level parent →
    ∀ node, first ≤ node → node < first + countElement snapshot →
    ∃ below ≤ level + heightElement snapshot, arena.HangsAt outermost below node
  | .mk fields children none, parent, first, level, lies, hangs, node, le, lt => by
    obtain ⟨record, below, _⟩ := lies
    simp only [countElement] at lt
    simp only [heightElement]
    have hangsHere := hangs.element record
    by_cases same : node = first
    · exact ⟨level + 1, by omega, same ▸ hangsHere⟩
    · obtain ⟨deeper, low, hangs⟩ := below.hangsAt hangsHere node (by omega) (by omega)
      exact ⟨deeper, by omega, hangs⟩
  | .mk fields children (some page), parent, first, level, lies, hangs, node, le, lt => by
    obtain ⟨record, below, inside⟩ := lies
    simp only [countElement] at lt
    simp only [heightElement]
    have hangsHere := hangs.element record
    by_cases same : node = first
    · exact ⟨level + 1, by omega, same ▸ hangsHere⟩
    by_cases isBelow : node < first + 1 + countChildren children
    · obtain ⟨deeper, low, hangs⟩ := below.hangsAt hangsHere node (by omega) (by omega)
      exact ⟨deeper, by omega, hangs⟩
    -- the page in the frame hangs one level below the element, like its children
    · have framed := hangsHere.framed (Arena.element?_of_record? record) rfl inside.isPage
      obtain ⟨deeper, low, hangs⟩ := inside.hangsAt framed node (by omega) (by omega)
      exact ⟨deeper, by omega, hangs⟩

/-- The nodes of a list of children hang no deeper than its height below the parent. -/
theorem ChildrenLieAt.hangsAt : {children : List ChildSnapshot} → {parent first level : Nat} →
    ChildrenLieAt arena parent first children → arena.HangsAt outermost level parent →
    ∀ node, first ≤ node → node < first + countChildren children →
    ∃ below ≤ level + heightChildren children, arena.HangsAt outermost below node
  | [], parent, first, level, _, _, node, le, lt => by
    simp only [countChildren] at lt
    omega
  | .text text :: rest, parent, first, level, lies, hangs, node, le, lt => by
    obtain ⟨record, behind⟩ := lies
    simp only [countChildren] at lt
    simp only [heightChildren]
    by_cases same : node = first
    · exact ⟨level + 1, by omega, same ▸ hangs.text record⟩
    · obtain ⟨below, low, hangs⟩ := behind.hangsAt hangs node (by omega) (by omega)
      exact ⟨below, by omega, hangs⟩
  | .element child :: rest, parent, first, level, lies, hangs, node, le, lt => by
    obtain ⟨lies, behind⟩ := lies
    simp only [countChildren] at lt
    simp only [heightChildren]
    by_cases inChild : node < first + countElement child
    · obtain ⟨below, low, hangs⟩ := lies.hangsAt hangs node le inChild
      exact ⟨below, by omega, hangs⟩
    · obtain ⟨below, low, hangs⟩ := behind.hangsAt hangs node (by omega) (by omega)
      exact ⟨below, by omega, hangs⟩

end

end Hanging

section Reading

/-- A bound on the height of each child is a bound on the height of the list. -/
theorem heightChildren_le {children : List ChildSnapshot} {bound : Nat} (pos : 0 < bound)
    (le : ∀ child, .element child ∈ children → heightElement child ≤ bound) :
    heightChildren children ≤ bound := by
  induction children with
  | nil => exact Nat.zero_le bound
  | cons child rest ih =>
    have behind := ih fun other member => le other (List.mem_cons_of_mem child member)
    cases child with
    | text text => exact Nat.max_le.mpr ⟨pos, behind⟩
    | element child => exact Nat.max_le.mpr ⟨le child List.mem_cons_self, behind⟩

/-- A field either has its default or was read from somewhere. -/
theorem of_withDefault {α : Type} {fields : Fields} {name : String} {default value : α}
    {read : Datum → Option α} (found : fields.withDefault name default read = some value) :
    value = default ∨ ∃ datum, read datum = some value := by
  unfold Fields.withDefault at found
  split at found
  · next datum _ => exact .inr ⟨datum, found⟩
  · exact .inl (Option.some.inj found).symm

/-- An optional field that is present is read as the field itself is. -/
theorem of_optional? {α : Type} {read : Datum → Option α} {datum : Datum} {value : α}
    (found : Datum.optional? read datum = some (some value)) : read datum = some value := by
  unfold Datum.optional? at found
  split at found
  · cases found
  · obtain ⟨read, isRead, same⟩ := Option.map_eq_some_iff.mp found
    exact isRead.trans same

/-- Every value that is read from a list is read from an item of it. -/
theorem exists_of_mem_mapM {α β : Type} {read : α → Option β} {items : List α}
    {values : List β} (found : items.mapM read = some values) :
    ∀ value ∈ values, ∃ item ∈ items, read item = some value := by
  induction items generalizing values with
  | nil =>
    cases found
    intro value member
    cases member
  | cons item rest ih =>
    rw [List.mapM_cons] at found
    obtain ⟨first, isFirst, found⟩ := Option.bind_eq_some_iff.mp found
    obtain ⟨others, areOthers, found⟩ := Option.bind_eq_some_iff.mp found
    cases found
    intro value member
    rcases List.mem_cons.mp member with rfl | other
    · exact ⟨item, List.mem_cons_self, isFirst⟩
    · obtain ⟨origin, isOrigin, isRead⟩ := ih areOthers value other
      exact ⟨origin, List.mem_cons_of_mem item isOrigin, isRead⟩

/-- What an element is read from: its children two levels further down, the page inside it one level. -/
theorem of_elementWithin? {levels : Nat} {datum : Datum} {fields : ElementFields}
    {children : List ChildSnapshot} {frame : Option Snapshot}
    (found : elementWithin? (levels + 1) datum = some (.mk fields children frame)) :
    (children = [] ∨ ∃ deeper, levels = deeper + 1 ∧ ∀ child, .element child ∈ children →
      ∃ item, elementWithin? deeper item = some child) ∧
      ∀ page, frame = some page → ∃ item, pageWithin? levels item = some page := by
  unfold elementWithin? at found
  simp only [Option.bind_eq_bind, Option.bind_eq_some_iff] at found
  obtain ⟨record, _, tag, _, attributes, _, style, _, rect, _, size, _, found⟩ := found
  obtain ⟨below, isBelow, inside, isInside, found⟩ := found
  cases found
  constructor
  · rcases of_withDefault isBelow with rfl | ⟨datum, isRead⟩
    · exact .inl rfl
    · cases levels with
      | zero => cases isRead
      | succ deeper =>
        refine .inr ⟨deeper, rfl, fun child member => ?_⟩
        obtain ⟨items, _, areRead⟩ := Option.bind_eq_some_iff.mp isRead
        obtain ⟨item, _, isRead⟩ := exists_of_mem_mapM areRead _ member
        split at isRead
        · cases asText : textChild? item with
          | some text => simp [asText] at isRead
          | none =>
            rw [asText] at isRead
            obtain ⟨read, isElement, same⟩ := Option.map_eq_some_iff.mp isRead
            cases same
            exact ⟨item, isElement⟩
        · cases isRead
  · rintro page rfl
    rcases of_withDefault isInside with none | ⟨datum, isRead⟩
    · cases none
    · exact ⟨datum, of_optional? isRead⟩

/-- What holds of a page if it holds of the root that is read for it, one level further down, and of an element if it
holds of the children and the page that are read for it, holds of all that is read. -/
theorem read_induction (OfPage : Nat → Snapshot → Prop) (OfElement : Nat → ElementSnapshot → Prop)
    (page : ∀ {levels baseUrl root}, OfElement levels root → OfPage (levels + 1) (.mk baseUrl root))
    (element : ∀ {levels datum fields children frame},
      elementWithin? (levels + 1) datum = some (.mk fields children frame) →
      (children = [] ∨ ∃ deeper, levels = deeper + 1 ∧ ∀ child, .element child ∈ children →
        OfElement deeper child) →
      (∀ inside, frame = some inside → OfPage levels inside) →
      OfElement (levels + 1) (.mk fields children frame)) (levels : Nat) :
    (∀ {datum snapshot}, pageWithin? levels datum = some snapshot → OfPage levels snapshot) ∧
      ∀ {datum snapshot}, elementWithin? levels datum = some snapshot →
        OfElement levels snapshot := by
  -- a child lies two levels down, so the case of the level before is not enough
  induction levels using Nat.strongRecOn with
  | ind levels ih =>
    cases levels with
    | zero =>
      constructor
      · intro datum snapshot found
        cases found
      · intro datum snapshot found
        cases found
    | succ levels =>
      have next := ih levels (Nat.lt_succ_self levels)
      constructor
      · intro datum snapshot found
        unfold pageWithin? at found
        simp only [Option.bind_eq_bind, Option.bind_eq_some_iff] at found
        obtain ⟨_, _, baseUrl, _, root, isRoot, found⟩ := found
        cases found
        obtain ⟨item, _, isRead⟩ := Option.bind_eq_some_iff.mp isRoot
        exact page (next.2 isRead)
      · intro datum snapshot found
        obtain ⟨fields, children, frame⟩ := snapshot
        obtain ⟨below, inside⟩ := of_elementWithin? found
        refine element found (below.imp_right ?_) fun page isFrame => ?_
        · rintro ⟨deeper, rfl, areRead⟩
          refine ⟨deeper, rfl, fun child member => ?_⟩
          obtain ⟨item, isRead⟩ := areRead child member
          exact (ih deeper (by omega)).2 isRead
        · obtain ⟨item, isRead⟩ := inside page isFrame
          exact next.1 isRead

/-- A page and an element are no deeper than what they are read from is nested. -/
theorem height_le_of_read (levels : Nat) :
    (∀ {datum page}, pageWithin? levels datum = some page → height page ≤ levels) ∧
      ∀ {datum snapshot}, elementWithin? levels datum = some snapshot →
        heightElement snapshot ≤ levels := by
  refine read_induction (fun levels page => height page ≤ levels)
    (fun levels snapshot => heightElement snapshot ≤ levels) Nat.succ_le_succ ?_ levels
  intro levels datum fields children frame _ below inside
  have childrenLow : heightChildren children ≤ levels := by
    rcases below with rfl | ⟨deeper, rfl, low⟩
    · exact Nat.zero_le levels
    · exact heightChildren_le (Nat.succ_pos deeper) fun child member =>
        Nat.le_succ_of_le (low child member)
  cases frame with
  | none => exact Nat.succ_le_succ (Nat.max_le.mpr ⟨childrenLow, Nat.zero_le levels⟩)
  | some page => exact Nat.succ_le_succ (Nat.max_le.mpr ⟨childrenLow, inside page rfl⟩)

/-- A snapshot that is read from a text is no higher than the text may be nested. -/
theorem height_le_of_read? {text : String} {page : Snapshot} (found : read? text = some page) :
    height page ≤ maxNesting := by
  obtain ⟨datum, _, isRead⟩ := Option.bind_eq_some_iff.mp found
  exact (height_le_of_read maxNesting).1 isRead

end Reading

section Loading

variable {text : String} {arena : Arena} {document : Handle}

/-- The arena of a loaded page is what building the page into the empty arena leaves behind. -/
theorem of_load (loaded : load text = .ok (arena, document)) :
    ∃ page, read? text = some page ∧ (build page).on .empty = (.ok document, arena) := by
  unfold load at loaded
  split at loaded
  · cases loaded
  · next page isRead =>
    refine ⟨page, isRead, ?_⟩
    rw [buildInto_eq] at loaded
    rcases ran : (build page).on .empty with ⟨_ | built, after⟩
    · simp [ran] at loaded
    · simp only [ran, Prod.swap_prod_mk] at loaded
      cases loaded
      rfl

/-- A loaded arena is reachable by operations. -/
theorem reachable_of_load (loaded : load text = .ok (arena, document)) : arena.Reachable := by
  obtain ⟨page, _, builds⟩ := of_load loaded
  have built := Arena.Reachable.empty.buildInto page
  rwa [buildInto_eq, builds] at built

/-- The arena of a loaded page hangs from its document, which is its first node. -/
theorem hangsFrom_of_load (loaded : load text = .ok (arena, document)) :
    document = 0 ∧ arena.HangsFrom document := by
  obtain ⟨page, isRead, builds⟩ := of_load loaded
  have low := height_le_of_read? isRead
  obtain ⟨rfl, extended, lies⟩ := liesAt_of_build page .empty builds
  have enough : maxNesting ≤ maxAncestorSteps := by decide
  have size : arena.size = 0 + count page := extended.size
  refine ⟨rfl, ?_, lies.isPage, fun {node} lt => ?_⟩
  · exact hasLinks_of_on .empty (growsBeside_build page .empty (Nat.zero_le _)) builds
  · obtain ⟨below, deep, hangs⟩ :=
      lies.hangsAt (.outermost lies.isPage) node (Nat.zero_le node) (size ▸ lt)
    exact ⟨below, by omega, hangs⟩

/-- A text that can be loaded at all gives a document that is the first node. -/
theorem load_eq_ok (succeeds : (load text).toOption.isSome) :
    load text = .ok (((load text).toOption.map Prod.fst).getD .empty, 0) := by
  cases loaded : load text with
  | error error => simp [loaded, Except.toOption] at succeeds
  | ok result =>
    obtain ⟨arena, document⟩ := result
    obtain ⟨rfl, _⟩ := hangsFrom_of_load loaded
    rfl

end Loading

end ElementSearch.Snapshot

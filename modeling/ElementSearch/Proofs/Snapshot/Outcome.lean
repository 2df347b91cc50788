import ElementSearch.Proofs.Snapshot.Layout

/-!
# When a snapshot can be built

What the nodes of a page record is listed in the order in which they are made: `parts`. Operations on the arena never
stop a build, since it performs them on nodes of its own. Only a base URL does: a build answers with the first
unreadable one in this order, and with the document if every one is read (`result_build`).
-/

namespace ElementSearch.Snapshot

open Arena

/-- What a node of a page records. -/
inductive Part where
  | document (baseUrl : Option String)
  | element (fields : ElementFields)
  | text (text : String)

mutual

/-- What the nodes of a page record, in the order in which they are made: the document, then its root element. -/
def parts : Snapshot → List Part
  | .mk baseUrl root => .document baseUrl :: elementParts root

/-- What an element records, then its children one after the other, then the page inside it. -/
def elementParts : ElementSnapshot → List Part
  | .mk fields children frame =>
    .element fields :: (childrenParts children ++ match frame with
      | none => []
      | some page => parts page)

/-- What children and the nodes below them record. -/
def childrenParts : List ChildSnapshot → List Part
  | [] => []
  | .text text :: rest => .text text :: childrenParts rest
  | .element child :: rest => elementParts child ++ childrenParts rest

end

section Count

mutual

/-- A page has one node for each of its parts. -/
theorem length_parts : (snapshot : Snapshot) → (parts snapshot).length = count snapshot
  | .mk _ root => by
    rw [parts, count, List.length_cons, length_elementParts root, Nat.add_comm]

/-- An element has one part for each node that it is built into. -/
theorem length_elementParts : (snapshot : ElementSnapshot) →
    (elementParts snapshot).length = countElement snapshot
  | .mk _ children none => by
    rw [elementParts, countElement, List.length_cons, List.length_append,
      length_childrenParts children, List.length_nil]
    omega
  | .mk _ children (some page) => by
    simp only [elementParts, countElement, List.length_cons, List.length_append,
      length_childrenParts children, length_parts page]
    omega

/-- A list of children has one part for each node that it is built into. -/
theorem length_childrenParts : (children : List ChildSnapshot) →
    (childrenParts children).length = countChildren children
  | [] => rfl
  | .text _ :: rest => by
    rw [childrenParts, countChildren, List.length_cons, length_childrenParts rest, Nat.add_comm]
  | .element child :: rest => by
    rw [childrenParts, countChildren, List.length_append, length_elementParts child,
      length_childrenParts rest]

end

end Count

section Members

variable {part : Part}

/-- The parts of an element are itself, those of its children and those of the page in its frame.
-/
theorem mem_elementParts_iff {fields : ElementFields} {children : List ChildSnapshot}
    {frame : Option Snapshot} :
    part ∈ elementParts (.mk fields children frame) ↔
      part = .element fields ∨ part ∈ childrenParts children ∨
        ∃ page, frame = some page ∧ part ∈ parts page := by
  cases frame <;> simp [elementParts]

/-- The parts of a list of children are its texts and the parts of its elements. -/
theorem mem_childrenParts_iff {children : List ChildSnapshot} :
    part ∈ childrenParts children ↔
      (∃ text, .text text ∈ children ∧ part = .text text) ∨
        ∃ child, .element child ∈ children ∧ part ∈ elementParts child := by
  induction children with
  | nil => simp [childrenParts]
  | cons child rest ih =>
    cases child with
    | text text => simp [childrenParts, ih, or_and_right, exists_or, or_assoc]
    | element child => simp [childrenParts, ih, or_and_right, exists_or, or_left_comm]

end Members

/-- Why a part cannot be built, if it cannot. -/
def Part.error? : Part → Option SnapshotError
  | .document (some written) =>
    match Url.parse written with
    | .ok _ => none
    | .error cause => some (.baseUrl written cause)
  | _ => none

/-- What building parts answers: the first error among them, or else a value. -/
def outcome {α : Type} (parts : List Part) (value : α) : Except SnapshotError α :=
  (parts.findSome? Part.error?).elim (.ok value) .error

section Outcome

variable {α β : Type}

/-- Parts in two lists end as the first list ends and, if it succeeds, as the second one does. -/
theorem outcome_append (first second : List Part) (value : α) (result : β) :
    outcome (first ++ second) result = outcome first value >>= fun _ => outcome second result := by
  unfold outcome
  rw [List.findSome?_append]
  cases first.findSome? Part.error? <;> rfl

/-- Parts of which each can be built are built. -/
theorem outcome_eq_ok {parts : List Part} (builds : ∀ part ∈ parts, part.error? = none)
    (value : α) : outcome parts value = .ok value := by
  rw [outcome, List.findSome?_eq_none_iff.mpr builds]
  rfl

/-- Parts that end well answer the value they were given. -/
theorem eq_of_outcome_eq_ok {parts : List Part} {value answered : α}
    (succeeds : outcome parts value = .ok answered) : answered = value := by
  unfold outcome at succeeds
  cases first : parts.findSome? Part.error? with
  | none =>
    rw [first] at succeeds
    exact (Except.ok.inj succeeds).symm
  | some error =>
    rw [first] at succeeds
    cases succeeds

/-- Reading a base URL ends as the one part of the document does. -/
theorem fst_on_readBaseUrl (baseUrl : Option String) (arena : Arena) :
    ((readBaseUrl baseUrl).on arena).1 = outcome [.document baseUrl] (readUrl? baseUrl) := by
  cases baseUrl with
  | none => rfl
  | some written =>
    have parsed : outcome [.document (some written)] (readUrl? (some written)) =
        match Url.parse written with
        | .ok url => .ok (some url)
        | .error cause => .error (.baseUrl written cause) := by
      cases parsed : Url.parse written <;>
        simp [outcome, Part.error?, readUrl?, parsed, Except.toOption]
    rw [parsed, readBaseUrl]
    cases Url.parse written <;> rfl

/-- The parts of two steps in a row are those of the first and then those of the second. -/
theorem fst_on_bind {step : Building α} {next : α → Building β} {before : Arena}
    {first second : List Part} {value : α} {result : β}
    (starts : (step.on before).1 = outcome first value)
    (continues : ∀ built, step.on before = (.ok value, built) →
      ((next value).on built).1 = outcome second result) :
    (Building.on (step >>= next) before).1 = outcome (first ++ second) result := by
  rw [on_bind, outcome_append first second value]
  rcases ran : step.on before with ⟨answer, built⟩
  rw [ran] at starts
  cases answer with
  | error error =>
    rw [← starts]
    rfl
  | ok answered =>
    obtain rfl := eq_of_outcome_eq_ok starts.symm
    rw [← starts]
    exact continues built ran

/-- An answer that is known beforehand changes nothing about whether it is given. -/
theorem fst_on_bind_pure {step : Building α} {before : Arena} {parts : List Part} {value : α}
    (starts : (step.on before).1 = outcome parts value) (result : β) :
    (Building.on (step >>= fun _ => pure result) before).1 = outcome parts result := by
  rw [fst_on_bind starts fun built _ => show _ = outcome [] result from rfl, List.append_nil]

end Outcome

section Build

/-- Once the page inside an element is built, embedding it does not fail. -/
theorem IsFilled.result_buildFrame {before filled : Arena} {parent : Nat}
    {fields : ElementFields} {children : List ChildSnapshot}
    (isFilled : IsFilled before filled parent fields children) {page : Snapshot}
    (inside : ((build page).on filled).1 = outcome (parts page) filled.size) :
    ((buildFrame before.size (some page)).on filled).1 = outcome (parts page) () := by
  have embeds : ∀ built, (build page).on filled = (.ok filled.size, built) →
      ((performing (·.attachFrame before.size filled.size)).on built).1 = outcome [] () := by
    intro built builds
    obtain ⟨-, further, lies⟩ := liesAt_of_build page isFilled.links builds
    obtain ⟨baseUrl, root⟩ := page
    obtain ⟨embedded, attaches, -⟩ :=
      attachFrame_of_record?_eq (isFilled.record?_of_extendedBy further) lies.1
    rw [on_performing, attaches]
    rfl
  have ran : ((buildFrame before.size (some page)).on filled).1 = outcome (parts page ++ []) () :=
    fst_on_bind inside embeds
  rwa [List.append_nil] at ran

mutual

/-- Building a page fails with the first unreadable base URL, if there is one. -/
theorem result_build : (snapshot : Snapshot) → {before : Arena} → before.HasLinks →
    ((build snapshot).on before).1 = outcome (parts snapshot) before.size
  | .mk baseUrl root, before, links => by
    unfold build parts
    refine fst_on_bind (fst_on_readBaseUrl baseUrl before) fun read reads => ?_
    obtain ⟨rfl, -⟩ := of_on_readBaseUrl reads
    rw [on_bind_of_ok read (on_making read _)]
    have lt : read.size < (read.createDocument (readUrl? baseUrl)).1.size :=
      (read.hasNew_push _).size ▸ Nat.lt_succ_self read.size
    have newLinks : (read.createDocument (readUrl? baseUrl)).1.HasLinks := links.push rfl
    exact fst_on_bind_pure (result_buildElement root newLinks lt) read.size

/-- Building an element ends as its parts do, since no operation of the arena fails on the way. -/
theorem result_buildElement : (snapshot : ElementSnapshot) → {before : Arena} →
    {parent : Nat} → before.HasLinks → parent < before.size →
    ((buildElement parent snapshot).on before).1 = outcome (elementParts snapshot) before.size
  | .mk fields children none, before, parent, links, lt => by
    obtain ⟨adopted, new, same⟩ := on_buildElement links lt fields children none
    rw [same]
    exact fst_on_bind (result_buildChildren children new.links new.lt_size) fun _ _ => rfl
  | .mk fields children (some page), before, parent, links, lt => by
    obtain ⟨adopted, new, same⟩ := on_buildElement links lt fields children (some page)
    rw [same]
    refine fst_on_bind (result_buildChildren children new.links new.lt_size) fun filled fills => ?_
    obtain ⟨extended, below⟩ := childrenLieAt_of_build children new.links new.lt_size fills
    have isFilled := isFilled_of_build new fills extended below
    have inside := isFilled.result_buildFrame (result_build page isFilled.links)
    exact fst_on_bind_pure inside before.size

/-- Building a list of children ends as its parts do. -/
theorem result_buildChildren : (children : List ChildSnapshot) → {before : Arena} →
    {parent : Nat} → before.HasLinks → parent < before.size →
    ((buildChildren parent children).on before).1 = outcome (childrenParts children) ()
  | [], before, parent, _, _ => rfl
  | .text text :: rest, before, parent, links, lt => by
    have new := links.hasNewChild_addText lt text
    unfold buildChildren
    rw [on_bind_of_ok before (on_making before _)]
    exact result_buildChildren rest new.links (Nat.lt_trans lt new.lt_size)
  | .element child :: rest, before, parent, links, lt => by
    unfold buildChildren childrenParts
    refine fst_on_bind (result_buildElement child links lt) fun built builds => ?_
    obtain ⟨-, extended, -⟩ := elementLiesAt_of_build child links lt builds
    have builtLinks := hasLinks_of_on links
      (growsBeside_buildElement child parent before (Nat.zero_le _) (Nat.zero_le _)) builds
    have size := extended.size
    exact result_buildChildren rest builtLinks (by omega)

end

end Build

end ElementSearch.Snapshot

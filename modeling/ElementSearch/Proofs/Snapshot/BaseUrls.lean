import ElementSearch.Proofs.Snapshot.Outcome

/-!
# Which base URL stops a build

A page has one base URL at most, and so has each page inside it. They are read in the order in which the documents are
made: `baseUrls`. A build fails if and only if one of them is unreadable, and then it names the first such one. No
operation on the arena ever stops a build, into whatever arena and however deep frames are nested in frames:
`failsOnBaseUrl_of_reachable`.
-/

namespace ElementSearch.Snapshot

open Arena

/-- The base URL that a part of a page asks for, if it is a document with one. -/
def Part.baseUrl? : Part → Option String
  | .document baseUrl => baseUrl
  | _ => none

/-- The base URLs of a page and of the pages inside it, in the order in which their documents are made: that of a page
comes before those below its root element, and what the children of an element hold before what the page inside the
element does. -/
def baseUrls (snapshot : Snapshot) : List String :=
  (parts snapshot).filterMap Part.baseUrl?

/-- Whether a base URL cannot be read. -/
def IsUnreadable (written : String) : Prop :=
  ∃ cause, Url.parse written = .error cause

/-- Whether a base URL is the first of several that cannot be read, and why it cannot. -/
def IsFirstUnreadable (urls : List String) (written : String) (cause : UrlError) : Prop :=
  Url.parse written = .error cause ∧
    ∃ before after, urls = before ++ written :: after ∧ ∀ url ∈ before, ¬ IsUnreadable url

/-- Why a build cannot go on after a base URL, if it cannot. -/
def urlError? (written : String) : Option SnapshotError :=
  match Url.parse written with
  | .ok _ => none
  | .error cause => some (.baseUrl written cause)

/-- A base URL fails with its text and the cause of the parser. -/
theorem urlError?_eq_some_iff {written : String} {error : SnapshotError} :
    urlError? written = some error ↔
      ∃ cause, Url.parse written = .error cause ∧ error = .baseUrl written cause := by
  unfold urlError?
  cases Url.parse written <;> simp [eq_comm]

/-- A base URL fails exactly when it is unreadable. -/
theorem urlError?_isSome_iff {written : String} :
    (urlError? written).isSome ↔ IsUnreadable written := by
  unfold urlError? IsUnreadable
  cases Url.parse written <;> simp

/-- A base URL is accepted exactly when it is readable. -/
theorem urlError?_eq_none_iff {written : String} :
    urlError? written = none ↔ ¬ IsUnreadable written := by
  rw [← urlError?_isSome_iff, Option.not_isSome_iff_eq_none]

/-- Only the base URL of a part can be in the way. -/
theorem error?_eq (part : Part) : part.error? = part.baseUrl?.bind urlError? := by
  rcases part with ⟨_ | written⟩ | fields | text <;> rfl

/-- The first error among the parts of a page is the one about its first unreadable base URL. -/
theorem findSome?_parts (snapshot : Snapshot) :
    (parts snapshot).findSome? Part.error? = (baseUrls snapshot).findSome? urlError? := by
  have errors : (parts snapshot).filterMap Part.error? = (baseUrls snapshot).filterMap urlError? := by
    rw [baseUrls, List.filterMap_filterMap]
    exact List.filterMap_congr fun part _ => error?_eq part
  rw [← List.head?_filterMap, ← List.head?_filterMap, errors]

/-- The error of a list of base URLs is the one of its first unreadable one. -/
theorem findSome?_urlError?_eq_some_iff {urls : List String} {error : SnapshotError} :
    urls.findSome? urlError? = some error ↔
      ∃ written cause, IsFirstUnreadable urls written cause ∧ error = .baseUrl written cause := by
  rw [List.findSome?_eq_some_iff]
  constructor
  · rintro ⟨before, written, after, split, isError, readable⟩
    obtain ⟨cause, unreadable, same⟩ := urlError?_eq_some_iff.mp isError
    refine ⟨written, cause, ⟨unreadable, before, after, split, fun url member => ?_⟩, same⟩
    exact urlError?_eq_none_iff.mp (readable url member)
  · rintro ⟨written, cause, ⟨unreadable, before, after, split, readable⟩, same⟩
    refine ⟨before, written, after, split, ?_, fun url member => ?_⟩
    · exact urlError?_eq_some_iff.mpr ⟨cause, unreadable, same⟩
    · exact urlError?_eq_none_iff.mpr (readable url member)

/-- A build ends with the error of its first failing part. -/
theorem outcome_eq_error_iff {parts : List Part} {α : Type} {value : α} {error : SnapshotError} :
    outcome parts value = .error error ↔ parts.findSome? Part.error? = some error := by
  unfold outcome
  cases parts.findSome? Part.error? <;> simp

/-- Whether building a page into an arena fails because of a base URL only, and names the first one that is
unreadable. -/
structure FailsOnBaseUrl (arena : Arena) (snapshot : Snapshot) : Prop where
  fails_iff : (∃ error, (snapshot.buildInto arena).2 = .error error) ↔
    ∃ written ∈ snapshot.baseUrls, IsUnreadable written
  eq_error_iff : ∀ error, (snapshot.buildInto arena).2 = .error error ↔
    ∃ written cause, IsFirstUnreadable snapshot.baseUrls written cause ∧
      error = .baseUrl written cause
  ne_tree : ∀ cause, (snapshot.buildInto arena).2 ≠ .error (.tree cause)

/-- Into whatever arena a page is built, only a base URL can make it fail. -/
theorem failsOnBaseUrl_of_reachable {arena : Arena} (reachable : arena.Reachable)
    (snapshot : Snapshot) : FailsOnBaseUrl arena snapshot := by
  have eq_error_iff : ∀ error, (snapshot.buildInto arena).2 = .error error ↔
      (baseUrls snapshot).findSome? urlError? = some error := by
    intro error
    rw [buildInto_eq, Prod.snd_swap, result_build snapshot reachable.hasLinks, outcome_eq_error_iff,
      findSome?_parts]
  refine ⟨?_, fun error => (eq_error_iff error).trans findSome?_urlError?_eq_some_iff, ?_⟩
  · rw [exists_congr eq_error_iff, ← Option.isSome_iff_exists, List.findSome?_isSome_iff]
    exact exists_congr fun written => and_congr_right fun _ => urlError?_isSome_iff
  · intro cause fails
    obtain ⟨_, _, _, same⟩ :=
      findSome?_urlError?_eq_some_iff.mp ((eq_error_iff _).mp fails)
    cases same

section Example

/-- A page in the form of a list. The page inside its item has no base URL, but a frame with an unreadable one; the
page inside the list itself, which is built later, has another such URL. -/
def twiceUnreadable : Snapshot :=
  .mk (some "http://localhost/") (.mk ⟨"ul", [], none, none, none⟩
    [.text "text", .element (.mk ⟨"li", [], none, none, none⟩ []
      (some (.mk none (.mk ⟨"html", [], none, none, none⟩ []
        (some (.mk (some "no url") (.mk ⟨"html", [], none, none, none⟩ [] none)))))))]
    (some (.mk (some "http://") (.mk ⟨"html", [], none, none, none⟩ [] none))))

/-- The build stops at the URL deep inside the item, also in the arena that such a build has left behind. -/
theorem failsOnBaseUrl_twiceUnreadable :
    twiceUnreadable.baseUrls = ["http://localhost/", "no url", "http://"] ∧
      (twiceUnreadable.buildInto (twiceUnreadable.buildInto .empty).1).2 =
        .error (.baseUrl "no url" .relativeWithoutBase) := by
  have reachable := Reachable.empty.buildInto twiceUnreadable
  have fails := failsOnBaseUrl_of_reachable reachable twiceUnreadable
  have readable : ¬ IsUnreadable "http://localhost/" := by
    rw [← urlError?_eq_none_iff]
    decide +kernel
  refine ⟨by decide, (fails.eq_error_iff _).mpr ⟨"no url", _, ⟨by decide +kernel, ?_⟩, rfl⟩⟩
  exact ⟨["http://localhost/"], ["http://"], by decide, by simpa using readable⟩

end Example

end ElementSearch.Snapshot

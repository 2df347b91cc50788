import ElementSearch.Proofs.Arena.Lookup
import ElementSearch.Proofs.Url.Rooted

/-!
# Paths of sources

A predicate that asks for the path of a source reads the `src` attribute as it is written, while the property that
reflects the attribute is resolved against the base URL of the document. Both have the same path if the attribute is
rooted on the page (`comparesWrittenPath`). Any other attribute is read from the root by the predicate and from the page
by the property, so that in a directory the predicate misses the path that the element has
(`misses_resolvedPath_gallery`).
-/

namespace ElementSearch

open Text Url

/-- Whether an unrooted reference leads from a path to the one of a value, up to letter case. -/
def Url.LeadsFrom (path : List Char) (written value : String) : Prop :=
  lowercased (slashed (pathFrom path (inputOf written))) = lowercased (pathname value)

/-- A path is no pattern with a wildcard. -/
theorem isWildcard_pathname (reference : String) : isWildcard (pathname reference) = false := by
  unfold pathname
  split
  · rfl
  · split
    · rfl
    · rename_i url _
      unfold isWildcard
      rw [String.toList_ofList]
      split
      · rename_i slash
        rw [slash]
        rfl
      · rfl

theorem isProperty_src : IsProperty "src" := by decide

/-- The predicate that asks for a source. -/
def Predicate.source (value : String) : Predicate :=
  ⟨"src", value, isProperty_src⟩

namespace Arena

/-- Whether the path of the resolved `src` of an element is the one of a value, up to letter case. -/
def HasResolvedPath (arena : Arena) (value : String) (node : Handle) : Prop :=
  ∃ resolved, arena.host.property node "src" = some (.text resolved) ∧
    lowercased (pathname resolved) = lowercased (pathname value)

/-- What the predicate for a path and the resolved path have to do with each other, for an element with the given `src`
attribute in a document with the given base URL. -/
structure ComparesWrittenPath (arena : Arena) (base : Url) (written value : String)
    (node : Handle) : Prop where
  holds_iff : (Predicate.source value).holds arena.host node ↔
    lowercased (pathname written) = lowercased (pathname value)
  property_eq : arena.host.property node "src" =
    some (.text (((join base written).toOption.map Url.toString).getD written))
  unresolved : (join base written).toOption = none →
    ((Predicate.source value).holds arena.host node ↔ arena.HasResolvedPath value node)
  rooted : ∀ url, join base written = .ok url → url.ReadsBack → IsRooted base written →
    ((Predicate.source value).holds arena.host node ↔ arena.HasResolvedPath value node)
  unrooted : ∀ url, join base written = .ok url → url.ReadsBack → IsUnrooted written →
    base.kind = .web →
      ((Predicate.source value).holds arena.host node ↔ LeadsFrom ['/'] written value) ∧
        (arena.HasResolvedPath value node ↔ LeadsFrom base.path written value)

variable {arena : Arena} {node : Handle} {value written : String}

/-- The property `src` is the attribute resolved against the base URL of the document. -/
theorem property_src (present : arena.attributeValue node "src" = some written) :
    arena.host.property node "src" = some (.text (arena.resolve node written)) := by
  obtain ⟨element, isElement, carried⟩ := Option.bind_eq_some_iff.mp present
  change arena.property node "src" = _
  unfold property
  rw [isElement]
  change (element.attributeValue "src").map
    (fun text => PropertyValue.text (arena.resolve node text)) = _
  rw [carried]
  rfl

/-- Two paths are compared without regard to case. -/
theorem hasResolvedPath_iff {resolved : String}
    (property : arena.host.property node "src" = some (.text resolved)) :
    arena.HasResolvedPath value node ↔
      lowercased (pathname resolved) = lowercased (pathname value) := by
  unfold HasResolvedPath
  rw [property]
  simp

/-- The source that a path is compared with is the attribute as written, unless that is empty. -/
theorem sourceOf_eq (present : arena.attributeValue node "src" = some written)
    (nonempty : written ≠ "") : Predicate.sourceOf arena.host node = written := by
  have carried : arena.host.attributeValue node "src" = some written := present
  unfold Predicate.sourceOf
  rw [carried, Option.filter_some, decide_eq_true nonempty]
  rfl

/-- A source predicate holds for elements only, and only by its comparison of paths. -/
theorem holds_source_eq (value : String) (node : Handle) :
    (Predicate.source value).holds arena.host node =
      (arena.host.isElement node && Predicate.hasSource arena.host value node) := rfl

/-- A value that starts with a slash is compared with the path of the source. -/
theorem holds_source_iff_path (slash : value.toList.head? = some '/') :
    (Predicate.source value).holds arena.host node ↔
      arena.host.isElement node ∧
        lowercased (pathname (Predicate.sourceOf arena.host node)) = lowercased (pathname value) := by
  rw [holds_source_eq, Bool.and_eq_true, Predicate.hasSource, if_pos slash,
    satisfies_iff (isWildcard_pathname value)]

/-- Where there is a `src` attribute, the path is read from what is written in it. -/
theorem holds_source_iff (present : arena.attributeValue node "src" = some written)
    (nonempty : written ≠ "") (slash : value.toList.head? = some '/') :
    (Predicate.source value).holds arena.host node ↔
      lowercased (pathname written) = lowercased (pathname value) := by
  rw [holds_source_iff_path slash, sourceOf_eq present nonempty]
  exact and_iff_right (isElement_of_attributeValue present)

/-- The predicate for a path compares the path that is written, which is the resolved one where the attribute is
rooted. -/
theorem comparesWrittenPath {base : Url} (present : arena.attributeValue node "src" = some written)
    (nonempty : written ≠ "")
    (hasBase : (arena.outline.documentOf node).bind arena.baseUrl = some base)
    (slash : value.toList.head? = some '/') :
    arena.ComparesWrittenPath base written value node := by
  have holds := holds_source_iff present nonempty slash
  have property : arena.host.property node "src" =
      some (.text (((join base written).toOption.map Url.toString).getD written)) := by
    rw [property_src present, resolve, hasBase]
    rfl
  -- a URL that reads back has the path that its text has
  have resolved : ∀ {url}, join base written = .ok url → url.ReadsBack →
      (arena.HasResolvedPath value node ↔
        lowercased (slashed url.path) = lowercased (pathname value)) := by
    intro url joined readsBack
    rw [joined] at property
    rw [hasResolvedPath_iff property, ← pathname_toString readsBack]
    rfl
  refine ⟨holds, property, fun failed => ?_, fun url joined readsBack rooted => ?_,
    fun url joined readsBack unrooted web => ?_⟩
  · rw [failed] at property
    rw [holds, hasResolvedPath_iff property]
    rfl
  · rw [holds, resolved joined readsBack,
      pathname_of_path nonempty (path_of_isRooted rooted joined)]
  · obtain ⟨fromRoot, fromPage⟩ := path_of_isUnrooted web unrooted joined
    rw [holds, resolved joined readsBack, pathname_of_path nonempty fromRoot, fromPage]
    exact ⟨.rfl, .rfl⟩

section Gallery

/-- The URL of a page in a directory. -/
def galleryUrl : Url :=
  ⟨"http".toList, some { Authority.nowhere with host := "localhost".toList },
    "/dir/page.html".toList, none, none⟩

/-- The URL of the picture that is named from the root. -/
def pictureUrl : Url :=
  { galleryUrl with path := "/pic.png".toList, query := some ['x'] }

/-- A page with a picture that is named from its directory, and one that is named from the root. -/
def gallery : Arena :=
  empty.after
    [.createDocument (some galleryUrl), .addElement 0 "html" [],
      .addElement 1 "img" [("src", "pic.png")], .addElement 1 "img" [("src", "/a/../pic.png?x")]]

/-- The picture that is named from the root has the path that the predicate asks for. -/
theorem comparesWrittenPath_gallery :
    (Predicate.source "/PIC.png").holds gallery.host 3 ∧
      gallery.HasResolvedPath "/PIC.png" 3 := by
  have compares : gallery.ComparesWrittenPath galleryUrl "/a/../pic.png?x" "/PIC.png" 3 :=
    comparesWrittenPath (by decide +kernel) (by decide) (by decide +kernel) (by decide)
  have joined : join galleryUrl "/a/../pic.png?x" = .ok pictureUrl := by decide +kernel
  have readsBack : pictureUrl.ReadsBack := by
    unfold ReadsBack
    decide +kernel
  have rooted : IsRooted galleryUrl "/a/../pic.png?x" := by
    have noScheme : splitScheme? (inputOf "/a/../pic.png?x") = none := by decide +kernel
    unfold IsRooted
    rw [noScheme]
    decide +kernel
  have holds : (Predicate.source "/PIC.png").holds gallery.host 3 := by decide +kernel
  have same := compares.rooted pictureUrl joined readsBack rooted
  exact ⟨holds, same.mp holds⟩

/-- The picture that is named from the directory is missed at the path that it has, and found at one that it does not
have. -/
theorem misses_resolvedPath_gallery :
    gallery.Reachable ∧ parse "http://localhost/dir/page.html" = .ok galleryUrl ∧
      gallery.host.property 2 "src" = some (.text "http://localhost/dir/pic.png") ∧
      gallery.HasResolvedPath "/dir/pic.png" 2 ∧
      ¬ (Predicate.source "/dir/pic.png").holds gallery.host 2 ∧
      (Predicate.source "/pic.png").holds gallery.host 2 ∧
      ¬ gallery.HasResolvedPath "/pic.png" 2 := by
  have read : parse "http://localhost/dir/page.html" = .ok galleryUrl := by decide +kernel
  have present : gallery.attributeValue 2 "src" = some "pic.png" := by decide +kernel
  have resolved : gallery.resolve 2 "pic.png" = "http://localhost/dir/pic.png" := by decide +kernel
  have property : gallery.host.property 2 "src" = some (.text "http://localhost/dir/pic.png") :=
    resolved ▸ property_src present
  refine ⟨⟨_, rfl⟩, read, property, ?_, by decide +kernel, by decide +kernel, fun found => ?_⟩
  · exact (hasResolvedPath_iff property).mpr (by decide +kernel)
  · exact absurd ((hasResolvedPath_iff property).mp found) (by decide +kernel)

end Gallery

end Arena

end ElementSearch

import ElementSearch.Proofs.Arena.MissingSources
import ElementSearch.Proofs.Search.Scopes
import ElementSearch.Proofs.Text.Occurrences
import ElementSearch.Proofs.Url.Containment

/-!
# Widened predicates

A wildcard in front of a value asks for containment in place of equality. A test for an id, a class or a tag still
compares the same texts, in whatever scope, and so does a test for a source whose value starts with no slash, so each of
them holds with the wildcard where it holds without. A value that starts with a slash asks for a path, but behind a
wildcard it is looked for in the whole property. Where it is a path as URLs write it, it is found there if the property
shows the path of the source, as it does where the source leads to a page of the web (`widens`). With anything behind
the path it is not (`not_widens_gallery`).
-/

namespace ElementSearch

open Text Url

/-- Whether a value is a path as URLs write it, up to letter case. -/
def IsFinalPath (value : String) : Prop :=
  value.toList.head? = some '/' ∧ lowercased (pathname value) = lowercased value

namespace Arena

/-- The texts of a node that a test compares with its value. -/
def comparedTexts (arena : Arena) (node : Handle) : BaseProperty → List String
  | .id => (arena.attributeValue node "id").toList
  | .className => Predicate.classesOf arena.host node
  | .tag => (arena.host.tagName node).toList

/-- Whether the property that reflects the `src` of an element holds the path of its source, up to letter case. -/
def ShowsPath (arena : Arena) (node : Handle) : Prop :=
  ∃ shown, arena.host.property node "src" = some (.text shown) ∧
    lowercase (pathname (Predicate.sourceOf arena.host node)).toList <:+: lowercase shown.toList

/-- Whether an element has a source that leads from a page of the web to a path from the root. -/
def HasWebSource (arena : Arena) (node : Handle) : Prop :=
  ∃ base written url, arena.attributeValue node "src" = some written ∧ written ≠ "" ∧
    (arena.outline.documentOf node).bind arena.baseUrl = some base ∧ base.kind = .web ∧
      join base written = .ok url ∧ url.path.head? = some '/'

/-- Which tests for a value hold at a node with a wildcard if they hold without one. -/
structure Widens (arena : Arena) (value : String) (node : Handle) : Prop where
  inScope : ∀ scope base, (Predicate.inScope scope base value).holds arena.host node →
    (Predicate.inScope scope base ("~" ++ value)).holds arena.host node
  source : value.toList.head? ≠ some '/' → (Predicate.source value).holds arena.host node →
    (Predicate.source ("~" ++ value)).holds arena.host node
  path : IsFinalPath value → arena.ShowsPath node →
    (Predicate.source value).holds arena.host node →
    (Predicate.source ("~" ++ value)).holds arena.host node
  path_of_web : IsFinalPath value → arena.HasWebSource node →
    (Predicate.source value).holds arena.host node →
    (Predicate.source ("~" ++ value)).holds arena.host node

variable {arena : Arena} {node : Handle} {value : String}

/-- A property predicate holds when one of the texts it compares satisfies its value. -/
theorem holds_iff_comparedTexts {base : BaseProperty} :
    (Predicate.inScope .node base value).holds arena.host node ↔
      arena.host.isElement node ∧ ∃ text ∈ arena.comparedTexts node base, satisfies text value := by
  rw [Predicate.holds_at_node, Predicate.passes, Bool.and_eq_true]
  refine and_congr_right fun _ => ?_
  cases base with
  | id =>
    change (arena.host.property node "id").any (·.satisfies value) ↔ _
    simp [property_id, comparedTexts, PropertyValue.satisfies, Option.any_eq_true]
  | className => exact List.any_eq_true
  | tag =>
    change (arena.host.tagName node).any (satisfies · value) ↔ _
    simp [comparedTexts, Option.any_eq_true]

/-- A wildcard does not start with a slash, so it is never read as a path. -/
theorem head?_wildcard (value : String) : ("~" ++ value).toList.head? ≠ some '/' := by
  rw [String.toList_append]
  exact nofun

/-- The path of what leads to a page of the web is shown if a path from a root equals it. -/
theorem HasWebSource.showsPath (web : arena.HasWebSource node)
    (slash : value.toList.head? = some '/')
    (same : lowercased (pathname (Predicate.sourceOf arena.host node)) =
      lowercased (pathname value)) : arena.ShowsPath node := by
  obtain ⟨base, written, url, present, nonempty, hasBase, isWeb, joined, rooted⟩ := web
  have property : arena.host.property node "src" = some (.text url.toString) := by
    rw [property_src present, resolve, hasBase, Option.bind_some, joined]
    rfl
  have source : Predicate.sourceOf arena.host node = written := sourceOf_eq present nonempty
  refine ⟨url.toString, property, ?_⟩
  have noSigma := not_mem_sigma_of_lowercased_eq (isAscii_pathname_of_slash slash) same
  rw [source] at noSigma ⊢
  have inPath : (pathname written).toList <:+: url.path :=
    pathname_isInfix_of_join isWeb joined rooted
  obtain ⟨front, rest, shown⟩ := inPath.trans (path_isInfix_render url)
  rw [Url.toString, String.toList_ofList, ← shown]
  exact lowercase_isInfix_of_settled (hasSettledSigmas_of_not_mem noSigma) front rest

/-- A wildcard widens each test that compares the same texts with and without it, and a test for a path where the path
is shown. -/
theorem widens (plain : isWildcard value = false) (node : Handle) : arena.Widens value node := by
  have path : IsFinalPath value → arena.ShowsPath node →
      (Predicate.source value).holds arena.host node →
      (Predicate.source ("~" ++ value)).holds arena.host node := by
    rintro ⟨slash, final⟩ ⟨shown, property, inShown⟩ holds
    have same := ((holds_source_iff_path slash).mp holds).2.trans final
    rw [← toList_lowercased, same, toList_lowercased] at inShown
    exact (holds_source_iff_property (head?_wildcard value)).mpr
      ⟨shown, property, satisfies_wildcard_iff.mpr inShown⟩
  refine ⟨fun scope base => Predicate.holds_inScope_of_imp (fun node holds => ?_) scope,
    fun noSlash holds => ?_, path, fun final web holds => ?_⟩
  · obtain ⟨element, text, compared, same⟩ := holds_iff_comparedTexts.mp holds
    exact holds_iff_comparedTexts.mpr ⟨element, text, compared, satisfies_wildcard plain same⟩
  · obtain ⟨shown, property, same⟩ := (holds_source_iff_property noSlash).mp holds
    exact (holds_source_iff_property (head?_wildcard value)).mpr
      ⟨shown, property, satisfies_wildcard plain same⟩
  · exact path final (web.showsPath final.1 ((holds_source_iff_path final.1).mp holds).2) holds

section Gallery

/-- Behind a wildcard too, the picture is found by its path and by the tag around it. -/
theorem widens_gallery :
    (Predicate.source "~/PIC.png").holds gallery.host 3 ∧
      (Predicate.inScope .parent .tag "~HTML").holds gallery.host 3 := by
  have widened : gallery.Widens "/PIC.png" 3 := widens (by decide) 3
  have widenedTag : gallery.Widens "HTML" 3 := widens (by decide) 3
  have final : IsFinalPath "/PIC.png" := ⟨by decide, by decide +kernel⟩
  have web : gallery.HasWebSource 3 :=
    ⟨galleryUrl, "/a/../pic.png?x", pictureUrl, by decide +kernel, by decide, by decide +kernel,
      by decide, by decide +kernel, by decide⟩
  exact ⟨widened.path_of_web final web (by decide +kernel),
    widenedTag.inScope _ _ (by decide +kernel)⟩

/-- A value with a fragment behind the path finds the picture by this path, and misses it behind a wildcard. -/
theorem not_widens_gallery :
    gallery.Reachable ∧ isWildcard "/pic.png#top" = false ∧
      (Predicate.source "/pic.png#top").holds gallery.host 3 ∧
      ¬ (Predicate.source ("~" ++ "/pic.png#top")).holds gallery.host 3 := by
  exact ⟨⟨_, rfl⟩, by decide, by decide +kernel, by decide +kernel⟩

end Gallery

end Arena

end ElementSearch

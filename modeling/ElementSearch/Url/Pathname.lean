import ElementSearch.Url.Parse

/-!
# The path of a reference

What is compared when a rule asks for a path: the path of a URL reference, whatever its scheme and
host. Query and fragment do not count.
-/

namespace ElementSearch.Url

/-- The page that references without a scheme or a host are read relative to. -/
def placeholder : Url where
  scheme := "http".toList
  authority := some { Authority.nowhere with host := "example.com".toList }
  path := ['/']
  query := none
  fragment := none

/-- The URL that a reference writes. Behind two slashes a host is expected, as in a page of the web; any
other reference that is no URL by itself is read relative to the placeholder. -/
def ofReference? (reference : String) : Option Url :=
  if ['/', '/'].isPrefixOf reference.toList then
    (parse ("http:" ++ reference)).toOption
  else
    (parse reference).toOption <|> (join placeholder reference).toOption

/-- The path of a reference, always with a slash in front. It is empty for an empty reference and for
one that is no URL. -/
def pathname (reference : String) : String :=
  if reference = "" then
    ""
  else
    match ofReference? reference with
    | none => ""
    | some url =>
      String.ofList (if url.path.head? = some '/' then url.path else '/' :: url.path)

theorem pathname_empty : pathname "" = "" := by
  simp [pathname]

end ElementSearch.Url

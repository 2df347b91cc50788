import ElementSearch.Url.Pathname

/-!
# Where the path of a reference starts

A reference is read on a page, and `pathname` reads it on a placeholder instead. A reference that is rooted on the page
has the same path on both of them: it has another scheme, or it names a host or a path from the root of a page of the
web (`path_of_isRooted`). One that has neither a scheme nor a slash in front starts from the page that it is read on, so
that its path depends on this page (`path_of_isUnrooted`).
-/

namespace ElementSearch.Url

/-- The characters that a reference is read from. -/
def inputOf (reference : String) : List Char :=
  withoutBreaks (trimmed reference.toList)

/-- Whether a URL is what its text is read as. -/
def ReadsBack (url : Url) : Prop :=
  parse url.toString = .ok url

/-- Whether it does not matter in which directory of a page a reference stands. Behind the scheme of the page itself a
host is only named if two slashes follow. -/
def IsRooted (base : Url) (reference : String) : Prop :=
  match splitScheme? (inputOf reference) with
  | some (own, rest) =>
    own = base.scheme → base.kind = .web ∧ 2 ≤ (rest.takeWhile isSlash).length
  | none => base.kind = .web ∧ (inputOf reference).head?.any isSlash

/-- Whether a reference has neither a scheme nor a slash in front. -/
def IsUnrooted (reference : String) : Prop :=
  splitScheme? (inputOf reference) = none ∧ (inputOf reference).head?.any isSlash = false

/-- The directory of a page with the given path. -/
def directory (path : List Char) : List Char :=
  let directory := withoutLastSegment .web path
  if directory = [] then ['/'] else directory

/-- The path to which the characters of an unrooted reference lead from the one of a page. -/
def pathFrom (path input : List Char) : List Char :=
  if input.head?.all endsPath then path
  else extendPath .web (directory path) (input.takeWhile fun character => !endsPath character)

/-- The path of a URL, if there is a URL. -/
def pathOf (result : Except UrlError Url) : Except UrlError (List Char) :=
  result.map Url.path

/-- Steps that go on to the same paths have the same path. -/
theorem pathOf_bind {α : Type} (step : Except UrlError α) {next other : α → Except UrlError Url}
    (same : ∀ value, pathOf (next value) = pathOf (other value)) :
    pathOf (step.bind next) = pathOf (step.bind other) := by
  cases step with
  | error => rfl
  | ok value => exact same value

/-- A backslash counts as a slash. -/
theorem isSlash_iff {character : Char} : isSlash character ↔ character = '/' ∨ character = '\\' := by
  simp [isSlash]

section Authority

/-- The port at the start of a text, behind a colon. -/
def portOf (text : List Char) : Except UrlError (Option Nat × List Char) :=
  match text with
  | ':' :: portText => splitPort portText
  | _ => .ok (none, text)

/-- A text without a colon in front writes no port. -/
theorem portOf_of_noColon {text : List Char}
    (noColon : ∀ portText, text = ':' :: portText → False) : portOf text = .ok (none, text) := by
  unfold portOf
  split
  · exact (noColon _ rfl).elim
  · rfl

/-- The URL of the web with the given parts of an authority; the port comes with the text behind it. -/
def withPort (scheme username password host : List Char) (port : Option Nat × List Char) :
    Except UrlError Url :=
  let authority : Authority :=
    ⟨username, password, host, if port.1 = defaultPort? scheme then none else port.1⟩
  if host = [] ∧ authority.credentials ≠ [] then .error .emptyHost
  else .ok (afterHost .web scheme authority port.2)

/-- The steps in which an authority of the web is read. Only the last one looks at the scheme. -/
theorem withAuthority_web (scheme text : List Char) :
    withAuthority .web scheme text =
      (splitCredentials .web text).bind fun (username, password, text) =>
        (if (splitHost .web false text).1 = [] then .error .emptyHost
          else specialHost (splitHost .web false text).1).bind fun host =>
            if host = [] ∧ (splitHost .web false text).2.head? = some ':' then .error .emptyHost
            else (portOf (splitHost .web false text).2).bind
              (withPort scheme username password host) := by
  unfold withAuthority
  cases splitCredentials .web text with
  | error => rfl
  | ok credentials =>
    obtain ⟨username, password, text⟩ := credentials
    simp only [bind, Except.bind, SchemeKind.isSpecial]
    rcases splitHost .web false text with ⟨_ | ⟨first, others⟩, rest⟩
    · rfl
    · simp only [reduceCtorEq, reduceIte]
      cases specialHost (first :: others) with
      | error => rfl
      | ok host =>
        dsimp only
        split
        · rfl
        · split
          · rfl
          · rename_i noColon
            rw [portOf_of_noColon noColon]
            rfl

/-- The path does not depend on the scheme that the port is compared with. -/
theorem pathOf_withPort (scheme other username password host : List Char)
    (port : Option Nat × List Char) :
    pathOf (withPort scheme username password host port) =
      pathOf (withPort other username password host port) := by
  unfold withPort Authority.credentials
  dsimp only
  by_cases alone : host = [] ∧ (if username = [] ∧ password = [] then []
      else username ++ (if password = [] then [] else ':' :: password) ++ ['@']) ≠ []
  · rw [if_pos alone, if_pos alone]
  · rw [if_neg alone, if_neg alone]
    rfl

/-- The path behind an authority of the web does not depend on the scheme. -/
theorem pathOf_withAuthority (scheme other text : List Char) :
    pathOf (withAuthority .web scheme text) = pathOf (withAuthority .web other text) := by
  rw [withAuthority_web, withAuthority_web]
  refine pathOf_bind _ fun ⟨username, password, text⟩ => pathOf_bind _ fun host => ?_
  split
  · rfl
  · exact pathOf_bind _ fun port => pathOf_withPort ..

/-- A slash where the host should start leaves none. -/
theorem withAuthority_of_slash {scheme text : List Char} (slash : text.head?.any isSlash) :
    withAuthority .web scheme text = .error .emptyHost := by
  cases text with
  | nil => simp at slash
  | cons first rest =>
    have ends : endsAuthority .web first = true := by
      rcases isSlash_iff.mp slash with rfl | rfl <;> rfl
    rw [withAuthority_web]
    simp [splitCredentials, splitHost, ends, Except.bind]

end Authority

section Relative

variable {base other : Url} {text : List Char}

/-- Behind a slash in front, a page counts only for its scheme and its authority. -/
theorem pathOf_relative_of_slash (web : base.kind = .web) (otherWeb : other.kind = .web)
    (slash : text.head?.any isSlash) :
    pathOf (relative base text) = pathOf (relative other text) := by
  unfold relative
  simp only [web, otherWeb]
  split
  · cases slash
  · cases slash
  · cases slash
  · rename_i first rest _ _
    have isSlash : isSlash first := slash
    simp only [isSlash, if_true]
    split
    · exact pathOf_withAuthority ..
    · split
      · exact pathOf_withAuthority ..
      · rfl

/-- A path from the root of a page can always be read. -/
theorem relative_of_lone_slash {slash : Char} {rest : List Char} (isSlash : isSlash slash)
    (lone : rest.head?.any Url.isSlash = false) :
    relative base (slash :: rest) =
      .ok (withPathText base.kind base.scheme base.authority ['/'] rest) := by
  cases rest with
  | nil => rcases isSlash_iff.mp isSlash with rfl | rfl <;> rfl
  | cons second behind =>
    have noSlash : Url.isSlash second = false := lone
    have other : second ≠ '/' := by
      rintro rfl
      cases noSlash
    rcases isSlash_iff.mp isSlash with rfl | rfl <;> simp [relative, noSlash, other, isSlash_iff]

/-- Without a slash in front, the path starts from the one of the page. -/
theorem pathOf_relative_of_not_slash (web : base.kind = .web)
    (plain : text.head?.any isSlash = false) :
    pathOf (relative base text) = .ok (pathFrom base.path text) := by
  unfold relative
  simp only [web]
  split
  · rfl
  · rfl
  · rfl
  · rename_i first rest noQuery noFragment
    have noSlash : isSlash first = false := plain
    have goesOn : endsPath first = false := by
      simpa [endsPath] using ⟨noQuery, noFragment⟩
    simp [noSlash, goesOn, pathFrom, pathOf, Except.map, directory, withPathText]

end Relative

section Reading

/-- A text without the controls and spaces at its end. -/
def trimmedEnd (text : List Char) : List Char :=
  (text.reverse.dropWhile fun character => decide (character ≤ ' ')).reverse

variable {base : Url} {reference : String} {front rest own : List Char}

/-- A text that starts solid is not padded in front. -/
theorem dropWhile_padding_append (solid : ∀ character ∈ front, ¬ character ≤ ' ')
    (nonempty : front ≠ []) :
    (front ++ rest).dropWhile (fun character => decide (character ≤ ' ')) = front ++ rest := by
  obtain ⟨first, others, rfl⟩ := List.exists_cons_of_ne_nil nonempty
  exact List.dropWhile_cons_of_neg (by simpa using solid first List.mem_cons_self)

/-- A solid front part is kept when a text is trimmed. -/
theorem trimmed_append (solid : ∀ character ∈ front, ¬ character ≤ ' ') (nonempty : front ≠ []) :
    trimmed (front ++ rest) = front ++ trimmedEnd rest := by
  have reversed : (front.reverse ++ []).dropWhile (fun character => decide (character ≤ ' ')) =
      front.reverse ++ [] :=
    dropWhile_padding_append (by simpa using solid) (by simpa using nonempty)
  rw [List.append_nil] at reversed
  unfold trimmed trimmedEnd
  dsimp only
  rw [dropWhile_padding_append solid nonempty, List.reverse_append, List.dropWhile_append, reversed]
  split <;> simp_all

/-- A solid text has no breaks. -/
theorem withoutBreaks_eq_self (solid : ∀ character ∈ front, ¬ character ≤ ' ') :
    withoutBreaks front = front := by
  refine List.filter_eq_self.mpr fun character member => ?_
  cases isBreak : isBreak character with
  | false => rfl
  | true =>
    have breaks : character = '\t' ∨ character = '\n' ∨ character = '\r' := by
      simpa [Url.isBreak] using isBreak
    rcases breaks with rfl | rfl | rfl <;> exact absurd (by decide) (solid _ member)

/-- What is in front of a reference is read as it is, if it holds neither controls nor spaces. -/
theorem inputOf_eq_append (written : reference.toList = front ++ rest)
    (solid : ∀ character ∈ front, ¬ character ≤ ' ') (nonempty : front ≠ []) :
    inputOf reference = front ++ withoutBreaks (trimmedEnd rest) := by
  rw [inputOf, written, trimmed_append solid nonempty, withoutBreaks, List.filter_append]
  exact congrArg (· ++ _) (withoutBreaks_eq_self solid)

/-- A text that starts with a slash has no scheme. -/
theorem splitScheme?_of_slash {text : List Char} (slash : text.head?.any isSlash) :
    splitScheme? text = none := by
  cases text with
  | nil => simp at slash
  | cons first rest => rcases isSlash_iff.mp slash with rfl | rfl <;> rfl

/-- A reference with a scheme is read behind its scheme, with what was written there. -/
theorem read_of_scheme (base : Option Url)
    (split : splitScheme? (inputOf reference) = some (own, rest)) :
    read base reference =
      withScheme base own rest (((trimmed reference.toList).dropWhile (· ≠ ':')).drop 1) := by
  unfold read
  rw [inputOf] at split
  simp only [split]

/-- A text without a scheme is no URL by itself. -/
theorem parse_of_noScheme (split : splitScheme? (inputOf reference) = none) :
    parse reference = .error .relativeWithoutBase := by
  unfold parse read
  rw [inputOf] at split
  simp only [split]

/-- Of the pages of the web, an opaque one can only be given a fragment. -/
theorem join_of_noScheme (web : base.kind = .web)
    (split : splitScheme? (inputOf reference) = none) :
    join base reference =
      if base.isOpaque ∧ (inputOf reference).head? ≠ some '#' then .error .relativeToOpaque
      else relative base (inputOf reference) := by
  unfold join read
  rw [inputOf] at *
  simp only [split]
  generalize withoutBreaks (trimmed reference.toList) = input
  split
  · simp [relative, web]
  · rename_i noFragment
    have other : input.head? ≠ some '#' := by
      cases input with
      | nil => nofun
      | cons first rest => exact fun isFragment => noFragment rest (by simpa using isFragment)
    simp [other, web]

/-- A reference without a scheme that is joined to a base on the web is read relative to it. -/
theorem relative_of_join_eq_ok {url : Url} (web : base.kind = .web)
    (split : splitScheme? (inputOf reference) = none) (joined : join base reference = .ok url) :
    relative base (inputOf reference) = .ok url := by
  rw [join_of_noScheme web split] at joined
  split at joined
  · cases joined
  · exact joined

/-- Files have one scheme only. -/
theorem eq_file_of_ofScheme (file : SchemeKind.ofScheme own = .file) : own = fileScheme := by
  unfold SchemeKind.ofScheme at file
  split at file
  · rename_i isFile
    rw [← String.toList_ofList (l := own), isFile]
    rfl
  all_goals cases file

/-- A rooted reference with a scheme is read without the page. -/
theorem withScheme_of_rooted {text written : List Char}
    (rooted : own = base.scheme → base.kind = .web ∧ 2 ≤ (text.takeWhile isSlash).length) :
    withScheme (some base) own text written = withScheme none own text written := by
  unfold withScheme
  split
  · rename_i file
    have other : base.kind ≠ .file := by
      intro baseFile
      have same : own = base.scheme :=
        (eq_file_of_ofScheme file).trans (eq_file_of_ofScheme baseFile).symm
      rw [(rooted same).1] at baseFile
      cases baseFile
    simp [Option.filter, other]
  · by_cases same : base.scheme = own
    · simp [Option.filter, same, Nat.not_lt.mpr (rooted same.symm).2]
    · simp [Option.filter, same]
  · rfl

end Reading

section References

variable {base url : Url} {reference : String} {rest : List Char}

/-- The two slashes in front of a reference are read as they are written. -/
theorem inputOf_of_slashes (written : ['/', '/'] ++ rest = reference.toList) :
    inputOf reference = '/' :: '/' :: withoutBreaks (trimmedEnd rest) :=
  inputOf_eq_append written.symm (by simp) nofun

/-- Put behind a scheme of the web, two slashes are followed by a host. -/
theorem parse_http_of_slashes (written : ['/', '/'] ++ rest = reference.toList) :
    parse ("http:" ++ reference) =
      withAuthority .web "http".toList ((withoutBreaks (trimmedEnd rest)).dropWhile isSlash) := by
  have input : inputOf ("http:" ++ reference) =
      "http://".toList ++ withoutBreaks (trimmedEnd rest) :=
    inputOf_eq_append (by rw [String.toList_append, ← written]; rfl) (by simp) (by simp)
  have split : splitScheme? (inputOf ("http:" ++ reference)) =
      some ("http".toList, '/' :: '/' :: withoutBreaks (trimmedEnd rest)) := by
    rw [input]
    rfl
  rw [parse, read_of_scheme none split]
  rfl

/-- What can be read on its own is not read on the placeholder. -/
theorem ofReference?_of_parse (parsed : parse reference = .ok url) :
    ofReference? reference = some url := by
  unfold ofReference?
  split
  · rename_i slashes
    obtain ⟨rest, written⟩ := List.isPrefixOf_iff_prefix.mp slashes
    have slash : (inputOf reference).head?.any isSlash := by
      rw [inputOf_of_slashes written]
      rfl
    rw [parse_of_noScheme (splitScheme?_of_slash slash)] at parsed
    cases parsed
  · rw [parsed]
    rfl

theorem web_placeholder : placeholder.kind = .web := by decide

/-- What has no scheme is read on the placeholder, unless two slashes stand in front. -/
theorem map_path_ofReference? (slashes : ['/', '/'].isPrefixOf reference.toList = false)
    (split : splitScheme? (inputOf reference) = none) :
    (ofReference? reference).map Url.path =
      (pathOf (relative placeholder (inputOf reference))).toOption := by
  have joined : join placeholder reference = relative placeholder (inputOf reference) := by
    rw [join_of_noScheme web_placeholder split]
    exact if_neg fun isOpaque => Bool.noConfusion isOpaque.1
  unfold ofReference?
  rw [slashes, if_neg nofun, parse_of_noScheme split, joined]
  cases relative placeholder (inputOf reference) <;> rfl

/-- Two slashes are followed by the same host on every page of the web. -/
theorem path_of_slashes (web : base.kind = .web) (slashes : ['/', '/'].isPrefixOf reference.toList)
    (joined : join base reference = .ok url) :
    (ofReference? reference).map Url.path = some url.path := by
  obtain ⟨rest, written⟩ := List.isPrefixOf_iff_prefix.mp slashes
  have input := inputOf_of_slashes written
  have split : splitScheme? (inputOf reference) = none := by
    rw [input]
    rfl
  have onPage := relative_of_join_eq_ok web split joined
  have onWeb := parse_http_of_slashes written
  rw [input] at onPage
  generalize withoutBreaks (trimmedEnd rest) = host at onPage onWeb
  replace onPage : withAuthority .web base.scheme host = .ok url := web ▸ onPage
  -- a third slash is skipped behind the scheme but not on the page, where it leaves no host
  have noSlash : host.dropWhile isSlash = host := by
    cases host with
    | nil => rfl
    | cons first others =>
      refine List.dropWhile_cons_of_neg fun isSlash => ?_
      have slash : (first :: others).head?.any Url.isSlash := isSlash
      rw [withAuthority_of_slash slash] at onPage
      cases onPage
  have path := pathOf_withAuthority "http".toList base.scheme host
  unfold ofReference?
  rw [if_pos slashes, onWeb, noSlash]
  rw [onPage] at path
  cases read : withAuthority .web "http".toList host with
  | error =>
    rw [read] at path
    cases path
  | ok found =>
    rw [read] at path
    exact congrArg some (Except.ok.inj path)

/-- A rooted reference has the same path on the placeholder. -/
theorem path_of_isRooted (rooted : IsRooted base reference) (joined : join base reference = .ok url) :
    (ofReference? reference).map Url.path = some url.path := by
  unfold IsRooted at rooted
  split at rooted
  · rename_i own rest split
    rw [join, read_of_scheme (some base) split, withScheme_of_rooted rooted,
      ← read_of_scheme none split] at joined
    rw [ofReference?_of_parse joined]
    rfl
  · rename_i split
    obtain ⟨web, slash⟩ := rooted
    cases slashes : ['/', '/'].isPrefixOf reference.toList with
    | true => exact path_of_slashes web slashes joined
    | false =>
      rw [map_path_ofReference? slashes split, pathOf_relative_of_slash web_placeholder web slash,
        relative_of_join_eq_ok web split joined]
      rfl

/-- An unrooted reference starts from the page that it is read on. -/
theorem path_of_isUnrooted (web : base.kind = .web) (unrooted : IsUnrooted reference)
    (joined : join base reference = .ok url) :
    (ofReference? reference).map Url.path = some (pathFrom ['/'] (inputOf reference)) ∧
      url.path = pathFrom base.path (inputOf reference) := by
  obtain ⟨split, plain⟩ := unrooted
  have slashes : ['/', '/'].isPrefixOf reference.toList = false := by
    refine Bool.eq_false_iff.mpr fun slashes => ?_
    obtain ⟨rest, written⟩ := List.isPrefixOf_iff_prefix.mp slashes
    rw [inputOf_of_slashes written] at plain
    cases plain
  constructor
  · rw [map_path_ofReference? slashes split, pathOf_relative_of_not_slash web_placeholder plain]
    rfl
  · have onPage := pathOf_relative_of_not_slash web plain
    rw [relative_of_join_eq_ok web split joined] at onPage
    exact Except.ok.inj onPage

/-- The text of a path, with a slash in front. -/
def slashed (path : List Char) : String :=
  String.ofList (if path.head? = some '/' then path else '/' :: path)

/-- The path of a reference that is not empty is the path it leads to, with a slash in front. -/
theorem pathname_of_path {path : List Char} (nonempty : reference ≠ "")
    (leads : (ofReference? reference).map Url.path = some path) :
    pathname reference = slashed path := by
  obtain ⟨url, read, rfl⟩ := Option.map_eq_some_iff.mp leads
  rw [pathname, if_neg nonempty, read]
  rfl

/-- The path of a URL that reads back is its own path, with a slash in front. -/
theorem pathname_toString (readsBack : url.ReadsBack) :
    pathname url.toString = slashed url.path := by
  refine pathname_of_path (fun empty => ?_) ?_
  · rw [ReadsBack, empty] at readsBack
    cases readsBack
  · rw [ofReference?_of_parse readsBack]
    rfl

end References

end ElementSearch.Url

import ElementSearch.Proofs.Text.LetterCase
import ElementSearch.Proofs.Url.PathEnds

/-!
# The path of a reference within the one on a page

`pathname` reads a reference on the placeholder, where it starts from the root. On another page of the web it may start
from a directory instead, or be read as a path where `pathname` finds a host, since behind the scheme of the page itself
a host is only named if two slashes follow. In all cases the path that `pathname` finds is a part of the path that the
reference has on the page (`pathname_isInfix_of_join`).
-/

namespace ElementSearch.Url

open Text

/-- What follows the authority at the start of a text. -/
def behindAuthority (text : List Char) : List Char :=
  text.dropWhile fun character => !endsAuthority .web character

section Authority

variable {text rest : List Char}

/-- What is read in two steps is read by both. -/
theorem bind_eq_ok {α : Type} {step : Except UrlError α} {next : α → Except UrlError Url} {url : Url}
    (read : step.bind next = .ok url) : ∃ value, step = .ok value ∧ next value = .ok url := by
  cases step with
  | error => cases read
  | ok value => exact ⟨value, rfl, read⟩

theorem eq_ok_of_toOption {result : Except UrlError Url} {url : Url}
    (read : result.toOption = some url) : result = .ok url := by
  cases result with
  | error => cases read
  | ok found => exact congrArg _ (Option.some.inj read)

/-- An authority on the web ends at a slash or where a path ends. -/
theorem endsAuthority_iff {character : Char} :
    endsAuthority .web character ↔ isSlash character ∨ endsPath character := by
  simp [endsAuthority, isSlash, endsPath, SchemeKind.isSpecial, or_comm, or_left_comm, or_assoc]

/-- A character that does not end the authority is part of it. -/
theorem behindAuthority_cons {character : Char} (goesOn : endsAuthority .web character = false)
    (rest : List Char) : behindAuthority (character :: rest) = behindAuthority rest := by
  simp [behindAuthority, goesOn]

/-- Dropping some of what a test drops anyway changes nothing. -/
theorem dropWhile_drop {goesOn : Char → Bool} {count : Nat}
    (le : count ≤ (text.takeWhile goesOn).length) :
    (text.drop count).dropWhile goesOn = text.dropWhile goesOn := by
  induction text generalizing count with
  | nil => rw [List.drop_nil]
  | cons character others ih =>
    cases count with
    | zero => rfl
    | succ count =>
      cases passed : goesOn character with
      | false => simp [passed] at le
      | true =>
        rw [List.drop_succ_cons, List.dropWhile_cons_of_pos passed]
        exact ih (by simpa [passed] using le)

/-- A test that passes more takes more. -/
theorem length_takeWhile_le {some others : Char → Bool}
    (imp : ∀ character, some character → others character) :
    (text.takeWhile some).length ≤ (text.takeWhile others).length := by
  induction text with
  | nil => exact Nat.le_refl _
  | cons character rest ih =>
    cases passed : some character with
    | false => simp [passed]
    | true => simpa [passed, imp character passed] using ih

/-- A digit does not end an authority. -/
theorem goesOn_of_isDigit (character : Char) (digit : character.isDigit) :
    !endsAuthority .web character := by
  cases ends : endsAuthority .web character with
  | false => rfl
  | true =>
    have ender : character = '/' ∨ character = '?' ∨ character = '#' ∨ character = '\\' := by
      simpa [endsAuthority, SchemeKind.isSpecial, or_assoc] using ends
    rcases ender with rfl | rfl | rfl | rfl <;> cases digit

/-- Credentials are part of the authority. -/
theorem behindAuthority_of_splitCredentials {username password : List Char}
    (split : splitCredentials .web text = .ok (username, password, rest)) :
    behindAuthority rest = behindAuthority text := by
  unfold splitCredentials at split
  dsimp only at split
  split at split
  · cases split
    rfl
  · rename_i hasSign
    split at split
    · cases split
    · cases split
      refine dropWhile_drop ?_
      have nonempty := List.length_pos_of_mem (Decidable.not_not.mp hasSign)
      rw [List.length_take]
      omega

/-- A host is part of the authority. -/
theorem behindAuthority_splitHost (bracketed : Bool) (text : List Char) :
    behindAuthority (splitHost .web bracketed text).2 = behindAuthority text := by
  induction text generalizing bracketed with
  | nil => rfl
  | cons character others ih =>
    unfold splitHost
    split
    · rfl
    · rename_i inside
      have goesOn : endsAuthority .web character = false :=
        (Bool.or_eq_false_iff.mp (Bool.eq_false_iff.mpr inside)).1
      rw [behindAuthority_cons goesOn]
      exact ih _

/-- A host ends where the authority does, or before a port. -/
theorem splitHost_stops (bracketed : Bool) (text : List Char) {character : Char} :
    (splitHost .web bracketed text).2 = character :: rest →
      endsAuthority .web character ∨ character = ':' := by
  induction text generalizing bracketed with
  | nil => nofun
  | cons first others ih =>
    unfold splitHost
    split
    · rename_i stops
      intro same
      obtain ⟨rfl, _⟩ := List.cons.inj same
      rcases Bool.or_eq_true_iff.mp stops with ends | colon
      · exact .inl ends
      · exact .inr (by simpa using (Bool.and_eq_true_iff.mp colon).1)
    · exact ih _

/-- A text that starts with what ends an authority has none. -/
theorem behindAuthority_eq_self (ends : text.head?.all (endsAuthority .web)) :
    behindAuthority text = text := by
  cases text with
  | nil => rfl
  | cons character others =>
    have stops : endsAuthority .web character = true := ends
    simp [behindAuthority, stops]

/-- Behind a port there is what is behind the authority. -/
theorem behindAuthority_of_portOf {port : Option Nat}
    (stops : ∀ character others, text = character :: others →
      endsAuthority .web character ∨ character = ':')
    (read : portOf text = .ok (port, rest)) : behindAuthority text = rest := by
  unfold portOf at read
  split at read
  · rename_i portText
    unfold splitPort at read
    dsimp only at read
    split at read
    · cases read
    · rename_i valid
      cases read
      -- the digits are followed by the end of the authority, or the port would not be valid
      have ends : (portText.drop (portText.takeWhile Char.isDigit).length).head?.all
          (endsAuthority .web) := by
        have followed := (not_or.mp valid).2
        cases after : (portText.drop (portText.takeWhile Char.isDigit).length).head? with
        | none => rfl
        | some character =>
          have ender : ¬ character ∉ ['/', '\\', '?', '#'] := by simpa [after] using followed
          simpa [endsAuthority_iff, isSlash, endsPath, or_assoc] using Decidable.not_not.mp ender
      rw [behindAuthority_cons (by decide), ← behindAuthority_eq_self ends]
      exact (dropWhile_drop (length_takeWhile_le goesOn_of_isDigit)).symm
  · rename_i noColon
    cases read
    refine behindAuthority_eq_self ?_
    cases text with
    | nil => rfl
    | cons character others =>
      rcases stops character others rfl with ends | rfl
      · exact ends
      · exact (noColon others rfl).elim

/-- The path behind an authority of the web starts where the authority ends. -/
theorem exists_afterHost_of_withAuthority {scheme : List Char} {url : Url}
    (read : withAuthority .web scheme text = .ok url) :
    ∃ authority, url = afterHost .web scheme authority (behindAuthority text) := by
  rw [withAuthority_web] at read
  cases credentials : splitCredentials .web text with
  | error => rw [credentials] at read; cases read
  | ok parts =>
    obtain ⟨username, password, inner⟩ := parts
    rw [credentials] at read
    rw [← behindAuthority_of_splitCredentials credentials, ← behindAuthority_splitHost false inner]
    replace read : ((if (splitHost .web false inner).1 = [] then .error .emptyHost
          else specialHost (splitHost .web false inner).1).bind fun host =>
            if host = [] ∧ (splitHost .web false inner).2.head? = some ':' then .error .emptyHost
            else (portOf (splitHost .web false inner).2).bind
              (withPort scheme username password host)) = .ok url := read
    obtain ⟨host, -, read⟩ := bind_eq_ok read
    split at read
    · cases read
    · obtain ⟨port, portRead, read⟩ := bind_eq_ok read
      rw [behindAuthority_of_portOf (fun _ _ => splitHost_stops false inner) portRead]
      unfold withPort at read
      generalize (if port.1 = defaultPort? scheme then none else port.1) = shown at read
      dsimp only at read
      split at read
      · cases read
      · exact ⟨_, (Except.ok.inj read).symm⟩

/-- The part of a text that goes into the path. -/
def pathPart (text : List Char) : List Char :=
  text.takeWhile fun character => !endsPath character

/-- Behind the host, the path is made from the root, a first slash being passed over. -/
theorem path_afterHost (scheme : List Char) (authority : Authority) (text : List Char) :
    (afterHost .web scheme authority text).path =
      extendPath .web ['/'] (pathPart (if text.head?.any isSlash then text.drop 1 else text)) := by
  cases text <;> rfl

/-- Where the path ends at once it has no part of the text. -/
theorem pathPart_of_endsPath {character : Char} (ends : endsPath character) (rest : List Char) :
    pathPart (character :: rest) = [] := by
  simp [pathPart, ends]

/-- A slash does not end the path. -/
theorem endsPath_of_isSlash {character : Char} (slash : isSlash character) :
    endsPath character = false := by
  rcases isSlash_iff.mp slash with rfl | rfl <;> rfl

theorem extendPath_root_nil : extendPath .web ['/'] [] = ['/'] := rfl

/-- A host behind which the path ends at once has the root as its path. -/
theorem path_afterHost_of_endsPath (scheme : List Char) (authority : Authority)
    (ends : text.head?.all endsPath) :
    (afterHost .web scheme authority (behindAuthority text)).path = ['/'] := by
  cases text with
  | nil => rfl
  | cons character rest =>
    have ends : endsPath character := ends
    have noSlash : isSlash character = false := Bool.eq_false_iff.mpr fun slash => by
      rw [endsPath_of_isSlash slash] at ends
      cases ends
    have stops : (character :: rest).head?.all (endsAuthority .web) :=
      endsAuthority_iff.mpr (.inr ends)
    rw [behindAuthority_eq_self stops, path_afterHost]
    simp [noSlash, pathPart_of_endsPath ends, extendPath_root_nil]

/-- A segment with a slash behind it is appended before the rest of the text is. -/
theorem extendPath_append_slash {path front : List Char} {slash : Char} (isSlash : isSlash slash)
    (noSlash : ∀ character ∈ front, isSeparator .web character = false) (rest : List Char) :
    extendPath .web path (front ++ slash :: rest) =
      extendPath .web (appendSegment .web path front false) rest := by
  have split := List.splitOnP_append_cons_of_forall_mem noSlash slash isSlash rest
  change appendSegments .web path _ = appendSegments .web _ _
  rw [split]
  obtain ⟨segment, segments, segmented⟩ :=
    List.exists_cons_of_ne_nil (List.splitOnP_ne_nil (isSeparator .web) rest)
  rw [segmented]
  rfl

/-- A path that ends with a slash does so after a further segment that is not the last. -/
theorem root_isSuffix_appendSegment {path : List Char} (ends : ['/'] <:+ path)
    (segment : List Char) : ['/'] <:+ appendSegment .web path segment false := by
  have directory : IsDirectory (appendSegment .web ['/'] segment false) :=
    isDirectory_appendSegment isDirectory_root
  obtain ⟨front, split⟩ := List.getLast?_eq_some_iff.mp directory.2
  exact List.IsSuffix.trans ⟨front, split.symm⟩ (appendSegment_isSuffix isDirectory_root ends)

/-- Where something is behind an authority, there is a character that ends it, and none that does is in front. -/
theorem exists_split_of_behindAuthority {stop : Char} (behind : behindAuthority text = stop :: rest) :
    (isSlash stop ∨ endsPath stop) ∧ ∃ front, text = front ++ stop :: rest ∧
      ∀ character ∈ front, isSlash character = false ∧ endsPath character = false := by
  have stopped := List.head?_dropWhile_not (fun character => !endsAuthority .web character) text
  rw [show text.dropWhile _ = _ from behind] at stopped
  refine ⟨endsAuthority_iff.mp (by simpa using stopped),
    text.takeWhile fun character => !endsAuthority .web character, ?_, fun character member => ?_⟩
  · rw [← behind]
    exact List.takeWhile_append_dropWhile.symm
  · have passed := List.all_eq_true.mp List.all_takeWhile character member
    have goesOn : ¬ (isSlash character ∨ endsPath character) := fun ends => by
      rw [endsAuthority_iff.mpr ends] at passed
      cases passed
    simpa using goesOn

/-- If what a reference appends to a directory is read as an authority and a path instead, this path is the end of what
is appended. -/
theorem path_afterHost_isSuffix (scheme : List Char) (authority : Authority) {path : List Char}
    (ends : ['/'] <:+ path) (text : List Char) :
    (afterHost .web scheme authority (behindAuthority text)).path = ['/'] ∨
      (afterHost .web scheme authority (behindAuthority text)).path <:+
        extendPath .web path (pathPart text) := by
  rw [path_afterHost]
  cases behind : behindAuthority text with
  | nil => exact .inl rfl
  | cons stop rest =>
    obtain ⟨stops, front, whole, goesOn⟩ := exists_split_of_behindAuthority behind
    by_cases slash : isSlash stop
    · -- what is read as the host is a segment of its own where it is appended
      have part : pathPart text = front ++ stop :: pathPart rest := by
        have inPath : ∀ character ∈ front, (!endsPath character) = true := fun character member => by
          simp [(goesOn character member).2]
        rw [whole, pathPart, List.takeWhile_append_of_pos inPath,
          List.takeWhile_cons_of_pos (by simp [endsPath_of_isSlash slash])]
        rfl
      rw [part, extendPath_append_slash slash fun character member => (goesOn character member).1]
      simpa [slash] using .inr (extendPath_isSuffix (root_isSuffix_appendSegment ends front) _)
    · have ended : endsPath stop := stops.resolve_left slash
      refine .inl ?_
      simp [slash, pathPart_of_endsPath ended, extendPath_root_nil]

end Authority

section References

variable {base url found : Url} {reference : String} {scheme rest : List Char}

/-- Behind the scheme of the page itself, a host is only named if two slashes follow. -/
theorem withScheme_of_few {written : List Char} (web : base.kind = .web)
    (few : (rest.takeWhile isSlash).length < 2) :
    withScheme (some base) base.scheme rest written = relative base rest := by
  unfold withScheme
  rw [show SchemeKind.ofScheme base.scheme = .web from web]
  simp [Option.filter, few]

/-- Behind a scheme of the web, all slashes are passed over and an authority is read. -/
theorem withScheme_of_web {written : List Char} (web : SchemeKind.ofScheme scheme = .web) :
    withScheme none scheme rest written = withAuthority .web scheme (rest.dropWhile isSlash) := by
  unfold withScheme
  rw [web]
  rfl

/-- A reference with a scheme is read on its own or on the placeholder. -/
theorem read_of_ofReference? (split : splitScheme? (inputOf reference) = some (scheme, rest))
    (read : ofReference? reference = some found) :
    parse reference = .ok found ∨ join placeholder reference = .ok found := by
  have slashes : ¬ ['/', '/'].isPrefixOf reference.toList := by
    intro slashes
    obtain ⟨behind, written⟩ := List.isPrefixOf_iff_prefix.mp slashes
    rw [inputOf_of_slashes written] at split
    cases split
  rw [ofReference?, if_neg slashes, Option.orElse_eq_orElse, Option.orElse_eq_or] at read
  rcases Option.or_eq_some_iff.mp read with alone | ⟨_, onPlaceholder⟩
  · exact .inl (eq_ok_of_toOption alone)
  · exact .inr (eq_ok_of_toOption onPlaceholder)

/-- A text without a slash in front is not shortened. -/
theorem dropWhile_isSlash (plain : rest.head?.any isSlash = false) :
    rest.dropWhile isSlash = rest := by
  cases rest with
  | nil => rfl
  | cons first after => exact List.dropWhile_cons_of_neg (Bool.eq_false_iff.mp plain)

/-- Read relative to the placeholder, a text has a part of the path that it has on a page of the web. -/
theorem path_isInfix_of_relative (web : base.kind = .web) (onPage : relative base rest = .ok url)
    (rooted : url.path.head? = some '/') (read : relative placeholder rest = .ok found) :
    found.path.head? = some '/' ∧ found.path <:+: url.path := by
  cases slash : rest.head?.any isSlash with
  | true =>
    have same := pathOf_relative_of_slash web_placeholder web slash
    rw [read, onPage] at same
    rw [show found.path = url.path from Except.ok.inj same]
    exact ⟨rooted, List.infix_refl _⟩
  | false =>
    have fromRoot := pathOf_relative_of_not_slash web_placeholder slash
    have fromPage := pathOf_relative_of_not_slash web slash
    rw [read] at fromRoot
    rw [onPage] at fromPage
    have root : found.path = pathFrom ['/'] rest := Except.ok.inj fromRoot
    have page : url.path = pathFrom base.path rest := Except.ok.inj fromPage
    rw [root, page]
    exact ⟨head?_pathFrom_root rest, pathFrom_root_isInfix (page ▸ List.mem_of_mem_head? rooted)⟩

/-- Read as an authority and a path, a text has a path that is a part of the one on a page that it is relative to. -/
theorem path_isInfix_of_withAuthority (web : base.kind = .web) (onPage : relative base rest = .ok url)
    (rooted : url.path.head? = some '/') (few : (rest.takeWhile isSlash).length < 2)
    (read : withAuthority .web scheme (rest.dropWhile isSlash) = .ok found) :
    found.path.head? = some '/' ∧ found.path <:+: url.path := by
  obtain ⟨authority, rfl⟩ := exists_afterHost_of_withAuthority read
  refine ⟨by rw [path_afterHost]; exact head?_extendPath_root _, ?_⟩
  have root : ['/'] <:+: url.path := by
    obtain ⟨before, after, split⟩ := List.append_of_mem (List.mem_of_mem_head? rooted)
    exact ⟨before, after, by rw [split]; simp⟩
  -- here the text is appended to the root, on the page to a path that ends like the root
  have ofAppended : ∀ {path text}, ['/'] <:+ path →
      url.path = extendPath .web path (pathPart text) →
      (afterHost .web scheme authority (behindAuthority text)).path <:+: url.path := by
    intro path text ends page
    rcases path_afterHost_isSuffix scheme authority ends text with alone | appended
    · rwa [alone]
    · exact page ▸ appended.isInfix
  -- one slash leads to the root of the page, none to its directory
  cases slash : rest.head?.any isSlash with
  | true =>
    obtain ⟨first, after, rfl, starts⟩ : ∃ first after, rest = first :: after ∧ isSlash first := by
      cases rest with
      | nil => cases slash
      | cons first after => exact ⟨first, after, rfl, slash⟩
    have lone : after.head?.any isSlash = false := by
      rw [List.takeWhile_cons_of_pos starts] at few
      cases after with
      | nil => rfl
      | cons second behind =>
        refine Bool.eq_false_iff.mpr fun another => ?_
        have another : isSlash second := another
        rw [List.takeWhile_cons_of_pos another, List.length_cons, List.length_cons] at few
        omega
    rw [relative_of_lone_slash starts lone] at onPage
    rw [List.dropWhile_cons_of_pos starts, dropWhile_isSlash lone]
    exact ofAppended (List.suffix_refl _) (web ▸ congrArg Url.path (Except.ok.inj onPage).symm)
  | false =>
    have fromPage := pathOf_relative_of_not_slash web slash
    rw [onPage] at fromPage
    have page : url.path = pathFrom base.path rest := Except.ok.inj fromPage
    rw [dropWhile_isSlash slash]
    unfold pathFrom at page
    split at page
    · rename_i short
      rwa [path_afterHost_of_endsPath scheme authority short]
    · exact ofAppended (root_isSuffix_directory base.path) page

/-- What a reference is read as has a path from the root, which is a part of the one on a page of the web. -/
theorem path_isInfix_of_join (web : base.kind = .web) (joined : join base reference = .ok url)
    (rooted : url.path.head? = some '/') (read : ofReference? reference = some found) :
    found.path.head? = some '/' ∧ found.path <:+: url.path := by
  have ofPath : ∀ {path}, (ofReference? reference).map Url.path = some path →
      path.head? = some '/' ∧ path <:+: url.path →
      found.path.head? = some '/' ∧ found.path <:+: url.path := by
    intro path leads part
    rw [read] at leads
    rwa [show found.path = path from Option.some.inj leads]
  by_cases isRooted : IsRooted base reference
  · exact ofPath (path_of_isRooted isRooted joined) ⟨rooted, List.infix_refl _⟩
  · cases split : splitScheme? (inputOf reference) with
    | none =>
      have plain : (inputOf reference).head?.any isSlash = false := by
        unfold IsRooted at isRooted
        rw [split] at isRooted
        simpa [web] using isRooted
      obtain ⟨fromRoot, page⟩ := path_of_isUnrooted web ⟨split, plain⟩ joined
      refine ofPath fromRoot ⟨head?_pathFrom_root _, ?_⟩
      rw [page]
      exact pathFrom_root_isInfix (page ▸ List.mem_of_mem_head? rooted)
    | some parts =>
      obtain ⟨own, rest⟩ := parts
      obtain ⟨rfl, few⟩ : own = base.scheme ∧ (rest.takeWhile isSlash).length < 2 := by
        unfold IsRooted at isRooted
        rw [split] at isRooted
        simpa [web] using isRooted
      rw [join, read_of_scheme (some base) split, withScheme_of_few web few] at joined
      have ofAuthority : withAuthority .web base.scheme (rest.dropWhile isSlash) = .ok found →
          found.path.head? = some '/' ∧ found.path <:+: url.path :=
        path_isInfix_of_withAuthority web joined rooted few
      -- a reference that is no URL by itself is read on the placeholder
      rcases read_of_ofReference? split read with alone | onPlaceholder
      · rw [parse, read_of_scheme none split, withScheme_of_web web] at alone
        exact ofAuthority alone
      · rw [join, read_of_scheme (some placeholder) split] at onPlaceholder
        by_cases same : base.scheme = placeholder.scheme
        · rw [same, withScheme_of_few web_placeholder few] at onPlaceholder
          exact path_isInfix_of_relative web joined rooted onPlaceholder
        · rw [withScheme_of_rooted fun isSame => (same isSame).elim, withScheme_of_web web]
            at onPlaceholder
          exact ofAuthority onPlaceholder

/-- The path of a reference is a part of the one that it has on a page of the web. -/
theorem pathname_isInfix_of_join (web : base.kind = .web) (joined : join base reference = .ok url)
    (rooted : url.path.head? = some '/') : (pathname reference).toList <:+: url.path := by
  unfold pathname
  split
  · exact List.nil_infix
  · split
    · exact List.nil_infix
    · rename_i found read
      obtain ⟨slash, part⟩ := path_isInfix_of_join web joined rooted read
      rw [if_pos slash, String.toList_ofList]
      exact part

/-- A URL holds its path as it is written out. -/
theorem path_isInfix_render (url : Url) : url.path <:+: url.render := by
  unfold render
  exact ⟨_, _, (List.append_assoc _ (url.query.elim [] ('?' :: ·)) _).symm⟩

/-- The path behind an authority is made from the root by some text. -/
theorem exists_extendPath_of_withAuthority {text : List Char}
    (read : withAuthority .web scheme text = .ok found) :
    ∃ text, found.path = extendPath .web ['/'] text := by
  obtain ⟨authority, rfl⟩ := exists_afterHost_of_withAuthority read
  exact ⟨_, path_afterHost ..⟩

/-- What starts with a slash leads from a page of the web to a host or to the root. -/
theorem exists_extendPath_of_relative (web : base.kind = .web) (slash : rest.head?.any isSlash)
    (read : relative base rest = .ok found) : ∃ text, found.path = extendPath .web ['/'] text := by
  unfold relative at read
  simp only [web] at read
  split at read
  · cases slash
  · cases slash
  · cases slash
  · rename_i first others _ _
    have starts : isSlash first := slash
    simp only [starts, if_true] at read
    split at read
    · exact exists_extendPath_of_withAuthority read
    · split at read
      · exact exists_extendPath_of_withAuthority read
      · obtain rfl := Except.ok.inj read
        exact ⟨_, rfl⟩

/-- A reference that starts with a slash is read from a root. -/
theorem exists_extendPath_of_slash (slash : reference.toList.head? = some '/')
    (read : ofReference? reference = some found) :
    ∃ text, found.path = extendPath .web ['/'] text := by
  cases slashes : ['/', '/'].isPrefixOf reference.toList with
  | true =>
    obtain ⟨rest, written⟩ := List.isPrefixOf_iff_prefix.mp slashes
    rw [ofReference?, if_pos slashes, parse_http_of_slashes written] at read
    exact exists_extendPath_of_withAuthority (eq_ok_of_toOption read)
  | false =>
    obtain ⟨rest, written⟩ := List.head?_eq_some_iff.mp slash
    have input : inputOf reference = ['/'] ++ withoutBreaks (trimmedEnd rest) :=
      inputOf_eq_append written (by simp) (by simp)
    have split : splitScheme? (inputOf reference) = none := by
      rw [input]
      rfl
    have path := map_path_ofReference? slashes split
    rw [read] at path
    cases relates : relative placeholder (inputOf reference) with
    | error =>
      rw [relates] at path
      cases path
    | ok url =>
      rw [relates] at path
      rw [show found.path = url.path from Option.some.inj path]
      exact exists_extendPath_of_relative web_placeholder (by rw [input]; rfl) relates

/-- A reference that starts with a slash has a path of ASCII only. -/
theorem isAscii_pathname_of_slash (slash : reference.toList.head? = some '/') :
    IsAscii (pathname reference) := by
  unfold pathname
  split
  · exact nofun
  · split
    · exact nofun
    · rename_i found read
      obtain ⟨text, path⟩ := exists_extendPath_of_slash slash read
      rw [IsAscii, path, if_pos (head?_extendPath_root text), String.toList_ofList]
      exact isAscii_extendPath_root text

end References

end ElementSearch.Url

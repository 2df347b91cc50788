import ElementSearch.Proofs.Url.Rooted

/-!
# Ends of paths

A double dot takes no more away from the root than from another directory, so what the segments of a text append to a
directory ends like what they append to the root (`appendSegments_isSuffix`). An unrooted reference therefore leads from
a page to a path that holds the one to which it leads from the root (`pathFrom_root_isInfix`). Percent encoding leaves
only ASCII in what is appended.
-/

namespace ElementSearch.Url

/-- Whether a path starts and ends with a slash. -/
def IsDirectory (path : List Char) : Prop :=
  path.head? = some '/' ∧ path.getLast? = some '/'

section Slashes

variable {path after : List Char}

theorem forall_ne_slash (noSlash : '/' ∉ after) :
    ∀ character ∈ after.reverse, decide (character ≠ '/') = true := by
  intro character member
  rw [decide_eq_true_iff]
  rintro rfl
  exact noSlash (List.mem_reverse.mp member)

/-- Without a slash there is nothing up to the last one. -/
theorem upToLastSlash_of_not_mem (noSlash : '/' ∉ path) : upToLastSlash path = [] := by
  have none : (path.reverse ++ []).dropWhile (fun character => decide (character ≠ '/')) = [] :=
    List.dropWhile_append_of_pos (forall_ne_slash noSlash)
  rw [List.append_nil] at none
  rw [upToLastSlash, none]
  rfl

/-- A path with a slash is split at the last one. -/
theorem exists_last_slash (slash : '/' ∈ path) :
    ∃ before after, path = before ++ '/' :: after ∧ '/' ∉ after := by
  obtain ⟨after, before, split, noSlash⟩ :=
    List.eq_append_cons_of_mem (List.mem_reverse.mpr slash)
  refine ⟨before.reverse, after.reverse, ?_, by simpa using noSlash⟩
  rw [← List.reverse_inj, split]
  simp

/-- The last slash is the one behind which there is none, and is kept. -/
theorem upToLastSlash_append_cons (noSlash : '/' ∉ after) (before : List Char) :
    upToLastSlash (before ++ '/' :: after) = before ++ ['/'] := by
  rw [upToLastSlash, List.reverse_append, List.reverse_cons, List.append_assoc,
    List.dropWhile_append_of_pos (forall_ne_slash noSlash)]
  simp

/-- The last segment is what follows the slash behind which there is none. -/
theorem lastSegment_append_cons (noSlash : '/' ∉ after) (before : List Char) :
    lastSegment (before ++ '/' :: after) = after := by
  rw [lastSegment, List.reverse_append, List.reverse_cons, List.append_assoc,
    List.takeWhile_append_of_pos (forall_ne_slash noSlash)]
  simp

/-- The last slash of a path is the last one behind any front part. -/
theorem upToLastSlash_append (slash : '/' ∈ path) (front : List Char) :
    upToLastSlash (front ++ path) = front ++ upToLastSlash path := by
  obtain ⟨before, after, rfl, noSlash⟩ := exists_last_slash slash
  rw [← List.append_assoc, upToLastSlash_append_cons noSlash, upToLastSlash_append_cons noSlash,
    List.append_assoc]

/-- The last segment of a path with a slash does not depend on what stands in front. -/
theorem lastSegment_append (slash : '/' ∈ path) (front : List Char) :
    lastSegment (front ++ path) = lastSegment path := by
  obtain ⟨before, after, rfl, noSlash⟩ := exists_last_slash slash
  rw [← List.append_assoc, lastSegment_append_cons noSlash, lastSegment_append_cons noSlash]

/-- A path with a slash ends with one when cut behind the last. -/
theorem getLast?_upToLastSlash (slash : '/' ∈ path) : (upToLastSlash path).getLast? = some '/' := by
  obtain ⟨before, after, rfl, noSlash⟩ := exists_last_slash slash
  rw [upToLastSlash_append_cons noSlash, List.getLast?_concat]

/-- A rooted path cut behind its last slash is rooted. -/
theorem head?_upToLastSlash (rooted : path.head? = some '/') :
    (upToLastSlash path).head? = some '/' := by
  have slash : '/' ∈ path := List.mem_of_mem_head? rooted
  obtain ⟨before, after, rfl, noSlash⟩ := exists_last_slash slash
  rw [upToLastSlash_append_cons noSlash]
  cases before with
  | nil => rfl
  | cons first rest => exact rooted

/-- A path that ends with a slash is closed. -/
theorem closed_eq_self (ends : path.getLast? = some '/') : closed path = path := by
  rw [closed, endsWithSlash, ends]
  rfl

end Slashes

/-- The directory to which a double dot leads. -/
def outer (path : List Char) : List Char :=
  upToLastSlash (withoutClosingSlash path)

section Outer

variable {path short long : List Char}

/-- A closing slash is dropped unless it is the root or closes a drive letter. -/
theorem withoutClosingSlash_concat (inner : List Char) :
    withoutClosingSlash (inner ++ ['/']) =
      if '/' ∈ inner ∧ ¬ startsWithDriveLetter (lastSegment inner ++ ['/']) then inner
      else inner ++ ['/'] := by
  simp [withoutClosingSlash, endsWithSlash]

/-- A directory is the root or a rooted path with a slash behind it. -/
theorem IsDirectory.eq_or_concat (directory : IsDirectory path) :
    path = ['/'] ∨ ∃ inner, inner.head? = some '/' ∧ path = inner ++ ['/'] := by
  obtain ⟨rooted, ends⟩ := directory
  obtain ⟨inner, rfl⟩ := List.getLast?_eq_some_iff.mp ends
  cases inner with
  | nil => exact .inl rfl
  | cons first rest => exact .inr ⟨first :: rest, rooted, rfl⟩

/-- A double dot leads from a directory to a directory. -/
theorem isDirectory_outer (directory : IsDirectory path) : IsDirectory (outer path) := by
  have ofRooted : ∀ {path}, path.head? = some '/' → IsDirectory (upToLastSlash path) := fun rooted =>
    ⟨head?_upToLastSlash rooted, getLast?_upToLastSlash (List.mem_of_mem_head? rooted)⟩
  rcases directory.eq_or_concat with rfl | ⟨inner, rooted, rfl⟩
  · exact ofRooted rfl
  · rw [outer, withoutClosingSlash_concat]
    split
    · exact ofRooted rooted
    · exact ofRooted directory.1

/-- What is the end of a path stays the end of what a double dot leads to. -/
theorem outer_isSuffix (directory : IsDirectory short) (ends : short <:+ long) :
    outer short <:+ outer long := by
  obtain ⟨front, rfl⟩ := ends
  rcases directory.eq_or_concat with rfl | ⟨inner, rooted, rfl⟩
  · have slash : '/' ∈ withoutClosingSlash (front ++ ['/']) := by
      rw [withoutClosingSlash_concat]
      split
      · rename_i opened
        exact opened.1
      · simp
    obtain ⟨more, split⟩ := List.getLast?_eq_some_iff.mp (getLast?_upToLastSlash slash)
    exact ⟨more, split.symm⟩
  · have slash : '/' ∈ inner := List.mem_of_mem_head? rooted
    have slashBefore : '/' ∈ front ++ inner := List.mem_append_right front slash
    have slashLast : '/' ∈ inner ++ ['/'] := List.mem_append_left _ slash
    rw [outer, outer, ← List.append_assoc, withoutClosingSlash_concat, withoutClosingSlash_concat,
      lastSegment_append slash]
    by_cases drive : startsWithDriveLetter (lastSegment inner ++ ['/'])
    · rw [if_neg fun opened => opened.2 drive, if_neg fun opened => opened.2 drive,
        List.append_assoc, upToLastSlash_append slashLast front]
      exact List.suffix_append _ _
    · rw [if_pos ⟨slash, drive⟩, if_pos ⟨slashBefore, drive⟩, upToLastSlash_append slash]
      exact List.suffix_append _ _

end Outer

section Segments

variable {short long segment : List Char} {isLast : Bool}

/-- What a segment does to a path of the web. -/
theorem appendSegment_web (path segment : List Char) (isLast : Bool) :
    appendSegment .web path segment isLast =
      if isDoubleDot (withoutBreaks segment) then
        if isLast then outer path else closed (outer path)
      else if isSingleDot (withoutBreaks segment) then closed path
      else
        path ++ (percentEncode inPathSet (withoutBreaks segment) ++ if isLast then [] else ['/']) := by
  rw [← List.append_assoc]
  rfl

/-- What is the end of a path stays the end when both are closed. -/
theorem closed_isSuffix (directory : IsDirectory short) (ends : short <:+ long) :
    closed short <:+ closed long := by
  have endsLong : long.getLast? = some '/' := by
    obtain ⟨front, rfl⟩ := ends
    rw [List.getLast?_append, directory.2]
    rfl
  rwa [closed_eq_self directory.2, closed_eq_self endsLong]

/-- What is the end of a path stays the end when a segment is appended to both. -/
theorem appendSegment_isSuffix (directory : IsDirectory short) (ends : short <:+ long) :
    appendSegment .web short segment isLast <:+ appendSegment .web long segment isLast := by
  rw [appendSegment_web, appendSegment_web]
  split
  · split
    · exact outer_isSuffix directory ends
    · exact closed_isSuffix (isDirectory_outer directory) (outer_isSuffix directory ends)
  · split
    · exact closed_isSuffix directory ends
    · obtain ⟨front, rfl⟩ := ends
      rw [List.append_assoc]
      exact List.suffix_append _ _

/-- A segment that is not the last one leads from a directory to a directory. -/
theorem isDirectory_appendSegment (directory : IsDirectory short) :
    IsDirectory (appendSegment .web short segment false) := by
  rw [appendSegment_web]
  split
  · rw [if_neg nofun, closed_eq_self (isDirectory_outer directory).2]
    exact isDirectory_outer directory
  · split
    · rwa [closed_eq_self directory.2]
    · refine ⟨?_, ?_⟩
      · rw [List.head?_append, directory.1]
        rfl
      · rw [if_neg nofun, ← List.append_assoc, List.getLast?_concat]

/-- A segment leads from a directory to a rooted path. -/
theorem head?_appendSegment (directory : IsDirectory short) :
    (appendSegment .web short segment isLast).head? = some '/' := by
  cases isLast with
  | false => exact (isDirectory_appendSegment directory).1
  | true =>
    rw [appendSegment_web]
    split
    · exact (isDirectory_outer directory).1
    · split
      · rw [closed_eq_self directory.2]
        exact directory.1
      · rw [List.head?_append, directory.1]
        rfl

/-- What segments append to a directory ends like what they append to the end of its path. -/
theorem appendSegments_isSuffix (segments : List (List Char)) (directory : IsDirectory short)
    (ends : short <:+ long) :
    appendSegments .web short segments <:+ appendSegments .web long segments := by
  induction segments generalizing short long with
  | nil => exact ends
  | cons segment segments ih =>
    cases segments with
    | nil => exact appendSegment_isSuffix directory ends
    | cons next others =>
      exact ih (isDirectory_appendSegment directory) (appendSegment_isSuffix directory ends)

/-- Segments lead from a directory to a rooted path. -/
theorem head?_appendSegments (segments : List (List Char)) (directory : IsDirectory short) :
    (appendSegments .web short segments).head? = some '/' := by
  induction segments generalizing short with
  | nil => exact directory.1
  | cons segment segments ih =>
    cases segments with
    | nil => exact head?_appendSegment directory
    | cons next others => exact ih (isDirectory_appendSegment directory)

end Segments

section Characters

variable {path segment : List Char} {isLast : Bool}

/-- Hexadecimal digits are ASCII characters. -/
theorem toNat_hexDigit_lt {value : Nat} (small : value < 16) :
    (Text.hexDigit value).toNat < 0x80 := by
  have all : ∀ value < 16, (Text.hexDigit value).toNat < 0x80 := by decide
  exact all value small

/-- What is not ASCII is encoded in any set. -/
theorem toNat_lt_of_mem_percentEncode {inSet : Char → Bool} {text : List Char} {character : Char}
    (member : character ∈ percentEncode inSet text) : character.toNat < 0x80 := by
  obtain ⟨source, _, member⟩ := List.mem_flatMap.mp member
  split at member
  · obtain ⟨byte, _, member⟩ := List.mem_flatMap.mp member
    have bounded := byte.toNat_lt
    simp only [percentByte, List.mem_cons, List.not_mem_nil, or_false] at member
    rcases member with rfl | rfl | rfl
    · decide
    · exact toNat_hexDigit_lt (by omega)
    · exact toNat_hexDigit_lt (Nat.mod_lt _ (by decide))
  · rename_i plain
    obtain rfl := List.mem_singleton.mp member
    omega

/-- Up to its last slash a path is unchanged. -/
theorem upToLastSlash_isPrefix (path : List Char) : upToLastSlash path <+: path := by
  rw [← List.reverse_suffix, upToLastSlash, List.reverse_reverse]
  exact List.dropWhile_suffix _

/-- A double dot leads to a front part of the path. -/
theorem outer_isPrefix (path : List Char) : outer path <+: path := by
  refine (upToLastSlash_isPrefix _).trans ?_
  unfold withoutClosingSlash
  dsimp only
  split
  · exact List.dropLast_prefix path
  · exact List.prefix_refl path

/-- Closing a path adds nothing but a slash. -/
theorem mem_closed {character : Char} (member : character ∈ closed path) :
    character ∈ path ∨ character = '/' := by
  unfold closed at member
  split at member
  · exact .inl member
  · simpa using member

/-- A segment appends only ASCII. -/
theorem isAscii_appendSegment (ascii : ∀ character ∈ path, character.toNat < 0x80) :
    ∀ character ∈ appendSegment .web path segment isLast, character.toNat < 0x80 := by
  have ofClosed : ∀ {path}, (∀ character ∈ path, character.toNat < 0x80) →
      ∀ character ∈ closed path, character.toNat < 0x80 := by
    intro path ascii character member
    rcases mem_closed member with member | rfl
    · exact ascii character member
    · decide
  have ofOuter : ∀ character ∈ outer path, character.toNat < 0x80 := fun character member =>
    ascii character ((outer_isPrefix path).subset member)
  rw [appendSegment_web]
  split
  · split
    · exact ofOuter
    · exact ofClosed ofOuter
  · split
    · exact ofClosed ascii
    · intro character member
      rcases List.mem_append.mp member with member | member
      · exact ascii character member
      · rcases List.mem_append.mp member with member | member
        · exact toNat_lt_of_mem_percentEncode member
        · split at member
          · cases member
          · obtain rfl := List.mem_singleton.mp member
            decide

/-- Whatever the segments are, an ASCII path stays one, since they are percent-encoded. -/
theorem isAscii_appendSegments (segments : List (List Char))
    (ascii : ∀ character ∈ path, character.toNat < 0x80) :
    ∀ character ∈ appendSegments .web path segments, character.toNat < 0x80 := by
  induction segments generalizing path with
  | nil => exact ascii
  | cons segment segments ih =>
    cases segments with
    | nil => exact isAscii_appendSegment ascii
    | cons next others => exact ih (isAscii_appendSegment ascii)

/-- The path that a text makes from the root is ASCII. -/
theorem isAscii_extendPath_root (text : List Char) :
    ∀ character ∈ extendPath .web ['/'] text, character.toNat < 0x80 := by
  refine isAscii_appendSegments _ fun character member => ?_
  obtain rfl := List.mem_singleton.mp member
  decide

end Characters

section Pages

variable {path input text : List Char}

theorem isDirectory_root : IsDirectory ['/'] := ⟨rfl, rfl⟩

/-- What a text makes from the root is the end of what it makes from any path with a slash at its
end. -/
theorem extendPath_isSuffix (ends : ['/'] <:+ path) (text : List Char) :
    extendPath .web ['/'] text <:+ extendPath .web path text :=
  appendSegments_isSuffix _ isDirectory_root ends

/-- What a text makes from the root is rooted. -/
theorem head?_extendPath_root (text : List Char) : (extendPath .web ['/'] text).head? = some '/' :=
  head?_appendSegments _ isDirectory_root

/-- The directory of a page ends with a slash. -/
theorem root_isSuffix_directory (path : List Char) : ['/'] <:+ directory path := by
  unfold directory
  dsimp only
  split
  · exact List.suffix_refl _
  · rename_i nonempty
    have slash : '/' ∈ path := Decidable.of_not_not fun noSlash =>
      nonempty (upToLastSlash_of_not_mem noSlash)
    obtain ⟨front, split⟩ := List.getLast?_eq_some_iff.mp (getLast?_upToLastSlash slash)
    exact ⟨front, split.symm⟩

/-- What an unrooted reference leads to from the root is a part of what it leads to from a page. -/
theorem pathFrom_root_isInfix (slash : '/' ∈ pathFrom path input) :
    pathFrom ['/'] input <:+: pathFrom path input := by
  unfold pathFrom at slash ⊢
  split
  · rename_i short
    rw [if_pos short] at slash
    obtain ⟨before, after, split⟩ := List.append_of_mem slash
    exact ⟨before, after, by rw [split]; simp⟩
  · exact (extendPath_isSuffix (root_isSuffix_directory path) _).isInfix

/-- An unrooted reference leads from the root to a rooted path. -/
theorem head?_pathFrom_root (input : List Char) : (pathFrom ['/'] input).head? = some '/' := by
  unfold pathFrom
  split
  · rfl
  · exact head?_extendPath_root _

end Pages

end ElementSearch.Url

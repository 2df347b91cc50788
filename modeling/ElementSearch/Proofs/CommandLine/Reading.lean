import ElementSearch.CommandLine.Commands
import ElementSearch.Files.Directory
import Mathlib.Data.List.Basic

/-!
# What is read from files

A text is read from the files that hold its bytes in UTF-8, and from no others: `Files.readText_eq_ok_iff`. Loading from
a file is loading the text that is read from it, and an error in it names the file: `RuleSet.path?_of_loadFile`. A
command sees the files at its own paths only, so the program may read these before it answers:
`Invocation.answer_ofContents`. For files in memory, `Directory.readText_eq_ok_iff` says which paths lead to which text.
-/

namespace ElementSearch

namespace Files

variable {files : Files} {path text : String}

/-- A text is read from exactly those files that hold its bytes. -/
theorem readText_eq_ok_iff : files.readText path = .ok text ↔ files path = .ok text.toUTF8 := by
  unfold readText
  rw [String.toUTF8_eq_toByteArray]
  split
  · next cause failed => simp [failed]
  · next bytes read =>
    rw [read, Except.ok.injEq]
    unfold String.fromUTF8?
    by_cases valid : bytes.IsValidUTF8
    · rw [dif_pos valid, Except.ok.injEq, ← String.toByteArray_inj]
      rfl
    · rw [dif_neg valid]
      refine iff_of_false nofun fun same => valid ?_
      exact same ▸ text.isValidUTF8

end Files

namespace Directory

variable {directory : Directory} {path : String}

/-- The last of some parts is the only one that names something if the others name nothing. -/
theorem filter_isName_append_iff {leading : List String} {name : String} (named : isName name = true) :
    (leading ++ [name]).filter isName = [name] ↔ ∀ part ∈ leading, isName part = false := by
  simp [List.filter_append, named]

/-- A path leads to a file if its last part is the name of the file and the parts before it name nothing. -/
theorem files_eq_ok_iff {bytes : ByteArray} :
    directory.files path = .ok bytes ↔
      ∃ leading name, pathParts path = leading ++ [name] ∧ (∀ part ∈ leading, isName part = false) ∧
        isName name = true ∧ directory.entries.lookup name = some bytes := by
  unfold files read
  constructor
  · intro reads
    dsimp only at reads
    split at reads
    · cases reads
    · next name further names =>
      have named : isName name = true := (List.mem_filter.mp (names ▸ List.mem_cons_self)).2
      split at reads
      · cases reads
      · next held =>
        split at reads
        · next only =>
          cases reads
          obtain ⟨rfl, last⟩ := only
          obtain ⟨leading, parts⟩ := List.getLast?_eq_some_iff.mp last
          rw [parts] at names
          exact ⟨leading, name, parts, (filter_isName_append_iff named).mp names, named, held⟩
        · cases reads
  · rintro ⟨leading, name, parts, nothing, named, held⟩
    simp only [parts, (filter_isName_append_iff named).mpr nothing, held, List.getLast?_concat, and_self,
      if_true]

/-- The text of a file in a directory is read through the paths that lead to it. -/
theorem readText_eq_ok_iff {text : String} :
    directory.files.readText path = .ok text ↔
      ∃ leading name, pathParts path = leading ++ [name] ∧ (∀ part ∈ leading, isName part = false) ∧
        isName name = true ∧ directory.entries.lookup name = some text.toUTF8 :=
  Files.readText_eq_ok_iff.trans files_eq_ok_iff

end Directory

section Loading

/-- A result with another error is a value if it was that value before. -/
theorem mapError_eq_ok_iff {ε δ α : Type} {result : Except ε α} {change : ε → δ} {value : α} :
    result.mapError change = .ok value ↔ result = .ok value := by
  cases result <;> simp [Except.mapError]

/-- A result with another error is an error if it was one before. -/
theorem mapError_eq_error_iff {ε δ α : Type} {result : Except ε α} {change : ε → δ} {error : δ} :
    result.mapError change = .error error ↔ ∃ cause, result = .error cause ∧ change cause = error := by
  cases result <;> simp [Except.mapError]

variable {files other : Files} {path : String}

/-- A snapshot is loaded from a file if its text is read and loaded. -/
theorem Snapshot.loadFile_eq_ok_iff {loaded : Arena × Handle} :
    Snapshot.loadFile files path = .ok loaded ↔
      ∃ text, files.readText path = .ok text ∧ Snapshot.load text = .ok loaded := by
  unfold Snapshot.loadFile
  cases files.readText path <;> simp [mapError_eq_ok_iff]

/-- A rule set is loaded from a file if its text is read and loaded. -/
theorem RuleSetDefinition.loadFile_eq_ok_iff {definition : RuleSetDefinition} :
    RuleSetDefinition.loadFile files path = .ok definition ↔
      ∃ text, files.readText path = .ok text ∧ RuleSetDefinition.load text = .ok definition := by
  unfold RuleSetDefinition.loadFile
  cases files.readText path <;> simp [mapError_eq_ok_iff]

/-- An error that is said to be in a file names that file, or the one that it named before. -/
theorem RuleSetError.path?_inFile (error : RuleSetError) (path : String) :
    (error.inFile path).path? = some (error.path?.getD path) := by
  rcases error with _ | (_ | _) | ⟨_ | _, _⟩ <;> rfl

/-- What is wrong with a text names no file. -/
theorem RuleSetDefinition.path?_of_load {text : String} {error : RuleSetError}
    (fails : RuleSetDefinition.load text = .error error) : error.path? = none := by
  unfold RuleSetDefinition.load at fails
  split at fails
  · cases fails
    rfl
  · split at fails
    · cases fails
    · cases fails
      rfl

/-- What is wrong with a rule set that was read names no file. -/
theorem RuleSet.path?_of_ofDefinition {definition : RuleSetDefinition} {error : RuleSetError}
    (fails : RuleSet.ofDefinition definition = .error error) : error.path? = none := by
  obtain ⟨issues, -, rfl⟩ := mapError_eq_error_iff.mp fails
  rfl

/-- Whatever is wrong with a file that holds no rule set, the error names the file. -/
theorem RuleSetDefinition.path?_of_loadFile {error : RuleSetError}
    (fails : RuleSetDefinition.loadFile files path = .error error) : error.path? = some path := by
  unfold RuleSetDefinition.loadFile at fails
  split at fails
  · cases fails
    rfl
  · obtain ⟨inText, failed, rfl⟩ := mapError_eq_error_iff.mp fails
    rw [RuleSetError.path?_inFile, RuleSetDefinition.path?_of_load failed]
    rfl

/-- Whatever is wrong with a file that holds no rule set which compiles, the error names the file. -/
theorem RuleSet.path?_of_loadFile {error : RuleSetError}
    (fails : RuleSet.loadFile files path = .error error) : error.path? = some path := by
  unfold RuleSet.loadFile at fails
  split at fails
  · next failed =>
    cases fails
    exact RuleSetDefinition.path?_of_loadFile failed
  · obtain ⟨inDefinition, failed, rfl⟩ := mapError_eq_error_iff.mp fails
    rw [RuleSetError.path?_inFile, RuleSet.path?_of_ofDefinition failed]
    rfl

variable (same : files path = other path)
include same

/-- A text is read from the file at its path only. -/
theorem Files.readText_congr : files.readText path = other.readText path := by
  rw [Files.readText, Files.readText, same]

/-- A snapshot is loaded from the file at its path only. -/
theorem Snapshot.loadFile_congr : Snapshot.loadFile files path = Snapshot.loadFile other path := by
  rw [Snapshot.loadFile, Snapshot.loadFile, Files.readText_congr same]

/-- A rule set is loaded from the file at its path only. -/
theorem RuleSet.loadFile_congr : RuleSet.loadFile files path = RuleSet.loadFile other path := by
  rw [RuleSet.loadFile, RuleSet.loadFile, RuleSetDefinition.loadFile, RuleSetDefinition.loadFile,
    Files.readText_congr same]

end Loading

namespace CommandLine.Invocation

variable (colored : Bool) (invocation : Invocation)

/-- An answer depends on the files at the paths of the invocation only. -/
theorem answer_congr {files other : Files}
    (same : ∀ path ∈ invocation.paths, files path = other path) :
    invocation.answer colored files = invocation.answer colored other := by
  cases invocation with
  | perform command =>
    cases command with
    | locate rule snapshot mode withFrames =>
      have sameSnapshot := Snapshot.loadFile_congr (same snapshot List.mem_cons_self)
      simp only [answer, locate, sameSnapshot]
    | check rule => rfl
    | run rules snapshot =>
      have sameRules := RuleSet.loadFile_congr (same rules List.mem_cons_self)
      have sameSnapshot := Snapshot.loadFile_congr
        (same snapshot (List.mem_cons_of_mem _ List.mem_cons_self))
      simp only [answer, run, sameRules, sameSnapshot]
  | version => rfl
  | help => rfl
  | misuse => rfl

/-- It makes no difference if the files at the paths of an invocation are read before it is answered, and no other
file is read. -/
theorem answer_ofContents (files : Files) :
    invocation.answer colored (.ofContents (invocation.paths.map fun path => (path, files path))) =
      invocation.answer colored files := by
  refine invocation.answer_congr colored fun path member => ?_
  rw [Files.ofContents, List.lookup_graph files member]
  rfl

end CommandLine.Invocation

end ElementSearch

/-
# The formatter next to an interpreter

Next to an interpreter means in the directory before its last name.  A bare name has nothing before
it, so what is found next to it, in the current directory, is a bare name as well; and a bare name
is looked up in the search path when it is checked.  Whatever else is found next to an interpreter
holds a slash, and then this very file is checked, asked for its version and reported.
-/

import FormatLauncher.Proofs.Availability
import Mathlib.Data.List.TakeWhile

namespace FormatLauncher

namespace Spelling

/-- Only before the last name of a bare name there is nothing. -/
theorem directory_eq_empty_iff {spelling : String} :
    directory spelling = "" ↔ '/' ∉ spelling.toList := by
  have hhead : spelling.toList.reverse.dropWhile (· ≠ '/') = [] ↔ '/' ∉ spelling.toList := by
    rw [List.dropWhile_eq_nil_iff]
    simp only [List.mem_reverse, decide_eq_true_eq, ne_eq]
    exact ⟨fun h hmem => h '/' hmem rfl, fun h c hc heq => h (heq ▸ hc)⟩
  rw [← hhead]
  unfold directory
  rw [← String.toList_eq_nil_iff, String.toList_ofList]
  split
  · exact List.reverse_eq_nil_iff
  · next hbare =>
      rw [List.reverse_eq_nil_iff]
      refine ⟨fun h => absurd h hbare, fun h => absurd ?_ hbare⟩
      rw [h, List.dropWhile_nil]

/-- A name below a directory is a path, unless the directory is nothing and the name is bare. -/
theorem hasSeparator_join {directory name : String} :
    hasSeparator .slash (join directory name) = true ↔ directory ≠ "" ∨ '/' ∈ name.toList := by
  simp only [hasSeparator, List.contains_eq_mem, decide_eq_true_eq]
  unfold join
  split
  · next hroot => simp [List.mem_of_mem_head? hroot]
  · split
    · next hplain =>
        rw [String.toList_append, List.mem_append]
        refine or_congr_left ⟨fun hmem hempty => by simp [hempty] at hmem, fun hne => ?_⟩
        exact List.mem_of_mem_getLast? (hplain.resolve_left hne)
    · next hplain => simp [(not_or.mp hplain).1]

end Spelling

/-- An absolute path is spelled with a slash. -/
theorem Path.slash_mem_text {p : Path} (h : p.isAbsolute = true) : '/' ∈ p.text.toList := by
  rcases p with ⟨root, names⟩
  cases root with
  | relative => simp [isAbsolute] at h
  | slash => simp [text, rootText]
  | doubleSlash => simp [text, rootText]

namespace Locator

open Action

/-- What is found next to interpreters exists, and nothing does next to those before. -/
theorem findSibling_eq_some {w : World} {interpreters : List String} {binary sibling : String}
    (h : findSibling .slash w interpreters binary = some sibling) :
    w.files.pathExists w.directory sibling = true ∧
      ∃ before python after, interpreters = before ++ python :: after ∧
        sibling = Spelling.join (Spelling.directory python) binary ∧
        ∀ other ∈ before, w.files.pathExists w.directory
          (Spelling.join (Spelling.directory other) binary) = false := by
  have hcandidates : findSibling .slash w interpreters binary =
      (interpreters.map fun python => Spelling.join (Spelling.directory python) binary).find?
        (w.files.pathExists w.directory) := by
    rw [List.map_eq_flatMap]
    rfl
  rw [hcandidates, List.find?_map] at h
  obtain ⟨python, hfind, rfl⟩ := Option.map_eq_some_iff.mp h
  obtain ⟨hexists, before, after, rfl, hbefore⟩ := List.find?_eq_some_iff_append.mp hfind
  exact ⟨hexists, before, python, after, rfl, rfl, fun other hother => by
    simpa using hbefore other hother⟩

/-- Two files are checked with one answer exactly if they have one absolute path. -/
theorem checkedFile_eq_iff {w : World} {file other : String} :
    checkedFile w file = checkedFile w other ↔
      (absolute w file).map Path.text = (absolute w other).map Path.text := by
  unfold checkedFile
  cases absolute w file with
  | error failure =>
      cases absolute w other <;> simp [Except.map]
  | ok path =>
      cases absolute w other with
      | error failure => simp [Except.map]
      | ok path' =>
          simp only [Except.map, Except.ok.injEq, Prod.mk.injEq]
          exact ⟨And.left, fun h => ⟨h, by rw [h]⟩⟩

/-- A command is checked as the file of its own name exactly if it is a path, or the search path has
the same file for it. -/
theorem result_check_eq_checkedFile_iff {w : World} {command : String} :
    ((check .slash command).outcome w).1 = checkedFile w command ↔
      Spelling.hasSeparator .slash command = true ∨
        ∃ file, searchPath? w command = some file ∧
          (absolute w file).map Path.text = (absolute w command).map Path.text := by
  rw [result_check_eq, fileOf?]
  by_cases hpath : Spelling.hasSeparator .slash command = true
  · simp [hpath]
  · rw [if_neg hpath]
    simp only [hpath, Bool.false_eq_true, false_or]
    cases hsearch : searchPath? w command with
    | some file => simp [checkedFile_eq_iff]
    | none =>
        refine ⟨fun h => ?_, fun ⟨_, h, _⟩ => by cases h⟩
        -- An absolute path holds a slash, and the command does not.
        unfold checkedFile at h
        cases habsolute : absolute w command with
        | error failure => simp [habsolute, Except.map] at h
        | ok path =>
            obtain ⟨htext, -⟩ : command = path.text ∧ _ := by
              simpa [habsolute, Except.map] using h
            obtain rfl := absolute_eq_absolute habsolute
            have hslash := Path.slash_mem_text (Spelling.isAbsolute_absolute w.directory command)
            rw [← htext] at hslash
            exact absurd (by simpa [Spelling.hasSeparator] using hslash) hpath

/-- Without a configured path, what is found next to an interpreter is the command. -/
theorem result_inspect_of_findSibling {q : Query} {w : World} {sibling : String}
    (hconfigured : q.configured.filter (· ≠ "") = none)
    (hsibling : findSibling .slash w (q.interpreter.getD []) q.toolOrUsual.binary =
      some sibling) :
    ((inspect q).outcome w).1 = ((check .slash sibling).outcome w).1 := by
  have hcommand : q.command w = sibling := by
    rw [Query.command, hconfigured, hsibling]
    rfl
  obtain ⟨records, hcandidate⟩ := outcome_candidate_of_unconfigured hconfigured w
  rw [inspect, outcome_bind, hcandidate, hcommand, result_check_eq sibling w]
  exact result_check_eq sibling (w.logging records)

/-- What comes of a file that is found next to an interpreter, when no path is configured.  It is
the file next to the first interpreter that has one, and it is a path exactly if that interpreter or
the name of the formatter holds a slash.  The inspection answers for this very file exactly if it is
a path, or the search path has the same file for its bare name.  Whatever the inspection answers for
is what is asked for its version and reported. -/
theorem sibling_used_iff {q : Query} (hconfigured : q.configured.filter (· ≠ "") = none)
    {w : World} {sibling : String}
    (hsibling : findSibling .slash w (q.interpreter.getD []) q.toolOrUsual.binary =
      some sibling) :
    (∃ before python after, q.interpreter.getD [] = before ++ python :: after ∧
      sibling = Spelling.join (Spelling.directory python) q.toolOrUsual.binary ∧
      (∀ other ∈ before, w.files.pathExists w.directory
        (Spelling.join (Spelling.directory other) q.toolOrUsual.binary) = false) ∧
      (Spelling.hasSeparator .slash sibling = true ↔
        '/' ∈ python.toList ∨ '/' ∈ q.toolOrUsual.binary.toList)) ∧
    (((inspect q).outcome w).1 = checkedFile w sibling ↔
      Spelling.hasSeparator .slash sibling = true ∨
        ∃ file, searchPath? w sibling = some file ∧
          (absolute w file).map Path.text = (absolute w sibling).map Path.text) ∧
    ∀ limit schedule, ((locate q limit schedule).outcome w).1 =
      ((inspect q).outcome w).1.bind fun (path, passes) =>
        if passes then
          ((probe path q.toolOrUsual.versionArguments limit schedule).outcome w).1.map (⟨path, ·⟩)
        else .ok ⟨path, false⟩ := by
  refine ⟨?_, ?_, fun limit schedule => result_locate q limit schedule w⟩
  · obtain ⟨-, before, python, after, hsplit, hjoin, hbefore⟩ := findSibling_eq_some hsibling
    refine ⟨before, python, after, hsplit, hjoin, hbefore, ?_⟩
    rw [hjoin, Spelling.hasSeparator_join, ne_eq, Spelling.directory_eq_empty_iff, not_not]
  · rw [result_inspect_of_findSibling hconfigured hsibling]
    exact result_check_eq_checkedFile_iff

/-- A world with a formatter in the current directory, and another one in the search path. -/
def siblingWorld : World where
  files := ⟨[(["w"], .directory), (["w", "sqlfmt"], .program 0 0o755), (["w", "bin"], .directory),
    (["w", "bin", "sqlfmt"], .program 1 0o755)]⟩
  programs := fun _ _ tree => some ⟨0, [], [], tree⟩
  environment := [("PATH", "/w/bin")]
  directory := ["w"]
  log := []
  runs := []

/-- The formatter that is found next to a bare interpreter is not used, but another one; next to an
interpreter that is spelled with a dot it is used. -/
theorem sibling_used_iff_bare :
    checkedFile siblingWorld "sqlfmt" = .ok ("/w/sqlfmt", true) ∧
      findSibling .slash siblingWorld ["python"] "sqlfmt" = some "sqlfmt" ∧
      ((inspect { usualQuery with interpreter := some ["python"] }).outcome siblingWorld).1 =
        .ok ("/w/bin/sqlfmt", true) ∧
      ((inspect { usualQuery with interpreter := some ["python"] }).outcome siblingWorld).1 ≠
        checkedFile siblingWorld "sqlfmt" ∧
      ((inspect { usualQuery with interpreter := some ["./python"] }).outcome siblingWorld).1 =
        checkedFile siblingWorld "./sqlfmt" := by
  have hown : checkedFile siblingWorld "sqlfmt" = .ok ("/w/sqlfmt", true) := by decide +kernel
  have hbare : findSibling .slash siblingWorld ["python"] "sqlfmt" = some "sqlfmt" := by
    decide +kernel
  have hdotted : findSibling .slash siblingWorld ["./python"] "sqlfmt" = some "./sqlfmt" := by
    decide +kernel
  have hother : ((inspect { usualQuery with interpreter := some ["python"] }).outcome
      siblingWorld).1 = .ok ("/w/bin/sqlfmt", true) := by decide +kernel
  have hsearch : searchPath? siblingWorld "sqlfmt" = some "/w/bin/sqlfmt" := by decide +kernel
  refine ⟨hown, hbare, hother, fun hsame => ?_, ?_⟩
  · obtain hpath | ⟨file, hfile, hplace⟩ := (sibling_used_iff
      (q := { usualQuery with interpreter := some ["python"] }) rfl hbare).2.1.mp hsame
    · exact absurd hpath (by decide)
    · obtain rfl : "/w/bin/sqlfmt" = file := Option.some.inj (hsearch.symm.trans hfile)
      exact absurd hplace (by decide +kernel)
  · exact (sibling_used_iff (q := { usualQuery with interpreter := some ["./python"] }) rfl
      hdotted).2.1.mpr (.inl (by decide))

end Locator

end FormatLauncher

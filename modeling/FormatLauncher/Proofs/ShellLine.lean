/-
# The logged command line reads back

A shell reads a line one character at a time.  Between words a blank means nothing; in a word it
ends the word.  Apostrophes take everything between them as it is, quotation marks everything but
what begins an expansion, and a backslash takes the next character as it is.  A character that ends
a command, begins an expansion or a comment, or stands for other words is no part of a plain word,
so a line with one outside of quotes has no plain words.  A word as it is logged takes such a reader
from the gap before the word to the end of the word, with the word read; so the line that a run logs
reads back as its arguments.
-/

import FormatLauncher.Proofs.Running

namespace FormatLauncher

namespace Text.ShellWord

/-! ## How a shell reads a line -/

/-- How the next character is quoted. -/
inductive Quoting
  | bare
  | apostrophes
  | quotes
  /-- After a backslash. -/
  | escaped
  /-- After a backslash between quotation marks. -/
  | escapedInQuotes
  deriving DecidableEq, Repr

/-- A line that was read so far. -/
structure Reading where
  /-- The words before the last gap. -/
  words : List (List Char)
  /-- The word that has begun after it; a pair of quotes begins one that may stay empty. -/
  word : Option (List Char)
  quoting : Quoting
  deriving DecidableEq, Repr

/-- A character that separates words. -/
def isGap (c : Char) : Bool := c = ' ' || c = '\t'

/-- A character that is no part of a plain word unless it is quoted: it ends a command, begins an
expansion or a comment, or stands for other words. -/
def isSpecial (c : Char) : Bool := "|&;<>()$`*?[#~\n".toList.contains c

/-- A character that begins an expansion between quotation marks. -/
def expandsInQuotes (c : Char) : Bool := c = '$' || c = '`'

/-- A character that a backslash takes as it is between quotation marks. -/
def escapesInQuotes (c : Char) : Bool := "$`\"\\".toList.contains c

namespace Reading

/-- A line of which nothing was read. -/
def start : Reading := ⟨[], none, .bare⟩

/-- Some characters belong to a word. -/
def push (r : Reading) (text : List Char) : Reading :=
  { r with word := some (r.word.getD [] ++ text) }

/-- The characters that follow are quoted in some way. -/
def quoted (r : Reading) (quoting : Quoting) : Reading := { r with quoting }

/-- A word ends, if one has begun. -/
def close (r : Reading) : Reading := { r with words := r.words ++ r.word.toList, word := none }

/-- Read one more character; none when the line has no plain words. -/
def next (r : Reading) (c : Char) : Option Reading :=
  match r.quoting with
  | .bare =>
    if isGap c then some r.close
    else if c = '\'' then some ((r.push []).quoted .apostrophes)
    else if c = '"' then some ((r.push []).quoted .quotes)
    else if c = '\\' then some (r.quoted .escaped)
    else if isSpecial c then none
    else some (r.push [c])
  | .apostrophes => some (if c = '\'' then r.quoted .bare else r.push [c])
  | .quotes =>
    if c = '"' then some (r.quoted .bare)
    else if c = '\\' then some (r.quoted .escapedInQuotes)
    else if expandsInQuotes c then none
    else some (r.push [c])
  -- A backslash takes the end of a line away with it.
  | .escaped => some ((if c = '\n' then r else r.push [c]).quoted .bare)
  | .escapedInQuotes =>
    some ((if c = '\n' then r else r.push (if escapesInQuotes c then [c] else ['\\', c])).quoted
      .quotes)

/-- The words of a line that was read to its end; none inside quotes or after a backslash. -/
def finish? (r : Reading) : Option (List (List Char)) :=
  if r.quoting = .bare then some r.close.words else none

end Reading

/-- The plain words of a line, if it has no others. -/
def split (line : String) : Option (List String) :=
  ((line.toList.foldlM Reading.next .start).bind Reading.finish?).map (·.map String.ofList)

/-! ## Words that were quoted -/

/-- A bare character is none that means something to a shell. -/
theorem special_eq_false_of_isBare {c : Char} (h : isBare c = true) :
    isGap c = false ∧ c ≠ '\'' ∧ c ≠ '"' ∧ c ≠ '\\' ∧ isSpecial c = false := by
  have hne {d : Char} (hd : isBare d = false) : c ≠ d := fun heq => by simp [← heq, h] at hd
  have hnone {text : List Char} (htext : text.any isBare = false) : text.contains c = false := by
    simpa using fun hmem => List.any_eq_false.mp htext c hmem h
  refine ⟨?_, hne (by decide), hne (by decide), hne (by decide), hnone (by decide)⟩
  simp [isGap, hne (d := ' ') (by decide), hne (d := '\t') (by decide)]

/-- One character of a bare word is read as it is. -/
theorem next_of_isBare {r : Reading} (hr : r.quoting = .bare) {c : Char} (hc : isBare c = true) :
    r.next c = some (r.push [c]) := by
  obtain ⟨hgap, hquote, hquotes, hbackslash, hspecial⟩ := special_eq_false_of_isBare hc
  simp [Reading.next, hr, hgap, hquote, hquotes, hbackslash, hspecial]

/-- So is a bare word. -/
theorem foldlM_next_of_all_isBare {r : Reading} (hr : r.quoting = .bare) {word : List Char}
    (hword : word.all isBare = true) (hne : word ≠ []) :
    word.foldlM Reading.next r = some (r.push word) := by
  induction word generalizing r with
  | nil => exact absurd rfl hne
  | cons c rest ih =>
      obtain ⟨hc, hrest⟩ : isBare c = true ∧ rest.all isBare = true := by simpa using hword
      rw [List.foldlM_cons, next_of_isBare hr hc, Option.bind_eq_bind, Option.bind_some]
      by_cases hlast : rest = []
      · subst hlast
        rfl
      · rw [ih (r := r.push [c]) hr hrest hlast]
        simp [Reading.push]

/-- One character between apostrophes is read as it is, an apostrophe by leaving them for quotation
marks around it. -/
theorem foldlM_next_quotedChar {r : Reading} (hr : r.quoting = .apostrophes) (c : Char) :
    (quotedChar c).foldlM Reading.next r = some (r.push [c]) := by
  rcases r with ⟨words, word, quoting⟩
  obtain rfl : quoting = .apostrophes := hr
  unfold quotedChar
  split
  · next hc =>
      subst hc
      simp [Reading.next, Reading.push, Reading.quoted, isGap, expandsInQuotes]
  · next hc => simp [Reading.next, hc]

/-- So are all characters between apostrophes. -/
theorem foldlM_next_flatMap_quotedChar {r : Reading} (hr : r.quoting = .apostrophes)
    (word : List Char) :
    (word.flatMap quotedChar).foldlM Reading.next (r.push []) = some (r.push word) := by
  induction word generalizing r with
  | nil => rfl
  | cons c rest ih =>
      have hfirst := foldlM_next_quotedChar (r := r.push []) hr c
      have hrest := ih (r := r.push [c]) hr
      rw [List.flatMap_cons, List.foldlM_append, hfirst, Option.bind_eq_bind, Option.bind_some]
      simpa [Reading.push] using hrest

/-- A word as it is logged is read as the word, from a gap on. -/
theorem foldlM_next_quote (words : List (List Char)) (word : List Char) :
    (quote word).foldlM Reading.next ⟨words, none, .bare⟩ = some ⟨words, some word, .bare⟩ := by
  unfold quote
  split
  · next hempty =>
      subst hempty
      rfl
  · next hne =>
      split
      · next hbare => exact foldlM_next_of_all_isBare rfl hbare hne
      · have hopen : Reading.next ⟨words, none, .bare⟩ '\'' =
            some (Reading.push ⟨words, none, .apostrophes⟩ []) := rfl
        rw [List.cons_append, List.foldlM_cons, hopen, Option.bind_eq_bind, Option.bind_some,
          List.foldlM_append, foldlM_next_flatMap_quotedChar rfl, Option.bind_eq_bind,
          Option.bind_some]
        rfl

/-- The words of a line that was written, after some others, are read in order.  By induction on the
words: each of them is read between two gaps. -/
theorem finish?_joinChars (before words : List (List Char)) :
    ((joinChars words).foldlM Reading.next ⟨before, none, .bare⟩).bind Reading.finish? =
      some (before ++ words) := by
  fun_induction joinChars words generalizing before with
  | case1 => simp [Reading.finish?, Reading.close]
  | case2 word => simp [foldlM_next_quote, Reading.finish?, Reading.close]
  | case3 word rest hrest ih =>
      have hgap : Reading.next ⟨before, some word, .bare⟩ ' ' =
          some ⟨before ++ [word], none, .bare⟩ := rfl
      rw [List.foldlM_append, foldlM_next_quote, Option.bind_eq_bind, Option.bind_some,
        List.foldlM_cons, hgap, Option.bind_eq_bind, Option.bind_some, ih (before ++ [word]),
        List.append_assoc, List.singleton_append]

/-- A line of words reads back as the words. -/
theorem split_join (words : List String) : split (join words) = some words := by
  have hread := finish?_joinChars [] (words.map String.toList)
  rw [List.nil_append] at hread
  rw [split, join, String.toList_ofList, Reading.start, hread]
  simp [Function.comp_def]

/-- Different words make different lines. -/
theorem join_injective : Function.Injective join := fun words other hsame =>
  Option.some.inj (by rw [← split_join words, hsame, split_join])

end Text.ShellWord

namespace Action

variable {α β : Type}

/-- The action may add to the log but takes nothing from it. -/
def AddsToLog (action : Action α) : Prop :=
  ∀ w, ∃ records, (action.outcome w).2.log = w.log ++ records

theorem Answers.addsToLog {action : Action α} {answer : Except Failure α}
    (h : action.Answers answer) : action.AddsToLog := by
  intro w
  obtain ⟨records, hw⟩ := h w
  exact ⟨records, by rw [hw]; rfl⟩

theorem AddsToLog.bind {action : Action α} {next : α → Action β} (haction : action.AddsToLog)
    (hnext : ∀ x, (next x).AddsToLog) : (action >>= next).AddsToLog := by
  intro w
  obtain ⟨first, hfirst⟩ := haction w
  rw [outcome_bind]
  rcases houtcome : action.outcome w with ⟨failure | x, later⟩
  · exact ⟨first, by simpa [houtcome] using hfirst⟩
  · obtain ⟨second, hsecond⟩ := hnext x later
    rw [houtcome] at hfirst
    refine ⟨first ++ second, ?_⟩
    rw [← List.append_assoc, ← hfirst]
    exact hsecond

end Action

namespace Execution

open Action

/-- The record of a command line. -/
def lineRecord (argv : List String) : LogRecord :=
  ⟨.info, "Execute: \"" ++ Text.ShellWord.join argv ++ "\""⟩

/-- Supervision leaves the log alone. -/
theorem addsToLog_supervise (ready : Launch.Ready) (input : Text.Bytes) (limit : Option Seconds)
    (schedule : Schedule) : (Locator.supervise ready input limit schedule).AddsToLog := by
  intro w
  refine ⟨[], ?_⟩
  rw [Locator.outcome_supervise, List.append_nil]
  split
  · rfl
  · split <;> rfl

/-- Running a command logs its line first. -/
theorem log_execute (command : String) (arguments : List String) (input : Option String)
    (terms : Terms) (strict : Bool) (w : World) :
    ∃ records, ((execute (command :: arguments) input terms strict).outcome w).2.log =
      w.log ++ lineRecord (command :: arguments) :: records := by
  have hlater {rest : Action Output} (h : rest.AddsToLog) :
      ∃ records, (rest.outcome (w.logging [lineRecord (command :: arguments)])).2.log =
        w.log ++ lineRecord (command :: arguments) :: records := by
    obtain ⟨records, hrecords⟩ := h (w.logging [lineRecord (command :: arguments)])
    exact ⟨records, by simpa [World.logging] using hrecords⟩
  unfold execute
  rw [outcome_bind_of_ok (outcome_say _ _ _), outcome_get_bind]
  apply hlater
  split
  · exact (answers_throw _).addsToLog
  · exact ((answers_say _ _).bind (answers_throw _)).addsToLog
  · refine (addsToLog_supervise _ _ _ _).bind fun seen => ?_
    split
    · exact (answers_throw _).addsToLog
    · exact ((answers_say _ _).bind (answers_throw _)).addsToLog
    · dsimp only
      split
      · split
        · exact (answers_pure _).addsToLog
        · exact ((answers_say _ _).bind (answers_throw _)).addsToLog
      · exact (answers_pure _).addsToLog
    · exact ((answers_say _ _).bind (answers_throw _)).addsToLog

/-- Records of different command lines differ. -/
theorem lineRecord_injective : Function.Injective lineRecord := by
  intro argv other hsame
  apply Text.ShellWord.join_injective
  simpa [lineRecord, ← String.toList_inj] using hsame

/-- The command line that a run logs is unambiguous.  A shell splits it into exactly the arguments
of the run, whatever these hold; so no other arguments make this line.  It is the first record of
every run with these arguments, and of no run with others. -/
theorem logged_line_reads_back (argv : List String) :
    Text.ShellWord.split (Text.ShellWord.join argv) = some argv ∧
      (∀ other, Text.ShellWord.join other = Text.ShellWord.join argv → other = argv) ∧
      (∀ other, lineRecord other = lineRecord argv → other = argv) ∧
      (argv ≠ [] → ∀ input terms strict w, ∃ records,
        ((execute argv input terms strict).outcome w).2.log =
          w.log ++ lineRecord argv :: records) := by
  refine ⟨Text.ShellWord.split_join argv, fun other hsame => Text.ShellWord.join_injective hsame,
    fun other hsame => lineRecord_injective hsame, fun hne input terms strict w => ?_⟩
  obtain ⟨command, arguments, rfl⟩ := List.exists_cons_of_ne_nil hne
  exact log_execute command arguments input terms strict w

/-- A blank, an apostrophe, a quoted expansion, the end of a line and an empty argument stay apart,
and the run of such arguments logs their line although nothing can be started. -/
theorem logged_line_reads_back_quotes :
    let argv := ["my fmt", "", "it's", "$(x)\n"]
    Text.ShellWord.join argv = "'my fmt' '' 'it'\"'\"'s' '$(x)\n'" ∧
      Text.ShellWord.split "'my fmt' '' 'it'\"'\"'s' '$(x)\n'" = some argv ∧
      ∃ records, ((execute argv none ⟨none, none, .quiet⟩ false).outcome
        ⟨⟨[]⟩, fun _ _ _ => none, [], [], [], [], .ample⟩).2.log = lineRecord argv :: records := by
  intro argv
  have hline : Text.ShellWord.join argv = "'my fmt' '' 'it'\"'\"'s' '$(x)\n'" := by decide +kernel
  obtain ⟨hsplit, -, -, hlogs⟩ := logged_line_reads_back argv
  obtain ⟨records, hrecords⟩ := hlogs (by simp [argv]) none ⟨none, none, .quiet⟩ false
    ⟨⟨[]⟩, fun _ _ _ => none, [], [], [], [], .ample⟩
  exact ⟨hline, hline ▸ hsplit, records, hrecords⟩

end Execution

end FormatLauncher

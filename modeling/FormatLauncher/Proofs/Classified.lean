/-
# What a finished run is taken for

A run that nothing disturbs is judged by its exit code and, as a filter that exits with success, by
whether what it printed is UTF-8.  A filter's answer is written as exactly the bytes it printed.  A
run in place reads its output leniently, so it fails by its exit code alone, and where the output is
UTF-8 it reads it as a filter does.
-/

import FormatLauncher.Proofs.Availability
import FormatLauncher.Proofs.Text.Utf8

namespace FormatLauncher

open Action

/-- Without a limit, a request or a cancellation at once, a run that completes is seen to. -/
theorem Schedule.watch?_of_pos {schedule : Schedule} {limit : Option Seconds}
    (hlimit : Locator.LeavesTime limit) (hcancel : ∀ moment ∈ schedule.cancelAt, 0 < moment)
    (habandon : ∀ moment ∈ schedule.abandonAt, 0 < moment) :
    schedule.watch? limit true = some ⟨true, false, false⟩ := by
  have hearlier : ∀ {a b : Option Rat}, (∀ moment ∈ a, 0 < moment) →
      (∀ moment ∈ b, 0 < moment) → ∀ moment ∈ earlier a b, 0 < moment := by
    rintro (_ | a) (_ | b) ha hb moment hmoment <;> simp only [earlier] at hmoment
    · cases hmoment
    · exact hb moment hmoment
    · exact ha moment hmoment
    · obtain rfl := Option.some.inj hmoment
      split
      · exact ha a rfl
      · exact hb b rfl
  have hpos := hearlier (fun moment h => hlimit moment h) (hearlier hcancel habandon)
  unfold watch?
  dsimp only
  cases hfirst : earlier (limit.bind Seconds.instant?)
      (earlier schedule.cancelAt schedule.abandonAt) with
  | none => rfl
  | some now => simp [hpos now hfirst]

namespace Execution

/-- Nothing disturbs a run that completes: its limit can be waited for and is not over at once, and
neither the run nor the wait for it is cancelled at its start. -/
structure Terms.Undisturbed (terms : Terms) : Prop where
  fits : ∀ s ∈ terms.limit, s.toBinary?.isSome = true
  leavesTime : Locator.LeavesTime terms.limit
  cancelAt_pos : ∀ moment ∈ terms.schedule.cancelAt, 0 < moment
  abandonAt_pos : ∀ moment ∈ terms.schedule.abandonAt, 0 < moment

/-- A command starts, and with this input its program exits. -/
def Finishes (w : World) (command : String) (arguments : List String) (input : Option String)
    (terms : Terms) (finish : Finish) : Prop :=
  ∃ ready, Launch.start w command arguments terms.directory = .ok ready ∧
    ready.finish? (inputBytes input) w.files = some finish

variable {w : World} {command : String} {arguments : List String} {terms : Terms}
  {finish : Finish}

/-- What supervising a run comes to that nothing disturbs and that exits. -/
theorem result_supervise_of_undisturbed (hterms : terms.Undisturbed) {ready : Launch.Ready}
    {input : Text.Bytes} (hfinish : ready.finish? input w.files = some finish) :
    ((Locator.supervise ready input terms.limit terms.schedule).outcome w).1 =
      .ok (.output, some finish) := by
  rw [Locator.outcome_supervise, Locator.fits_limit hterms.fits, if_neg Bool.false_ne_true,
    hfinish, Option.isSome_some,
    Schedule.watch?_of_pos hterms.leavesTime hterms.cancelAt_pos hterms.abandonAt_pos]
  rfl

/-- A run that exits is answered by the verdict on its exit. -/
theorem result_execute_of_finishes (hterms : terms.Undisturbed) {input : Option String}
    (hfinishes : Finishes w command arguments input terms finish) (strict : Bool) :
    ((execute (command :: arguments) input terms strict).outcome w).1 =
      verdict command terms.limit strict (.output, some finish) := by
  obtain ⟨ready, hstart, hfinish⟩ := hfinishes
  obtain ⟨first, second, hexecute⟩ := outcome_execute_of_started hstart input strict
  have hsupervise := result_supervise_of_undisturbed (w := w.logging first) hterms hfinish
  rw [hexecute]
  dsimp only
  rw [hsupervise]
  rfl

/-- A filter that exits is answered by the verdict on its exit. -/
theorem result_asFilter_of_finishes (hterms : terms.Undisturbed) {text : String}
    (hfinishes : Finishes w command (arguments ++ [inputMark]) (some text) terms finish) :
    ((asFilter command arguments text terms).outcome w).1 =
      filterVerdict command terms.limit (.output, some finish) := by
  obtain ⟨ready, hstart, hfinish⟩ := hfinishes
  obtain ⟨first, second, hfilter⟩ := outcome_asFilter_of_started hstart text
  have hsupervise := result_supervise_of_undisturbed (w := w.logging first) hterms hfinish
  rw [hfilter]
  dsimp only
  rw [show Text.Utf8.encode text = inputBytes (some text) from rfl, hsupervise]
  rfl

/-- A run in place that exits is answered by the verdict on its exit. -/
theorem result_inPlace_of_finishes (hterms : terms.Undisturbed) {targets : List String}
    (hfinishes : Finishes w command (arguments ++ targets) none terms finish) :
    ((inPlace command arguments targets terms).outcome w).1 =
      (verdict command terms.limit false (.output, some finish)).bind (accept command) := by
  obtain ⟨ready, hstart, hfinish⟩ := hfinishes
  obtain ⟨first, second, hinPlace⟩ := outcome_inPlace_of_started hstart
  have hsupervise := result_supervise_of_undisturbed (w := w.logging first) hterms hfinish
  rw [hinPlace]
  dsimp only
  rw [show ([] : Text.Bytes) = inputBytes none from rfl, hsupervise]
  rfl

/-- The verdict on a filter that exits, by its code and by what it printed. -/
theorem filterVerdict_output (limit : Option Seconds) :
    filterVerdict command limit (.output, some finish) =
      if finish.code = 0 then
        match Text.Utf8.decode finish.output with
        | .ok text => .ok text
        | .error e => .error (.invalidOutput command e.defect)
      else .error (.executionFailed command finish.code
        (Text.Utf8.decodeLenient finish.errors)) := by
  by_cases hcode : finish.code = 0
  · cases hdecode : Text.Utf8.decode finish.output <;>
      simp [filterVerdict, verdict, accept, hcode, hdecode, Except.bind, Except.map]
  · simp [filterVerdict, verdict, accept, hcode, Except.bind, Except.map]

/-- What becomes of a run that exits and that nothing disturbs.  A filter answers with a text
exactly if it exits with success and prints the bytes of that text, which it does exactly if it
prints well-formed UTF-8; success with other output is invalid output, and any other exit is a
failed execution with its code and what was written about it.  A run in place of a program that
exits this way fails exactly by its code, in the same way, and whatever its code, it reads output
that is the bytes of a text as that text. -/
theorem finished_run_classified (hterms : terms.Undisturbed) :
    (∀ text, Finishes w command (arguments ++ [inputMark]) (some text) terms finish →
      let answer := ((asFilter command arguments text terms).outcome w).1
      (∀ printed, answer = .ok printed ↔
        finish.code = 0 ∧ Text.Utf8.encode printed = finish.output) ∧
      ((∃ printed, answer = .ok printed) ↔
        finish.code = 0 ∧ Text.Utf8.IsWellFormed finish.output) ∧
      ((∃ failure, answer = .error failure ∧ failure.kindName = "InvalidOutput") ↔
        finish.code = 0 ∧ ¬Text.Utf8.IsWellFormed finish.output) ∧
      (finish.code ≠ 0 → answer = .error (.executionFailed command finish.code
        (Text.Utf8.decodeLenient finish.errors)))) ∧
    ∀ targets, Finishes w command (arguments ++ targets) none terms finish →
      let answer := ((inPlace command arguments targets terms).outcome w).1
      ((∃ failure, answer = .error failure) ↔ finish.code ≠ 0) ∧
      (finish.code ≠ 0 → answer = .error (.executionFailed command finish.code
        (Text.Utf8.decodeLenient finish.errors))) ∧
      ∃ result, ((execute (command :: arguments ++ targets) none terms false).outcome w).1 =
          .ok result ∧
        (finish.code = 0 → answer = .ok result) ∧
        ∀ printed, Text.Utf8.decode finish.output = .ok printed → result.output = printed := by
  refine ⟨fun text hfinishes => ?_, fun targets hfinishes => ?_⟩
  · have hanswer := (result_asFilter_of_finishes hterms hfinishes).trans
      (filterVerdict_output terms.limit)
    rw [← Text.Utf8.exists_decode_eq_ok_iff, hanswer]
    by_cases hcode : finish.code = 0
    · cases hdecode : Text.Utf8.decode finish.output with
      | ok printed =>
          simp [hcode, ← Text.Utf8.decode_eq_ok_iff, hdecode]
      | error e =>
          simp [hcode, ← Text.Utf8.decode_eq_ok_iff, hdecode, Failure.kindName]
    · simp [hcode, Failure.kindName]
  · have hexecute := result_execute_of_finishes hterms hfinishes false
    have hanswer := result_inPlace_of_finishes hterms hfinishes
    dsimp only
    rw [hanswer]
    refine ⟨?_, fun hcode => ?_, _, hexecute, fun hcode => ?_, fun printed hdecode => ?_⟩
    · by_cases hcode : finish.code = 0 <;> simp [verdict, accept, hcode, Except.bind]
    · simp [verdict, accept, hcode, Except.bind]
    · simp [verdict, accept, hcode, Except.bind]
    · exact Text.Utf8.decodeLenient_eq_of_decode hdecode

/-- With nothing set, nothing disturbs a run. -/
theorem undisturbed_quiet (directory : Option String) :
    Terms.Undisturbed ⟨directory, none, .quiet⟩ := by
  constructor <;> simp [Locator.LeavesTime, Schedule.quiet]

/-- In the world with a formatter that prints backwards, the formatter prints backwards. -/
theorem finishes_backwards {argument : String} (input : Option String)
    (hstart : (Launch.start Formatter.backwardsWorld "sqlfmt" [argument] none).isOk = true) :
    Finishes Formatter.backwardsWorld "sqlfmt" [argument] input ⟨none, none, .quiet⟩
      ⟨0, (inputBytes input).reverse, [], Formatter.backwardsWorld.files⟩ := by
  cases hready : Launch.start Formatter.backwardsWorld "sqlfmt" [argument] none with
  | error refusal => simp [hready, Except.isOk, Except.toBool] at hstart
  | ok ready =>
      obtain ⟨⟨id, hprogram⟩, -, -⟩ := Launch.start_eq_ok hready
      refine ⟨ready, hready, ?_⟩
      rw [Launch.Ready.finish?, hprogram]
      rfl

/-- Two letters are printed backwards as two letters, the two bytes of one letter are not printed as
text, and a run in place that prints nothing does not fail. -/
theorem finished_run_classified_backwards :
    ((asFilter "sqlfmt" [] "ab" ⟨none, none, .quiet⟩).outcome Formatter.backwardsWorld).1 =
        .ok "ba" ∧
      (∃ failure, ((asFilter "sqlfmt" [] "é" ⟨none, none, .quiet⟩).outcome
        Formatter.backwardsWorld).1 = .error failure ∧ failure.kindName = "InvalidOutput") ∧
      ¬∃ failure, ((inPlace "sqlfmt" [] ["a.sql"] ⟨none, none, .quiet⟩).outcome
        Formatter.backwardsWorld).1 = .error failure := by
  have hstart : (Launch.start Formatter.backwardsWorld "sqlfmt" [inputMark] none).isOk = true := by
    decide +kernel
  have hstart' : (Launch.start Formatter.backwardsWorld "sqlfmt" ["a.sql"] none).isOk = true := by
    decide +kernel
  have hquiet := undisturbed_quiet none
  refine ⟨?_, ?_, ?_⟩
  · refine (((finished_run_classified hquiet).1 "ab" (finishes_backwards _ hstart)).1 "ba").mpr ?_
    decide +kernel
  · refine ((finished_run_classified hquiet).1 "é" (finishes_backwards _ hstart)).2.2.1.mpr
      ⟨rfl, ?_⟩
    rw [← Text.Utf8.exists_decode_eq_ok_iff]
    rintro ⟨printed, hprinted⟩
    have hnone : (Text.Utf8.decode (inputBytes (some "é")).reverse).toOption = none := by
      decide +kernel
    simp [hprinted, Except.toOption] at hnone
  · intro hfails
    exact ((finished_run_classified hquiet).2 ["a.sql"] (finishes_backwards none hstart')).1.mp
      hfails rfl

end Execution

end FormatLauncher

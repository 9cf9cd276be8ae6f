/-
# What passes the console unchanged

Text from the input has its carriage returns turned into line feeds, and text that is printed loses
its escape sequences.  A text passes unchanged exactly if it holds none of what is taken from it.
-/

import FormatLauncher.Console.Echo
import FormatLauncher.Text.Stream

namespace FormatLauncher

namespace Text

/-- No carriage return is left. -/
theorem notMem_unifyReturns (text : List Char) : '\r' ∉ unifyReturns text := by
  fun_induction unifyReturns text with
  | case1 => simp
  | case2 rest ih => simp [ih]
  | case3 c rest hpair ih =>
      by_cases hreturn : c = '\r'
      · simp [hreturn, ih]
      · simp [hreturn, ih, Ne.symm hreturn]

/-- A text passes the input unchanged exactly if it holds no carriage return. -/
theorem unifyReturns_eq_self_iff {text : List Char} : unifyReturns text = text ↔ '\r' ∉ text := by
  constructor
  · intro hsame
    rw [← hsame]
    exact notMem_unifyReturns text
  · intro hnone
    fun_induction unifyReturns text with
    | case1 => rfl
    | case2 rest ih => simp at hnone
    | case3 c rest hpair ih =>
        obtain ⟨hc, hrest⟩ := not_or.mp (mt List.mem_cons.mpr hnone)
        rw [if_neg (Ne.symm hc), ih hrest]

/-- The same for a string. -/
theorem ofList_unifyReturns_eq_self_iff {text : String} :
    String.ofList (unifyReturns text.toList) = text ↔ '\r' ∉ text.toList := by
  rw [← unifyReturns_eq_self_iff, ← String.toList_inj, String.toList_ofList]

end Text

namespace Console

/-- An escape sequence stands somewhere in the text. -/
def HasSequence (text : List Char) : Prop :=
  ∃ before rest after, text = before ++ '\x1B' :: rest ∧ afterSequence? rest = some after

theorem hasSequence_cons_iff {c : Char} {rest : List Char} :
    HasSequence (c :: rest) ↔
      (c = '\x1B' ∧ ∃ after, afterSequence? rest = some after) ∨ HasSequence rest := by
  constructor
  · rintro ⟨before, rest', after, htext, hafter⟩
    cases before with
    | nil =>
        obtain ⟨rfl, rfl⟩ : c = '\x1B' ∧ rest = rest' := by simpa using htext
        exact .inl ⟨rfl, after, hafter⟩
    | cons first before =>
        obtain ⟨rfl, rfl⟩ : c = first ∧ rest = before ++ '\x1B' :: rest' := by simpa using htext
        exact .inr ⟨before, rest', after, rfl, hafter⟩
  · rintro (⟨rfl, after, hafter⟩ | ⟨before, rest', after, rfl, hafter⟩)
    · exact ⟨[], rest, after, rfl, hafter⟩
    · exact ⟨c :: before, rest', after, rfl, hafter⟩

/-- Printing makes no text longer. -/
theorem length_stripSequences_le (text : List Char) :
    (stripSequences text).length ≤ text.length := by
  fun_induction stripSequences text with
  | case1 => simp
  | case2 rest after hsequence ih =>
      have hlt := length_lt_of_afterSequence? hsequence
      simp only [List.length_cons]
      omega
  | case3 rest hsequence ih => simpa using ih
  | case4 c rest hescape ih => simpa using ih

/-- A text is printed unchanged exactly if no escape sequence stands in it. -/
theorem stripSequences_eq_self_iff {text : List Char} :
    stripSequences text = text ↔ ¬HasSequence text := by
  fun_induction stripSequences text with
  | case1 => simp [HasSequence]
  | case2 rest after hsequence ih =>
      -- The sequence at the start is lost, so what is printed is shorter.
      have hlt := length_lt_of_afterSequence? hsequence
      have hle := length_stripSequences_le after
      have hne : stripSequences after ≠ '\x1B' :: rest := by
        intro hsame
        have hlength := congrArg List.length hsame
        simp only [List.length_cons] at hlength
        omega
      simp [hne, hasSequence_cons_iff, hsequence]
  | case3 rest hsequence ih => simp [ih, hasSequence_cons_iff, hsequence]
  | case4 c rest hescape ih => simp [ih, hasSequence_cons_iff, hescape]

/-- A text without the escape character is printed as it is. -/
theorem plain_of_notMem {text : String} (h : '\x1B' ∉ text.toList) : plain text = text := by
  rw [plain, stripSequences_of_notMem h, String.ofList_toList]

/-- A beginning without the escape character is printed as it is. -/
theorem plain_append {first : String} (h : '\x1B' ∉ first.toList) (rest : String) :
    plain (first ++ rest) = first ++ plain rest := by
  have hstrip {first : List Char} (h : '\x1B' ∉ first) (rest : List Char) :
      stripSequences (first ++ rest) = first ++ stripSequences rest := by
    induction first with
    | nil => rfl
    | cons c first ih =>
        obtain ⟨hc, hfirst⟩ := not_or.mp (mt List.mem_cons.mpr h)
        rw [List.cons_append, stripSequences, if_neg (Ne.symm hc), ih hfirst, List.cons_append]
  rw [plain, plain, String.toList_append, hstrip h, String.ofList_append, String.ofList_toList]

/-- A line end belongs to no escape sequence. -/
theorem afterSequence?_lineEnd (text : List Char) :
    afterSequence? (text ++ ['\n']) = (afterSequence? text).map (· ++ ['\n']) := by
  cases text with
  | nil => rfl
  | cons c rest =>
      by_cases hc : c = '['
      · subst hc
        simp only [List.cons_append, afterSequence?, List.dropWhile_append]
        cases hdrop : rest.dropWhile isParameter with
        | nil => decide
        | cons d after =>
            simp only [List.isEmpty_cons, Bool.false_eq_true, if_false, List.cons_append]
            split <;> rfl
      · simp [afterSequence?, hc]

theorem stripSequences_lineEnd (text : List Char) :
    stripSequences (text ++ ['\n']) = stripSequences text ++ ['\n'] := by
  fun_induction stripSequences text with
  | case1 => exact stripSequences_of_notMem (by decide)
  | case2 rest after hsequence ih =>
      have hlater : afterSequence? (rest ++ ['\n']) = some (after ++ ['\n']) := by
        rw [afterSequence?_lineEnd, hsequence]
        rfl
      rw [List.cons_append, stripSequences, if_pos rfl]
      split
      · next other hother =>
          obtain rfl : after ++ ['\n'] = other := Option.some.inj (hlater.symm.trans hother)
          exact ih
      · next hnone => simp [hlater] at hnone
  | case3 rest hsequence ih =>
      have hlater : afterSequence? (rest ++ ['\n']) = none := by
        rw [afterSequence?_lineEnd, hsequence]
        rfl
      rw [List.cons_append, stripSequences, if_pos rfl]
      split
      · next other hother => simp [hlater] at hother
      · rw [ih, List.cons_append]
  | case4 c rest hescape ih =>
      rw [List.cons_append, stripSequences, if_neg hescape, ih, List.cons_append]

/-- A line is printed as a line. -/
theorem plain_lineEnd (text : String) : plain (text ++ "\n") = plain text ++ "\n" := by
  have hend : ("\n" : String).toList = ['\n'] := rfl
  rw [plain, plain, String.toList_append, hend, stripSequences_lineEnd, String.ofList_append]

/-- A text as it is printed is the text exactly if no escape sequence stands in it. -/
theorem plain_eq_self_iff {text : String} : plain text = text ↔ ¬HasSequence text.toList := by
  rw [← stripSequences_eq_self_iff, plain, ← String.toList_inj, String.toList_ofList]

end Console

end FormatLauncher

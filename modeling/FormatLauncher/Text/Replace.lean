/-
# Replacing one occurrence

A needle is replaced at its leftmost occurrence, once.  The text before that occurrence and the
text after it are kept as they are.
-/

namespace FormatLauncher.Text

/-- What is left after the given beginning, when the text begins with it. -/
def afterStart? : (start text : List Char) → Option (List Char)
  | [], text => some text
  | _ :: _, [] => none
  | s :: start, c :: text => if s = c then afterStart? start text else none

/-- A text that begins with `start` is `start` and what is left. -/
theorem afterStart?_eq_some_iff {start text rest : List Char} :
    afterStart? start text = some rest ↔ text = start ++ rest := by
  induction start generalizing text with
  | nil => simp [afterStart?, eq_comm]
  | cons s start ih =>
    cases text with
    | nil => simp [afterStart?]
    | cons c text =>
      simp only [afterStart?, List.cons_append, List.cons.injEq]
      split
      · next h => simp [h, ih]
      · next h => simp [Ne.symm h]

/-- The texts before and after the leftmost occurrence of the needle. -/
def splitAtFirst? (needle : List Char) : List Char → Option (List Char × List Char)
  | [] => (afterStart? needle []).map fun rest => ([], rest)
  | c :: text =>
    match afterStart? needle (c :: text) with
    | some rest => some ([], rest)
    | none => (splitAtFirst? needle text).map fun (before, rest) => (c :: before, rest)

/-- A split text is what came before, the needle, and what came after. -/
theorem eq_append_of_splitAtFirst? {needle text before rest : List Char}
    (h : splitAtFirst? needle text = some (before, rest)) : text = before ++ needle ++ rest := by
  induction text generalizing before with
  | nil =>
    simp only [splitAtFirst?, Option.map_eq_some_iff, Prod.mk.injEq] at h
    obtain ⟨_, hrest, rfl, rfl⟩ := h
    simpa using afterStart?_eq_some_iff.1 hrest
  | cons c text ih =>
    simp only [splitAtFirst?] at h
    split at h
    · next hrest =>
      simp only [Option.some.injEq, Prod.mk.injEq] at h
      obtain ⟨rfl, rfl⟩ := h
      simpa using afterStart?_eq_some_iff.1 hrest
    · simp only [Option.map_eq_some_iff, Prod.mk.injEq] at h
      obtain ⟨⟨before', rest'⟩, hsplit, rfl, rfl⟩ := h
      simp [ih hsplit]

/-- The text with the leftmost occurrence of the needle replaced; unchanged when there is none. -/
def replaceFirst (needle replacement text : List Char) : List Char :=
  match splitAtFirst? needle text with
  | some (before, rest) => before ++ replacement ++ rest
  | none => text

/-- A text without the needle is unchanged. -/
theorem replaceFirst_of_none {needle text : List Char} (replacement : List Char)
    (h : splitAtFirst? needle text = none) : replaceFirst needle replacement text = text := by
  simp [replaceFirst, h]

end FormatLauncher.Text

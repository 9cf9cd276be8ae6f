/-
# First occurrences

Replacing the leftmost occurrence of a needle is exact: it happens at one place, and a replacement
that happens there for every new text says where the needle first occurs.
-/

import FormatLauncher.Text.Replace

namespace FormatLauncher.Text

/-- Where a needle first occurs in a text. -/
def first? (needle text : List Char) : Option Nat :=
  (splitAtFirst? needle text).map fun split => split.1.length

/-- A text that contains the needle has a first occurrence, no later than any other. -/
theorem splitAtFirst?_append (needle before rest : List Char) :
    ∃ before' rest', splitAtFirst? needle (before ++ needle ++ rest) = some (before', rest') ∧
      before'.length ≤ before.length := by
  induction before with
  | nil =>
      have hstart : afterStart? needle (needle ++ rest) = some rest :=
        afterStart?_eq_some_iff.mpr rfl
      refine ⟨[], rest, ?_, by simp⟩
      rw [List.nil_append]
      cases htext : needle ++ rest with
      | nil =>
          rw [htext] at hstart
          simp_all [splitAtFirst?]
      | cons c text =>
          rw [htext] at hstart
          simp [splitAtFirst?, hstart]
  | cons c before ih =>
      rcases ih with ⟨before', rest', hsplit, hle⟩
      simp only [List.cons_append, splitAtFirst?]
      split
      · exact ⟨[], _, rfl, by simp⟩
      · exact ⟨c :: before', rest', by rw [hsplit]; rfl, by simpa using hle⟩

/-- What replacing does at a first occurrence. -/
theorem exists_of_first?_eq_some {needle text : List Char} {p : Nat}
    (h : first? needle text = some p) :
    ∃ before rest, text = before ++ needle ++ rest ∧ before.length = p ∧
      ∀ replacement, replaceFirst needle replacement text = before ++ replacement ++ rest := by
  obtain ⟨⟨before, rest⟩, hsplit, hlength⟩ := Option.map_eq_some_iff.mp h
  exact ⟨before, rest, eq_append_of_splitAtFirst? hsplit, hlength, fun _ => by
    simp [replaceFirst, hsplit]⟩

/-- A needle first occurs somewhere exactly if it occurs. -/
theorem first?_eq_none_iff {needle text : List Char} :
    first? needle text = none ↔ ¬needle <:+: text := by
  constructor
  · rintro hnone ⟨before, rest, rfl⟩
    obtain ⟨before', rest', hsplit, -⟩ := splitAtFirst?_append needle before rest
    rw [first?, hsplit] at hnone
    cases hnone
  · intro habsent
    cases hfirst : first? needle text with
    | none => rfl
    | some p =>
        obtain ⟨before, rest, htext, -⟩ := exists_of_first?_eq_some hfirst
        exact absurd ⟨before, rest, htext.symm⟩ habsent

theorem replaceFirst_of_first?_eq_none {needle text : List Char} (h : first? needle text = none)
    (replacement : List Char) : replaceFirst needle replacement text = text :=
  replaceFirst_of_none replacement (Option.map_eq_none_iff.mp h)

/-- Replacing an occurrence that is known to be the first. -/
theorem replaceFirst_append {needle before rest : List Char}
    (h : first? needle (before ++ needle ++ rest) = some before.length) (replacement : List Char) :
    replaceFirst needle replacement (before ++ needle ++ rest) = before ++ replacement ++ rest := by
  obtain ⟨before', rest', htext, hlength, hreplace⟩ := exists_of_first?_eq_some h
  rw [List.append_assoc, List.append_assoc] at htext
  obtain ⟨hbefore, htail⟩ := List.append_inj htext hlength.symm
  obtain rfl : rest = rest' := List.append_cancel_left htail
  rw [hreplace, hbefore]

/-- Where the needle does not begin, replacing goes on after the character. -/
theorem replaceFirst_cons_of_none {needle text : List Char} {c : Char}
    (h : afterStart? needle (c :: text) = none) (replacement : List Char) :
    replaceFirst needle replacement (c :: text) = c :: replaceFirst needle replacement text := by
  rw [replaceFirst, replaceFirst, splitAtFirst?, h]
  cases splitAtFirst? needle text with
  | none => rfl
  | some split => rfl

/-- A stretch without the first character of the needle is passed over. -/
theorem replaceFirst_append_of_notMem {c : Char} {needle before : List Char} (h : c ∉ before)
    (replacement text : List Char) :
    replaceFirst (c :: needle) replacement (before ++ text) =
      before ++ replaceFirst (c :: needle) replacement text := by
  induction before with
  | nil => rfl
  | cons first before ih =>
      obtain ⟨hfirst, hbefore⟩ := List.ne_and_not_mem_of_not_mem_cons h
      have hnone : afterStart? (c :: needle) (first :: (before ++ text)) = none := by
        rw [afterStart?, if_neg hfirst]
      rw [List.cons_append, replaceFirst_cons_of_none hnone, ih hbefore, List.cons_append]

/-- A needle at the start is the one that is replaced. -/
theorem replaceFirst_needle_append (needle replacement rest : List Char) :
    replaceFirst needle replacement (needle ++ rest) = replacement ++ rest := by
  obtain ⟨before, rest', hsplit, hle⟩ := splitAtFirst?_append needle [] rest
  obtain rfl := List.length_eq_zero_iff.mp (Nat.le_zero.mp hle)
  rw [List.nil_append] at hsplit
  have htext := eq_append_of_splitAtFirst? hsplit
  rw [List.nil_append, List.append_cancel_left_eq] at htext
  rw [replaceFirst, hsplit, htext]
  rfl

/-- A needle that is never replaced does not occur. -/
theorem first?_eq_none_of_replaceFirst {needle text : List Char} (hneedle : needle ≠ [])
    (h : ∀ replacement, replaceFirst needle replacement text = text) :
    first? needle text = none := by
  cases hfirst : first? needle text with
  | none => rfl
  | some p =>
      obtain ⟨before, rest, htext, -, hreplace⟩ := exists_of_first?_eq_some hfirst
      have hempty := h []
      rw [hreplace, htext] at hempty
      simpa [hneedle] using congrArg List.length hempty

/-- A replacement that is long enough and ends in a mark shows where it was put. -/
theorem getElem?_mark (before rest : List Char) (n : Nat) :
    (before ++ (List.replicate n 'a' ++ ['b']) ++ rest)[before.length + n]? = some 'b' := by
  rw [List.append_assoc, List.getElem?_append_right (by omega), Nat.add_sub_cancel_left,
    List.append_assoc, List.getElem?_append_right (by simp)]
  simp

/-- An occurrence that is replaced whatever the replacement is the first. -/
theorem first?_eq_of_replaceFirst {needle before rest : List Char}
    (h : ∀ replacement, replaceFirst needle replacement (before ++ needle ++ rest) =
      before ++ replacement ++ rest) :
    first? needle (before ++ needle ++ rest) = some before.length := by
  obtain ⟨before', rest', hsplit, hle⟩ := splitAtFirst?_append needle before rest
  rcases Nat.lt_or_eq_of_le hle with hlt | heq
  · have hsame : before' ++ (List.replicate before.length 'a' ++ ['b']) ++ rest' =
        before ++ (List.replicate before.length 'a' ++ ['b']) ++ rest := by
      rw [← h, replaceFirst, hsplit]
    have hmark := getElem?_mark before' rest' before.length
    rw [hsame, List.append_assoc, List.getElem?_append_right (by omega), Nat.add_sub_cancel,
      List.append_assoc, List.getElem?_append_left (by simpa using hlt)] at hmark
    simp [hlt] at hmark
  · rw [first?, hsplit, Option.map_some, heq]

end FormatLauncher.Text

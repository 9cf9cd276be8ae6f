/-
# What expanding leaves over

A token is a dollar sign and a body in braces; the body is not empty and has no closing brace.  The
groups of a text are found from left to right, each one after the end of the one before.  So there
is a group exactly if there is a token anywhere, and something is left over exactly if an expanded
text holds a token.
-/

import FormatLauncher.Placeholder

namespace FormatLauncher.Placeholder

/-- Somewhere in the text there is a token. -/
def HoldsToken (text : List Char) : Prop :=
  ∃ before body after, text = before ++ '$' :: '{' :: (body ++ '}' :: after) ∧
    body ≠ [] ∧ '}' ∉ body

/-- What stands before the first closing brace, and what stands from there on. -/
theorem takeWhile_and_dropWhile {body : List Char} (hfree : '}' ∉ body) (after : List Char) :
    (body ++ '}' :: after).takeWhile (· ≠ '}') = body ∧
      (body ++ '}' :: after).dropWhile (· ≠ '}') = '}' :: after := by
  have hbody : ∀ c ∈ body, decide (c ≠ '}') = true := fun c hc => by
    simpa using fun hclose : c = '}' => hfree (hclose ▸ hc)
  rw [List.takeWhile_append_of_pos hbody, List.dropWhile_append_of_pos hbody]
  simp

/-- Without a closing brace nothing stands from it on. -/
theorem dropWhile_of_notMem {text : List Char} (h : '}' ∉ text) :
    text.dropWhile (· ≠ '}') = [] := by
  rw [← List.append_nil text, List.dropWhile_append_of_pos]
  · rfl
  · intro c hc
    simpa using fun hclose : c = '}' => h (hclose ▸ hc)

/-- A group at the start of a text is a token that the text starts with. -/
theorem groupAt?_eq_some_iff {text body after : List Char} :
    groupAt? text = some (body, after) ↔
      text = '$' :: '{' :: (body ++ '}' :: after) ∧ body ≠ [] ∧ '}' ∉ body := by
  constructor
  · intro h
    unfold groupAt? at h
    split at h
    · next rest =>
        by_cases hclosed : '}' ∈ rest
        · obtain ⟨first, tail, rfl, hfree⟩ := List.eq_append_cons_of_mem hclosed
          obtain ⟨htake, hdrop⟩ := takeWhile_and_dropWhile hfree tail
          dsimp only at h
          rw [htake, hdrop] at h
          by_cases hfirst : first = []
          · simp [hfirst] at h
          · obtain ⟨rfl, rfl⟩ : first = body ∧ tail = after := by simpa [hfirst] using h
            exact ⟨rfl, hfirst, hfree⟩
        · dsimp only at h
          rw [dropWhile_of_notMem hclosed] at h
          cases h
    · cases h
  · rintro ⟨rfl, hbody, hfree⟩
    obtain ⟨htake, hdrop⟩ := takeWhile_and_dropWhile hfree after
    simp only [groupAt?, htake, hdrop, if_neg hbody]

/-- A text without a group has no token. -/
theorem groups_eq_nil_iff (text : List Char) : groups text = [] ↔ ¬HoldsToken text := by
  induction text using groups.induct with
  | case1 => simp [groups, HoldsToken]
  | case2 c rest body after hgroup ih =>
      have htoken : HoldsToken (c :: rest) := ⟨[], body, after, groupAt?_eq_some_iff.mp hgroup⟩
      have hsome : groups (c :: rest) ≠ [] := by
        rw [groups]
        split <;> simp_all
      exact iff_of_false hsome (not_not_intro htoken)
  | case3 c rest hgroup ih =>
      have hrest : groups (c :: rest) = groups rest := by
        rw [groups]
        split <;> simp_all
      rw [hrest, ih]
      refine not_congr ⟨?_, ?_⟩
      · rintro ⟨before, body, after, rfl, htoken⟩
        exact ⟨c :: before, body, after, rfl, htoken⟩
      · rintro ⟨before, body, after, htext, htoken⟩
        cases before with
        | nil =>
            rw [groupAt?_eq_some_iff.mpr ⟨htext, htoken⟩] at hgroup
            cases hgroup
        | cons first before => exact ⟨before, body, after, (List.cons.inj htext).2, htoken⟩

instance (text : List Char) : Decidable (HoldsToken text) :=
  decidable_of_iff (groups text ≠ []) (by rw [Ne, groups_eq_nil_iff, Classical.not_not])

theorem sortedOnce_eq_nil_iff {texts : List String} : sortedOnce texts = [] ↔ texts = [] := by
  rw [sortedOnce]
  constructor
  · intro h
    cases hsorted : texts.mergeSort fun a b => decide (a ≤ b) with
    | nil =>
        have hlength := congrArg List.length hsorted
        rwa [List.length_mergeSort, List.length_nil, List.length_eq_zero_iff] at hlength
    | cons first rest => simp [hsorted, List.eraseDups_cons] at h
  · rintro rfl
    simp

/-- Expanding values leaves a token in one of the texts. -/
def LeavesToken (values : List String) (context : Context) (interpreter : Option (List String)) :
    Prop :=
  ∃ text ∈ (expandAll values context interpreter).texts, HoldsToken text.toList

instance (values : List String) (context : Context) (interpreter : Option (List String)) :
    Decidable (LeavesToken values context interpreter) :=
  inferInstanceAs (Decidable (∃ text ∈ (expandAll values context interpreter).texts,
    HoldsToken text.toList))

/-- Something is left over exactly if a token is left. -/
theorem leftovers_eq_nil_iff {values : List String} {context : Context}
    {interpreter : Option (List String)} :
    (expandAll values context interpreter).leftovers = [] ↔
      ¬LeavesToken values context interpreter := by
  rw [expandAll, sortedOnce_eq_nil_iff, List.flatMap_eq_nil_iff]
  simp [LeavesToken, expandAll, groups_eq_nil_iff]

end FormatLauncher.Placeholder

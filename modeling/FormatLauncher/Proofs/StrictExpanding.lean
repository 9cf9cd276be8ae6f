/-
# What strict expanding adds

Strict expanding is lenient expanding and a check that no token is left over.  The check reads every
expanded text from left to right: the first token that begins counts, and reading goes on after its
end.  What it finds this way does not depend on how it looks, and it finds something exactly if
there is a token anywhere.
-/

import FormatLauncher.Proofs.Action
import FormatLauncher.Proofs.Leftovers
import Mathlib.Data.String.Basic

namespace FormatLauncher.Placeholder

/-! ## Reading from left to right -/

/-- The text is one token. -/
def IsToken (text : List Char) : Prop :=
  ∃ body, text = '$' :: '{' :: (body ++ ['}']) ∧ body ≠ [] ∧ '}' ∉ body

/-- What reading a text from left to right meets: a token before which none begins, and then what
follows its end. -/
inductive Meets : List Char → List (List Char) → Prop
  | nothing {text : List Char} (hnone : ¬HoldsToken text) : Meets text []
  | token {before token after : List Char} {tokens : List (List Char)} (htoken : IsToken token)
      (hfirst : ∀ earlier other rest, before ++ token ++ after = earlier ++ other ++ rest →
        IsToken other → before.length ≤ earlier.length)
      (hrest : Meets after tokens) : Meets (before ++ token ++ after) (token :: tokens)

/-- There is no group at the start of a text exactly if the text does not start with a token. -/
theorem groupAt?_eq_none_iff {text : List Char} :
    groupAt? text = none ↔ ∀ token after, IsToken token → text ≠ token ++ after := by
  rw [Option.eq_none_iff_forall_ne_some]
  constructor
  · rintro hnone token after ⟨body, rfl, htoken⟩ rfl
    exact hnone (body, after) (groupAt?_eq_some_iff.mpr ⟨by simp, htoken⟩)
  · rintro hnone ⟨body, after⟩ hgroup
    obtain ⟨rfl, htoken⟩ := groupAt?_eq_some_iff.mp hgroup
    exact hnone _ after ⟨body, rfl, htoken⟩ (by simp)

theorem groups_of_groupAt?_eq_none {c : Char} {rest : List Char}
    (h : groupAt? (c :: rest) = none) : groups (c :: rest) = groups rest := by
  rw [groups]
  split <;> simp_all

/-- A token at the start of a text is its first group. -/
theorem groups_token_append {token : List Char} (htoken : IsToken token) (after : List Char) :
    groups (token ++ after) = token :: groups after := by
  obtain ⟨body, rfl, hbody⟩ := htoken
  have hgroup : groupAt? ('$' :: '{' :: (body ++ ['}']) ++ after) = some (body, after) :=
    groupAt?_eq_some_iff.mpr ⟨by simp, hbody⟩
  rw [List.cons_append] at hgroup ⊢
  rw [groups]
  split <;> simp_all

/-- A token before which none begins is the first group. -/
theorem groups_append_token {before token after : List Char} (htoken : IsToken token)
    (hfirst : ∀ earlier other rest, before ++ token ++ after = earlier ++ other ++ rest →
      IsToken other → before.length ≤ earlier.length) :
    groups (before ++ token ++ after) = token :: groups after := by
  induction before with
  | nil => exact groups_token_append htoken after
  | cons c before ih =>
      have hnone : groupAt? (c :: (before ++ token ++ after)) = none :=
        groupAt?_eq_none_iff.mpr fun other rest hother hsame => by
          simpa using hfirst [] other rest hsame hother
      refine (groups_of_groupAt?_eq_none hnone).trans (ih fun earlier other rest hsame hother => ?_)
      simpa using hfirst (c :: earlier) other rest (by simpa using hsame) hother

/-- A character in front that begins no token changes nothing of what is met. -/
theorem Meets.cons {c : Char} {text : List Char} {tokens : List (List Char)}
    (h : Meets text tokens) (hnone : groupAt? (c :: text) = none) : Meets (c :: text) tokens := by
  cases h with
  | nothing hrest =>
      rw [← groups_eq_nil_iff] at hrest
      exact .nothing (by rwa [← groups_eq_nil_iff, groups_of_groupAt?_eq_none hnone])
  | @token before token after tokens htoken hfirst hrest =>
      show Meets ((c :: before) ++ token ++ after) (token :: tokens)
      refine .token htoken (fun earlier other rest hsame hother => ?_) hrest
      cases earlier with
      | nil => exact absurd hsame (groupAt?_eq_none_iff.mp hnone other rest hother)
      | cons first earlier =>
          have htail : before ++ token ++ after = earlier ++ other ++ rest := by
            simpa using (List.cons.inj hsame).2
          simpa using hfirst earlier other rest htail hother

/-- What reading a text from left to right meets are its groups, and nothing else. -/
theorem meets_iff {text : List Char} {tokens : List (List Char)} :
    Meets text tokens ↔ groups text = tokens := by
  constructor
  · intro h
    induction h with
    | nothing hnone => exact (groups_eq_nil_iff _).mpr hnone
    | token htoken hfirst hrest ih => rw [groups_append_token htoken hfirst, ih]
  · rintro rfl
    induction text using groups.induct with
    | case1 =>
        have hnil : groups [] = [] := by rw [groups]
        rw [hnil]
        exact .nothing ((groups_eq_nil_iff []).mp hnil)
    | case2 c rest body after hgroup ih =>
        obtain ⟨htext, hbody⟩ := groupAt?_eq_some_iff.mp hgroup
        have htoken : IsToken ('$' :: '{' :: (body ++ ['}'])) := ⟨body, rfl, hbody⟩
        have hmeets : Meets ([] ++ ('$' :: '{' :: (body ++ ['}'])) ++ after) _ :=
          .token htoken (by simp) ih
        rw [List.nil_append, ← groups_token_append htoken] at hmeets
        simpa [htext] using hmeets
    | case3 c rest hnone ih =>
        rw [groups_of_groupAt?_eq_none hnone]
        exact ih.cons hnone

/-- Empty braces are no token, and what looks like a token inside another one does not count. -/
example : groups "$\x7b\x7d$\x7ba$\x7bb\x7d\x7d".toList = ["$\x7ba$\x7bb\x7d".toList] := by
  cbv

/-! ## The list of leftovers -/

@[simp]
theorem mem_sortedOnce {text : String} {texts : List String} :
    text ∈ sortedOnce texts ↔ text ∈ texts := by
  simp [sortedOnce]

theorem eraseDups_sublist {α : Type} [BEq α] (values : List α) :
    values.eraseDups.Sublist values := by
  induction h : values.length using Nat.strong_induction_on generalizing values with
  | _ n ih =>
      cases values with
      | nil => simp
      | cons first rest =>
          rw [List.eraseDups_cons]
          have hfewer : (rest.filter fun other => !other == first).length < n := by
            rw [← h, List.length_cons]
            exact Nat.lt_succ_of_le (List.length_filter_le _ _)
          exact ((ih _ hfewer _ rfl).trans List.filter_sublist).cons_cons first

theorem nodup_eraseDups {α : Type} [BEq α] [LawfulBEq α] (values : List α) :
    values.eraseDups.Nodup := by
  induction h : values.length using Nat.strong_induction_on generalizing values with
  | _ n ih =>
      cases values with
      | nil => simp
      | cons first rest =>
          rw [List.eraseDups_cons, List.nodup_cons]
          refine ⟨by simp, ih _ ?_ _ rfl⟩
          rw [← h, List.length_cons]
          exact Nat.lt_succ_of_le (List.length_filter_le _ _)

/-- Texts in order, each once, are in strictly increasing order. -/
theorem pairwise_sortedOnce (texts : List String) : (sortedOnce texts).Pairwise (· < ·) := by
  have hsorted : (texts.mergeSort fun a b => decide (a ≤ b)).Pairwise (· ≤ ·) := by
    have hpairwise := @List.pairwise_mergeSort String (fun a b => decide (a ≤ b))
      (fun a b c hab hbc => by
        simpa using String.le_trans (by simpa using hab) (by simpa using hbc))
      (fun a b => by simpa using String.le_total a b) texts
    simpa only [decide_eq_true_eq] using hpairwise
  have hle : (sortedOnce texts).Pairwise (· ≤ ·) := hsorted.sublist (eraseDups_sublist _)
  have hne : (sortedOnce texts).Pairwise (· ≠ ·) := nodup_eraseDups _
  exact (hle.and hne).imp fun ⟨hle, hne⟩ => lt_of_le_of_ne hle hne

/-- The leftovers of an expansion are what reading its texts meets. -/
theorem mem_leftovers_iff {values : List String} {context : Context}
    {interpreter : Option (List String)} {token : String} :
    token ∈ (expandAll values context interpreter).leftovers ↔
      ∃ text ∈ (expandAll values context interpreter).texts, ∃ tokens,
        Meets text.toList tokens ∧ token.toList ∈ tokens := by
  rw [expandAll, mem_sortedOnce, List.mem_flatMap]
  refine exists_congr fun text => and_congr_right fun _ => ?_
  rw [List.mem_map]
  constructor
  · rintro ⟨group, hgroup, rfl⟩
    exact ⟨_, meets_iff.mpr rfl, by simpa using hgroup⟩
  · rintro ⟨tokens, hmeets, htoken⟩
    rw [← meets_iff.mp hmeets] at htoken
    exact ⟨_, htoken, by simp⟩

/-! ## Strictly and leniently -/

/-- Settling an expansion: without leftovers its texts, and otherwise a failure or a warning. -/
theorem Expansion.outcome_settle (expansion : Expansion) (strict : Bool) (w : World) :
    (expansion.settle strict).outcome w =
      if expansion.leftovers = [] then (.ok expansion.texts, w)
      else if strict then (.error (.configuration (.unresolved expansion.leftovers)), w)
      else (.ok expansion.texts, w.logging [⟨.warning,
        "Unresolved variables left as-is: " ++ Value.textsLiteral expansion.leftovers⟩]) := by
  rw [settle]
  cases hleft : expansion.leftovers with
  | nil => rfl
  | cons token rest => cases strict <;> rfl

/-- Expanding strictly is expanding leniently and a check for leftovers.  The leftovers are the
tokens that are met in the texts of the lenient answer, in order and each once.  Strictly, they are
a failure of the configuration that lists them, exactly if some text holds a token; leniently, they
are one warning that lists them.  Without them nothing is said, and the answers are the same. -/
theorem strict_fails_iff_holdsToken (values : List String) (context : Context)
    (interpreter : Option (List String)) (w : World) :
    let lenient := (resolve values context interpreter false).outcome w
    let strict := (resolve values context interpreter true).outcome w
    ∃ texts leftovers, lenient.1 = .ok texts ∧
      leftovers.Pairwise (· < ·) ∧
      (∀ token, token ∈ leftovers ↔
        ∃ text ∈ texts, ∃ tokens, Meets text.toList tokens ∧ token.toList ∈ tokens) ∧
      ((∃ failure, strict.1 = .error failure ∧ failure.kindName = "ConfigurationError") ↔
        ∃ text ∈ texts, HoldsToken text.toList) ∧
      ((∃ text ∈ texts, HoldsToken text.toList) →
        (∃ failure, strict = (.error failure, w) ∧
          failure.message = "Unresolved variables: " ++ ", ".intercalate leftovers) ∧
        lenient.2 = w.logging
          [⟨.warning, "Unresolved variables left as-is: " ++ Value.textsLiteral leftovers⟩]) ∧
      ((¬∃ text ∈ texts, HoldsToken text.toList) → strict = (.ok texts, w) ∧ lenient.2 = w) := by
  intro lenient strict
  let expansion := expandAll values context interpreter
  have hlenient : lenient = (expansion.settle false).outcome w := rfl
  have hstrict : strict = (expansion.settle true).outcome w := rfl
  have hleft : expansion.leftovers = [] ↔ ¬∃ text ∈ expansion.texts, HoldsToken text.toList :=
    leftovers_eq_nil_iff
  refine ⟨expansion.texts, expansion.leftovers, ?_, pairwise_sortedOnce _,
    fun token => mem_leftovers_iff, ?_⟩
  · rw [hlenient, Expansion.outcome_settle]
    split <;> rfl
  by_cases htoken : ∃ text ∈ expansion.texts, HoldsToken text.toList
  · have hsome : expansion.leftovers ≠ [] := fun hnil => hleft.mp hnil htoken
    rw [Expansion.outcome_settle, if_neg hsome] at hlenient hstrict
    rw [hlenient, hstrict]
    exact ⟨iff_of_true ⟨_, rfl, rfl⟩ htoken, fun _ => ⟨⟨_, rfl, rfl⟩, rfl⟩,
      fun hnone => absurd htoken hnone⟩
  · rw [Expansion.outcome_settle, if_pos (hleft.mpr htoken)] at hlenient hstrict
    rw [hlenient, hstrict]
    exact ⟨iff_of_false (by simp) htoken, fun hsome => absurd hsome htoken,
      fun _ => ⟨rfl, rfl⟩⟩

end FormatLauncher.Placeholder

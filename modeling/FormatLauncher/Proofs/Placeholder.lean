/-
# One replacement after the other

Expanding a text replaces the first occurrence of each token in turn, in the text that the earlier
replacements left.  Replacing all first occurrences of the original text at once is something else:
the two agree when, at every turn, the token first occurs where its first occurrence in the original
text has moved to.  That is also necessary if they are to agree whatever the tokens stand for.
-/

import FormatLauncher.Placeholder
import FormatLauncher.Proofs.Action
import FormatLauncher.Proofs.Text.Replace

namespace FormatLauncher.Placeholder

open Text

/-! ## Replacing at once -/

/-- A position lies in the first occurrence of the token of an entry. -/
def covers (text : List Char) (i : Nat) (entry : String × String) : Bool :=
  match first? entry.1.toList text with
  | some p => p ≤ i && i < p + entry.1.toList.length
  | none => false

/-- What stands for the character at a position: itself when it is in no first occurrence of a
token, the replacement when it is the start of one, and nothing when it is further inside. -/
def shown (table : Bindings) (text : List Char) (position : Char × Nat) : List Char :=
  match table.find? (covers text position.2) with
  | none => [position.1]
  | some (token, replacement) =>
    if first? token.toList text = some position.2 then replacement.toList else []

/-- The text with the first occurrences of all tokens replaced at once. -/
def substitute (table : Bindings) (text : List Char) : List Char :=
  text.zipIdx.flatMap (shown table text)

/-- What the part of the text before a position becomes. -/
def substituteBefore (table : Bindings) (text : List Char) (p : Nat) : List Char :=
  (text.take p).zipIdx.flatMap (shown table text)

/-- The first occurrences of two tokens do not overlap. -/
def Apart (text : List Char) (entry other : String × String) : Prop :=
  ∀ p ∈ first? entry.1.toList text, ∀ q ∈ first? other.1.toList text,
    p + entry.1.toList.length ≤ q ∨ q + other.1.toList.length ≤ p

/-- No two first occurrences of tokens overlap. -/
def DisjointFirsts (table : Bindings) (text : List Char) : Prop := table.Pairwise (Apart text)

instance (text : List Char) (entry other : String × String) :
    Decidable (Apart text entry other) :=
  inferInstanceAs (Decidable (∀ p ∈ first? entry.1.toList text, ∀ q ∈ first? other.1.toList text,
    p + entry.1.toList.length ≤ q ∨ q + other.1.toList.length ≤ p))

instance (table : Bindings) (text : List Char) : Decidable (DisjointFirsts table text) :=
  inferInstanceAs (Decidable (table.Pairwise (Apart text)))

/-- At every turn the token first occurs where its first occurrence in the original text has moved
to, and it does not occur if it did not occur there. -/
def FirstsKept (table : Bindings) (text : List Char) : Prop :=
  ∀ n, (hn : n < table.length) →
    first? table[n].1.toList (substitute (table.take n) text) =
      (first? table[n].1.toList text).map fun p =>
        (substituteBefore (table.take n) text p).length

instance (table : Bindings) (text : List Char) : Decidable (FirstsKept table text) :=
  inferInstanceAs (Decidable (∀ n, (hn : n < table.length) →
    first? table[n].1.toList (substitute (table.take n) text) =
      (first? table[n].1.toList text).map fun p =>
        (substituteBefore (table.take n) text p).length))

theorem shown_append_of_not_covers {done : Bindings} {text : List Char} {entry : String × String}
    {position : Char × Nat} (hcovers : covers text position.2 entry = false) :
    shown (done ++ [entry]) text position = shown done text position := by
  simp [shown, List.find?_append, hcovers]

theorem shown_of_not_covers {done : Bindings} {text : List Char} {position : Char × Nat}
    (hcovers : ∀ entry ∈ done, covers text position.2 entry = false) :
    shown done text position = [position.1] := by
  have hnone : done.find? (covers text position.2) = none := by
    simpa using hcovers
  simp [shown, hnone]

/-- A position in the first occurrence of a token is in that of no token apart from it. -/
theorem not_covers_of_apart {text : List Char} {entry other : String × String} {p i : Nat}
    (hapart : Apart text entry other) (hfirst : first? other.1.toList text = some p)
    (hstart : p ≤ i) (hend : i < p + other.1.toList.length) : covers text i entry = false := by
  rw [covers]
  cases hentry : first? entry.1.toList text with
  | none => rfl
  | some q =>
      have := hapart q hentry p hfirst
      simp only [Bool.and_eq_false_iff, decide_eq_false_iff_not]
      omega

/-- A token that does not occur changes nothing. -/
theorem substitute_append_of_none {done : Bindings} {text : List Char} {token : String}
    (hfirst : first? token.toList text = none) (replacement : String) :
    substitute (done ++ [(token, replacement)]) text = substitute done text := by
  rw [substitute]
  congr 1
  funext position
  exact shown_append_of_not_covers (by simp [covers, hfirst])

/-- Numbered characters that lie outside an occurrence show as they did without its token. -/
theorem flatMap_shown_append {done : Bindings} {text : List Char} {token replacement : String}
    {p : Nat} (hfirst : first? token.toList text = some p) {positions : List (Char × Nat)}
    (houtside : ∀ position ∈ positions,
      position.2 < p ∨ p + token.toList.length ≤ position.2) :
    positions.flatMap (shown (done ++ [(token, replacement)]) text) =
      positions.flatMap (shown done text) := by
  rw [List.flatMap_def, List.flatMap_def]
  refine congrArg List.flatten (List.map_congr_left fun position hposition => ?_)
  apply shown_append_of_not_covers
  have := houtside position hposition
  simp only [covers, hfirst, Bool.and_eq_false_iff, decide_eq_false_iff_not]
  omega

/-- Characters that lie in no first occurrence show as they are. -/
theorem flatMap_shown_of_not_covers {done : Bindings} {text : List Char}
    {positions : List (Char × Nat)}
    (hfree : ∀ position ∈ positions, ∀ entry ∈ done, covers text position.2 entry = false) :
    positions.flatMap (shown done text) = positions.map Prod.fst := by
  rw [List.flatMap_def, List.map_congr_left fun position hposition =>
    shown_of_not_covers (hfree position hposition), ← List.flatMap_def, ← List.map_eq_flatMap]

/-- An occurrence that no earlier token covers shows as its replacement. -/
theorem flatMap_shown_occurrence {done : Bindings} {text : List Char} {token : String} {p : Nat}
    (htoken : token.toList ≠ []) (hfirst : first? token.toList text = some p)
    (hfree : ∀ position ∈ token.toList.zipIdx p, ∀ entry ∈ done,
      covers text position.2 entry = false) (replacement : String) :
    (token.toList.zipIdx p).flatMap (shown (done ++ [(token, replacement)]) text) =
      replacement.toList := by
  have hshown : ∀ position ∈ token.toList.zipIdx p,
      shown (done ++ [(token, replacement)]) text position =
        if position.2 = p then replacement.toList else [] := by
    intro position hposition
    have hnone : done.find? (covers text position.2) = none := by
      simpa using hfree position hposition
    have hcovers : covers text position.2 (token, replacement) = true := by
      simp [covers, hfirst, List.le_snd_of_mem_zipIdx hposition,
        List.snd_lt_add_of_mem_zipIdx hposition]
    simp [shown, List.find?_append, hnone, hcovers, hfirst, eq_comm]
  -- The first character shows as the whole replacement, the others as nothing.
  cases hchars : token.toList with
  | nil => exact absurd hchars htoken
  | cons c chars =>
      rw [hchars, List.zipIdx_cons] at hshown
      have hinside : ∀ position ∈ chars.zipIdx (p + 1),
          shown (done ++ [(token, replacement)]) text position = [] := by
        intro position hposition
        rw [hshown position (List.mem_cons_of_mem _ hposition), if_neg]
        have := List.le_snd_of_mem_zipIdx hposition
        omega
      rw [List.zipIdx_cons, List.flatMap_cons, hshown _ List.mem_cons_self,
        List.flatMap_eq_nil_iff.mpr hinside]
      simp

/-- A token that occurs apart from the others shows as its replacement, and everything else is as
it was. -/
theorem exists_substitute_append {done : Bindings} {text : List Char} {token : String} {p : Nat}
    (htoken : token.toList ≠ []) (hfirst : first? token.toList text = some p)
    (hapart : ∀ entry ∈ done, Apart text entry (token, "")) :
    ∃ rest, substitute done text = substituteBefore done text p ++ token.toList ++ rest ∧
      ∀ replacement, substitute (done ++ [(token, replacement)]) text =
        substituteBefore done text p ++ replacement.toList ++ rest := by
  obtain ⟨before, rest, htext, rfl, -⟩ := exists_of_first?_eq_some hfirst
  have hzip : text.zipIdx = before.zipIdx ++ token.toList.zipIdx before.length ++
      rest.zipIdx (before.length + token.toList.length) := by
    simp [htext, List.zipIdx_append]
  have hbefore : text.take before.length = before := by
    rw [htext, List.append_assoc, List.take_left]
  have hfree : ∀ position ∈ token.toList.zipIdx before.length, ∀ entry ∈ done,
      covers text position.2 entry = false := by
    intro position hposition entry hentry
    exact not_covers_of_apart (hapart entry hentry) hfirst
      (List.le_snd_of_mem_zipIdx hposition) (List.snd_lt_add_of_mem_zipIdx hposition)
  have hleft : ∀ replacement, before.zipIdx.flatMap
      (shown (done ++ [(token, replacement)]) text) = before.zipIdx.flatMap (shown done text) :=
    fun replacement => flatMap_shown_append hfirst fun position hposition =>
      .inl (by simpa using List.snd_lt_add_of_mem_zipIdx hposition)
  have hright : ∀ replacement, (rest.zipIdx (before.length + token.toList.length)).flatMap
      (shown (done ++ [(token, replacement)]) text) =
        (rest.zipIdx (before.length + token.toList.length)).flatMap (shown done text) :=
    fun replacement => flatMap_shown_append hfirst fun position hposition =>
      .inr (List.le_snd_of_mem_zipIdx hposition)
  refine ⟨(rest.zipIdx (before.length + token.toList.length)).flatMap (shown done text), ?_,
    fun replacement => ?_⟩
  · rw [substitute, substituteBefore, hzip, hbefore, List.flatMap_append, List.flatMap_append,
      flatMap_shown_of_not_covers hfree, List.zipIdx_map_fst]
  · rw [substitute, substituteBefore, hzip, hbefore, List.flatMap_append, List.flatMap_append,
      hleft, hright, flatMap_shown_occurrence htoken hfirst hfree]

/-! ## Turn by turn -/

theorem substitute_nil (text : List Char) : substitute [] text = text := by
  rw [substitute, flatMap_shown_of_not_covers (by simp), List.zipIdx_map_fst]

theorem expandChars_append (done : Bindings) (token replacement : String) (text : List Char) :
    expandChars (done ++ [(token, replacement)]) text =
      replaceFirst token.toList replacement.toList (expandChars done text) := by
  simp [expandChars]

/-- One turn replaces what is to be replaced, if the first occurrence is where it has to be. -/
theorem replaceFirst_substitute {done : Bindings} {text : List Char} {token : String}
    (htoken : token.toList ≠ []) (hapart : ∀ entry ∈ done, Apart text entry (token, ""))
    (hkept : first? token.toList (substitute done text) =
      (first? token.toList text).map fun p => (substituteBefore done text p).length)
    (replacement : String) :
    replaceFirst token.toList replacement.toList (substitute done text) =
      substitute (done ++ [(token, replacement)]) text := by
  cases hfirst : first? token.toList text with
  | none =>
      rw [substitute_append_of_none hfirst]
      exact replaceFirst_of_first?_eq_none (by rw [hkept, hfirst]; rfl) _
  | some p =>
      obtain ⟨rest, hdone, hafter⟩ := exists_substitute_append htoken hfirst hapart
      rw [hfirst, Option.map_some, hdone] at hkept
      rw [hafter, hdone]
      exact replaceFirst_append hkept _

/-- If one turn replaces what is to be replaced whatever the token stands for, then the first
occurrence is where it has to be. -/
theorem first?_substitute_of_replaceFirst {done : Bindings} {text : List Char} {token : String}
    (htoken : token.toList ≠ []) (hapart : ∀ entry ∈ done, Apart text entry (token, ""))
    (hturn : ∀ replacement : String,
      replaceFirst token.toList replacement.toList (substitute done text) =
        substitute (done ++ [(token, replacement)]) text) :
    first? token.toList (substitute done text) =
      (first? token.toList text).map fun p => (substituteBefore done text p).length := by
  cases hfirst : first? token.toList text with
  | none =>
      apply first?_eq_none_of_replaceFirst htoken
      intro replacement
      have := hturn (String.ofList replacement)
      rwa [substitute_append_of_none hfirst, String.toList_ofList] at this
  | some p =>
      obtain ⟨rest, hdone, hafter⟩ := exists_substitute_append htoken hfirst hapart
      rw [Option.map_some, hdone]
      apply first?_eq_of_replaceFirst
      intro replacement
      have := hturn (String.ofList replacement)
      rwa [hafter, hdone, String.toList_ofList] at this

section Turns

variable {table : Bindings} {text : List Char}
  (htokens : ∀ entry ∈ table, entry.1.toList ≠ []) (hdisjoint : DisjointFirsts table text)

include hdisjoint in
/-- A token is apart from those before it. -/
theorem apart_of_mem_take {n : Nat} (hn : n < table.length) :
    ∀ entry ∈ table.take n, Apart text entry (table[n].1, "") := by
  intro entry hentry
  obtain ⟨i, hi, rfl⟩ := List.mem_take_iff_getElem.mp hentry
  exact List.pairwise_iff_getElem.mp hdisjoint i n (by omega) hn (by omega)

include htokens hdisjoint in
/-- The turns up to any point replace at once, if all first occurrences are kept. -/
theorem expandChars_take_eq_substitute (hkept : FirstsKept table text) {n : Nat}
    (hn : n ≤ table.length) : expandChars (table.take n) text = substitute (table.take n) text := by
  induction n with
  | zero => simp [expandChars, substitute_nil]
  | succ n ih =>
      rw [List.take_succ_eq_append_getElem hn, expandChars_append, ih (by omega)]
      exact replaceFirst_substitute (htokens _ (List.getElem_mem hn))
        (apart_of_mem_take hdisjoint hn) (hkept n hn) _

include htokens hdisjoint in
/-- First occurrences are kept exactly if every turn replaces at once, whatever its token stands
for. -/
theorem firstsKept_iff :
    FirstsKept table text ↔ ∀ n, (hn : n < table.length) → ∀ replacement,
      expandChars (table.take n ++ [(table[n].1, replacement)]) text =
        substitute (table.take n ++ [(table[n].1, replacement)]) text := by
  constructor
  · intro hkept n hn replacement
    rw [expandChars_append,
      expandChars_take_eq_substitute htokens hdisjoint hkept (Nat.le_of_lt hn)]
    exact replaceFirst_substitute (htokens _ (List.getElem_mem hn))
      (apart_of_mem_take hdisjoint hn) (hkept n hn) replacement
  · intro hturns
    have hdone : ∀ n, n ≤ table.length →
        expandChars (table.take n) text = substitute (table.take n) text := by
      intro n hn
      cases n with
      | zero => simp [expandChars, substitute_nil]
      | succ n =>
          rw [List.take_succ_eq_append_getElem hn]
          exact hturns n hn _
    intro n hn
    refine first?_substitute_of_replaceFirst (htokens _ (List.getElem_mem hn))
      (apart_of_mem_take hdisjoint hn) fun replacement => ?_
    rw [← hturns n hn, expandChars_append, hdone n (Nat.le_of_lt hn)]

end Turns

/-! ## Whole requests -/

/-- Where the entries of a table come from. -/
theorem mem_table_cases {context : Context} {entry : String × String}
    (h : entry ∈ table context) :
    (∃ home, context.home? = some home ∧ entry = (token "userHome", home)) ∨
      (∃ root, context.root = some root ∧ entry = (token "workspaceFolder", root)) ∨
      entry = (token "cwd", context.directory) ∨
      (∃ binding ∈ context.folders,
        entry = (token ("workspaceFolder:" ++ binding.1), binding.2)) ∨
      ∃ binding ∈ context.environment, entry = (token ("env:" ++ binding.1), binding.2) := by
  simp only [table, List.mem_append, List.mem_map, List.mem_singleton, List.mem_filter,
    Option.mem_toList] at h
  rcases h with (((⟨home, hhome, rfl⟩ | ⟨root, hroot, rfl⟩) | rfl) | ⟨binding, hmem, rfl⟩) |
    ⟨binding, ⟨hmem, -⟩, rfl⟩
  · exact .inl ⟨home, hhome, rfl⟩
  · exact .inr (.inl ⟨root, (Option.filter_eq_some_iff.mp hroot).1, rfl⟩)
  · exact .inr (.inr (.inl rfl))
  · exact .inr (.inr (.inr (.inl ⟨binding, hmem, rfl⟩)))
  · exact .inr (.inr (.inr (.inr ⟨binding, hmem, rfl⟩)))

/-- A token is never empty. -/
theorem toList_ne_nil_of_mem_table {context : Context} {entry : String × String}
    (h : entry ∈ table context) : entry.1.toList ≠ [] := by
  have htoken : ∀ name, (token name).toList ≠ [] := by simp [token]
  rcases mem_table_cases h with
    ⟨_, -, rfl⟩ | ⟨_, -, rfl⟩ | rfl | ⟨_, -, rfl⟩ | ⟨_, -, rfl⟩
  all_goals exact htoken _

/-- Resolving comes to the expanded texts, unless it is strict and something is left over. -/
theorem outcome_resolve (values : List String) (context : Context)
    (interpreter : Option (List String)) (strict : Bool) (w : World) :
    ((resolve values context interpreter strict).outcome w).1 =
      if strict && !(expandAll values context interpreter).leftovers.isEmpty then
        .error (.configuration (.unresolved (expandAll values context interpreter).leftovers))
      else .ok (expandAll values context interpreter).texts := by
  unfold resolve Expansion.settle
  cases hleft : (expandAll values context interpreter).leftovers with
  | nil => simp
  | cons token rest => cases strict <;> simp [Except.map]

/-- Without the element for interpreters, resolving expands the elements one by one. -/
theorem resolve_texts {values : List String} (hvalues : interpreterToken ∉ values)
    (context : Context) (interpreter : Option (List String)) (strict : Bool) (w : World) :
    ((resolve values context interpreter strict).outcome w).1 =
      if strict && !(expandAll values context interpreter).leftovers.isEmpty then
        .error (.configuration (.unresolved (expandAll values context interpreter).leftovers))
      else .ok (values.map (expand (table context))) := by
  have hsplice : splice interpreter values = values := by
    cases interpreter with
    | none => rfl
    | some paths =>
        have hsame : ∀ value ∈ values,
            (if value = interpreterToken then paths else [value]) = [value] := by
          intro value hvalue
          rw [if_neg]
          rintro rfl
          exact hvalues hvalue
        rw [splice, List.flatMap_def, List.map_congr_left hsame, ← List.flatMap_def,
          List.flatMap_singleton']
  have htexts : (expandAll values context interpreter).texts =
      values.map (expand (table context)) := by
    rw [expandAll, hsplice]
  rw [outcome_resolve, htexts]

/-- Elements whose tokens first occur apart have them replaced at once if at every turn first
occurrences are kept: leniently this is the answer, and strictly it is the only one.  And they are
kept exactly if every turn replaces at once whatever its token stands for. -/
theorem resolve_eq_substitute {values : List String} {context : Context}
    (hvalues : interpreterToken ∉ values)
    (hdisjoint : ∀ value ∈ values, DisjointFirsts (table context) value.toList)
    (interpreter : Option (List String)) (w : World) :
    ((∀ value ∈ values, FirstsKept (table context) value.toList) →
      let texts := values.map fun value =>
        String.ofList (substitute (table context) value.toList)
      ((resolve values context interpreter false).outcome w).1 = .ok texts ∧
        ∀ found, ((resolve values context interpreter true).outcome w).1 = .ok found →
          found = texts) ∧
    ∀ value ∈ values, FirstsKept (table context) value.toList ↔
      ∀ n, (hn : n < (table context).length) → ∀ replacement,
        expandChars ((table context).take n ++ [((table context)[n].1, replacement)]) value.toList =
          substitute ((table context).take n ++ [((table context)[n].1, replacement)])
            value.toList := by
  have htokens : ∀ entry ∈ table context, entry.1.toList ≠ [] :=
    fun _ => toList_ne_nil_of_mem_table
  refine ⟨?_, fun value hvalue => firstsKept_iff htokens (hdisjoint value hvalue)⟩
  intro hkept
  have hexpand : values.map (expand (table context)) = values.map fun value =>
      String.ofList (substitute (table context) value.toList) := by
    apply List.map_congr_left
    intro value hvalue
    have := expandChars_take_eq_substitute htokens (hdisjoint value hvalue) (hkept value hvalue)
      (Nat.le_refl _)
    rw [List.take_length] at this
    rw [expand, this]
  dsimp only
  rw [← hexpand, resolve_texts hvalues, resolve_texts hvalues]
  refine ⟨by simp, ?_⟩
  intro found hfound
  split at hfound
  · simp at hfound
  · exact (Except.ok.inj hfound).symm

/-- Two tokens apart, the later one bound to a text with a dollar sign. -/
theorem resolve_eq_substitute_apart :
    ((resolve [token "cwd" ++ ":" ++ token "env:A"] ⟨[("A", "$x")], "/work", none, []⟩ none
      false).outcome ⟨⟨[]⟩, fun _ _ _ => none, [], [], [], [], .ample⟩).1 = .ok ["/work:$x"] := by
  have hall := @resolve_eq_substitute [token "cwd" ++ ":" ++ token "env:A"]
    ⟨[("A", "$x")], "/work", none, []⟩ (by decide +kernel) (by decide +kernel) none
    ⟨⟨[]⟩, fun _ _ _ => none, [], [], [], [], .ample⟩
  rw [(hall.1 (by decide +kernel)).1]
  exact congrArg Except.ok (by decide +kernel)

/-- A variable bound to a token that comes later in the table is expanded twice. -/
example :
    expand (table ⟨[("HOME", token "cwd")], "/work", none, []⟩) (token "userHome") = "/work" := by
  decide +kernel

end FormatLauncher.Placeholder

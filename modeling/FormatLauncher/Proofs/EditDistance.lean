/-
# The distance is the least number of edits

One edit inserts, deletes or replaces one character, anywhere in a word.  The least number of edits
that lead from one word to another can be computed from their first characters, and no edit changes
that cost by more than one.  A row of the table holds the costs for all beginnings of one word, read
backwards; so its last entry is the least number of edits.  The option that is kept from the sorted
ones is then the first at the least distance.
-/

import FormatLauncher.EditDistance
import Mathlib.Order.Lattice.Nat

namespace FormatLauncher.EditDistance

/-! ## Edits -/

/-- One edit of a word. -/
inductive Edit : List Char → List Char → Prop
  | insert (before : List Char) (c : Char) (after : List Char) :
    Edit (before ++ after) (before ++ c :: after)
  | delete (before : List Char) (c : Char) (after : List Char) :
    Edit (before ++ c :: after) (before ++ after)
  | replace (before : List Char) (c d : Char) (after : List Char) :
    Edit (before ++ c :: after) (before ++ d :: after)

/-- So many edits, one after the other, lead from a word to another. -/
inductive EditsIn : Nat → List Char → List Char → Prop
  | refl (word : List Char) : EditsIn 0 word word
  | step {n : Nat} {word between other : List Char} (first : Edit word between)
    (rest : EditsIn n between other) : EditsIn (n + 1) word other

/-- The least number of edits that lead from a word to another. -/
noncomputable def leastEdits (word other : List Char) : Nat := sInf {n | EditsIn n word other}

theorem Edit.symm {word other : List Char} (h : Edit word other) : Edit other word := by
  cases h with
  | insert before c after => exact .delete before c after
  | delete before c after => exact .insert before c after
  | replace before c d after => exact .replace before d c after

theorem Edit.cons {word other : List Char} (h : Edit word other) (a : Char) :
    Edit (a :: word) (a :: other) := by
  cases h with
  | insert before c after => exact .insert (a :: before) c after
  | delete before c after => exact .delete (a :: before) c after
  | replace before c d after => exact .replace (a :: before) c d after

theorem Edit.reverse {word other : List Char} (h : Edit word other) :
    Edit word.reverse other.reverse := by
  cases h with
  | insert before c after => simpa using Edit.insert after.reverse c before.reverse
  | delete before c after => simpa using Edit.delete after.reverse c before.reverse
  | replace before c d after => simpa using Edit.replace after.reverse c d before.reverse

namespace EditsIn

variable {n m : Nat} {word between other : List Char}

theorem trans (h : EditsIn n word between) (h' : EditsIn m between other) :
    EditsIn (n + m) word other := by
  induction h with
  | refl => simpa using h'
  | step first rest ih =>
      rw [Nat.add_right_comm]
      exact .step first (ih h')

theorem symm (h : EditsIn n word other) : EditsIn n other word := by
  induction h with
  | refl word => exact .refl word
  | step first rest ih => exact ih.trans (.step first.symm (.refl _))

theorem cons (h : EditsIn n word other) (a : Char) : EditsIn n (a :: word) (a :: other) := by
  induction h with
  | refl => exact .refl _
  | step first rest ih => exact .step (first.cons a) ih

theorem reverse (h : EditsIn n word other) : EditsIn n word.reverse other.reverse := by
  induction h with
  | refl => exact .refl _
  | step first rest ih => exact .step first.reverse ih

theorem reverse_iff : EditsIn n word.reverse other.reverse ↔ EditsIn n word other :=
  ⟨fun h => by simpa using h.reverse, reverse⟩

theorem symm_iff : EditsIn n other word ↔ EditsIn n word other := ⟨symm, symm⟩

end EditsIn

/-! ## The cost of turning one word into another -/

/-- The cost of turning a word into another: the first characters are deleted, inserted or replaced,
whichever is cheapest, and a character replaces itself for free. -/
def cost : List Char → List Char → Nat
  | [], other => other.length
  | word, [] => word.length
  | a :: word, b :: other =>
    min (cost word (b :: other) + 1)
      (min (cost (a :: word) other + 1) (cost word other + if a = b then 0 else 1))

@[simp]
theorem cost_nil_left (other : List Char) : cost [] other = other.length := by rw [cost]

@[simp]
theorem cost_nil_right (word : List Char) : cost word [] = word.length := by
  cases word <;> simp [cost]

theorem cost_cons_cons (a b : Char) (word other : List Char) :
    cost (a :: word) (b :: other) = min (cost word (b :: other) + 1)
      (min (cost (a :: word) other + 1) (cost word other + if a = b then 0 else 1)) := by
  rw [cost]

/-- There are as many edits as the cost says. -/
theorem editsIn_cost (word other : List Char) : EditsIn (cost word other) word other := by
  have hnil (other : List Char) : EditsIn other.length [] other := by
    induction other with
    | nil => exact .refl []
    | cons b other ih => exact .step (.insert [] b []) (ih.cons b)
  induction word, other using cost.induct with
  | case1 other => simpa using hnil other
  | case2 word => simpa using (hnil word).symm
  | case3 a word b other hdelete hinsert hreplace =>
      have deleted : EditsIn (cost word (b :: other) + 1) (a :: word) (b :: other) :=
        .step (.delete [] a word) hdelete
      have inserted : EditsIn (cost (a :: word) other + 1) (a :: word) (b :: other) :=
        .step (.insert [] b (a :: word)) (hinsert.cons b)
      have replaced : EditsIn (cost word other + if a = b then 0 else 1) (a :: word)
          (b :: other) := by
        split
        · next hsame => exact hsame ▸ hreplace.cons a
        · exact .step (.replace [] a b word) (hreplace.cons b)
      rw [cost_cons_cons]
      rcases min_choice (cost word (b :: other) + 1) (min (cost (a :: word) other + 1)
        (cost word other + if a = b then 0 else 1)) with hmin | hmin
      · rwa [hmin]
      · rw [hmin]
        rcases min_choice (cost (a :: word) other + 1)
          (cost word other + if a = b then 0 else 1) with hmin | hmin
        · rwa [hmin]
        · rwa [hmin]

/-- Inserting a first character changes the cost by one at most. -/
theorem cost_cons_le (a : Char) (word other : List Char) :
    cost (a :: word) other ≤ cost word other + 1 := by
  cases other with
  | nil => simp
  | cons b other =>
      rw [cost_cons_cons]
      exact min_le_left _ _

/-- Deleting a first character changes the cost by one at most. -/
theorem cost_le_cost_cons (a : Char) (word other : List Char) :
    cost word other ≤ cost (a :: word) other + 1 := by
  induction other with
  | nil => simp; omega
  | cons b other ih =>
      have hinsert : cost word (b :: other) ≤ cost word other + 1 := by
        cases word with
        | nil => simp
        | cons c word =>
            rw [cost_cons_cons]
            omega
      rw [cost_cons_cons]
      omega

/-- Replacing a first character changes the cost by one at most. -/
theorem cost_cons_le_cost_cons (a b : Char) (word other : List Char) :
    cost (a :: word) other ≤ cost (b :: word) other + 1 := by
  induction other with
  | nil => simp
  | cons c other ih =>
      rw [cost_cons_cons, cost_cons_cons]
      split <;> split <;> omega

/-- What changes the cost by one at most still does so below a first character. -/
theorem cost_cons_le_of_forall {word changed : List Char}
    (h : ∀ other, cost word other ≤ cost changed other + 1) (a : Char) (other : List Char) :
    cost (a :: word) other ≤ cost (a :: changed) other + 1 := by
  induction other with
  | nil => simpa using h []
  | cons b other ih =>
      have := h (b :: other)
      have := h other
      rw [cost_cons_cons, cost_cons_cons]
      omega

/-- No edit changes the cost by more than one. -/
theorem cost_le_of_edit {word changed : List Char} (h : Edit word changed) (other : List Char) :
    cost word other ≤ cost changed other + 1 := by
  cases h with
  | insert before c after =>
      induction before generalizing other with
      | nil => exact cost_le_cost_cons c after other
      | cons a before ih => exact cost_cons_le_of_forall ih a other
  | delete before c after =>
      induction before generalizing other with
      | nil => exact cost_cons_le c after other
      | cons a before ih => exact cost_cons_le_of_forall ih a other
  | replace before c d after =>
      induction before generalizing other with
      | nil => exact cost_cons_le_cost_cons c d after other
      | cons a before ih => exact cost_cons_le_of_forall ih a other

@[simp]
theorem cost_self (word : List Char) : cost word word = 0 := by
  induction word with
  | nil => simp
  | cons a word ih => simp [cost_cons_cons, ih]

/-- There are no fewer edits than the cost says. -/
theorem cost_le_of_editsIn {n : Nat} {word other : List Char} (h : EditsIn n word other) :
    cost word other ≤ n := by
  induction h with
  | refl word => simp
  | step first rest ih => exact (cost_le_of_edit first _).trans (Nat.add_le_add_right ih 1)

/-- The cost is the least number of edits. -/
theorem isLeast_cost (word other : List Char) :
    IsLeast {n | EditsIn n word other} (cost word other) :=
  ⟨editsIn_cost word other, fun _ => cost_le_of_editsIn⟩

theorem cost_reverse (word other : List Char) :
    cost word.reverse other.reverse = cost word other := by
  apply (isLeast_cost word.reverse other.reverse).unique
  simpa only [EditsIn.reverse_iff] using isLeast_cost word other

theorem cost_comm (word other : List Char) : cost other word = cost word other := by
  apply (isLeast_cost other word).unique
  have hsymm : ∀ n, EditsIn n other word ↔ EditsIn n word other := fun _ => EditsIn.symm_iff
  simpa only [hsymm] using isLeast_cost word other

/-! ## The rows -/

/-- The costs of turning the beginnings of a word into another, from the beginning that was read on;
both words are read backwards. -/
def costRow (other : List Char) : (read word : List Char) → List Nat
  | read, [] => [cost read other]
  | read, a :: word => cost read other :: costRow other (a :: read) word

/-- The costs before anything of the other word was read. -/
theorem costRow_nil (read word : List Char) :
    costRow [] read word = (List.range (word.length + 1)).map (read.length + ·) := by
  induction word generalizing read with
  | nil => simp [costRow]
  | cons a word ih =>
      calc costRow [] read (a :: word)
          = read.length :: (List.range (word.length + 1)).map (read.length + 1 + ·) := by
            rw [costRow, ih, cost_nil_right, List.length_cons]
        _ = (List.range (word.length + 1 + 1)).map (read.length + ·) := by
            rw [List.range_succ_eq_map (n := word.length + 1)]
            simp [Function.comp_def, Nat.add_assoc, Nat.add_comm 1]

/-- One entry of the next row, from its three neighbours. -/
theorem cost_cons_cons_eq (a c : Char) (read other : List Char) :
    cost (a :: read) (c :: other) = if a = c then cost read other
      else 1 + min (cost read other) (min (cost (a :: read) other) (cost read (c :: other))) := by
  rw [cost_cons_cons]
  split
  · -- Where the characters agree, the diagonal entry is no greater than any detour.
    have := cost_le_cost_cons a read other
    have : cost read other ≤ cost read (c :: other) + 1 := by
      rw [cost_comm other read, cost_comm (c :: other) read]
      exact cost_le_cost_cons c other read
    omega
  · omega

/-- Extending a row of costs gives the costs for one more character. -/
theorem extendRow_costRow (c : Char) (other read word : List Char) :
    cost read (c :: other) :: extendRow c word (costRow other read word) (cost read (c :: other)) =
      costRow (c :: other) read word := by
  induction word generalizing read with
  | nil => simp [costRow, extendRow]
  | cons a word ih =>
      rw [costRow, costRow, ← ih (a :: read)]
      cases word with
      | nil => simp [costRow, extendRow, cost_cons_cons_eq]
      | cons b word => simp [costRow, extendRow, cost_cons_cons_eq]

/-- The next row of costs. -/
theorem nextRow_costRow (word other : List Char) (c : Char) :
    nextRow word (costRow other [] word) c = costRow (c :: other) [] word := by
  rw [nextRow, ← extendRow_costRow]
  cases word <;> simp [costRow]

theorem getLastD_costRow (other read word : List Char) (default : Nat) :
    (costRow other read word).getLastD default = cost (word.reverse ++ read) other := by
  induction word generalizing read default with
  | nil => simp [costRow]
  | cons a word ih =>
      rw [costRow, List.getLastD_cons, ih]
      simp

/-- The last row holds the costs of turning the beginnings of a word into another, by induction on
what is read of the other. -/
theorem lastRow_eq (word other : List Char) :
    lastRow word other = costRow other.reverse [] word := by
  have hfold (read : List Char) :
      other.foldl (nextRow word) (costRow read [] word) =
        costRow (other.reverse ++ read) [] word := by
    induction other generalizing read with
    | nil => rfl
    | cons c other ih => simp [nextRow_costRow, ih]
  have hfirst : List.range (word.length + 1) = costRow [] [] word := by
    simp [costRow_nil]
  rw [lastRow, hfirst, hfold, List.append_nil]

/-- The distance is the cost, whichever word has the rows. -/
theorem distance_eq_cost (word other : List Char) : distance word other = cost word other := by
  have hlast (word other : List Char) : (lastRow word other).getLastD 0 = cost word other := by
    rw [lastRow_eq, getLastD_costRow, List.append_nil, cost_reverse]
  unfold distance
  split
  · exact (hlast other word).trans (cost_comm word other)
  · exact hlast word other

/-- The distance is the least number of edits. -/
theorem distance_eq_leastEdits (word other : List Char) :
    distance word other = leastEdits word other := by
  rw [distance_eq_cost, leastEdits, (isLeast_cost word other).csInf_eq]

/-! ## The nearest option -/

/-- What is kept of the options that were seen: the first in order of those at the least distance,
with its distance, and nothing if none is within reach. -/
def IsKept (d : String → Nat) (seen : List String) : Option (String × Nat) → Prop
  | none => ∀ option ∈ seen, reach < d option
  | some (best, least) => best ∈ seen ∧ least = d best ∧ d best ≤ reach ∧
    ∀ option ∈ seen, d best ≤ d option ∧ (d option = d best → best ≤ option)

/-- One more option, no earlier in order than those seen. -/
theorem IsKept.add {word : List Char} {d : String → Nat} {seen : List String}
    {best : Option (String × Nat)} {option : String}
    (hd : distance word (Text.toLower option).toList = d option) (h : IsKept d seen best)
    (hlast : ∀ other ∈ seen, other ≤ option) :
    IsKept d (seen ++ [option]) (keepNearer word best option) := by
  -- Nothing changes unless the option is nearer than what is kept, and near enough.
  have hseen {other : String} : other ∈ seen ++ [option] ↔ other ∈ seen ∨ other = option := by
    simp
  unfold keepNearer
  rw [hd]
  rcases best with _ | ⟨best, least⟩
  · by_cases hnear : d option ≤ reach
    · simp only [hnear, decide_true, Bool.and_self, if_true]
      refine ⟨by simp, rfl, hnear, fun other hother => ?_⟩
      obtain hother | rfl := hseen.mp hother
      · have hfar := h other hother
        constructor <;> omega
      · simp
    · simp only [hnear, decide_false, Bool.and_false, Bool.false_eq_true, if_false]
      intro other hother
      obtain hother | rfl := hseen.mp hother
      · exact h other hother
      · omega
  · obtain ⟨hmem, rfl, hreach, hleast⟩ := h
    by_cases hnearer : d option < d best
    · have hnear : d option ≤ reach := by omega
      simp only [hnearer, hnear, decide_true, Bool.and_self, if_true]
      refine ⟨by simp, rfl, hnear, fun other hother => ?_⟩
      obtain hother | rfl := hseen.mp hother
      · have hbest := (hleast other hother).1
        constructor <;> omega
      · simp
    · simp only [hnearer, decide_false, Bool.false_and, Bool.false_eq_true, if_false]
      refine ⟨hseen.mpr (.inl hmem), rfl, hreach, fun other hother => ?_⟩
      obtain hother | rfl := hseen.mp hother
      · exact hleast other hother
      · exact ⟨by omega, fun _ => hlast best hmem⟩

/-- What is kept of sorted options, by induction on those still to come. -/
theorem isKept_foldl {word : List Char} {d : String → Nat}
    (hd : ∀ option, distance word (Text.toLower option).toList = d option)
    {seen rest : List String} (hsorted : (seen ++ rest).Pairwise (· ≤ ·))
    {best : Option (String × Nat)} (h : IsKept d seen best) :
    IsKept d (seen ++ rest) (rest.foldl (keepNearer word) best) := by
  induction rest generalizing seen best with
  | nil => simpa using h
  | cons option rest ih =>
      have hlast : ∀ other ∈ seen, other ≤ option :=
        fun other hother => (List.pairwise_append.mp hsorted).2.2 other hother option (by simp)
      have hmore : IsKept d (seen ++ [option] ++ rest) _ :=
        ih (by simpa using hsorted) (h.add (hd option) hlast)
      simpa using hmore

/-- What is kept depends on which options were seen, not on their order. -/
theorem IsKept.congr {d : String → Nat} {seen options : List String}
    {best : Option (String × Nat)} (h : IsKept d seen best)
    (hmem : ∀ option, option ∈ options ↔ option ∈ seen) : IsKept d options best := by
  rcases best with _ | ⟨best, least⟩
  · exact fun option hoption => h option ((hmem option).mp hoption)
  · obtain ⟨hbest, hleast, hreach, hnearest⟩ := h
    exact ⟨(hmem best).mpr hbest, hleast, hreach,
      fun option hoption => hnearest option ((hmem option).mp hoption)⟩

/-- The nearest option is what is kept of all of them. -/
theorem exists_isKept (word : String) (options : List String) :
    ∃ best, nearest? word options = best.map Prod.fst ∧
      IsKept (fun option => distance (Text.toLower word).toList (Text.toLower option).toList)
        options best := by
  have hsorted : (options.mergeSort fun a b => decide (a ≤ b)).Pairwise (· ≤ ·) := by
    have hpairwise := @List.pairwise_mergeSort String (fun a b => decide (a ≤ b))
      (fun a b c hab hbc => by
        simpa using String.le_trans (by simpa using hab) (by simpa using hbc))
      (fun a b => by simpa using String.le_total a b) options
    simpa only [decide_eq_true_eq] using hpairwise
  have hnone : IsKept (fun option =>
      distance (Text.toLower word).toList (Text.toLower option).toList) [] none := by
    simp [IsKept]
  refine ⟨_, rfl, (isKept_foldl (fun _ => rfl) hsorted hnone).congr ?_⟩
  simp

/-- How far an option is from a word: the least number of edits between them, letter case aside. -/
noncomputable def editsAway (word option : String) : Nat :=
  leastEdits (Text.toLower word).toList (Text.toLower option).toList

/-- The suggestion for a word.  If some option is within reach of the word, it is the first in code
point order of the options that are the fewest edits away; otherwise it is empty. -/
theorem nearest_is_first_of_least (word : String) (options : List String) :
    ((∃ option ∈ options, editsAway word option ≤ 2) →
      ∃ nearest ∈ options, (nearest? word options).getD "" = nearest ∧
        (∀ option ∈ options, editsAway word nearest ≤ editsAway word option) ∧
        ∀ option ∈ options, editsAway word option = editsAway word nearest → nearest ≤ option) ∧
    ((∀ option ∈ options, 2 < editsAway word option) → (nearest? word options).getD "" = "") := by
  obtain ⟨best, hnearest, hkept⟩ := exists_isKept word options
  simp only [distance_eq_leastEdits] at hkept
  rw [hnearest]
  rcases best with _ | ⟨nearest, least⟩
  · -- Nothing is kept, so every option is out of reach.
    refine ⟨?_, fun _ => rfl⟩
    rintro ⟨option, hoption, hnear⟩
    exact absurd hnear (Nat.not_le.mpr (hkept option hoption))
  · obtain ⟨hmem, -, hreach, hleast⟩ := hkept
    refine ⟨fun _ => ⟨nearest, hmem, rfl, fun option hoption => (hleast option hoption).1,
      fun option hoption => (hleast option hoption).2⟩, fun hfar => ?_⟩
    exact absurd hreach (Nat.not_le.mpr (hfar nearest hmem))

/-- Of two options at one distance the one with a capital comes first. -/
theorem nearest_is_first_of_least_capital :
    (∃ option ∈ ["B", "a", "c"], editsAway "ab" option ≤ 2) ∧
      (nearest? "ab" ["B", "a", "c"]).getD "" = "B" ∧
      ∀ option ∈ ["B", "a", "c"], editsAway "ab" "B" ≤ editsAway "ab" option := by
  have hnear : ∃ option ∈ ["B", "a", "c"], editsAway "ab" option ≤ 2 := by
    refine ⟨"B", by simp, ?_⟩
    rw [editsAway, ← distance_eq_leastEdits]
    decide +kernel
  have hsuggestion : (nearest? "ab" ["B", "a", "c"]).getD "" = "B" := by
    rw [nearest?, List.mergeSort_of_pairwise (by decide +kernel)]
    decide +kernel
  obtain ⟨nearest, -, hfirst, hleast, -⟩ :=
    (nearest_is_first_of_least "ab" ["B", "a", "c"]).1 hnear
  obtain rfl : "B" = nearest := hsuggestion.symm.trans hfirst
  exact ⟨hnear, hsuggestion, hleast⟩

end FormatLauncher.EditDistance

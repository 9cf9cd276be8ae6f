/-
# Values that cannot be written

A value has no text exactly if an integer with too many digits stands in it, where the copies of a
container inside itself do not count.  Values that are sorted stay the same values, and sequences
apart they can be sorted exactly if every two of them are on one scale.
-/

import FormatLauncher.Proofs.Binary64
import FormatLauncher.Value.Order
import FormatLauncher.Value.Show

namespace FormatLauncher.Value

/-- The value holds an integer with too many digits, seen from inside the containers of some
marks. -/
inductive HoldsLong : (above : List Nat) → Value → Prop
  | int {above n} (h : leastUnwritable ≤ n.natAbs) : HoldsLong above (.int n)
  | list {above items item} (hitem : item ∈ items) (h : HoldsLong above item) :
    HoldsLong above (.list items)
  | tuple {above items item} (hitem : item ∈ items) (h : HoldsLong above item) :
    HoldsLong above (.tuple items)
  | key {above entries entry} (hentry : entry ∈ entries) (h : HoldsLong above entry.1) :
    HoldsLong above (.map entries)
  | value {above entries entry} (hentry : entry ∈ entries) (h : HoldsLong above entry.2) :
    HoldsLong above (.map entries)
  | set {above items item} (hitem : item ∈ items) (h : HoldsLong above item) :
    HoldsLong above (.set items)
  | circular {above mark container} (hnew : mark ∉ above)
    (h : HoldsLong (mark :: above) container) : HoldsLong above (.circular mark container)

mutual

/-- A value has no literal exactly if it holds an integer that is too long. -/
theorem literalWithin?_eq_none_iff (above : List Nat) (v : Value) :
    literalWithin? above v = none ↔ HoldsLong above v := by
  cases v with
  | null | bool b | float x | text s | bytes b | date d | time t =>
      simp only [literalWithin?, reduceCtorEq, false_iff]
      rintro ⟨⟩
  | int n =>
      rw [literalWithin?, integerText?]
      constructor
      · intro h
        split at h
        · simp at h
        · next hlong => exact .int (Nat.le_of_not_lt hlong)
      · rintro ⟨h⟩
        exact if_neg (Nat.not_lt_of_le h)
  | list items =>
      rw [literalWithin?, Option.map_eq_none_iff, literalsWithin?_eq_none_iff]
      constructor
      · rintro ⟨item, hitem, h⟩
        exact .list hitem h
      · rintro (_ | ⟨hitem, h⟩)
        exact ⟨_, hitem, h⟩
  | tuple items =>
      have hitems : literalWithin? above (.tuple items) = none ↔
          literalsWithin? above items = none := by
        rcases items with _ | ⟨item, _ | ⟨next, rest⟩⟩
        · simp [literalWithin?, literalsWithin?]
        · rw [literalWithin?, Option.map_eq_none_iff, literalsWithin?]
          cases literalWithin? above item <;> simp [literalsWithin?]
        · simp [literalWithin?]
      rw [hitems, literalsWithin?_eq_none_iff]
      constructor
      · rintro ⟨item, hitem, h⟩
        exact .tuple hitem h
      · rintro (_ | _ | ⟨hitem, h⟩)
        exact ⟨_, hitem, h⟩
  | map entries =>
      rw [literalWithin?, Option.map_eq_none_iff, entryLiteralsWithin?_eq_none_iff]
      constructor
      · rintro ⟨entry, hentry, h | h⟩
        · exact .key hentry h
        · exact .value hentry h
      · intro h
        cases h with
        | key hentry h => exact ⟨_, hentry, .inl h⟩
        | value hentry h => exact ⟨_, hentry, .inr h⟩
  | set items =>
      have hitems : literalWithin? above (.set items) = none ↔
          literalsWithin? above items = none := by
        cases items with
        | nil => simp [literalWithin?, literalsWithin?]
        | cons item rest => simp [literalWithin?]
      rw [hitems, literalsWithin?_eq_none_iff]
      constructor
      · rintro ⟨item, hitem, h⟩
        exact .set hitem h
      · intro h
        cases h with
        | set hitem h => exact ⟨_, hitem, h⟩
  | circular mark container =>
      rw [literalWithin?]
      split
      · next hmet =>
          simp only [reduceCtorEq, false_iff]
          intro h
          cases h with
          | circular hnew _ => exact hnew (by simpa using hmet)
      · next hnew =>
          rw [literalWithin?_eq_none_iff]
          constructor
          · exact fun h => .circular (by simpa using hnew) h
          · intro h
            cases h with
            | circular _ h => exact h

theorem literalsWithin?_eq_none_iff (above : List Nat) (items : List Value) :
    literalsWithin? above items = none ↔ ∃ item ∈ items, HoldsLong above item := by
  cases items with
  | nil => simp [literalsWithin?]
  | cons item rest =>
      have hitem := literalWithin?_eq_none_iff above item
      have hrest := literalsWithin?_eq_none_iff above rest
      simp only [literalsWithin?, List.mem_cons, exists_eq_or_imp, ← hitem, ← hrest]
      cases literalWithin? above item <;> cases literalsWithin? above rest <;> simp

theorem entryLiteralsWithin?_eq_none_iff (above : List Nat) (entries : List (Value × Value)) :
    entryLiteralsWithin? above entries = none ↔
      ∃ entry ∈ entries, HoldsLong above entry.1 ∨ HoldsLong above entry.2 := by
  rcases entries with _ | ⟨⟨k, v⟩, rest⟩
  · simp [entryLiteralsWithin?]
  · have hk := literalWithin?_eq_none_iff above k
    have hv := literalWithin?_eq_none_iff above v
    have hrest := entryLiteralsWithin?_eq_none_iff above rest
    simp only [entryLiteralsWithin?, List.mem_cons, exists_eq_or_imp, ← hk, ← hv, ← hrest]
    cases literalWithin? above k <;> cases literalWithin? above v <;>
      cases entryLiteralsWithin? above rest <;> simp

end

/-- The value cannot be written: an integer with too many digits stands in it. -/
def IsLong (v : Value) : Prop := HoldsLong [] v

theorem literal?_eq_none_iff {v : Value} : v.literal? = none ↔ v.IsLong :=
  literalWithin?_eq_none_iff [] v

/-- A value without a literal has no plain text either. -/
theorem plainText?_eq_none_iff {v : Value} : v.plainText? = none ↔ v.IsLong := by
  rw [← literal?_eq_none_iff]
  cases v with
  | text s | date d | time t => simp [plainText?, literal?, literalWithin?]
  | _ => rfl

theorem isLong_list_iff {items : List Value} :
    (list items).IsLong ↔ ∃ item ∈ items, item.IsLong := by
  constructor
  · rintro (_ | ⟨hitem, h⟩)
    exact ⟨_, hitem, h⟩
  · rintro ⟨item, hitem, h⟩
    exact .list hitem h

@[simp]
theorem not_isLong_null : ¬null.IsLong := nofun

@[simp]
theorem not_isLong_bool (b : Bool) : ¬(bool b).IsLong := nofun

@[simp]
theorem not_isLong_float (x : Binary64) : ¬(float x).IsLong := nofun

@[simp]
theorem not_isLong_text (s : String) : ¬(text s).IsLong := nofun

/-- The mark of a container does not change whether it counts as true. -/
theorem isTruthy_bare (v : Value) : v.bare.isTruthy = v.isTruthy := by
  induction v using bare.induct with
  | case1 mark container ih => simpa [bare, isTruthy] using ih
  | case2 v h => rw [bare.eq_2 v h]

/-- An integer that is too long to be written is too large for a floating point number. -/
theorem leastOverflowing_le_leastUnwritable :
    Binary64.leastOverflowing ≤ leastUnwritable := by
  have hpower {place digits : Nat} (h : 54 + place ≤ digits) :
      (2 ^ 54 - 1) * 2 ^ place ≤ Nat.pow 10 digits :=
    calc (2 ^ 54 - 1) * 2 ^ place ≤ 2 ^ 54 * 2 ^ place := Nat.mul_le_mul_right _ (by decide)
      _ = 2 ^ (54 + place) := (Nat.pow_add 2 54 place).symm
      _ ≤ 2 ^ digits := Nat.pow_le_pow_right (by decide) h
      _ ≤ Nat.pow 10 digits := Nat.pow_le_pow_left (by decide) digits
  have hdigits : 54 + 970 ≤ digitLimit := by decide
  unfold Binary64.leastOverflowing leastUnwritable
  exact hpower hdigits

/-! ## Sorting -/

theorem perm_of_insertSorted? {x : Value} {xs ys : List Value}
    (h : insertSorted? x xs = some ys) : ys.Perm (x :: xs) := by
  induction xs generalizing ys with
  | nil =>
      obtain rfl : [x] = ys := by simpa [insertSorted?] using h
      rfl
  | cons y rest ih =>
      rw [insertSorted?] at h
      split at h
      · simp at h
      · obtain rfl := Option.some.inj h
        rfl
      · obtain ⟨zs, hzs, rfl⟩ := Option.map_eq_some_iff.mp h
        exact ((ih hzs).cons y).trans (.swap x y rest)

/-- Values that are sorted are the same values. -/
theorem perm_of_sort? {xs ys : List Value} (h : sort? xs = some ys) : ys.Perm xs := by
  have hfold (sorted : List Value) {xs ys : List Value}
      (h : xs.foldlM (fun sorted x => insertSorted? x sorted) sorted = some ys) :
      ys.Perm (sorted ++ xs) := by
    induction xs generalizing sorted with
    | nil =>
        obtain rfl : sorted = ys := by simpa using h
        simp
    | cons x rest ih =>
        rw [List.foldlM_cons] at h
        obtain ⟨inserted, hinserted, hrest⟩ := Option.bind_eq_some_iff.mp h
        refine (ih inserted hrest).trans ?_
        refine ((perm_of_insertSorted? hinserted).append_right rest).trans ?_
        exact List.perm_middle.symm
  simpa using hfold [] h

/-! ## Scales -/

/-- The value is a list or a tuple. -/
def isSequence : Value → Bool
  | .list _ | .tuple _ => true
  | _ => false

/-- The scales on which values come one after the other. -/
inductive Scale
  | number
  | text
  | bytes
  | day
  /-- Times with an offset are on another scale than times without one. -/
  | time (hasOffset : Bool)
  deriving DecidableEq, Repr

/-- The scale of a value that is no sequence, if there is one. -/
def scale? : Value → Option Scale
  | .bool _ | .int _ | .float _ => some .number
  | .text _ => some .text
  | .bytes _ => some .bytes
  | .date _ => some .day
  | .time t => some (.time t.offset.isSome)
  | _ => none

/-- Both values are on one scale. -/
def SameScale (a b : Value) : Prop := a.scale?.isSome ∧ a.scale? = b.scale?

theorem SameScale.symm {a b : Value} (h : a.SameScale b) : b.SameScale a :=
  ⟨h.2 ▸ h.1, h.2.symm⟩

theorem SameScale.trans {a b c : Value} (h : a.SameScale b) (h' : b.SameScale c) :
    a.SameScale c :=
  ⟨h.1, h.2.trans h'.2⟩

/-- Values that are no sequences compare exactly if they are on one scale. -/
theorem lt?_eq_none_iff {a b : Value} (ha : a.isSequence = false) (hb : b.isSequence = false) :
    lt? a b = none ↔ ¬a.SameScale b := by
  cases a <;> cases b <;> simp [isSequence] at ha hb <;>
    simp [lt?, SameScale, scale?, number?, DateTime.lt?]
  -- What is left are floating point numbers, which may be no numbers.
  all_goals split <;> simp_all

/-- A value is refused where it does not compare with one of the sorted values. -/
theorem insertSorted?_eq_none_iff {x : Value} {sorted : List Value}
    (hsequence : ∀ y ∈ x :: sorted, y.isSequence = false) (hscale : sorted.Pairwise SameScale) :
    insertSorted? x sorted = none ↔ ∃ y ∈ sorted, ¬x.SameScale y := by
  induction sorted with
  | nil => simp [insertSorted?]
  | cons y rest ih =>
      have hcompare := lt?_eq_none_iff (hsequence x (by simp)) (hsequence y (by simp))
      obtain ⟨hfirst, hrest⟩ := List.pairwise_cons.mp hscale
      rw [insertSorted?]
      cases hlt : lt? x y with
      | none => exact iff_of_true rfl ⟨y, by simp, hcompare.mp hlt⟩
      | some before =>
          have hsame : x.SameScale y := by
            rw [hlt] at hcompare
            simpa using hcompare
          cases before with
          | true =>
              refine iff_of_false nofun ?_
              rintro ⟨z, hz, hother⟩
              obtain rfl | hz := List.mem_cons.mp hz
              · exact hother hsame
              · exact hother (hsame.trans (hfirst z hz))
          | false =>
              have hrec := ih (fun z hz => hsequence z (by grind)) hrest
              simp only [Option.map_eq_none_iff, hrec, List.mem_cons, exists_eq_or_imp]
              simp [hsame]

/-- Values that are no sequences are sorted exactly if every two of them are on one scale. -/
theorem sort?_eq_none_iff {xs : List Value} (hsequence : ∀ x ∈ xs, x.isSequence = false) :
    sort? xs = none ↔ ¬xs.Pairwise SameScale := by
  have hfold (sorted rest : List Value) (hsequence : ∀ x ∈ sorted ++ rest, x.isSequence = false)
      (hscale : sorted.Pairwise SameScale) :
      rest.foldlM (fun sorted x => insertSorted? x sorted) sorted = none ↔
        ¬(sorted ++ rest).Pairwise SameScale := by
    induction rest generalizing sorted with
    | nil => simpa using hscale
    | cons x rest ih =>
        rw [List.foldlM_cons]
        have hrefused := insertSorted?_eq_none_iff (x := x)
          (fun z hz => hsequence z (by grind)) hscale
        cases hinsert : insertSorted? x sorted with
        | none =>
            obtain ⟨y, hy, hother⟩ := hrefused.mp hinsert
            refine iff_of_true rfl fun hpairwise => ?_
            exact hother ((List.pairwise_append.mp hpairwise).2.2 y hy x (by simp)).symm
        | some inserted =>
            have hperm := perm_of_insertSorted? hinsert
            have hall : (inserted ++ rest).Perm (sorted ++ x :: rest) :=
              (hperm.append_right rest).trans List.perm_middle.symm
            have hcompare : ∀ y ∈ sorted, x.SameScale y := by
              intro y hy
              by_contra hother
              rw [hrefused.mpr ⟨y, hy, hother⟩] at hinsert
              cases hinsert
            rw [← hall.pairwise_iff SameScale.symm]
            refine ih inserted (fun z hz => hsequence z (hall.mem_iff.mp hz)) ?_
            rw [hperm.pairwise_iff SameScale.symm]
            exact List.pairwise_cons.mpr ⟨hcompare, hscale⟩
  exact hfold [] xs hsequence .nil

end FormatLauncher.Value

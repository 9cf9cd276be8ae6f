/-
# How a literal starts

The first character of a literal shows what kind of value it is: a quote, a bracket, a digit, a sign
or the first letter of one of a few words.  So a literal is never empty, and only the literal of the
empty set starts like a name.
-/

import FormatLauncher.Value.Show

namespace FormatLauncher.Value

open Decimal

/-- Literals start with this character: a digit, a sign, a quote, a bracket, or the first letter of
a word. -/
def isLiteralStart (c : Char) : Bool := c.isDigit || "-'\"[(\x7bNTFnibd".toList.contains c

/-- The text starts as literals do. -/
def StartsLiteral (text : List Char) : Prop := text.head?.any isLiteralStart = true

instance (text : List Char) : Decidable (StartsLiteral text) :=
  inferInstanceAs (Decidable (_ = true))

theorem startsLiteral_cons {c : Char} {rest : List Char} :
    StartsLiteral (c :: rest) ↔ isLiteralStart c = true := Iff.rfl

theorem StartsLiteral.append {text : List Char} (h : StartsLiteral text) (more : List Char) :
    StartsLiteral (text ++ more) := by
  cases text with
  | nil => cases h
  | cons c rest => exact h

theorem StartsLiteral.text_append {text : String} (h : StartsLiteral text.toList) (more : String) :
    StartsLiteral (text ++ more).toList := by
  rw [String.toList_append]
  exact h.append more.toList

/-! ## Numbers -/

theorem startsLiteral_toDigits (n : Nat) : StartsLiteral (Nat.toDigits 10 n) := by
  cases hdigits : Nat.toDigits 10 n with
  | nil => exact absurd hdigits Nat.toDigits_ne_nil
  | cons c rest =>
      have hmem : c ∈ Nat.toDigits 10 n := by simp [hdigits]
      have hdigit := Nat.isDigit_of_mem_toDigits (by decide) (by decide) hmem
      exact startsLiteral_cons.mpr (by simp [isLiteralStart, hdigit])

theorem startsLiteral_integer (n : Int) : StartsLiteral (toString n).toList := by
  cases n with
  | ofNat n =>
      change StartsLiteral (String.ofList (Nat.toDigits 10 n)).toList
      rw [String.toList_ofList]
      exact startsLiteral_toDigits n
  | negSucc n =>
      change StartsLiteral ("-" ++ String.ofList (Nat.toDigits 10 (n + 1))).toList
      exact StartsLiteral.text_append (by decide) _

theorem startsLiteral_positional {digits : List Char} (h : StartsLiteral digits) (whole : Int)
    (marksWhole : Bool) : StartsLiteral (positional digits whole marksWhole) := by
  unfold positional
  split
  · exact startsLiteral_cons.mpr (by decide)
  · next hwhole =>
      split
      · exact (h.append _).append _
      · obtain ⟨places, hplaces⟩ : ∃ places, whole.toNat = places + 1 :=
          ⟨whole.toNat - 1, by omega⟩
        cases digits with
        | nil => cases h
        | cons c rest => simpa [hplaces, startsLiteral_cons] using h

theorem startsLiteral_withExponent {digits : List Char} (h : StartsLiteral digits) (e : Int) :
    StartsLiteral (withExponent digits e) := by
  rcases digits with _ | ⟨c, _ | ⟨d, rest⟩⟩
  · cases h
  · exact h
  · exact h

theorem startsLiteral_write (form : FloatForm) (s : Scientific) :
    StartsLiteral (form.write s) := by
  unfold FloatForm.write
  dsimp only
  split
  · exact startsLiteral_positional (by decide) 1 _
  · split
    · exact startsLiteral_positional (startsLiteral_toDigits _) _ _
    · exact startsLiteral_withExponent (startsLiteral_toDigits _) _

theorem startsLiteral_float (x : Binary64) : StartsLiteral x.toText.toList := by
  unfold Binary64.toText FloatForm.render
  split
  · decide
  · next negative _ => cases negative <;> decide
  · next negative _ _ _ =>
      rw [String.toList_ofList]
      cases negative with
      | false => exact startsLiteral_write _ _
      | true => exact startsLiteral_cons.mpr (by decide)

/-! ## Values -/

theorem startsLiteral_quoted (s : String) : StartsLiteral (Text.quoted s).toList := by
  rw [Text.quoted, String.toList_ofList]
  refine startsLiteral_cons.mpr ?_
  unfold Text.quoteFor
  split <;> decide

theorem startsLiteral_quotedBytes (bytes : Text.Bytes) :
    StartsLiteral (Text.quotedBytes bytes).toList := by
  rw [Text.quotedBytes, String.toList_ofList]
  exact startsLiteral_cons.mpr (by decide)

/-- What is put behind an opening bracket starts with the bracket. -/
theorem startsLiteral_enclosed {α : Type} {content : Option α} {opening text : String}
    {inside : α → String} (h : content.map (fun x => opening ++ inside x) = some text)
    (hopening : StartsLiteral opening.toList) : StartsLiteral text.toList := by
  obtain ⟨x, -, rfl⟩ := Option.map_eq_some_iff.mp h
  exact hopening.text_append _

theorem startsLiteral_ellipsis (v : Value) : StartsLiteral v.ellipsis.toList := by
  unfold ellipsis
  split <;> decide

theorem startsLiteral_date (d : Date) : StartsLiteral (dateLiteral d).toList := by
  rw [dateLiteral, String.append_assoc]
  exact StartsLiteral.text_append (by decide) _

theorem startsLiteral_time (t : DateTime) : StartsLiteral (timeLiteral t).toList := by
  unfold timeLiteral
  dsimp only
  rw [String.append_assoc]
  exact StartsLiteral.text_append (by decide) _

/-- Every literal starts as literals do, but that of the empty set. -/
theorem startsLiteral_literalWithin? {above : List Nat} {v : Value} {text : String}
    (h : literalWithin? above v = some text) : text = "set()" ∨ StartsLiteral text.toList := by
  cases v with
  | null =>
      obtain rfl := Option.some.inj h
      decide
  | bool b =>
      obtain rfl := Option.some.inj h
      cases b <;> decide
  | int n =>
      rw [literalWithin?, integerText?] at h
      split at h
      · obtain rfl := Option.some.inj h
        exact .inr (startsLiteral_integer n)
      · cases h
  | float x =>
      obtain rfl := Option.some.inj h
      exact .inr (startsLiteral_float x)
  | text s =>
      obtain rfl := Option.some.inj h
      exact .inr (startsLiteral_quoted s)
  | bytes b =>
      obtain rfl := Option.some.inj h
      exact .inr (startsLiteral_quotedBytes b)
  | date d =>
      obtain rfl := Option.some.inj h
      exact .inr (startsLiteral_date d)
  | time t =>
      obtain rfl := Option.some.inj h
      exact .inr (startsLiteral_time t)
  | list items =>
      simp only [literalWithin?, String.append_assoc] at h
      exact .inr (startsLiteral_enclosed h (by decide))
  | tuple items =>
      rcases items with _ | ⟨item, _ | ⟨next, rest⟩⟩ <;>
        (simp only [literalWithin?, String.append_assoc] at h
         exact .inr (startsLiteral_enclosed h (by decide)))
  | map entries =>
      simp only [literalWithin?, String.append_assoc] at h
      exact .inr (startsLiteral_enclosed h (by decide))
  | set items =>
      cases items with
      | nil => exact .inl (Option.some.inj h).symm
      | cons item rest =>
          simp only [literalWithin?, String.append_assoc] at h
          exact .inr (startsLiteral_enclosed h (by decide))
  | circular mark container =>
      rw [literalWithin?] at h
      split at h
      · obtain rfl := Option.some.inj h
        exact .inr (startsLiteral_ellipsis container)
      · exact startsLiteral_literalWithin? h

theorem startsLiteral_padded (width n : Nat) : StartsLiteral (Calendar.padded width n).toList := by
  unfold Calendar.padded
  dsimp only
  rw [String.toList_ofList]
  cases width - (Nat.toDigits 10 n).length with
  | zero => exact startsLiteral_toDigits n
  | succ missing => exact startsLiteral_cons.mpr (by decide)

theorem startsLiteral_dateText (d : Date) : StartsLiteral (Calendar.dateText d).toList := by
  simp only [Calendar.dateText, String.append_assoc]
  exact (startsLiteral_padded 4 d.year).text_append _

/-- The plain text of anything but a text starts as literals do, but for the empty set. -/
theorem startsLiteral_plainText? {v : Value} {text : String} (hv : v.isText = false)
    (h : v.plainText? = some text) : text = "set()" ∨ StartsLiteral text.toList := by
  cases v with
  | text s => cases hv
  | date d =>
      obtain rfl := Option.some.inj h
      exact .inr (startsLiteral_dateText d)
  | time t =>
      obtain rfl := Option.some.inj h
      simp only [Calendar.timeText, String.append_assoc]
      exact .inr ((startsLiteral_dateText t.date).text_append _)
  | _ => exact startsLiteral_literalWithin? h

/-- A value that counts as true is written as some text. -/
theorem plainText?_ne_empty {v : Value} {text : String} (hv : v.isTruthy = true)
    (h : v.plainText? = some text) : text ≠ "" := by
  rintro rfl
  cases htext : v.isText with
  | false =>
      obtain h | h := startsLiteral_plainText? htext h
      · exact absurd h (by decide)
      · exact absurd h (by decide)
  | true =>
      cases v with
      | text s =>
          obtain rfl := Option.some.inj h
          cases hv
      | _ => cases htext

end FormatLauncher.Value

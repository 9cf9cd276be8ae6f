/-
# Strict reading and writing undo each other

A text that was read strictly spells the bytes it was read from: writing it gives them back.  So two
sequences of bytes that both read strictly are equal exactly when their texts are, and comparing
texts is as good as comparing bytes.  And every text that is written is read back, so no two texts
are written as the same bytes.

The well-formed spellings of a character are given by number of bytes; the two narrowed second bytes
of three, and the two of four, are conditions on the first byte.
-/

import FormatLauncher.Text.Utf8
import Mathlib.Data.List.Forall2

namespace FormatLauncher.Text.Utf8

/-- An ordinary continuation byte. -/
def IsTail (b : UInt8) : Prop := 0x80 ≤ b.toNat ∧ b.toNat ≤ 0xBF

/-- The well-formed spellings of one character: no overlong one, no surrogate, nothing above the
last code point. -/
inductive IsSpelling : Bytes → Prop
  | one {a : UInt8} (hfirst : a.toNat ≤ 0x7F) : IsSpelling [a]
  | two {a b : UInt8} (hfirst : 0xC2 ≤ a.toNat ∧ a.toNat ≤ 0xDF) (hb : IsTail b) :
      IsSpelling [a, b]
  | three {a b c : UInt8} (hfirst : 0xE0 ≤ a.toNat ∧ a.toNat ≤ 0xEF) (hb : IsTail b)
      (hlong : a.toNat = 0xE0 → 0xA0 ≤ b.toNat) (hpair : a.toNat = 0xED → b.toNat ≤ 0x9F)
      (hc : IsTail c) : IsSpelling [a, b, c]
  | four {a b c d : UInt8} (hfirst : 0xF0 ≤ a.toNat ∧ a.toNat ≤ 0xF4) (hb : IsTail b)
      (hlong : a.toNat = 0xF0 → 0x90 ≤ b.toNat) (hlast : a.toNat = 0xF4 → b.toNat ≤ 0x8F)
      (hc : IsTail c) (hd : IsTail d) : IsSpelling [a, b, c, d]

/-- Tails that were taken without a stop fit their ranges one by one. -/
theorem forall₂_of_takeTails {ranges : List (UInt8 × UInt8)} {bytes : Bytes}
    (h : (takeTails ranges bytes).stop = none) :
    List.Forall₂ (fun range b => range.1 ≤ b ∧ b ≤ range.2) ranges
      (takeTails ranges bytes).bytes := by
  induction ranges generalizing bytes with
  | nil => simp [takeTails]
  | cons range ranges ih =>
      obtain ⟨low, high⟩ := range
      cases bytes with
      | nil => simp [takeTails] at h
      | cons b rest =>
          simp only [takeTails] at h ⊢
          split at h
          · next hfits =>
              rw [if_pos hfits]
              exact .cons hfits (ih h)
          · simp at h

/-- The ranges after a first byte, in numbers. -/
theorem tailRanges?_eq (first : UInt8) :
    tailRanges? first =
      if first.toNat ≤ 0x7F then some []
      else if first.toNat ≤ 0xC1 then none
      else if first.toNat ≤ 0xDF then some [tail]
      else if first.toNat = 0xE0 then some [(0xA0, 0xBF), tail]
      else if first.toNat = 0xED then some [(0x80, 0x9F), tail]
      else if first.toNat ≤ 0xEF then some [tail, tail]
      else if first.toNat = 0xF0 then some [(0x90, 0xBF), tail, tail]
      else if first.toNat ≤ 0xF3 then some [tail, tail, tail]
      else if first.toNat = 0xF4 then some [(0x80, 0x8F), tail, tail]
      else none := by
  simp only [tailRanges?, UInt8.le_iff_toNat_le, ← UInt8.toNat_inj, UInt8.reduceToNat]

/-- A first byte and fitting tails are a well-formed spelling. -/
theorem isSpelling_of_tailRanges? {first : UInt8} {ranges : List (UInt8 × UInt8)} {tails : Bytes}
    (hranges : tailRanges? first = some ranges)
    (htails : List.Forall₂ (fun range b => range.1 ≤ b ∧ b ≤ range.2) ranges tails) :
    IsSpelling (first :: tails) := by
  rw [tailRanges?_eq] at hranges
  split_ifs at hranges
  all_goals
    obtain rfl := Option.some.inj hranges
    simp only [List.forall₂_cons_left_iff, List.forall₂_nil_left_iff] at htails
  · obtain rfl := htails
    exact .one (by omega)
  · obtain ⟨b, _, hb, rfl, rfl⟩ := htails
    exact .two (by omega) hb
  -- Three bytes: after 0xE0, after 0xED, after any other first byte.
  · obtain ⟨b, _, hb, ⟨c, _, hc, rfl, rfl⟩, rfl⟩ := htails
    have hnarrow : 0xA0 ≤ b.toNat ∧ b.toNat ≤ 0xBF := hb
    exact .three (by omega) ⟨by omega, by omega⟩ (by omega) (by omega) hc
  · obtain ⟨b, _, hb, ⟨c, _, hc, rfl, rfl⟩, rfl⟩ := htails
    have hnarrow : 0x80 ≤ b.toNat ∧ b.toNat ≤ 0x9F := hb
    exact .three (by omega) ⟨by omega, by omega⟩ (by omega) (by omega) hc
  · obtain ⟨b, _, hb, ⟨c, _, hc, rfl, rfl⟩, rfl⟩ := htails
    exact .three (by omega) hb (by omega) (by omega) hc
  -- Four bytes: after 0xF0, between the two, after 0xF4.
  · obtain ⟨b, _, hb, ⟨c, _, hc, ⟨d, _, hd, rfl, rfl⟩, rfl⟩, rfl⟩ := htails
    have hnarrow : 0x90 ≤ b.toNat ∧ b.toNat ≤ 0xBF := hb
    exact .four (by omega) ⟨by omega, by omega⟩ (by omega) (by omega) hc hd
  · obtain ⟨b, _, hb, ⟨c, _, hc, ⟨d, _, hd, rfl, rfl⟩, rfl⟩, rfl⟩ := htails
    exact .four (by omega) hb (by omega) (by omega) hc hd
  · obtain ⟨b, _, hb, ⟨c, _, hc, ⟨d, _, hd, rfl, rfl⟩, rfl⟩, rfl⟩ := htails
    have hnarrow : 0x80 ≤ b.toNat ∧ b.toNat ≤ 0x8F := hb
    exact .four (by omega) ⟨by omega, by omega⟩ (by omega) (by omega) hc hd

/-- The code point of a well-formed spelling is a character, spelled that way. -/
theorem encodeChar_codePoint {first : UInt8} {tails : Bytes} (h : IsSpelling (first :: tails)) :
    encodeChar (Char.ofNat (codePoint first tails)) = first :: tails := by
  have hvalid : (codePoint first tails).isValidChar := by
    cases h <;> simp only [codePoint, List.length, List.foldl, Nat.isValidChar, IsTail] at * <;>
      omega
  have hnat : (Char.ofNat (codePoint first tails)).toNat = codePoint first tails := by
    rw [Char.ofNat, dif_pos hvalid]
    rfl
  rw [encodeChar, hnat]
  cases h with
  | one hfirst =>
      simp only [codePoint, List.length, List.foldl]
      rw [if_pos (by omega), UInt8.ofNat_toNat]
  | @two _ b hfirst hb =>
      simp only [codePoint, List.length, List.foldl, IsTail] at hb ⊢
      generalize hn : first.toNat % 32 * 64 + b.toNat % 64 = n
      rw [if_neg (by omega), if_pos (by omega), show 0xC0 + n / 64 = first.toNat by omega,
        show 0x80 + n % 64 = b.toNat by omega]
      simp
  | @three _ b c hfirst hb hlong hpair hc =>
      simp only [codePoint, List.length, List.foldl, IsTail] at hb hc ⊢
      generalize hn : (first.toNat % 16 * 64 + b.toNat % 64) * 64 + c.toNat % 64 = n
      rw [if_neg (by omega), if_neg (by omega), if_pos (by omega),
        show 0xE0 + n / 4096 = first.toNat by omega,
        show 0x80 + n / 64 % 64 = b.toNat by omega, show 0x80 + n % 64 = c.toNat by omega]
      simp
  | @four _ b c d hfirst hb hlong hlast hc hd =>
      simp only [codePoint, List.length, List.foldl, IsTail] at hb hc hd ⊢
      generalize hn :
        ((first.toNat % 8 * 64 + b.toNat % 64) * 64 + c.toNat % 64) * 64 + d.toNat % 64 = n
      rw [if_neg (by omega), if_neg (by omega), if_neg (by omega),
        show 0xF0 + n / 262144 = first.toNat by omega,
        show 0x80 + n / 4096 % 64 = b.toNat by omega,
        show 0x80 + n / 64 % 64 = c.toNat by omega, show 0x80 + n % 64 = d.toNat by omega]
      simp

/-- A character that was read is written as it was spelled. -/
theorem encodeChar_of_firstPiece {first : UInt8} {rest after : Bytes} {c : Char}
    {spelling : Bytes} (h : firstPiece first rest = (.char c spelling, after)) :
    encodeChar c = spelling := by
  unfold firstPiece at h
  split at h
  · simp at h
  · next ranges hranges =>
      simp only at h
      split at h
      · next hstop =>
          simp only [Prod.mk.injEq, Piece.char.injEq] at h
          obtain ⟨⟨rfl, rfl⟩, -⟩ := h
          exact encodeChar_codePoint
            (isSpelling_of_tailRanges? hranges (forall₂_of_takeTails hstop))
      · simp at h

/-- Characters read strictly are written as the bytes they were read from. -/
theorem flatMap_encodeChar_of_strictChars {bytes : Bytes} {position : Nat} {chars : List Char}
    (h : strictChars position (pieces bytes) = .ok chars) :
    chars.flatMap encodeChar = bytes := by
  fun_induction pieces bytes generalizing position chars with
  | case1 =>
      simp only [strictChars, Except.ok.injEq] at h
      simp [← h]
  | case2 first rest ih =>
      rcases hpiece : firstPiece first rest with ⟨piece, after⟩
      have hsplit := firstPiece_bytes_append first rest
      rw [hpiece] at h ih hsplit
      cases piece with
      | bad bytes defect => simp [strictChars] at h
      | char c spelling =>
          simp only [strictChars] at h
          split at h
          · next found hfound =>
              simp only [Except.ok.injEq] at h
              rw [← h, List.flatMap_cons, ih hfound, encodeChar_of_firstPiece hpiece]
              exact hsplit
          · simp at h

/-- A text that was read strictly is written as the bytes it was read from. -/
theorem encode_of_decode {bytes : Bytes} {text : String} (h : decode bytes = .ok text) :
    encode text = bytes := by
  unfold decode at h
  split at h
  · next chars hchars =>
      simp only [Except.ok.injEq] at h
      rw [← h, encode, String.toList_ofList]
      exact flatMap_encodeChar_of_strictChars hchars
  · simp at h

/-- The ranges of a first byte fit the tails of its well-formed spellings. -/
theorem exists_tailRanges?_of_isSpelling {first : UInt8} {tails : Bytes}
    (h : IsSpelling (first :: tails)) :
    ∃ ranges, tailRanges? first = some ranges ∧
      List.Forall₂ (fun range b => range.1 ≤ b ∧ b ≤ range.2) ranges tails := by
  rw [tailRanges?_eq]
  cases h with
  | one hfirst => exact ⟨[], if_pos hfirst, .nil⟩
  | two hfirst hb =>
      rw [if_neg (by omega), if_neg (by omega), if_pos hfirst.2]
      exact ⟨_, rfl, .cons hb .nil⟩
  | three hfirst hb hlong hpair hc =>
      rw [if_neg (by omega), if_neg (by omega), if_neg (by omega)]
      split_ifs with hfirstLong hfirstPair hlast
      · exact ⟨_, rfl, .cons ⟨hlong hfirstLong, hb.2⟩ (.cons hc .nil)⟩
      · exact ⟨_, rfl, .cons ⟨hb.1, hpair hfirstPair⟩ (.cons hc .nil)⟩
      · exact ⟨_, rfl, .cons hb (.cons hc .nil)⟩
      all_goals omega
  | four hfirst hb hlong hlast hc hd =>
      rw [if_neg (by omega), if_neg (by omega), if_neg (by omega), if_neg (by omega),
        if_neg (by omega), if_neg (by omega)]
      split_ifs with hfirstLong hbetween hfirstLast
      · exact ⟨_, rfl, .cons ⟨hlong hfirstLong, hb.2⟩ (.cons hc (.cons hd .nil))⟩
      · exact ⟨_, rfl, .cons hb (.cons hc (.cons hd .nil))⟩
      · exact ⟨_, rfl, .cons ⟨hb.1, hlast hfirstLast⟩ (.cons hc (.cons hd .nil))⟩
      · omega

/-- Tails that fit their ranges are all taken. -/
theorem takeTails_append {ranges : List (UInt8 × UInt8)} {tails : Bytes}
    (h : List.Forall₂ (fun range b => range.1 ≤ b ∧ b ≤ range.2) ranges tails) (rest : Bytes) :
    takeTails ranges (tails ++ rest) = ⟨tails, none, rest⟩ := by
  induction h with
  | nil => rfl
  | cons hfits _ ih => simp [takeTails, hfits, ih]

/-- A well-formed spelling is the first piece of what starts with it. -/
theorem firstPiece_of_isSpelling {first : UInt8} {tails : Bytes}
    (h : IsSpelling (first :: tails)) (rest : Bytes) :
    firstPiece first (tails ++ rest) =
      (.char (Char.ofNat (codePoint first tails)) (first :: tails), rest) := by
  obtain ⟨ranges, hranges, hfit⟩ := exists_tailRanges?_of_isSpelling h
  simp [firstPiece, hranges, takeTails_append hfit]

/-- A character is written in a well-formed spelling of its code point. -/
theorem isSpelling_encodeChar (c : Char) :
    ∃ first tails, encodeChar c = first :: tails ∧ IsSpelling (first :: tails) ∧
      codePoint first tails = c.toNat := by
  have hvalid : c.toNat < 0xD800 ∨ 0xDFFF < c.toNat ∧ c.toNat < 0x110000 := c.valid
  unfold encodeChar
  generalize c.toNat = n at hvalid
  dsimp only
  split_ifs with hone htwo hthree
  · refine ⟨_, _, rfl, .one ?_, ?_⟩ <;>
      simp only [codePoint, List.length, List.foldl, UInt8.toNat_ofNat'] <;> omega
  · refine ⟨_, _, rfl, .two ?_ ?_, ?_⟩ <;>
      simp only [IsTail, codePoint, List.length, List.foldl, UInt8.toNat_ofNat'] <;> omega
  · refine ⟨_, _, rfl, .three ?_ ?_ ?_ ?_ ?_, ?_⟩ <;>
      simp only [IsTail, codePoint, List.length, List.foldl, UInt8.toNat_ofNat'] <;> omega
  · refine ⟨_, _, rfl, .four ?_ ?_ ?_ ?_ ?_ ?_, ?_⟩ <;>
      simp only [IsTail, codePoint, List.length, List.foldl, UInt8.toNat_ofNat'] <;> omega

/-- Characters are read back from the bytes they are written as. -/
theorem strictChars_flatMap_encodeChar (chars : List Char) (position : Nat) :
    strictChars position (pieces (chars.flatMap encodeChar)) = .ok chars := by
  induction chars generalizing position with
  | nil => simp [pieces, strictChars]
  | cons c rest ih =>
      obtain ⟨first, tails, hencode, hspelling, hcode⟩ := isSpelling_encodeChar c
      rw [List.flatMap_cons, hencode, List.cons_append, pieces, firstPiece_of_isSpelling hspelling,
        hcode]
      simp [strictChars, ih]

/-- A text is read back from the bytes it is written as. -/
theorem decode_encode (text : String) : decode (encode text) = .ok text := by
  simp [decode, encode, strictChars_flatMap_encodeChar]

/-- Texts that are written as the same bytes are the same. -/
theorem encode_inj {text other : String} : encode text = encode other ↔ text = other := by
  constructor
  · intro hsame
    simpa [decode_encode] using congrArg decode hsame
  · intro hsame
    rw [hsame]

/-! ## What can be read -/

/-- Bytes that spell one character after the other. -/
inductive IsWellFormed : Bytes → Prop
  | nil : IsWellFormed []
  | append {spelling rest : Bytes} (hspelling : IsSpelling spelling)
      (hrest : IsWellFormed rest) : IsWellFormed (spelling ++ rest)

/-- Bytes read strictly as a text exactly if the text is written as these bytes. -/
theorem decode_eq_ok_iff {bytes : Bytes} {text : String} :
    decode bytes = .ok text ↔ encode text = bytes :=
  ⟨encode_of_decode, fun h => h ▸ decode_encode text⟩

/-- What is written is well-formed. -/
theorem isWellFormed_flatMap_encodeChar (chars : List Char) :
    IsWellFormed (chars.flatMap encodeChar) := by
  induction chars with
  | nil => exact .nil
  | cons c chars ih =>
      obtain ⟨first, tails, hencode, hspelling, -⟩ := isSpelling_encodeChar c
      rw [List.flatMap_cons, hencode]
      exact .append hspelling ih

/-- Well-formed bytes are what some text is written as. -/
theorem IsWellFormed.exists_encode {bytes : Bytes} (h : IsWellFormed bytes) :
    ∃ text, encode text = bytes := by
  induction h with
  | nil => exact ⟨"", rfl⟩
  | @append spelling rest hspelling _ ih =>
      obtain ⟨text, htext⟩ := ih
      obtain ⟨first, tails, rfl⟩ : ∃ first tails, spelling = first :: tails := by
        cases hspelling <;> exact ⟨_, _, rfl⟩
      refine ⟨String.ofList (Char.ofNat (codePoint first tails) :: text.toList), ?_⟩
      rw [encode, String.toList_ofList, List.flatMap_cons, encodeChar_codePoint hspelling,
        ← encode, htext]

/-- Exactly the well-formed bytes can be read strictly. -/
theorem exists_decode_eq_ok_iff {bytes : Bytes} :
    (∃ text, decode bytes = .ok text) ↔ IsWellFormed bytes := by
  constructor
  · rintro ⟨text, htext⟩
    rw [decode_eq_ok_iff] at htext
    exact htext ▸ isWellFormed_flatMap_encodeChar text.toList
  · intro h
    obtain ⟨text, htext⟩ := h.exists_encode
    exact ⟨text, decode_eq_ok_iff.mpr htext⟩

end FormatLauncher.Text.Utf8

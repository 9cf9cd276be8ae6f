/-
# UTF-8

A sequence of bytes is cut into pieces, each either one well-formed character or a maximal bad
piece: the longest start of a character that the bytes allow, or a single byte that can start
none.  Strict reading refuses the first bad piece and says where it is; lenient reading puts the
replacement character in its place.  Both are folds over the same list of pieces, so they agree on
every sequence that has no bad piece.
-/

import FormatLauncher.Text.DecimalDigit

namespace FormatLauncher.Text

/-- Raw contents of files and streams. -/
abbrev Bytes := List UInt8

namespace Utf8

/-- What is wrong with a bad piece. -/
inductive Defect
  /-- The byte cannot start a character. -/
  | start
  /-- A byte that should continue the character does not. -/
  | continuation
  /-- The bytes end inside the character. -/
  | truncated
  deriving DecidableEq, Repr

/-- The defect in words. -/
def Defect.reason : Defect → String
  | .start => "invalid start byte"
  | .continuation => "invalid continuation byte"
  | .truncated => "unexpected end of data"

/-- One step of reading: a character with the bytes that spell it, or a maximal bad piece. -/
inductive Piece
  | char (c : Char) (spelling : Bytes)
  | bad (bytes : Bytes) (defect : Defect)
  deriving DecidableEq, Repr

/-- The bytes of a piece. -/
def Piece.bytes : Piece → Bytes
  | .char _ spelling => spelling
  | .bad bytes _ => bytes

/-- The range of an ordinary continuation byte. -/
def tail : UInt8 × UInt8 := (0x80, 0xBF)

/-- The ranges of the bytes that must follow a first byte; none for a byte that starts nothing.
The narrowed ranges exclude overlong spellings, surrogates and values above the last code point. -/
def tailRanges? (first : UInt8) : Option (List (UInt8 × UInt8)) :=
  if first ≤ 0x7F then some []
  else if first ≤ 0xC1 then none
  else if first ≤ 0xDF then some [tail]
  else if first = 0xE0 then some [(0xA0, 0xBF), tail]
  else if first = 0xED then some [(0x80, 0x9F), tail]
  else if first ≤ 0xEF then some [tail, tail]
  else if first = 0xF0 then some [(0x90, 0xBF), tail, tail]
  else if first ≤ 0xF3 then some [tail, tail, tail]
  else if first = 0xF4 then some [(0x80, 0x8F), tail, tail]
  else none

/-- The bytes taken as continuation, and what stopped the taking, if anything did. -/
structure Taken where
  bytes : Bytes
  stop : Option Defect
  rest : Bytes

/-- Take one byte per range for as long as they fit. -/
def takeTails : List (UInt8 × UInt8) → Bytes → Taken
  | [], rest => ⟨[], none, rest⟩
  | _ :: _, [] => ⟨[], some .truncated, []⟩
  | (low, high) :: ranges, b :: rest =>
    if low ≤ b ∧ b ≤ high then
      let taken := takeTails ranges rest
      ⟨b :: taken.bytes, taken.stop, taken.rest⟩
    else ⟨[], some .continuation, b :: rest⟩

/-- Taking loses nothing. -/
theorem takeTails_bytes_append_rest (ranges : List (UInt8 × UInt8)) (bytes : Bytes) :
    (takeTails ranges bytes).bytes ++ (takeTails ranges bytes).rest = bytes := by
  induction ranges generalizing bytes with
  | nil => simp [takeTails]
  | cons range ranges ih =>
    cases bytes with
    | nil => simp [takeTails]
    | cons b rest =>
      simp only [takeTails]
      split
      · simp [ih rest]
      · simp

/-- What is left after the taking is no longer than what there was. -/
theorem length_takeTails_rest_le (ranges : List (UInt8 × UInt8)) (bytes : Bytes) :
    (takeTails ranges bytes).rest.length ≤ bytes.length := by
  have h := congrArg List.length (takeTails_bytes_append_rest ranges bytes)
  simp only [List.length_append] at h
  omega

/-- The code point that a first byte and its continuation bytes stand for. -/
def codePoint (first : UInt8) (tails : Bytes) : Nat :=
  let payload :=
    match tails.length with
    | 0 => first.toNat
    | 1 => first.toNat % 32
    | 2 => first.toNat % 16
    | _ => first.toNat % 8
  tails.foldl (fun value b => value * 64 + b.toNat % 64) payload

/-- The first piece of a nonempty sequence, with what follows it. -/
def firstPiece (first : UInt8) (rest : Bytes) : Piece × Bytes :=
  match tailRanges? first with
  | none => (.bad [first] .start, rest)
  | some ranges =>
    let taken := takeTails ranges rest
    match taken.stop with
    | none => (.char (Char.ofNat (codePoint first taken.bytes)) (first :: taken.bytes), taken.rest)
    | some defect => (.bad (first :: taken.bytes) defect, taken.rest)

/-- A first piece and what follows it are the sequence. -/
theorem firstPiece_bytes_append (first : UInt8) (rest : Bytes) :
    (firstPiece first rest).1.bytes ++ (firstPiece first rest).2 = first :: rest := by
  unfold firstPiece
  split
  · rfl
  · next ranges _ =>
    simp only
    split <;> simp [Piece.bytes, takeTails_bytes_append_rest]

/-- What follows a first piece is shorter than the sequence. -/
theorem length_firstPiece_snd_le (first : UInt8) (rest : Bytes) :
    (firstPiece first rest).2.length ≤ rest.length := by
  unfold firstPiece
  split
  · simp
  · next ranges _ =>
    simp only
    split <;> exact length_takeTails_rest_le ranges rest

/-- The pieces of a sequence of bytes. -/
def pieces : Bytes → List Piece
  | [] => []
  | first :: rest =>
    (firstPiece first rest).1 :: pieces (firstPiece first rest).2
termination_by bytes => bytes.length
decreasing_by
  have h := length_firstPiece_snd_le first rest
  simp only [List.length_cons]
  omega

/-- Cutting into pieces loses nothing. -/
theorem flatMap_bytes_pieces (bytes : Bytes) : (pieces bytes).flatMap Piece.bytes = bytes := by
  fun_induction pieces bytes with
  | case1 => rfl
  | case2 first rest ih => rw [List.flatMap_cons, ih, firstPiece_bytes_append]

/-- A bad piece and where it starts. -/
structure Error where
  position : Nat
  bytes : Bytes
  defect : Defect
  deriving DecidableEq, Repr

/-- The refusal in words: the bad bytes, where they are, and what is wrong with them. -/
def Error.message (e : Error) : String :=
  let place :=
    match e.bytes with
    | [b] =>
      "byte 0x" ++ String.ofList (hexDigits 2 b.toNat) ++ " in position " ++ toString e.position
    | _ =>
      "bytes in position " ++ toString e.position ++ "-"
        ++ toString (e.position + e.bytes.length - 1)
  "'utf-8' codec can't decode " ++ place ++ ": " ++ e.defect.reason

/-- The characters of the pieces, or the first bad piece among them; the position counts bytes. -/
def strictChars (position : Nat) : List Piece → Except Error (List Char)
  | [] => .ok []
  | .char c spelling :: rest =>
    match strictChars (position + spelling.length) rest with
    | .ok chars => .ok (c :: chars)
    | .error e => .error e
  | .bad bytes defect :: _ => .error ⟨position, bytes, defect⟩

/-- Strict reading. -/
def decode (bytes : Bytes) : Except Error String :=
  match strictChars 0 (pieces bytes) with
  | .ok chars => .ok (String.ofList chars)
  | .error e => .error e

/-- The character that stands for a bad piece. -/
def replacement : Char := '\uFFFD'

/-- Lenient reading: one replacement character for each bad piece. -/
def decodeLenient (bytes : Bytes) : String :=
  String.ofList <| (pieces bytes).map fun
    | .char c _ => c
    | .bad _ _ => replacement

/-- The bytes of a character. -/
def encodeChar (c : Char) : Bytes :=
  let n := c.toNat
  if n < 0x80 then [UInt8.ofNat n]
  else if n < 0x800 then [UInt8.ofNat (0xC0 + n / 64), UInt8.ofNat (0x80 + n % 64)]
  else if n < 0x10000 then
    [UInt8.ofNat (0xE0 + n / 4096), UInt8.ofNat (0x80 + n / 64 % 64), UInt8.ofNat (0x80 + n % 64)]
  else
    [UInt8.ofNat (0xF0 + n / 262144), UInt8.ofNat (0x80 + n / 4096 % 64),
      UInt8.ofNat (0x80 + n / 64 % 64), UInt8.ofNat (0x80 + n % 64)]

/-- The bytes of a text. -/
def encode (text : String) : Bytes := text.toList.flatMap encodeChar

/-- Strict and lenient reading agree where strict reading succeeds. -/
theorem decodeLenient_eq_of_decode {bytes : Bytes} {text : String}
    (hdecode : decode bytes = .ok text) : decodeLenient bytes = text := by
  have hchars : ∀ (ps : List Piece) (position : Nat) (chars : List Char),
      strictChars position ps = .ok chars →
        ps.map (fun | .char c _ => c | .bad _ _ => replacement) = chars := by
    intro ps
    induction ps with
    | nil => intro position chars h; simp_all [strictChars]
    | cons p ps ih =>
      intro position chars h
      cases p with
      | bad bytes defect => simp [strictChars] at h
      | char c spelling =>
        simp only [strictChars] at h
        split at h
        · next found hfound =>
          simp only [Except.ok.injEq] at h
          simp [← h, ih _ _ hfound]
        · simp at h
  unfold decode at hdecode
  split at hdecode
  · next chars hok =>
    simp only [Except.ok.injEq] at hdecode
    rw [decodeLenient, hchars _ _ _ hok, hdecode]
  · simp at hdecode

end Utf8

end FormatLauncher.Text

/-
# Plain output

Text that is not meant for a terminal is printed without the escape sequences that control one: an
escape character, a bracket, digits, semicolons and question marks, and a letter.
-/

namespace FormatLauncher.Console

/-- A parameter character of an escape sequence. -/
def isParameter (c : Char) : Bool := c.isDigit || c = ';' || c = '?'

/-- What follows an escape sequence at the start of a text, after its escape character. -/
def afterSequence? (text : List Char) : Option (List Char) :=
  match text with
  | '[' :: rest =>
    match rest.dropWhile isParameter with
    | c :: after => if c.isAlpha then some after else none
    | [] => none
  | _ => none

/-- What follows an escape sequence is shorter than the text. -/
theorem length_lt_of_afterSequence? {text after : List Char}
    (h : afterSequence? text = some after) : after.length < text.length := by
  unfold afterSequence? at h
  split at h
  · next rest =>
    split at h
    · next c tail htail =>
      split at h
      · simp only [Option.some.injEq] at h
        have hle := (List.dropWhile_sublist (l := rest) isParameter).length_le
        rw [htail] at hle
        simp only [List.length_cons] at hle ⊢
        rw [← h]
        omega
      · simp at h
    · simp at h
  · simp at h

/-- The text without its escape sequences. -/
def stripSequences (text : List Char) : List Char :=
  match text with
  | [] => []
  | c :: rest =>
    if c = '\x1B' then
      match _hsequence : afterSequence? rest with
      | some after => stripSequences after
      | none => c :: stripSequences rest
    else c :: stripSequences rest
termination_by text.length
decreasing_by
  · have h := length_lt_of_afterSequence? _hsequence
    simp only [List.length_cons]
    omega
  · simp
  · simp

/-- A text as it is printed. -/
def plain (text : String) : String := String.ofList (stripSequences text.toList)

/-- A text without the escape character is printed as it is. -/
theorem stripSequences_of_notMem {text : List Char} (h : '\x1B' ∉ text) :
    stripSequences text = text := by
  induction text with
  | nil => simp [stripSequences]
  | cons c rest ih =>
    simp only [List.mem_cons, not_or] at h
    rw [stripSequences, if_neg (Ne.symm h.1), ih h.2]

end FormatLauncher.Console

/-
# Markup

Styled output marks styles by tags in square brackets.  A tag opens a style until a tag with a slash
closes it; closing what is not open is an error.  A backslash before a tag makes it plain text.
Between tags, names of emoji stand for their pictures.
Only the text is modelled here: styles leave no trace in output that does not go to a terminal.
-/

import FormatLauncher.Console.Emoji
import FormatLauncher.Console.Literal
import FormatLauncher.Console.Style

namespace FormatLauncher.Console.Markup

/-- A character that may start a tag. -/
def startsTag (c : Char) : Bool :=
  (0x61 ≤ c.toNat && c.toNat ≤ 0x7A) || c = '#' || c = '/' || c = '@'

/-- A tag at the start of a text: what stands between its brackets, and what follows it. -/
def tagAt? (text : List Char) : Option (List Char × List Char) :=
  match text with
  | '[' :: c :: rest =>
    let inside (c : Char) : Bool := c ≠ ']' && c ≠ '['
    if startsTag c then
      match rest.dropWhile inside with
      | ']' :: after => some (c :: rest.takeWhile inside, after)
      | _ => none
    else none
  | _ => none

/-- What follows a tag is shorter than the text. -/
theorem length_lt_of_tagAt? {text body after : List Char} (h : tagAt? text = some (body, after)) :
    after.length < text.length := by
  unfold tagAt? at h
  split at h
  · next c rest =>
    simp only at h
    split at h
    · split at h
      · next tail htail =>
        simp only [Option.some.injEq, Prod.mk.injEq] at h
        have hle := (List.dropWhile_sublist (l := rest) fun c => c ≠ ']' && c ≠ '[').length_le
        rw [htail] at hle
        simp only [List.length_cons] at hle ⊢
        rw [← h.2]
        omega
      · simp at h
    · simp at h
  · simp at h

/-- A tag with the backslashes before it: their number, what stands between the brackets, and what
follows. -/
def markedTag? (text : List Char) : Option (Nat × List Char × List Char) :=
  let count := (text.takeWhile (· = '\\')).length
  (tagAt? (text.drop count)).map fun (body, after) => (count, body, after)

/-- What follows a tag is shorter than the text. -/
theorem length_lt_of_markedTag? {text body after : List Char} {count : Nat}
    (h : markedTag? text = some (count, body, after)) : after.length < text.length := by
  simp only [markedTag?, Option.map_eq_some_iff, Prod.mk.injEq, Prod.exists] at h
  obtain ⟨b, a, htag, -, -, rfl⟩ := h
  have hlt := length_lt_of_tagAt? htag
  rw [List.length_drop] at hlt
  omega

/-- A tag as text, with its brackets. -/
def bracketed (body : List Char) : List Char := '[' :: body ++ [']']

/-- A run of markup. -/
inductive Piece
  /-- Text between tags, as it is written. -/
  | raw (text : List Char)
  /-- Text that stands for itself. -/
  | literal (text : List Char)
  /-- A tag, and where it stands. -/
  | tag (body : List Char) (position : Nat)
  deriving DecidableEq, Repr

/-- Text in front of pieces. -/
def consRaw (c : Char) : List Piece → List Piece
  | .raw text :: rest => .raw (c :: text) :: rest
  | pieces => .raw [c] :: pieces

/-- The pieces of a tag with backslashes before it.  Two backslashes stand for one, and an odd one
makes the tag plain text. -/
def tagPieces (count : Nat) (body : List Char) (position : Nat) : List Piece :=
  let slashes := if count < 2 then [] else [Piece.literal (List.replicate (count / 2) '\\')]
  slashes ++ [if count % 2 = 1 then .literal (bracketed body)
    else .tag body (position + count / 2 * 2)]

/-- The pieces of a text that starts at a position. -/
def pieces (position : Nat) (text : List Char) : List Piece :=
  match text with
  | [] => []
  | c :: rest =>
    match _htag : markedTag? (c :: rest) with
    | some (count, body, after) =>
      tagPieces count body position
        ++ pieces (position + ((c :: rest).length - after.length)) after
    | none => consRaw c (pieces (position + 1) rest)
termination_by text.length
decreasing_by
  · exact length_lt_of_markedTag? _htag
  · simp

/-- A name and its value, if the tag has one after an equals sign. -/
def splitTag (body : List Char) : List Char × Option (List Char) :=
  match body.dropWhile (· ≠ '=') with
  | _ :: value => (body.takeWhile (· ≠ '='), some value)
  | [] => (body, none)

/-- Text between tags as it is shown: a backslash before a bracket is dropped. -/
def showRaw : List Char → List Char
  | [] => []
  | '\\' :: '[' :: rest => '[' :: showRaw rest
  | c :: rest => c :: showRaw rest

/-- A style that was opened, and what its tag says after an equals sign. -/
structure Opened where
  name : String
  detail : Option String
  deriving DecidableEq, Repr

/-- Close a style: the last of its name, or the last of all for an empty name.  The answer is the style
and those that are still open. -/
def close? (name : String) (opened : List Opened) : Option (Opened × List Opened) :=
  if name = "" then
    match opened with
    | [] => none
    | last :: rest => some (last, rest)
  else (opened.find? fun style => style.name = name).map fun style => (style, opened.erase style)

/-- Read what a tag says to whom it calls when it is closed. -/
def Opened.check (style : Opened) : Except Failure Unit :=
  match style.detail with
  | some detail =>
    if style.name.startsWith "@" then
      match Literal.fault? detail with
      | some problem => .error (.badMarkup problem)
      | none => .ok ()
    else .ok ()
  | none => .ok ()

/-- The text of pieces, while some styles are open, the last one first. -/
def renderPieces : (opened : List Opened) → List Piece → Except Failure (List Char)
  | _, [] => .ok []
  | opened, .raw text :: rest =>
    (renderPieces opened rest).map (Emoji.replace (showRaw text) ++ ·)
  | opened, .literal text :: rest => (renderPieces opened rest).map (Emoji.replace text ++ ·)
  | opened, .tag body position :: rest =>
    match splitTag body with
    | ('/' :: name, _) => do
      let bare := Text.trim (String.ofList name)
      let name ← if bare = "" then pure "" else Style.normalName bare
      match close? name opened with
      | some (style, opened) =>
        style.check
        renderPieces opened rest
      | none =>
        let shown := if bare = "" then "[/]" else String.ofList (bracketed body)
        throw (.unmatchedTag shown position)
    | (name, detail) => do
      let name ← Style.normalName (String.ofList name)
      renderPieces (⟨name, detail.map String.ofList⟩ :: opened) rest

/-- The control characters that are dropped: bell, backspace, vertical tab, form feed and carriage
return. -/
def isDropped (c : Char) : Bool := [7, 8, 11, 12, 13].contains c.toNat

/-- The text of markup. -/
def render (text : String) : Except Failure (List Char) :=
  let shown :=
    if text.toList.contains '[' then renderPieces [] (pieces 0 text.toList)
    else .ok (Emoji.replace text.toList)
  shown.map fun chars => chars.filter fun c => !isDropped c

/-- A tag with the backslashes before it, each of them written twice and one more added. -/
def escapeTag (count : Nat) (body : List Char) : List Char :=
  List.replicate (2 * count + 1) '\\' ++ bracketed body

/-- The text with backslashes before its tags. -/
def escapeTags (text : List Char) : List Char :=
  match text with
  | [] => []
  | c :: rest =>
    match _htag : markedTag? (c :: rest) with
    | some (count, body, after) => escapeTag count body ++ escapeTags after
    | none => c :: escapeTags rest
termination_by text.length
decreasing_by
  · exact length_lt_of_markedTag? _htag
  · simp

/-- Markup that shows a text as it is.  A single backslash at the end is written twice, for a tag
may follow. -/
def escape (text : String) : String :=
  let escaped := escapeTags text.toList
  let lone := ['\\'].isSuffixOf escaped && !(['\\', '\\'].isSuffixOf escaped)
  String.ofList (if lone then escaped ++ ['\\'] else escaped)

end FormatLauncher.Console.Markup

/-
# Bytes in a document

Bytes are written in base 64: every four characters stand for three bytes.  Characters that are no
digits of the base are skipped.  The padding ends the text as soon as it completes a group of four,
and a group that nothing completes is a fault.
-/

import FormatLauncher.Text.Utf8

namespace FormatLauncher.Yaml.Base64

/-- The value of a digit. -/
def digit? (c : Char) : Option Nat :=
  let n := c.toNat
  if 0x41 ≤ n ∧ n ≤ 0x5A then some (n - 0x41)
  else if 0x61 ≤ n ∧ n ≤ 0x7A then some (n - 0x61 + 26)
  else if 0x30 ≤ n ∧ n ≤ 0x39 then some (n - 0x30 + 52)
  else if c = '+' then some 62
  else if c = '/' then some 63
  else none

/-- A group of four that is not complete: its digits so far, and the padding right after them. -/
structure Group where
  digits : List Nat
  padding : Nat

/-- The byte that one more digit completes, if it completes one. -/
def byte? (group : Group) (digit : Nat) : Option UInt8 :=
  match group.digits.getLast? with
  | none => none
  | some before =>
    let shift := 2 * group.digits.length
    some (UInt8.ofNat (before * Nat.pow 2 shift + digit / Nat.pow 2 (6 - shift)))

/-- The bytes of the rest of a text. -/
def decodeFrom (group : Group) : List Char → Option Text.Bytes
  | [] => if group.digits = [] then some [] else none
  | c :: rest =>
    if c = '=' then
      if 2 ≤ group.digits.length then
        if 4 ≤ group.digits.length + (group.padding + 1) then some []
        else decodeFrom { group with padding := group.padding + 1 } rest
      else decodeFrom group rest
    else
      match digit? c with
      | none => decodeFrom group rest
      | some digit =>
        let digits := if group.digits.length = 3 then [] else group.digits ++ [digit]
        (decodeFrom ⟨digits, 0⟩ rest).map fun bytes => (byte? group digit).toList ++ bytes

/-- The bytes of a text. -/
def decode (text : List Char) : Option Text.Bytes :=
  if text.all fun c => c.toNat < 0x80 then decodeFrom ⟨[], 0⟩ text else none

end FormatLauncher.Yaml.Base64

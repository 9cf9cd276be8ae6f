/-
# Blank characters

Three notions of blank are needed and they differ.  Trimming a message uses the Unicode notion.
Reading a number uses it only above ASCII and keeps six characters of ASCII.  A program that
handles bytes knows those six alone.
-/

import FormatLauncher.Text.CodeRange

namespace FormatLauncher.Text

/-- The blanks of Unicode, with the four ASCII separators of information included. -/
def blankCodes : CodeRanges := [
  (0x9, 0xD), (0x1C, 0x20), (0x85, 0x85), (0xA0, 0xA0), (0x1680, 0x1680), (0x2000, 0x200A),
  (0x2028, 0x2029), (0x202F, 0x202F), (0x205F, 0x205F), (0x3000, 0x3000)]

/-- The character is blank. -/
def isBlank (c : Char) : Bool := blankCodes.covers c

/-- The six blanks that a program working on bytes recognises: space, tab, line feed, vertical
tab, form feed and carriage return. -/
def isBlankByte (b : UInt8) : Bool := b == 0x20 || (0x09 ≤ b && b ≤ 0x0D)

/-- The blanks around a number: the six of `isBlankByte`, and every blank above ASCII. -/
def isNumberBlank (c : Char) : Bool :=
  if c.toNat < 0x7F then c.toNat == 0x20 || (0x09 ≤ c.toNat && c.toNat ≤ 0x0D) else isBlank c

/-- The text without the blanks at its two ends. -/
def trim (text : String) : String :=
  String.ofList ((text.toList.dropWhile isBlank).reverse.dropWhile isBlank).reverse

end FormatLauncher.Text

import TableFilter.Text.PrintableTable
import TableFilter.Text.Ranges

/-!
# Quoted text in messages

A name or value that a message repeats is put in double quotes, with everything that would not be
seen as itself written out.
-/

namespace TableFilter.Text

/-- A character that a quoted text cannot show as itself: it has no visible form, or it would join
the character before it. -/
def isHidden (c : Char) : Bool :=
  if c.toNat < 128 then c.toNat < 32 || c.toNat == 127
  else inRanges extendingRanges c.toNat || inRanges unprintableRanges c.toNat

/-- A character by its code point in lower-case hexadecimal. -/
def codePoint (c : Char) : List Char :=
  ['\\', 'u', '\x7b'] ++ Nat.toDigits 16 c.toNat ++ ['\x7d']

def quotedChar (c : Char) : List Char :=
  if c = '"' then ['\\', '"']
  else if c = '\\' then ['\\', '\\']
  else if c = '\x00' then ['\\', '0']
  else if c = '\t' then ['\\', 't']
  else if c = '\n' then ['\\', 'n']
  else if c = '\r' then ['\\', 'r']
  else if isHidden c then codePoint c
  else [c]

/-- The text in double quotes, as messages repeat it. -/
def quoted (s : String) : String :=
  String.ofList (['"'] ++ s.toList.flatMap quotedChar ++ ['"'])

end TableFilter.Text

/-
Module: DagScheduling.Text.Quoted
Purpose: Text between double quotes, with every character visible.
Main exports: escape, quoted
-/
import DagScheduling.Text.Unprintable

namespace DagScheduling.Text

/-- One character inside double quotes. The quote, the backslash and the
common control characters have short escapes, every other character that shows
no mark of its own is written by its code point, and the rest stand as they
are, an apostrophe among them. -/
def escape (character : Char) : List Char :=
  if character == '"' then ['\\', '"']
  else if character == '\\' then ['\\', '\\']
  else if character == '\t' then ['\\', 't']
  else if character == '\n' then ['\\', 'n']
  else if character == '\r' then ['\\', 'r']
  else if character == Char.ofNat 0 then ['\\', '0']
  else if isUnprintable character then
    ['\\', 'u', '\x7b'] ++ Nat.toDigits 16 character.toNat ++ ['\x7d']
  else [character]

/-- A text between double quotes. -/
def quoted (text : String) : String :=
  String.ofList ('"' :: text.toList.flatMap escape ++ ['"'])

end DagScheduling.Text

import ClassLink.Number.Numeral
import ClassLink.Text.HiddenChars
/-!
# Quoted texts

A text between double quotes, with every character told apart: the quote and the backslash
follow a backslash, four control characters have letters of their own, and what has no shape of
its own is named by its number.
-/

namespace ClassLink.Text

/-- One character inside quotes. -/
def quotedChar (c : Char) : List Char :=
  if c = '"' ∨ c = '\\' then ['\\', c]
  else if c = '\n' then ['\\', 'n']
  else if c = '\r' then ['\\', 'r']
  else if c = '\t' then ['\\', 't']
  else if c.toNat = 0 then ['\\', '0']
  else if hiddenChars.contains c then
    ['\\', 'u', '\x7b'] ++ Numeral.ofNat 16 c.toNat ++ ['\x7d']
  else [c]

/-- A text between quotes. -/
def quoted (s : String) : String :=
  String.ofList ('"' :: s.toList.flatMap quotedChar ++ ['"'])

end ClassLink.Text

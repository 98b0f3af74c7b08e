/-
Texts shown between quotes.

Quotes, backslashes and the common controls are shown with a backslash; any other
character that is not seen on its own is shown by its code.
-/
import OutlineBar.Text.Unseen

namespace OutlineBar.Text

def codeDigits (c : Char) : List Char := Nat.toDigits 16 c.toNat

def shownChar (c : Char) : List Char :=
  if c = '\x22' then ['\\', '\x22']
  else if c = '\\' then ['\\', '\\']
  else if c = '\n' then ['\\', 'n']
  else if c = '\r' then ['\\', 'r']
  else if c = '\t' then ['\\', 't']
  else if c = '\x00' then ['\\', '0']
  else if isUnseen c then '\\' :: 'u' :: '\x7b' :: codeDigits c ++ ['\x7d']
  else [c]

def shown (text : String) : String :=
  String.ofList ('\x22' :: text.toList.flatMap shownChar ++ ['\x22'])

end OutlineBar.Text

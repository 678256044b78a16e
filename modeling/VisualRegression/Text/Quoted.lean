import VisualRegression.Text.Standalone

/-!
# Quoted texts

A text between double quotes in which every character can be seen: quotes and backslashes are
escaped, tab, line feed, carriage return and the null character have letters of their own, and any
other character that does not stand on its own is written by its code point.
-/

namespace VisualRegression.Text

/-- Lower-case hexadecimal digits, most significant first. -/
def hexDigits (n : Nat) : List Char := Nat.toDigits 16 n

/-- Lower-case hexadecimal digits, filled up with zeros to a width. -/
def hexField (width n : Nat) : List Char :=
  let ds := hexDigits n
  List.replicate (width - ds.length) '0' ++ ds

/-- How one character is written between the quotes. -/
def escapeChar (c : Char) : List Char :=
  if c = '\t' then ['\\', 't']
  else if c = '\n' then ['\\', 'n']
  else if c = '\r' then ['\\', 'r']
  else if c = '\x00' then ['\\', '0']
  else if c = '"' then ['\\', '"']
  else if c = '\\' then ['\\', '\\']
  else if isStandalone c then [c]
  else ['\\', 'u', '\x7b'] ++ hexDigits c.toNat ++ ['\x7d']

/-- The text between double quotes. -/
def quoted (s : String) : String :=
  String.ofList ('"' :: s.toList.flatMap escapeChar ++ ['"'])

end VisualRegression.Text

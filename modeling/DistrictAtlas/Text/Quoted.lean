import DistrictAtlas.Text.Hexadecimal
import DistrictAtlas.Text.Printable

/-!
# Quoted texts

How a text is shown inside a message: between quotes, with escapes for whatever would not show. The
single quote is the usual mark; a text that holds a single quote and no double one is put between
double quotes instead. A backslash, the quote in use, and every unprintable character are escaped.
-/

namespace DistrictAtlas.Text

/-- One character of a quoted text between the given quotes. -/
def quoteChar (mark c : Char) : List Char :=
  if c = mark || c = '\\' then ['\\', c]
  else if c = '\n' then ['\\', 'n']
  else if c = '\r' then ['\\', 'r']
  else if c = '\t' then ['\\', 't']
  else if isPrintable c then [c]
  else if c.toNat < 0x100 then '\\' :: 'x' :: hexDigits 2 c.toNat
  else if c.toNat < 0x10000 then '\\' :: 'u' :: hexDigits 4 c.toNat
  else '\\' :: 'U' :: hexDigits 8 c.toNat

/-- The quotes put around a text. -/
def quoteMark (cs : List Char) : Char :=
  if cs.contains '\'' && !cs.contains '"' then '"' else '\''

/-- The text as a message shows it. -/
def quote (s : String) : String :=
  let mark := quoteMark s.toList
  String.ofList (mark :: (s.toList.flatMap (quoteChar mark) ++ [mark]))

end DistrictAtlas.Text

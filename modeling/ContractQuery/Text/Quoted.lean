import ContractQuery.Text.Unprintable

/-!
# Quoted text

Messages quote the texts they complain about. `Quoted.render` puts a text between double quotes so
that the quotation can be told from what surrounds it:

* the quote and the backslash get a backslash before them, and NUL, tab, line feed and carriage
  return are written `\0`, `\t`, `\n` and `\r`;
* every other character without a shape of its own is written as its code point in lower case
  hexadecimal digits, between braces after `\u`;
* all other characters stand for themselves, the single quote included.
-/

namespace ContractQuery

namespace Quoted

/-- How one character is written inside a quotation. -/
def escape (c : Char) : List Char :=
  if c = '\x00' then ['\\', '0']
  else if c = '\t' then ['\\', 't']
  else if c = '\n' then ['\\', 'n']
  else if c = '\r' then ['\\', 'r']
  else if c = '"' then ['\\', '"']
  else if c = '\\' then ['\\', '\\']
  else if isUnprintable c then ['\\', 'u', '{'] ++ Nat.toDigits 16 c.toNat ++ ['}']
  else [c]

/-- The quotation of a text. -/
def render (text : String) : String :=
  String.ofList ('"' :: text.toList.flatMap escape ++ ['"'])

end Quoted

end ContractQuery

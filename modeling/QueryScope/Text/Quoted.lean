import QueryScope.Text.Hexadecimal
import QueryScope.Text.Hidden

/-!
# Quoted texts

Messages and descriptions quote a text so that every character of it shows.
-/
namespace QueryScope.Text

/-- How a character stands inside quotation marks. -/
def quoteChar (c : Char) : List Char :=
  if c = '"' then ['\\', '"']
  else if c = '\\' then ['\\', '\\']
  else if c = '\n' then ['\\', 'n']
  else if c = '\r' then ['\\', 'r']
  else if c = '\t' then ['\\', 't']
  else if c = '\x00' then ['\\', '0']
  else if isHidden c then "\\u\x7b".toList ++ hexDigits c.toNat ++ ['\x7d']
  else [c]

def quote (s : String) : String :=
  String.ofList ('"' :: s.toList.flatMap quoteChar ++ ['"'])

end QueryScope.Text

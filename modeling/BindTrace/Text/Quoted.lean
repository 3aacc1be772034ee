import BindTrace.Text.Invisible

/-!
# Quoted text

A quoted text stands between double quotes.  Quotes and backslashes inside it, the usual blanks and
every character that does not show on its own are written as escapes, so a quoted text is one line
that shows all its characters.
-/

namespace BindTrace

namespace Text

def codeEscape (c : Char) : List Char :=
  ['\\', 'u', '\x7b'] ++ Nat.toDigits 16 c.toNat ++ ['\x7d']

def escape (c : Char) : List Char :=
  if c = '\x00' then ['\\', '0']
  else if c = '\t' then ['\\', 't']
  else if c = '\r' then ['\\', 'r']
  else if c = '\n' then ['\\', 'n']
  else if c = '\\' then ['\\', '\\']
  else if c = '"' then ['\\', '"']
  else if isVisible c then [c]
  else codeEscape c

def quote (text : String) : String :=
  String.ofList ('"' :: text.toList.flatMap escape ++ ['"'])

end Text

end BindTrace

import IrcServer.Text.Hidden
import IrcServer.Text

namespace IrcServer

/-! Quoted text, as log lines and error messages show a value.

The enclosing quote and the backslash are escaped by a backslash, tab, carriage return, line feed
and NUL have letters of their own, and a hidden character is written as its number. -/

namespace Quoted

def escape (quote c : Char) : Text :=
  if c = '\t' then "\\t"
  else if c = '\r' then "\\r"
  else if c = '\n' then "\\n"
  else if c.toNat = 0 then "\\0"
  else if c = quote ∨ c = '\\' then ['\\', c]
  else if isHidden c then "\\u\x7b" ++ Nat.toDigits 16 c.toNat ++ ['\x7d']
  else [c]

def char (c : Char) : Text :=
  '\'' :: escape '\'' c ++ ['\'']

def text (t : Text) : Text :=
  '"' :: t.flatMap (escape '"') ++ ['"']

end Quoted

end IrcServer

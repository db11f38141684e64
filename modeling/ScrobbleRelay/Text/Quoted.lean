import ScrobbleRelay.Text.Hidden

/-!
# Texts quoted for a reader

A quoted text stands between double quotes.  The quote and the backslash are written after a
backslash, NUL, tab, line feed and carriage return by their letters, and every character without a
shape of its own by its number in braces.  All other characters stand for themselves, the single
quote among them.
-/

namespace ScrobbleRelay.Text

/-- A number in lower-case hexadecimal digits, without leading zeros. -/
def hexText (n : Nat) : String := String.ofList (Nat.toDigits 16 n)

/-- One character as it stands inside a quoted text. -/
def quotedChar (c : Char) : String :=
  if c = '"' then "\\\""
  else if c = '\\' then "\\\\"
  else if c = '\x00' then "\\0"
  else if c = '\t' then "\\t"
  else if c = '\n' then "\\n"
  else if c = '\r' then "\\r"
  else if isHidden c then "\\u\x7b" ++ hexText c.toNat ++ "\x7d"
  else c.toString

/-- A text between double quotes, with its special characters written out. -/
def quoted (s : String) : String :=
  "\"" ++ String.join (s.toList.map quotedChar) ++ "\""

end ScrobbleRelay.Text

import ChunkProxy.Text.Decimal
import ChunkProxy.Unicode.Printable
/-!
# Quoted text

Text quoted for a message: in double quotes, with quotes and backslashes
escaped, the common control characters as `\n`, `\r`, `\t` and `\0`, and the
other characters that cannot be shown as they are (`Unicode.shownByCode`:
controls, format characters, separators other than the space, unassigned and
private code points, and grapheme extenders) as `\u` and the code point in
braces.
-/

namespace ChunkProxy.Text

set_option autoImplicit false

/-- Lowercase hexadecimal digits of a number. -/
def hexDigits (n : Nat) : String :=
  if n == 0 then "0" else String.ofList (Nat.toDigits 16 n)

/-- A character as it appears in quoted text. -/
def quoteChar (c : Char) : String :=
  if c == '"' then "\\\""
  else if c == '\\' then "\\\\"
  else if c == '\n' then "\\n"
  else if c == '\r' then "\\r"
  else if c == '\t' then "\\t"
  else if c.toNat == 0 then "\\0"
  else if Unicode.shownByCode c then "\\u\x7b" ++ hexDigits c.toNat ++ "\x7d"
  else String.singleton c

/-- Text in double quotes, escaped. -/
def quote (s : String) : String := "\"" ++ String.join (s.toList.map quoteChar) ++ "\""

end ChunkProxy.Text

import LoraNetwork.Text.Hex
import LoraNetwork.Text.Hidden

/-!
# Quoted text

An error that repeats what it was given writes it between double quotes. Quotes and backslashes
are escaped, the common control characters have letters, and every other hidden character is
written by its number.
-/

namespace LoraNetwork.Text.Quoted

/-- How one character is written between the quotes. -/
def escape (c : Char) : String :=
  if c = '"' then "\\\""
  else if c = '\\' then "\\\\"
  else if c = '\n' then "\\n"
  else if c = '\r' then "\\r"
  else if c = '\t' then "\\t"
  else if c.toNat = 0 then "\\0"
  else if Hidden.isHidden c then "\\u\x7b" ++ Hex.minimal c.toNat ++ "\x7d"
  else c.toString

/-- The quoted form of a text. -/
def encode (text : String) : String :=
  "\"" ++ String.join (text.toList.map escape) ++ "\""

end LoraNetwork.Text.Quoted

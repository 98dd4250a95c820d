import LinkWatch.Text.Numeral
import LinkWatch.Text.Printable

/-! # Quoted texts for messages

A text in double quotes, on one line, with everything that cannot be shown written as an escape. -/

namespace LinkWatch.Text

/-! ## One character -/

/-- How one character is written between the quotes. -/
def quotedChar (c : Char) : String :=
  if c = '\x00' then "\\0"
  else if c = '\t' then "\\t"
  else if c = '\r' then "\\r"
  else if c = '\n' then "\\n"
  else if c = '\\' then "\\\\"
  else if c = '"' then "\\\""
  else if isPrintable c then String.singleton c
  else "\\u\x7b" ++ hexadecimal c.toNat ++ "\x7d"

/-! ## Texts and lists of texts -/

def quoted (s : String) : String := "\"" ++ String.join (s.toList.map quotedChar) ++ "\""

def quotedList (ss : List String) : String :=
  "[" ++ String.intercalate ", " (ss.map quoted) ++ "]"

end LinkWatch.Text

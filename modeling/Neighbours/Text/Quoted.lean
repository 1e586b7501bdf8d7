import Neighbours.Numeral
import Neighbours.Text.Invisible

/-! Texts in quotes, so written that each of their characters can be told. -/

namespace Neighbours.Text

/-- Quotes, backslashes and the commonest controls have short escapes; other invisible characters
are written as their code point. -/
def escape (c : Char) : List Char :=
  if c = '\x00' then ['\\', '0']
  else if c = '\t' then ['\\', 't']
  else if c = '\n' then ['\\', 'n']
  else if c = '\r' then ['\\', 'r']
  else if c = '"' ∨ c = '\\' then ['\\', c]
  else if isInvisible c then ['\\', 'u', '{'] ++ Numeral.hexadecimal c.toNat ++ ['}']
  else [c]

def quoted (text : String) : String :=
  String.ofList ('"' :: text.toList.flatMap escape ++ ['"'])

end Neighbours.Text

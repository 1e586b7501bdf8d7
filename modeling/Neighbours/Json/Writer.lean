import Neighbours.Numeral

/-! Writing JSON text without blanks. In strings only quotes, backslashes and control characters are
escaped. -/

namespace Neighbours.Json

def escape (c : Char) : List Char :=
  if c = '"' then ['\\', '"']
  else if c = '\\' then ['\\', '\\']
  else if c = '\x08' then ['\\', 'b']
  else if c = '\x0c' then ['\\', 'f']
  else if c = '\n' then ['\\', 'n']
  else if c = '\r' then ['\\', 'r']
  else if c = '\t' then ['\\', 't']
  else if c.toNat < 32 then ['\\', 'u', '0', '0'] ++ Numeral.hexPair (UInt8.ofNat c.toNat)
  else [c]

def quoted (text : String) : List Char :=
  '"' :: text.toList.flatMap escape ++ ['"']

def natural (n : Nat) : List Char :=
  Numeral.decimal n

def boolean (b : Bool) : List Char :=
  if b then "true".toList else "false".toList

/-- The members of an object, each with the text of its value. -/
def object (members : List (String × List Char)) : List Char :=
  '{' :: [','].intercalate (members.map fun (key, value) => quoted key ++ ':' :: value) ++ ['}']

end Neighbours.Json

import Neighbours.Numeral

/-! Quoted texts of TOML documents. Double quotes allow escapes, single quotes allow none; three
quotes in a row open a text of several lines, which may end in up to two more quotes of its own. -/

namespace Neighbours.Toml.Quoted

/-- The characters that a line of text may hold. -/
def isPlain (c : Char) : Bool :=
  c == '\t' || (32 ≤ c.toNat && c.toNat != 127)

/-- The character that a letter stands for after a backslash. -/
def escaped? (c : Char) : Option Char :=
  if c = '"' ∨ c = '\\' then some c
  else if c = 'b' then some '\x08'
  else if c = 't' then some '\t'
  else if c = 'n' then some '\n'
  else if c = 'f' then some '\x0c'
  else if c = 'r' then some '\r'
  else if c = 'e' then some '\x1b'
  else none

/-- The character that hexadecimal digits name. -/
def named? (digits : List Char) : Option Char := do
  let code ← Numeral.unsigned? 16 digits
  if code < 0xd800 ∨ 0xdfff < code ∧ code < 0x110000 then some (Char.ofNat code) else none

/-- A text in double quotes after its opening quote, and what follows its closing quote. -/
def basic? : List Char → Option (List Char × List Char)
  | '"' :: rest => some ([], rest)
  | '\\' :: 'x' :: a :: b :: rest => do
    let c ← named? [a, b]
    let (text, rest) ← basic? rest
    return (c :: text, rest)
  | '\\' :: 'u' :: a :: b :: c :: d :: rest => do
    let c ← named? [a, b, c, d]
    let (text, rest) ← basic? rest
    return (c :: text, rest)
  | '\\' :: 'U' :: a :: b :: c :: d :: e :: f :: g :: h :: rest => do
    let c ← named? [a, b, c, d, e, f, g, h]
    let (text, rest) ← basic? rest
    return (c :: text, rest)
  | '\\' :: c :: rest => do
    let c ← escaped? c
    let (text, rest) ← basic? rest
    return (c :: text, rest)
  | c :: rest =>
    if isPlain c then do
      let (text, rest) ← basic? rest
      return (c :: text, rest)
    else none
  | [] => none

/-- A text in single quotes after its opening quote, and what follows its closing quote. -/
def literal? : List Char → Option (List Char × List Char)
  | '\'' :: rest => some ([], rest)
  | c :: rest =>
    if isPlain c then do
      let (text, rest) ← literal? rest
      return (c :: text, rest)
    else none
  | [] => none

/-- What follows a closing triple quote, where up to two quotes more belong to the text. -/
def afterClosing (quote : Char) : List Char → List Char
  | a :: b :: rest =>
    if a = quote then (if b = quote then rest else b :: rest) else a :: b :: rest
  | [a] => if a = quote then [] else [a]
  | [] => []

/-- What follows a text of several lines in double quotes. After a backslash at the end of a line
only blanks may come before the line break; `breaking` tells that such a backslash is open. -/
def afterLines? : Bool → List Char → Option (List Char)
  | true, ' ' :: rest | true, '\t' :: rest => afterLines? true rest
  | true, '\n' :: rest | true, '\r' :: '\n' :: rest => afterLines? false rest
  | true, _ => none
  | false, '"' :: '"' :: '"' :: rest => some (afterClosing '"' rest)
  | false, '\\' :: 'x' :: a :: b :: rest => (named? [a, b]).bind fun _ => afterLines? false rest
  | false, '\\' :: 'u' :: a :: b :: c :: d :: rest =>
    (named? [a, b, c, d]).bind fun _ => afterLines? false rest
  | false, '\\' :: 'U' :: a :: b :: c :: d :: e :: f :: g :: h :: rest =>
    (named? [a, b, c, d, e, f, g, h]).bind fun _ => afterLines? false rest
  | false, '\\' :: '\r' :: '\n' :: rest => afterLines? false rest
  | false, '\\' :: c :: rest =>
    if c = ' ' ∨ c = '\t' then afterLines? true rest
    else if c = '\n' then afterLines? false rest
    else (escaped? c).bind fun _ => afterLines? false rest
  | false, '\r' :: '\n' :: rest => afterLines? false rest
  | false, c :: rest => if isPlain c ∨ c = '\n' then afterLines? false rest else none
  | false, [] => none

/-- What follows a text of several lines in single quotes. -/
def afterLiteralLines? : List Char → Option (List Char)
  | '\'' :: '\'' :: '\'' :: rest => some (afterClosing '\'' rest)
  | '\r' :: '\n' :: rest => afterLiteralLines? rest
  | c :: rest => if isPlain c ∨ c = '\n' then afterLiteralLines? rest else none
  | [] => none

end Neighbours.Toml.Quoted

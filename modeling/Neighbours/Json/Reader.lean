import Neighbours.Json.Value
import Neighbours.Numeral

/-! Reading JSON text. Each reader takes what it needs from the front of the text and returns the
rest. Nested values are read with a bound on the number of nested readers; brackets and commas take
a character for each of them, so the length of the text is enough. -/

namespace Neighbours.Json

def isBlank (c : Char) : Bool :=
  c == ' ' || c == '\t' || c == '\n' || c == '\r'

def skipBlanks (letters : List Char) : List Char :=
  letters.dropWhile isBlank

/-- A part of a string: a character, or a sixteen-bit unit that an escape names by its number. -/
inductive Piece where
  | char (c : Char)
  | unit (code : Nat)
deriving DecidableEq

/-- The characters that stand for themselves or for a control character after a backslash. -/
def escaped? (c : Char) : Option Char :=
  if c = '"' ∨ c = '\\' ∨ c = '/' then some c
  else if c = 'b' then some '\x08'
  else if c = 'f' then some '\x0c'
  else if c = 'n' then some '\n'
  else if c = 'r' then some '\r'
  else if c = 't' then some '\t'
  else none

/-- The pieces of a string up to its closing quote, and the text after the quote. -/
def pieces? : List Char → Option (List Piece × List Char)
  | '"' :: rest => some ([], rest)
  | '\\' :: 'u' :: a :: b :: c :: d :: rest => do
    let code ← Numeral.unsigned? 16 [a, b, c, d]
    let (pieces, rest) ← pieces? rest
    return (.unit code :: pieces, rest)
  | '\\' :: c :: rest => do
    let c ← escaped? c
    let (pieces, rest) ← pieces? rest
    return (.char c :: pieces, rest)
  | c :: rest =>
    if c.toNat < 32 then none
    else do
      let (pieces, rest) ← pieces? rest
      return (.char c :: pieces, rest)
  | [] => none

def isHighSurrogate (code : Nat) : Bool :=
  0xd800 ≤ code && code < 0xdc00

def isLowSurrogate (code : Nat) : Bool :=
  0xdc00 ≤ code && code < 0xe000

/-- The characters that pieces stand for: two units that form a surrogate pair are one character,
and half a pair is none. -/
def characters? : List Piece → Option (List Char)
  | [] => some []
  | .char c :: rest => (characters? rest).map (c :: ·)
  | .unit high :: .unit low :: rest =>
    if isHighSurrogate high then
      if isLowSurrogate low then
        (characters? rest).map
          (Char.ofNat (0x10000 + (high - 0xd800) * 0x400 + (low - 0xdc00)) :: ·)
      else none
    else if isLowSurrogate high then none
    else (characters? (.unit low :: rest)).map (Char.ofNat high :: ·)
  | .unit code :: rest =>
    if isHighSurrogate code || isLowSurrogate code then none
    else (characters? rest).map (Char.ofNat code :: ·)

/-- A string after its opening quote. -/
def string? (letters : List Char) : Option (Option String × List Char) :=
  (pieces? letters).map fun (pieces, rest) => ((characters? pieces).map String.ofList, rest)

/-- One or more digits, and the text after them. -/
def digits? (letters : List Char) : Option (List Char × List Char) :=
  match letters.span Char.isDigit with
  | ([], _) => none
  | (digits, rest) => some (digits, rest)

/-- Takes a fraction, if there is one, and tells whether there was. -/
def fraction? : List Char → Option (Bool × List Char)
  | '.' :: rest => (digits? rest).map fun (_, rest) => (true, rest)
  | letters => some (false, letters)

def afterSign : List Char → List Char
  | '+' :: rest | '-' :: rest => rest
  | letters => letters

/-- Takes an exponent, if there is one, and tells whether there was. -/
def exponent? : List Char → Option (Bool × List Char)
  | 'e' :: rest | 'E' :: rest => (digits? (afterSign rest)).map fun (_, rest) => (true, rest)
  | letters => some (false, letters)

/-- A number without its sign. The part before the point has no superfluous zero. -/
def magnitude? (letters : List Char) : Option (Value × List Char) := do
  let (whole, rest) ← digits? letters
  if whole.head? = some '0' ∧ whole ≠ ['0'] then none
  else do
    let (hasFraction, rest) ← fraction? rest
    let (hasExponent, rest) ← exponent? rest
    let value ← Numeral.unsigned? 10 whole
    return (if hasFraction || hasExponent then .number else .natural value, rest)

def number? : List Char → Option (Value × List Char)
  | '-' :: rest => (magnitude? rest).map fun (_, rest) => (.number, rest)
  | letters => magnitude? letters

/-- A value that is neither an array nor an object. -/
def scalar? : List Char → Option (Value × List Char)
  | '"' :: rest => (string? rest).map fun (content, rest) => (.text content, rest)
  | 'n' :: 'u' :: 'l' :: 'l' :: rest => some (.null, rest)
  | 't' :: 'r' :: 'u' :: 'e' :: rest => some (.boolean true, rest)
  | 'f' :: 'a' :: 'l' :: 's' :: 'e' :: rest => some (.boolean false, rest)
  | letters => number? letters

mutual

/-- A value, after blanks. -/
def value? : Nat → List Char → Option (Value × List Char)
  | 0, _ => none
  | bound + 1, letters =>
    match skipBlanks letters with
    | '[' :: rest =>
      match skipBlanks rest with
      | ']' :: rest => some (.array [], rest)
      | rest => (items? bound rest).map fun (items, rest) => (.array items, rest)
    | '{' :: rest =>
      match skipBlanks rest with
      | '}' :: rest => some (.object [], rest)
      | rest => (members? bound rest).map fun (members, rest) => (.object members, rest)
    | rest => scalar? rest

/-- One or more items up to the end of an array. -/
def items? : Nat → List Char → Option (List Value × List Char)
  | 0, _ => none
  | bound + 1, letters => do
    let (item, rest) ← value? bound letters
    match skipBlanks rest with
    | ',' :: rest => (items? bound rest).map fun (items, rest) => (item :: items, rest)
    | ']' :: rest => some ([item], rest)
    | _ => none

/-- One or more members up to the end of an object. -/
def members? : Nat → List Char → Option (List (Option String × Value) × List Char)
  | 0, _ => none
  | bound + 1, letters =>
    match skipBlanks letters with
    | '"' :: rest => do
      let (key, rest) ← string? rest
      match skipBlanks rest with
      | ':' :: rest => do
        let (value, rest) ← value? bound rest
        match skipBlanks rest with
        | ',' :: rest =>
          (members? bound rest).map fun (members, rest) => ((key, value) :: members, rest)
        | '}' :: rest => some ([(key, value)], rest)
        | _ => none
      | _ => none
    | _ => none

end

/-- The value that a whole text denotes. -/
def read? (letters : List Char) : Option Value := do
  let (value, rest) ← value? (letters.length + 1) letters
  if skipBlanks rest = [] then some value else none

end Neighbours.Json

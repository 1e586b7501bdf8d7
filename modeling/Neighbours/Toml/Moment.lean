/-! Dates and times of TOML documents, which are only recognised. -/

namespace Neighbours.Toml.Moment

/-- A number of exactly `count` digits, and the text after it. -/
def digits? : Nat → Nat → List Char → Option (Nat × List Char)
  | 0, acc, letters => some (acc, letters)
  | count + 1, acc, c :: rest =>
    if c.isDigit then digits? count (acc * 10 + (c.toNat - 48)) rest else none
  | _ + 1, _, [] => none

def isLeap (year : Nat) : Bool :=
  year % 4 == 0 && (year % 100 != 0 || year % 400 == 0)

def daysIn (year month : Nat) : Nat :=
  if month = 2 then (if isLeap year then 29 else 28)
  else if month = 4 ∨ month = 6 ∨ month = 9 ∨ month = 11 then 30
  else 31

def expect? (c : Char) : List Char → Option (List Char)
  | head :: rest => if head = c then some rest else none
  | [] => none

/-- The text after a date. -/
def afterDate? (letters : List Char) : Option (List Char) := do
  let (year, rest) ← digits? 4 0 letters
  let (month, rest) ← digits? 2 0 (← expect? '-' rest)
  let (day, rest) ← digits? 2 0 (← expect? '-' rest)
  if 1 ≤ month ∧ month ≤ 12 ∧ 1 ≤ day ∧ day ≤ daysIn year month then some rest else none

/-- The text after hours and minutes. -/
def afterClock? (letters : List Char) : Option (List Char) := do
  let (hour, rest) ← digits? 2 0 letters
  let (minute, rest) ← digits? 2 0 (← expect? ':' rest)
  if hour ≤ 23 ∧ minute ≤ 59 then some rest else none

/-- The text after a fraction of a second, if there is one. -/
def afterFraction? : List Char → Option (List Char)
  | '.' :: rest =>
    match rest.span Char.isDigit with
    | ([], _) => none
    | (_, rest) => some rest
  | letters => some letters

/-- The text after a time, in which the seconds may be missing and may count a leap second. -/
def afterTime? (letters : List Char) : Option (List Char) := do
  match ← afterClock? letters with
  | ':' :: rest =>
    let (second, rest) ← digits? 2 0 rest
    if second ≤ 60 then afterFraction? rest else none
  | rest => some rest

/-- The text after an offset, if there is one. -/
def afterOffset? : List Char → Option (List Char)
  | 'Z' :: rest | 'z' :: rest => some rest
  | '+' :: rest | '-' :: rest => afterClock? rest
  | letters => some letters

def isTime (letters : List Char) : Bool :=
  afterTime? letters = some []

/-- A time after a date may state its offset. -/
def isTimeWithOffset (letters : List Char) : Bool :=
  (afterTime? letters).bind afterOffset? = some []

def isDate (letters : List Char) : Bool :=
  afterDate? letters = some []

/-- A date, a time, or a date and a time with one of the characters `T`, `t` and space between them.
-/
def isMoment (letters : List Char) : Bool :=
  isTime letters ||
    match afterDate? letters with
    | some [] => true
    | some (c :: rest) => (c == 'T' || c == 't' || c == ' ') && isTimeWithOffset rest
    | none => false

end Neighbours.Toml.Moment

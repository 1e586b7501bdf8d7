import Neighbours.Toml.Moment
import Neighbours.Toml.Node
import Neighbours.Toml.Number
import Neighbours.Toml.Quoted

/-! Reading TOML documents. A document is a sequence of lines, each of which is empty, gives a key
its value or is a header; any of them may end in a comment. Readers take what they need from the
front of the text and return the rest. -/

namespace Neighbours.Toml

def isBlank (c : Char) : Bool :=
  c == ' ' || c == '\t'

def skipBlanks (letters : List Char) : List Char :=
  letters.dropWhile isBlank

/-- Skips blanks, line breaks and comments inside brackets; `inComment` tells that a comment is
open. -/
def skipFiller? : Bool → List Char → Option (List Char)
  | _, '\n' :: rest | _, '\r' :: '\n' :: rest => skipFiller? false rest
  | false, ' ' :: rest | false, '\t' :: rest => skipFiller? false rest
  | false, '#' :: rest => skipFiller? true rest
  | false, letters => some letters
  | true, c :: rest => if Quoted.isPlain c then skipFiller? true rest else none
  | true, [] => some []

/-- Takes the line break at the end of a line, or finds the end of the text. -/
def lineBreak? : List Char → Option (List Char)
  | [] => some []
  | '\n' :: rest | '\r' :: '\n' :: rest => some rest
  | _ => none

/-- Takes the rest of a line that has nothing left but blanks and a comment. -/
def endLine? (letters : List Char) : Option (List Char) :=
  match skipBlanks letters with
  | '#' :: rest => lineBreak? (rest.dropWhile Quoted.isPlain)
  | rest => lineBreak? rest

def isBare (c : Char) : Bool :=
  c.isAlphanum || c == '_' || c == '-'

/-- One part of a key. -/
def simpleKey? : List Char → Option (String × List Char)
  | '"' :: rest => (Quoted.basic? rest).map fun (text, rest) => (String.ofList text, rest)
  | '\'' :: rest => (Quoted.literal? rest).map fun (text, rest) => (String.ofList text, rest)
  | letters =>
    match letters.span isBare with
    | ([], _) => none
    | (bare, rest) => some (String.ofList bare, rest)

/-- A key of at most `limit` parts: those before its last dot, its last part, and the text after it
and after blanks. Blanks may stand around a dot, line breaks may not. -/
def keyWithin? (limit : Nat) (letters : List Char) :
    Option (List String × String × List Char) :=
  match limit with
  | 0 => none
  | limit + 1 => do
    let (part, rest) ← simpleKey? letters
    match skipBlanks rest with
    | '.' :: rest => do
      let (path, last, rest) ← keyWithin? limit (skipBlanks rest)
      return (part :: path, last, rest)
    | rest => return ([], part, rest)

/-- How many parts a key may have. -/
def longestKey : Nat := 80

def key? : List Char → Option (List String × String × List Char) :=
  keyWithin? longestKey

def isScalarLetter (c : Char) : Bool :=
  c.isAlphanum || c == '_' || c == '-' || c == '+' || c == '.' || c == ':'

/-- The letters of a scalar without quotes. A date takes in a time that follows it after a space. -/
def scalarLetters (letters : List Char) : List Char × List Char :=
  match letters.span isScalarLetter with
  | (word, ' ' :: c :: rest) =>
    if Moment.isDate word && c.isDigit then
      let (time, rest) := (c :: rest).span isScalarLetter
      (word ++ ' ' :: time, rest)
    else (word, ' ' :: c :: rest)
  | pair => pair

def scalar? (word : List Char) : Option Node :=
  if word = ['t', 'r', 'u', 'e'] then some (.boolean true)
  else if word = ['f', 'a', 'l', 's', 'e'] then some (.boolean false)
  else
    match Number.integer? word with
    | some (n, true) => some (.integer n)
    | some (_, false) => none
    | none => if Moment.isMoment word || Number.isFraction word then some .scalar else none

/-- How deep arrays and tables in braces may be nested. -/
def deepest : Nat := 80

mutual

/-- A value. `depth` bounds its nesting; `bound` bounds the number of nested readers, and since
brackets and commas take a character for each, the length of the text is enough. -/
def value? : Nat → Nat → List Char → Option (Node × List Char)
  | 0, _, _ => none
  | bound + 1, depth, letters =>
    match letters with
    | '"' :: '"' :: '"' :: rest => (Quoted.afterLines? false rest).map fun rest => (.scalar, rest)
    | '"' :: rest => (Quoted.basic? rest).map fun (_, rest) => (.scalar, rest)
    | '\'' :: '\'' :: '\'' :: rest =>
      (Quoted.afterLiteralLines? rest).map fun rest => (.scalar, rest)
    | '\'' :: rest => (Quoted.literal? rest).map fun (_, rest) => (.scalar, rest)
    | '[' :: rest =>
      match depth with
      | 0 => none
      | depth + 1 => (items? bound depth rest).map fun (items, rest) => (.array items, rest)
    | '{' :: rest =>
      match depth with
      | 0 => none
      | depth + 1 =>
        (members? bound depth ⟨.inlined, []⟩ rest).map fun (table, rest) => (table.toNode, rest)
    | letters =>
      let (word, rest) := scalarLetters letters
      (scalar? word).map fun node => (node, rest)

/-- The items of an array up to its closing bracket; the last one may be followed by a comma. -/
def items? : Nat → Nat → List Char → Option (List Node × List Char)
  | 0, _, _ => none
  | bound + 1, depth, letters => do
    match ← skipFiller? false letters with
    | ']' :: rest => return ([], rest)
    | letters =>
      let (item, rest) ← value? bound depth letters
      match ← skipFiller? false rest with
      | ',' :: rest => (items? bound depth rest).map fun (items, rest) => (item :: items, rest)
      | ']' :: rest => return ([item], rest)
      | _ => none

/-- The members of a table in braces up to its closing brace, added to those before them. Lines may
be broken anywhere but inside a key; the last member may be followed by a comma. -/
def members? : Nat → Nat → Table → List Char → Option (Table × List Char)
  | 0, _, _, _ => none
  | bound + 1, depth, table, letters => do
    match ← skipFiller? false letters with
    | '}' :: rest => return (table, rest)
    | letters =>
      let (path, key, rest) ← key? letters
      match ← skipFiller? false rest with
      | '=' :: rest =>
        let (node, rest) ← value? bound depth (← skipFiller? false rest)
        let table ← table.define? path key node
        match ← skipFiller? false rest with
        | ',' :: rest => members? bound depth table rest
        | '}' :: rest => return (table, rest)
        | _ => none
      | _ => none

end

/-- A document read so far: its root, and the path of the table that keys are added to. -/
structure Document where
  root : Table
  header : List String

namespace Document

def empty : Document :=
  ⟨.root, []⟩

def define? (document : Document) (path : List String) (key : String) (node : Node) :
    Option Document := do
  let root ← document.root.changeAt? false document.header (Table.define? path key node)
  return { document with root := root }

def declare? (document : Document) (path : List String) (key : String) : Option Document := do
  let root ← document.root.declare? path key
  return ⟨root, path ++ [key]⟩

def declareNext? (document : Document) (path : List String) (key : String) : Option Document := do
  let root ← document.root.declareNext? path key
  return ⟨root, path ++ [key]⟩

end Document

/-- Reads one line that is not empty after its leading blanks. -/
def statement? (document : Document) (letters : List Char) : Option (Document × List Char) :=
  match letters with
  | '[' :: '[' :: rest => do
    let (path, key, rest) ← key? (skipBlanks rest)
    match rest with
    | ']' :: ']' :: rest => return (← document.declareNext? path key, ← endLine? rest)
    | _ => none
  | '[' :: rest => do
    let (path, key, rest) ← key? (skipBlanks rest)
    match rest with
    | ']' :: rest => return (← document.declare? path key, ← endLine? rest)
    | _ => none
  | letters => do
    let (path, key, rest) ← key? letters
    match rest with
    | '=' :: rest =>
      let (node, rest) ← value? (rest.length + 1) deepest (skipBlanks rest)
      return (← document.define? path key node, ← endLine? rest)
    | _ => none

/-- Reads lines up to the end of the text. Each line but the last takes a character for its break,
which bounds their number. -/
def lines? : Nat → Document → List Char → Option Document
  | _, document, [] => some document
  | 0, _, _ => none
  | bound + 1, document, letters =>
    match endLine? letters with
    | some rest => lines? bound document rest
    | none => do
      let (document, rest) ← statement? document (skipBlanks letters)
      lines? bound document rest

/-- A byte order mark in front of a document is not part of it. -/
def afterMark : List Char → List Char
  | '\ufeff' :: rest => rest
  | letters => letters

/-- The root table of a document. -/
def read? (letters : List Char) : Option Table :=
  (lines? (letters.length + 1) .empty (afterMark letters)).map Document.root

end Neighbours.Toml

import KeyStore.Document

/-!
# Reading JSON

The strict grammar: four kinds of blank, no comments, no commas at the end, no leading zeros.
Control characters in a string must be escaped. Nothing but blanks may follow the document.
-/

namespace KeyStore.Document

/-- Whether the character may stand between tokens. -/
def isGap (c : Char) : Bool := c = ' ' || c = '\n' || c = '\t' || c = '\r'

/-- The text without the gap at its start. -/
def skipGap (s : List Char) : List Char := s.dropWhile isGap

/-! ### String literals -/

/-- A part of a string literal: a character, or half of a surrogate pair. -/
inductive Piece where
  | char (c : Char)
  | half (unit : Nat)
deriving DecidableEq, Repr

/-- The value of a hexadecimal digit. -/
def hexDigit? (c : Char) : Option Nat :=
  if '0' ≤ c ∧ c ≤ '9' then some (c.toNat - '0'.toNat)
  else if 'a' ≤ c ∧ c ≤ 'f' then some (c.toNat - 'a'.toNat + 10)
  else if 'A' ≤ c ∧ c ≤ 'F' then some (c.toNat - 'A'.toNat + 10)
  else none

/-- The part that four hexadecimal digits stand for. -/
def unitPiece (unit : Nat) : Piece :=
  if 0xD800 ≤ unit ∧ unit < 0xE000 then .half unit else .char (Char.ofNat unit)

/-- The character that an escape of one letter stands for. -/
def escaped? (c : Char) : Option Char :=
  if c = '"' ∨ c = '\\' ∨ c = '/' then some c
  else if c = 'b' then some '\x08'
  else if c = 'f' then some '\x0c'
  else if c = 'n' then some '\n'
  else if c = 'r' then some '\r'
  else if c = 't' then some '\t'
  else none

/-- The parts of a string literal up to its closing quote, and what follows. -/
def readPieces : List Char → Option (List Piece × List Char)
  | [] => none
  | '"' :: rest => some ([], rest)
  | '\\' :: 'u' :: a :: b :: c :: d :: rest => do
    let unit := 4096 * (← hexDigit? a) + 256 * (← hexDigit? b) + 16 * (← hexDigit? c)
      + (← hexDigit? d)
    let (pieces, rest) ← readPieces rest
    some (unitPiece unit :: pieces, rest)
  | '\\' :: c :: rest => do
    let meant ← escaped? c
    let (pieces, rest) ← readPieces rest
    some (.char meant :: pieces, rest)
  | c :: rest => do
    guard (c ≠ '\\' && 0x20 ≤ c.toNat)
    let (pieces, rest) ← readPieces rest
    some (.char c :: pieces, rest)

/-- Joins the halves of surrogate pairs; a half without the other makes no text. -/
def joinPieces : List Piece → Option (List Char)
  | [] => some []
  | .char c :: rest => (joinPieces rest).map (c :: ·)
  | .half high :: .half low :: rest =>
    if high < 0xDC00 ∧ 0xDC00 ≤ low then
      (joinPieces rest).map
        (Char.ofNat (0x10000 + 1024 * (high - 0xD800) + (low - 0xDC00)) :: ·)
    else none
  | .half _ :: _ => none

/-- A string literal after its opening quote, and what follows. -/
def readLiteral (s : List Char) : Option (Literal × List Char) := do
  let (pieces, rest) ← readPieces s
  some ((joinPieces pieces).map String.ofList, rest)

/-! ### Numbers -/

/-- Whether the character is a decimal digit. -/
def isDigit (c : Char) : Bool := '0' ≤ c && c ≤ '9'

/-- The number that a list of digits stands for. -/
def ofDigits (digits : List Char) : Nat :=
  digits.foldl (fun n c => 10 * n + (c.toNat - '0'.toNat)) 0

/-- One digit or more, and what follows. -/
def readDigits (s : List Char) : Option (List Char × List Char) :=
  let digits := s.takeWhile isDigit
  if digits.isEmpty then none else some (digits, s.dropWhile isDigit)

/-- An exponent, if there is one, and what follows. -/
def readExponent (s : List Char) : Option (Option Int × List Char) :=
  match s with
  | c :: rest =>
    if c = 'e' ∨ c = 'E' then
      match rest with
      | '-' :: rest => do
        let (digits, rest) ← readDigits rest
        some (some (-(ofDigits digits : Int)), rest)
      | '+' :: rest => do
        let (digits, rest) ← readDigits rest
        some (some (ofDigits digits : Int), rest)
      | rest => do
        let (digits, rest) ← readDigits rest
        some (some (ofDigits digits : Int), rest)
    else some (none, s)
  | [] => some (none, s)

/-- The digits after a point, if there is one, and what follows. -/
def readFraction (s : List Char) : Option (Option (List Char) × List Char) :=
  match s with
  | '.' :: rest => do
    let (digits, rest) ← readDigits rest
    some (some digits, rest)
  | _ => some (none, s)

/-- The sign of a number, and what follows. -/
def readSign : List Char → Bool × List Char
  | '-' :: rest => (true, rest)
  | s => (false, s)

/-- A number, and what follows. -/
def readNumber (s : List Char) : Option (Number × List Char) := do
  let (negative, s) := readSign s
  let (whole, s) ← readDigits s
  guard (whole.head? ≠ some '0' || whole.length = 1)
  let (fraction, s) ← readFraction s
  let (exponent, s) ← readExponent s
  match fraction, exponent with
  | none, none => some (.integer negative (ofDigits whole), s)
  | _, _ =>
    let places := (fraction.getD []).map Digit.ofChar
    some (.decimal negative (ofDigits whole) places (exponent.getD 0), s)

/-! ### Documents -/

mutual

/-- A document, and what follows. Each step inside spends one unit of `fuel`. -/
def readValue : (fuel : Nat) → List Char → Option (Document × List Char)
  | 0, _ => none
  | fuel + 1, s =>
    match skipGap s with
    | 'n' :: 'u' :: 'l' :: 'l' :: rest => some (.null, rest)
    | 't' :: 'r' :: 'u' :: 'e' :: rest => some (.bool true, rest)
    | 'f' :: 'a' :: 'l' :: 's' :: 'e' :: rest => some (.bool false, rest)
    | '"' :: rest => do
      let (literal, rest) ← readLiteral rest
      some (.text literal, rest)
    | '[' :: rest =>
      match skipGap rest with
      | ']' :: rest => some (.array [], rest)
      | rest => do
        let (items, rest) ← readItems fuel rest
        some (.array items, rest)
    | '\x7b' :: rest =>
      match skipGap rest with
      | '\x7d' :: rest => some (.object [], rest)
      | rest => do
        let (members, rest) ← readMembers fuel rest
        some (.object members, rest)
    | s => do
      let (n, rest) ← readNumber s
      some (.number n, rest)

/-- The items of an array up to its closing bracket, and what follows. -/
def readItems : (fuel : Nat) → List Char → Option (List Document × List Char)
  | 0, _ => none
  | fuel + 1, s => do
    let (item, rest) ← readValue fuel s
    match skipGap rest with
    | ']' :: rest => some ([item], rest)
    | ',' :: rest => do
      let (items, rest) ← readItems fuel rest
      some (item :: items, rest)
    | _ => none

/-- The members of an object up to its closing brace, and what follows. -/
def readMembers : (fuel : Nat) → List Char → Option (List (Literal × Document) × List Char)
  | 0, _ => none
  | fuel + 1, s =>
    match skipGap s with
    | '"' :: rest => do
      let (key, rest) ← readLiteral rest
      match skipGap rest with
      | ':' :: rest => do
        let (value, rest) ← readValue fuel rest
        match skipGap rest with
        | '\x7d' :: rest => some ([(key, value)], rest)
        | ',' :: rest => do
          let (members, rest) ← readMembers fuel rest
          some ((key, value) :: members, rest)
        | _ => none
      | _ => none
    | _ => none

end

/-- The document that a text is. A step of `readValue` is at a character of its own or just before
one, so two units of fuel a character are enough. -/
def read? (s : String) : Option Document := do
  let text := s.toList
  let (document, rest) ← readValue (2 * text.length + 2) text
  guard (skipGap rest).isEmpty
  some document

end KeyStore.Document

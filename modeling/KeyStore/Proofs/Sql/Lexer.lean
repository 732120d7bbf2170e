import KeyStore.Sql.Condition

/-!
# Reading the text of a statement

The text of a statement is read from left to right, one character after the other, as a database
reads it. A name stands between double quotes and a text between single quotes, where a doubled
quote stands for one quote; a word is a run of letters, a number a run of digits, and a parameter a
run of digits behind the marker of the dialect. Blanks only part what stands beside them.

Main statements: `lex_identifier`, `lex_number` and `lex_placeholder` (what is written is what is
read) and `lex_spaced` (texts with a blank between them are read one after the other).
-/

namespace KeyStore.Sql

/-- A word of a statement. -/
inductive Token where
  | word (letters : String)
  | name (name : String)
  | text (text : String)
  | number (value : Nat)
  | parameter (index : Nat)
  | operator (comparison : Comparison)
  | symbol (c : Char)
deriving DecidableEq, Repr

/-- The character that starts a parameter. -/
def Dialect.marker : Dialect → Char
  | postgres => '$'
  | sqlite => '?'

/-- What was read of a token that may go on. After a quote inside a name or a text the token ends,
or the quote is doubled. -/
inductive Pending where
  | nothing
  | word (letters : List Char)
  | number (value : Nat)
  | marker
  | parameter (index : Nat)
  | name (read : List Char)
  | nameQuote (read : List Char)
  | text (read : List Char)
  | textQuote (read : List Char)
  | operator (comparison : Comparison)
deriving DecidableEq, Repr

namespace Pending

/-- The token that ends here, if one may. -/
def close : Pending → Option (List Token)
  | nothing => some []
  | word letters => some [.word (String.ofList letters)]
  | number value => some [.number value]
  | parameter index => some [.parameter index]
  | nameQuote read => some [.name (String.ofList read)]
  | textQuote read => some [.text (String.ofList read)]
  | operator comparison => some [.operator comparison]
  | marker | name _ | text _ => none

/-- The same token with one more character, if the character belongs to it. -/
def extend (c : Char) : Pending → Option Pending
  | nothing => none
  | word letters => if c.isAlpha then some (word (letters ++ [c])) else none
  | number value => if c.isDigit then some (number (Nat.ofDigitChars 10 [c] value)) else none
  | marker => if c.isDigit then some (parameter (Nat.ofDigitChars 10 [c] 0)) else none
  | parameter index => if c.isDigit then some (parameter (Nat.ofDigitChars 10 [c] index)) else none
  | name read => some (if c = '"' then nameQuote read else name (read ++ [c]))
  | nameQuote read => if c = '"' then some (name (read ++ [c])) else none
  | text read => some (if c = '\'' then textQuote read else text (read ++ [c]))
  | textQuote read => if c = '\'' then some (text (read ++ [c])) else none
  | operator .less => if c = '=' then some (operator .atMost) else none
  | operator .greater => if c = '=' then some (operator .atLeast) else none
  | operator _ => none

end Pending

/-- The character at the start of a token, or a blank. -/
def start (dialect : Dialect) (c : Char) : Option (List Token × Pending) :=
  if c.isDigit then some ([], .number (Nat.ofDigitChars 10 [c] 0))
  else if c.isAlpha then some ([], .word [c])
  else if c = ' ' then some ([], .nothing)
  else if c = '"' then some ([], .name [])
  else if c = '\'' then some ([], .text [])
  else if c = '=' then some ([], .operator .equal)
  else if c = '<' then some ([], .operator .less)
  else if c = '>' then some ([], .operator .greater)
  else if c ∈ ['(', ')', ',', '.', '*', ';'] then some ([.symbol c], .nothing)
  else if c = dialect.marker then some ([], .marker)
  else none

/-- One more character: it belongs to the pending token, or ends it. -/
def advance (dialect : Dialect) (pending : Pending) (c : Char) : Option (List Token × Pending) :=
  match pending.extend c with
  | some pending => some ([], pending)
  | none => do
    let last ← pending.close
    let (tokens, pending) ← start dialect c
    some (last ++ tokens, pending)

/-- The tokens of some characters, and what is pending after them. -/
def read (dialect : Dialect) : Pending → List Char → Option (List Token × Pending)
  | pending, [] => some ([], pending)
  | pending, c :: rest => do
    let (tokens, pending) ← advance dialect pending c
    let (more, pending) ← read dialect pending rest
    some (tokens ++ more, pending)

/-- The tokens of a whole text. -/
def lex (dialect : Dialect) (text : List Char) : Option (List Token) := do
  let (tokens, pending) ← read dialect .nothing text
  let last ← pending.close
  some (tokens ++ last)

variable {dialect : Dialect}

/-! ### One text after the other -/

theorem read_cons {pending next last : Pending} {c : Char} {rest : List Char}
    {tokens more : List Token} (first : advance dialect pending c = some (tokens, next))
    (others : read dialect next rest = some (more, last)) :
    read dialect pending (c :: rest) = some (tokens ++ more, last) := by
  rw [read, first]
  simp [others]

theorem read_extend {pending next last : Pending} {c : Char} {rest : List Char}
    {more : List Token} (belongs : pending.extend c = some next)
    (others : read dialect next rest = some (more, last)) :
    read dialect pending (c :: rest) = some (more, last) := by
  have first : advance dialect pending c = some ([], next) := by rw [advance, belongs]
  exact read_cons first others

theorem read_append_eq {pending next : Pending} {before : List Char} {tokens : List Token}
    (first : read dialect pending before = some (tokens, next)) (rest : List Char) :
    read dialect pending (before ++ rest)
      = (read dialect next rest).map fun (more, last) => (tokens ++ more, last) := by
  induction before generalizing pending tokens with
  | nil =>
    cases first
    simp
  | cons c before ih =>
    rw [read] at first
    obtain ⟨⟨ended, between⟩, one, first⟩ := Option.bind_eq_some_iff.1 first
    obtain ⟨⟨later, after⟩, two, first⟩ := Option.bind_eq_some_iff.1 first
    cases first
    rw [List.cons_append, read, one]
    cases goes_on : read dialect next rest <;> simp [ih two, goes_on]

theorem read_append {pending next last : Pending} {before rest : List Char}
    {tokens more : List Token} (first : read dialect pending before = some (tokens, next))
    (others : read dialect next rest = some (more, last)) :
    read dialect pending (before ++ rest) = some (tokens ++ more, last) := by
  rw [read_append_eq first, others]
  rfl

theorem lex_eq_some_iff (text : List Char) (tokens : List Token) :
    lex dialect text = some tokens ↔ ∃ read_ pending last,
      read dialect .nothing text = some (read_, pending) ∧ pending.close = some last ∧
        read_ ++ last = tokens := by
  simp [lex, Option.bind_eq_some_iff]

/-- A blank, a closing parenthesis or a comma belongs to no token that may end. -/
theorem advance_of_close {pending next : Pending} {last tokens : List Token}
    (ends : pending.close = some last) {c : Char} (parts : c = ' ' ∨ c = ')' ∨ c = ',')
    (starts : start dialect c = some (tokens, next)) :
    advance dialect pending c = some (last ++ tokens, next) := by
  have apart : pending.extend c = none := by
    cases pending with
    | operator comparison => cases comparison <;> rcases parts with rfl | rfl | rfl <;> rfl
    | marker => cases ends
    | name read => cases ends
    | text read => cases ends
    | _ => rcases parts with rfl | rfl | rfl <;> rfl
  rw [advance, apart, ends, starts]
  rfl

theorem lex_spaced {before rest : List Char} {tokens more : List Token}
    (first : lex dialect before = some tokens) (others : lex dialect rest = some more) :
    lex dialect (before ++ ' ' :: rest) = some (tokens ++ more) := by
  obtain ⟨begun, pending, last, reads, ends, rfl⟩ := (lex_eq_some_iff ..).1 first
  obtain ⟨later, between, end_, reads_rest, ends_rest, rfl⟩ := (lex_eq_some_iff ..).1 others
  have blank : advance dialect pending ' ' = some (last ++ [], .nothing) :=
    advance_of_close ends (Or.inl rfl) rfl
  exact (lex_eq_some_iff ..).2
    ⟨_, between, end_, read_append reads (read_cons blank reads_rest), ends_rest, by simp⟩

/-- A closing parenthesis or a comma ends what stands before it. -/
theorem lex_concat {before : List Char} {tokens : List Token} {c : Char}
    (first : lex dialect before = some tokens) (parts : c = ')' ∨ c = ',') :
    lex dialect (before ++ [c]) = some (tokens ++ [.symbol c]) := by
  obtain ⟨begun, pending, last, reads, ends, rfl⟩ := (lex_eq_some_iff ..).1 first
  have starts : start dialect c = some ([.symbol c], .nothing) := by
    rcases parts with rfl | rfl <;> rfl
  have ended := advance_of_close ends (Or.inr parts) starts
  exact (lex_eq_some_iff ..).2
    ⟨_, .nothing, [], read_append reads (read_cons ended rfl), rfl, by simp⟩

/-- Where a token ends, what is behind it is read as from the start. -/
theorem lex_append_of_close {before rest : List Char} {tokens last : List Token}
    {pending : Pending} (first : read dialect .nothing before = some (tokens, pending))
    (ends : pending.close = some last) (apart : ∀ c ∈ rest.head?, pending.extend c = none) :
    lex dialect (before ++ rest) = (lex dialect rest).map (tokens ++ last ++ ·) := by
  have closed : Pending.close .nothing = some [] := rfl
  have unread : ∀ c, Pending.extend c .nothing = none := fun _ => rfl
  rw [lex, read_append_eq first]
  cases rest with
  | nil => simp [lex, read, ends, closed]
  | cons c rest =>
    have here := apart c rfl
    rw [lex, read, read, advance, advance, here, ends, unread, closed]
    cases start dialect c with
    | none => rfl
    | some begun =>
      cases goes_on : read dialect begun.2 rest with
      | none => simp [goes_on]
      | some later => cases stops : later.2.close <;> simp [goes_on, stops]

theorem lex_append {before rest : List Char} {tokens more : List Token}
    (first : read dialect .nothing before = some (tokens, .nothing))
    (others : lex dialect rest = some more) :
    lex dialect (before ++ rest) = some (tokens ++ more) := by
  rw [lex_append_of_close first rfl fun _ _ => rfl, others, List.append_nil]
  rfl

/-! ### Single tokens -/

theorem read_name (before name : List Char) :
    read dialect (.name before) (name.flatMap identifierChar ++ ['"'])
      = some ([], .nameQuote (before ++ name)) := by
  induction name generalizing before with
  | nil => simp [read, advance, Pending.extend]
  | cons c name ih =>
    have later := ih (before ++ [c])
    rw [List.append_assoc] at later
    rw [List.flatMap_cons, List.append_assoc]
    by_cases quote : c = '"'
    · subst quote
      exact read_extend rfl (read_extend rfl later)
    · rw [identifierChar, if_neg quote]
      refine read_extend ?_ later
      rw [Pending.extend, if_neg quote]

theorem read_identifier (name : String) :
    read dialect .nothing (quoteIdentifier name).toList = some ([], .nameQuote name.toList) := by
  have opens : advance dialect .nothing '"' = some ([], .name []) := rfl
  rw [quoteIdentifier, String.toList_ofList]
  exact read_cons opens (read_name [] name.toList)

theorem close_nameQuote (name : String) :
    (Pending.nameQuote name.toList).close = some [.name name] := by
  rw [Pending.close, String.ofList_toList]

theorem lex_identifier (name : String) :
    lex dialect (quoteIdentifier name).toList = some [.name name] :=
  (lex_eq_some_iff ..).2 ⟨[], _, _, read_identifier name, close_nameQuote name, rfl⟩

/-- A name is read as it is written unless a quote follows, whatever else there is behind it. -/
theorem lex_identifier_append (name : String) {rest : List Char} (closed : rest.head? ≠ some '"') :
    lex dialect ((quoteIdentifier name).toList ++ rest)
      = (lex dialect rest).map (.name name :: ·) := by
  refine lex_append_of_close (read_identifier name) (close_nameQuote name) fun c next => ?_
  have plain : c ≠ '"' := by
    rintro rfl
    exact closed next
  rw [Pending.extend, if_neg plain]

/-- A token that keeps a number grows by the digits behind it. -/
theorem read_digits {kind : Nat → Pending}
    (grows : ∀ value c, c.isDigit = true →
      (kind value).extend c = some (kind (Nat.ofDigitChars 10 [c] value)))
    {digits : List Char} (all : ∀ c ∈ digits, c.isDigit = true) (value : Nat) :
    read dialect (kind value) digits
      = some ([], kind (Nat.ofDigitChars 10 digits value)) := by
  induction digits generalizing value with
  | nil => rw [read, Nat.ofDigitChars_nil]
  | cons c digits ih =>
    have later := ih (fun c member => all c (List.mem_cons_of_mem _ member))
      (Nat.ofDigitChars 10 [c] value)
    rw [← Nat.ofDigitChars_append] at later
    exact read_extend (grows value c (all c List.mem_cons_self)) later

/-- A number is written with at least one digit, and only with digits. -/
theorem toString_digits (value : Nat) :
    ∃ c digits, (toString value).toList = c :: digits ∧ c.isDigit = true ∧
      (∀ d ∈ digits, d.isDigit = true) ∧
      Nat.ofDigitChars 10 digits (Nat.ofDigitChars 10 [c] 0) = value := by
  have written : (toString value).toList = Nat.toDigits 10 value := by
    rw [Nat.toString_eq_ofList_toDigits, String.toList_ofList]
  have all : ∀ c ∈ Nat.toDigits 10 value, c.isDigit = true := fun c member =>
    Nat.isDigit_of_mem_toDigits (by decide) (by decide) member
  have back := @Nat.ofDigitChars_ten_toDigits value
  rw [written]
  cases digits : Nat.toDigits 10 value with
  | nil => exact absurd digits Nat.toDigits_ne_nil
  | cons c rest =>
    rw [digits] at all back
    refine ⟨c, rest, rfl, all c List.mem_cons_self,
      fun d member => all d (List.mem_cons_of_mem _ member), ?_⟩
    rw [← Nat.ofDigitChars_append]
    exact back

theorem lex_number (value : Nat) :
    lex dialect (toString value).toList = some [.number value] := by
  obtain ⟨c, digits, written, first, all, back⟩ := toString_digits value
  have starts : advance dialect .nothing c
      = some ([], .number (Nat.ofDigitChars 10 [c] 0)) := by
    rw [advance, Pending.extend, Pending.close, start, if_pos first]
    rfl
  rw [written]
  refine (lex_eq_some_iff ..).2
    ⟨_, _, _, read_cons starts (read_digits (fun value c digit => ?_) all _), rfl, ?_⟩
  · rw [Pending.extend, if_pos digit]
  · rw [back]
    rfl

theorem lex_placeholder (index : Nat) :
    lex dialect (dialect.placeholder index).toList = some [.parameter index] := by
  obtain ⟨c, digits, written, first, all, back⟩ := toString_digits index
  have split : (dialect.placeholder index).toList = dialect.marker :: c :: digits := by
    rw [← written]
    cases dialect <;> simp [Dialect.placeholder, Dialect.marker]
  have starts : advance dialect .nothing dialect.marker = some ([], .marker) := by
    cases dialect <;> rfl
  have begins : Pending.extend c .marker = some (.parameter (Nat.ofDigitChars 10 [c] 0)) := by
    rw [Pending.extend, if_pos first]
  rw [split]
  refine (lex_eq_some_iff ..).2 ⟨_, _, _,
    read_cons starts (read_extend begins (read_digits (fun value c digit => ?_) all _)), rfl, ?_⟩
  · rw [Pending.extend, if_pos digit]
  · rw [back]
    rfl

end KeyStore.Sql

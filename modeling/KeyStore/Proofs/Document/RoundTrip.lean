import Mathlib.Data.Option.Basic
import KeyStore.Document.Reader
import KeyStore.Document.Writer

/-!
# Documents are read as they were written

A document that is written and read again is the same document: every string literal, also one
without a text, every number with its digits and its exponent, and every container.

What is read is a document in front of other characters, so each lemma speaks of the written form
with something behind it. Behind a number there must be nothing that could belong to it (`Closed`);
what the writer puts behind a value is a comma, a new line or nothing. The units of fuel that a
value needs are no more than its characters.

Main statement: `read_pretty`.
-/

namespace KeyStore.Document

/-! ### Gaps -/

theorem skipGap_of_not_isGap {c : Char} (tight : isGap c = false) (rest : List Char) :
    skipGap (c :: rest) = c :: rest := by
  rw [skipGap, List.dropWhile_cons_of_neg (by simp [tight])]

theorem skipGap_newLine (depth : Nat) (rest : List Char) :
    skipGap (newLine depth ++ rest) = skipGap rest := by
  have gaps : ∀ c ∈ newLine depth, isGap c = true := by
    intro c member
    rcases List.mem_cons.1 member with rfl | member
    · rfl
    · rw [List.eq_of_mem_replicate member]
      rfl
  rw [skipGap, List.dropWhile_append_of_pos gaps, skipGap]

/-- A document may have gaps before it. -/
theorem readValue_congr (fuel : Nat) {s t : List Char} (same : skipGap s = skipGap t) :
    readValue fuel s = readValue fuel t := by
  cases fuel with
  | zero => rfl
  | succ fuel => rw [readValue, readValue, same]

theorem readItems_newLine (fuel depth : Nat) (rest : List Char) :
    readItems fuel (newLine depth ++ rest) = readItems fuel rest := by
  cases fuel with
  | zero => rfl
  | succ fuel => rw [readItems, readItems, readValue_congr fuel (skipGap_newLine depth rest)]

theorem readMembers_newLine (fuel depth : Nat) (rest : List Char) :
    readMembers fuel (newLine depth ++ rest) = readMembers fuel rest := by
  cases fuel with
  | zero => rfl
  | succ fuel => rw [readMembers, readMembers, skipGap_newLine]

/-! ### String literals -/

/-- A control character is written with the four digits of its code point. -/
theorem controlEscape_eq : ∀ n < 0x20,
    controlEscape (Char.ofNat n)
      = ['\\', 'u', '0', '0', Nat.digitChar (n / 16), Nat.digitChar (n % 16)] := by
  decide

theorem hexDigit?_digitChar : ∀ n < 16, hexDigit? (Nat.digitChar n) = some n := by
  decide

theorem readPieces_controlEscape {c : Char} (control : c.toNat < 0x20) {s rest : List Char}
    {pieces : List Piece} (behind : readPieces s = some (pieces, rest)) :
    readPieces (controlEscape c ++ s) = some (.char c :: pieces, rest) := by
  have written := controlEscape_eq c.toNat control
  rw [Char.ofNat_toNat] at written
  have high := hexDigit?_digitChar (c.toNat / 16) (by omega)
  have low := hexDigit?_digitChar (c.toNat % 16) (by omega)
  have zero : hexDigit? '0' = some 0 := rfl
  have unit : 4096 * 0 + 256 * 0 + 16 * (c.toNat / 16) + c.toNat % 16 = c.toNat := by omega
  have piece : unitPiece c.toNat = .char c := by
    rw [unitPiece, if_neg (by omega), Char.ofNat_toNat]
  rw [written]
  simp only [List.cons_append, List.nil_append, readPieces, zero, high, low, behind,
    Option.bind_eq_bind, Option.bind_some, unit, piece]

/-- A character that stands for itself. -/
theorem readPieces_plain {c : Char} (quote : c ≠ '"') (backslash : c ≠ '\\')
    (printed : ¬ c.toNat < 0x20) {s rest : List Char} {pieces : List Piece}
    (behind : readPieces s = some (pieces, rest)) :
    readPieces (c :: s) = some (.char c :: pieces, rest) := by
  have shown : 32 ≤ c.toNat := by omega
  rw [readPieces]
  · simp [backslash, shown, guard, behind]
  · exact quote
  · exact fun _ _ _ _ _ same _ => backslash same
  · exact fun _ _ same _ => backslash same

theorem readPieces_literalChar (c : Char) {s rest : List Char} {pieces : List Piece}
    (behind : readPieces s = some (pieces, rest)) :
    readPieces (literalChar c ++ s) = some (.char c :: pieces, rest) := by
  unfold literalChar
  -- Seven characters have an escape of their own, in the order of the definition.
  iterate 7
    split
    · subst_vars
      simp [readPieces, escaped?, behind]
  split
  · next control => exact readPieces_controlEscape control behind
  · next quote backslash _ _ _ _ _ printed => exact readPieces_plain quote backslash printed behind

theorem readPieces_text (text rest : List Char) :
    readPieces (text.flatMap literalChar ++ '"' :: rest) = some (text.map .char, rest) := by
  induction text with
  | nil => rfl
  | cons c text ih =>
    rw [List.flatMap_cons, List.append_assoc]
    exact readPieces_literalChar c ih

theorem joinPieces_text (text : List Char) : joinPieces (text.map .char) = some text := by
  induction text with
  | nil => rfl
  | cons c text ih => rw [List.map_cons, joinPieces, ih, Option.map_some]

/-- A literal starts with a quote, and what is behind the quote is read as the literal. -/
theorem exists_writeLiteral (literal : Literal) : ∃ body, writeLiteral literal = '"' :: body ∧
    ∀ rest, readLiteral (body ++ rest) = some (literal, rest) := by
  cases literal with
  | none =>
    have digits : ['d', '8', '0', '0'].map hexDigit? = [some 13, some 8, some 0, some 0] := rfl
    simp only [List.map_cons, List.map_nil, List.cons.injEq, and_true] at digits
    refine ⟨"\\ud800\"".toList, rfl, fun rest => ?_⟩
    simp [readLiteral, readPieces, digits, unitPiece, joinPieces]
  | some text =>
    refine ⟨text.toList.flatMap literalChar ++ ['"'], rfl, fun rest => ?_⟩
    rw [List.append_assoc, List.singleton_append, readLiteral, readPieces_text]
    simp [joinPieces_text]

/-! ### Numbers -/

/-- Nothing at the front belongs to a number. -/
def Closed (rest : List Char) : Prop := ∀ c ∈ rest.head?, c = ',' ∨ c = '\n'

theorem readDigits_append {digits rest : List Char} (some_ : digits ≠ [])
    (all : ∀ c ∈ digits, isDigit c = true) (ends : ∀ c ∈ rest.head?, isDigit c = false) :
    readDigits (digits ++ rest) = some (digits, rest) := by
  have none_behind : rest.takeWhile isDigit = [] ∧ rest.dropWhile isDigit = rest := by
    cases rest with
    | nil => exact ⟨rfl, rfl⟩
    | cons c rest => simp [ends c rfl]
  rw [readDigits, List.takeWhile_append_of_pos all, List.dropWhile_append_of_pos all,
    none_behind.1, none_behind.2, List.append_nil, if_neg (by simpa using some_)]

theorem isDigit_of_mem_toDigits {n : Nat} {c : Char} (member : c ∈ Nat.toDigits 10 n) :
    isDigit c = true :=
  Nat.isDigit_of_mem_toDigits (by decide) (by decide) member

theorem readDigits_toDigits (n : Nat) {rest : List Char}
    (ends : ∀ c ∈ rest.head?, isDigit c = false) :
    readDigits (Nat.toDigits 10 n ++ rest) = some (Nat.toDigits 10 n, rest) :=
  readDigits_append Nat.toDigits_ne_nil (fun _ => isDigit_of_mem_toDigits) ends

theorem ofDigits_toDigits (n : Nat) : ofDigits (Nat.toDigits 10 n) = n :=
  Nat.ofDigitChars_ten_toDigits

theorem digitChar_ne_zero : ∀ n < 10, 0 < n → Nat.digitChar n ≠ '0' := by decide

theorem head?_toDigits {n : Nat} (positive : 0 < n) :
    (Nat.toDigits 10 n).head? ≠ some '0' := by
  induction n using Nat.strongRecOn with
  | ind n ih =>
    by_cases small : n < 10
    · rw [Nat.toDigits_of_lt_base small]
      simpa using digitChar_ne_zero n small positive
    · have leading := ih (n / 10) (by omega) (by omega)
      rw [Nat.toDigits_of_base_le (by decide) (by omega)]
      cases digits : Nat.toDigits 10 (n / 10) with
      | nil => exact absurd digits Nat.toDigits_ne_nil
      | cons c rest => rwa [digits] at leading

/-- Only zero is written with a zero in front. -/
theorem leading_toDigits (n : Nat) :
    (Nat.toDigits 10 n).head? ≠ some '0' ∨ (Nat.toDigits 10 n).length = 1 := by
  rcases Nat.eq_zero_or_pos n with rfl | positive
  · exact Or.inr rfl
  · exact Or.inl (head?_toDigits positive)

theorem digits_places (fraction : List Digit) :
    (fraction.map fun digit => Nat.digitChar digit.val).map Digit.ofChar = fraction := by
  have back : ∀ digit : Digit, Digit.ofChar (Nat.digitChar digit.val) = digit := by decide
  rw [List.map_map]
  exact List.map_id'' back fraction

theorem isDigit_digitChar : ∀ digit : Digit, isDigit (Nat.digitChar digit.val) = true := by
  decide

theorem Closed.not_isDigit {rest : List Char} (closed : Closed rest) :
    ∀ c ∈ rest.head?, isDigit c = false := by
  intro c front
  rcases closed c front with rfl | rfl <;> rfl

theorem readSign_append (negative : Bool) {s : List Char}
    (unsigned : ∀ c ∈ s.head?, isDigit c = true) :
    readSign (writeSign negative ++ s) = (negative, s) := by
  cases negative with
  | true => rfl
  | false =>
    rw [writeSign, if_neg Bool.false_ne_true, List.nil_append, readSign]
    rintro rest rfl
    exact absurd (unsigned '-' rfl) (by decide)

theorem readFraction_closed {rest : List Char} (closed : Closed rest) :
    readFraction rest = some (none, rest) := by
  rw [readFraction]
  rintro behind rfl
  exact absurd (closed '.' rfl) (by decide)

theorem readFraction_write (fraction : List Digit) (rest : List Char) :
    ∃ places, readFraction (writeFraction fraction ++ 'e' :: rest) = some (places, 'e' :: rest) ∧
      (places.getD []).map Digit.ofChar = fraction := by
  cases fraction with
  | nil => exact ⟨none, rfl, rfl⟩
  | cons first others =>
    let digits := (first :: others).map fun digit => Nat.digitChar digit.val
    have all : ∀ c ∈ digits, isDigit c = true := by
      intro c member
      obtain ⟨digit, -, rfl⟩ := List.mem_map.1 member
      exact isDigit_digitChar digit
    have reads : readDigits (digits ++ 'e' :: rest) = some (digits, 'e' :: rest) :=
      readDigits_append (List.cons_ne_nil _ _) all (by rintro c ⟨⟩; rfl)
    refine ⟨some digits, ?_, digits_places _⟩
    rw [writeFraction, List.isEmpty_cons, if_neg Bool.false_ne_true, List.cons_append,
      readFraction, reads]
    rfl

theorem readExponent_closed {rest : List Char} (closed : Closed rest) :
    readExponent rest = some (none, rest) := by
  cases rest with
  | nil => rfl
  | cons c rest => rcases closed c rfl with rfl | rfl <;> rfl

theorem readExponent_write (exponent : Int) {rest : List Char} (closed : Closed rest) :
    readExponent ('e' :: ((toString exponent).toList ++ rest)) = some (some exponent, rest) := by
  have written (n : Nat) : (toString n).toList = Nat.toDigits 10 n := by
    rw [Nat.toString_eq_ofList_toDigits, String.toList_ofList]
  -- The exponent has no sign but a minus, and its digits may have zeros in front of them.
  have reads (n : Nat) := readDigits_toDigits n closed.not_isDigit
  cases exponent with
  | ofNat n =>
    have same : (toString (Int.ofNat n)).toList = Nat.toDigits 10 n := written n
    have value : (ofDigits (Nat.toDigits 10 n) : Int) = Int.ofNat n :=
      congrArg Int.ofNat (ofDigits_toDigits n)
    rw [same]
    have read := reads n
    cases digits : Nat.toDigits 10 n with
    | nil => exact absurd digits Nat.toDigits_ne_nil
    | cons c behind =>
      have first : isDigit c = true :=
        isDigit_of_mem_toDigits (n := n) (by rw [digits]; exact List.mem_cons_self)
      rw [digits] at read value
      have minus : c ≠ '-' := by rintro rfl; cases first
      have plus : c ≠ '+' := by rintro rfl; cases first
      simp only [List.cons_append] at read ⊢
      simp [readExponent, minus, plus, read, value]
  | negSucc n =>
    have same : (toString (Int.negSucc n)).toList = '-' :: Nat.toDigits 10 (n + 1) := by
      have signed : toString (Int.negSucc n) = "-" ++ toString (n + 1) := rfl
      rw [signed, String.toList_append, written]
      rfl
    rw [same, List.cons_append]
    simp [readExponent, reads (n + 1), ofDigits_toDigits, Int.negSucc_eq]

/-- A number is read as it was written. -/
theorem readNumber_write (n : Number) {rest : List Char} (closed : Closed rest) :
    readNumber (writeNumber n ++ rest) = some (n, rest) := by
  have leads (whole : Nat) (behind : List Char) :
      ∀ c ∈ (Nat.toDigits 10 whole ++ behind).head?, isDigit c = true := by
    intro c front
    cases digits : Nat.toDigits 10 whole with
    | nil => exact absurd digits Nat.toDigits_ne_nil
    | cons d others =>
      rw [digits] at front
      cases front
      exact isDigit_of_mem_toDigits (n := whole) (by rw [digits]; exact List.mem_cons_self)
  cases n with
  | integer negative magnitude =>
    rw [writeNumber, List.append_assoc, readNumber, readSign_append negative (leads magnitude rest)]
    simp [readDigits_toDigits magnitude closed.not_isDigit, guard, leading_toDigits,
      readFraction_closed closed, readExponent_closed closed, ofDigits_toDigits]
  | decimal negative whole fraction exponent =>
    have exponentRead := readExponent_write exponent closed
    rw [writeNumber, List.append_assoc, List.append_assoc, List.append_assoc, List.cons_append,
      readNumber, readSign_append negative (leads whole _)]
    generalize (toString exponent).toList ++ rest = behind at exponentRead ⊢
    obtain ⟨places, reads, back⟩ := readFraction_write fraction behind
    have ends : ∀ c ∈ (writeFraction fraction ++ 'e' :: behind).head?, isDigit c = false := by
      cases fraction <;> (rintro c ⟨⟩; rfl)
    generalize writeFraction fraction ++ 'e' :: behind = tail at reads ends ⊢
    subst back
    cases places <;>
      simp [readDigits_toDigits whole ends, guard, leading_toDigits, reads, exponentRead,
        ofDigits_toDigits]

/-! ### Values in front of something else -/

/-- The character starts a number. -/
def Leads (c : Char) : Prop := isDigit c = true ∨ c = '-'

theorem Leads.ne {c d : Char} (leads : Leads c) (other : isDigit d = false) (unsigned : d ≠ '-') :
    c ≠ d := by
  rintro rfl
  rcases leads with digit | minus
  · rw [other] at digit
    cases digit
  · exact unsigned minus

theorem Leads.not_isGap {c : Char} (leads : Leads c) : isGap c = false := by
  simp [isGap, leads.ne (d := ' ') rfl (by decide), leads.ne (d := '\n') rfl (by decide),
    leads.ne (d := '\t') rfl (by decide), leads.ne (d := '\r') rfl (by decide)]

/-- A number starts with a digit or a sign. -/
theorem exists_writeNumber (n : Number) : ∃ c rest, writeNumber n = c :: rest ∧ Leads c := by
  have signed (negative : Bool) (whole : Nat) (behind : List Char) : ∃ c rest,
      writeSign negative ++ (Nat.toDigits 10 whole ++ behind) = c :: rest ∧ Leads c := by
    cases negative with
    | true => exact ⟨'-', _, rfl, Or.inr rfl⟩
    | false =>
      cases digits : Nat.toDigits 10 whole with
      | nil => exact absurd digits Nat.toDigits_ne_nil
      | cons c others =>
        have member : c ∈ Nat.toDigits 10 whole := by rw [digits]; exact List.mem_cons_self
        exact ⟨c, _, rfl, Or.inl (isDigit_of_mem_toDigits member)⟩
  cases n with
  | integer negative magnitude =>
    have starts := signed negative magnitude []
    rwa [List.append_nil] at starts
  | decimal negative whole fraction exponent =>
    rw [writeNumber, List.append_assoc, List.append_assoc]
    exact signed negative whole _

/-- What starts like a number is read as one. -/
theorem readValue_of_leads (fuel : Nat) {c : Char} (leads : Leads c) (rest : List Char) :
    readValue (fuel + 1) (c :: rest)
      = (readNumber (c :: rest)).map fun (n, behind) => (.number n, behind) := by
  rw [readValue, skipGap_of_not_isGap leads.not_isGap]
  split
  -- The six characters that start something else.
  iterate 6
    · next same => exact absurd (List.cons.inj same).1 (leads.ne rfl (by decide))
  · cases readNumber (c :: rest) <;> rfl

theorem readValue_writeNumber (fuel : Nat) (n : Number) {rest : List Char} (closed : Closed rest) :
    readValue (fuel + 1) (writeNumber n ++ rest) = some (.number n, rest) := by
  obtain ⟨c, behind, written, leads⟩ := exists_writeNumber n
  have read := readNumber_write n closed
  rw [written, List.cons_append] at read ⊢
  rw [readValue_of_leads fuel leads, read, Option.map_some]

theorem readValue_writeLiteral (fuel : Nat) (literal : Literal) (rest : List Char) :
    readValue (fuel + 1) (writeLiteral literal ++ rest) = some (.text literal, rest) := by
  obtain ⟨body, written, reads⟩ := exists_writeLiteral literal
  rw [written, List.cons_append, readValue, skipGap_of_not_isGap rfl]
  simp [reads]

/-- A document starts neither with a gap nor with a closing bracket. -/
theorem exists_write (depth : Nat) (document : Document) :
    ∃ c rest, write depth document = c :: rest ∧ isGap c = false ∧ c ≠ ']' := by
  cases document with
  | null => exact ⟨'n', _, rfl, rfl, by decide⟩
  | bool b =>
    cases b with
    | true => exact ⟨'t', _, rfl, rfl, by decide⟩
    | false => exact ⟨'f', _, rfl, rfl, by decide⟩
  | number n =>
    obtain ⟨c, rest, written, leads⟩ := exists_writeNumber n
    exact ⟨c, rest, written, leads.not_isGap, leads.ne rfl (by decide)⟩
  | text literal =>
    obtain ⟨body, written, -⟩ := exists_writeLiteral literal
    exact ⟨'"', body, written, rfl, by decide⟩
  | array items =>
    cases items with
    | nil => exact ⟨'[', _, rfl, rfl, by decide⟩
    | cons item rest => exact ⟨'[', _, rfl, rfl, by decide⟩
  | object members =>
    cases members with
    | nil => exact ⟨'\x7b', _, rfl, rfl, by decide⟩
    | cons member rest => exact ⟨'\x7b', _, rfl, rfl, by decide⟩

/-! ### Containers -/

section

variable {depth fuel : Nat} {rest : List Char}

/-- The document is read back from its text, with as much fuel as it has characters. -/
def ReadsBack (document : Document) : Prop :=
  ∀ depth fuel rest, (write depth document).length ≤ fuel → Closed rest →
    readValue fuel (write depth document ++ rest) = some (document, rest)

/-- A text is never empty, so there is fuel for a first step. -/
theorem ReadsBack.of_step {document : Document}
    (step : ∀ depth fuel rest, (write depth document).length ≤ fuel + 1 → Closed rest →
      readValue (fuel + 1) (write depth document ++ rest) = some (document, rest)) :
    ReadsBack document := by
  intro depth fuel rest enough closed
  obtain ⟨c, behind, written, -⟩ := exists_write depth document
  cases fuel with
  | zero =>
    rw [written] at enough
    exact absurd enough (by simp)
  | succ fuel => exact step depth fuel rest enough closed

theorem closed_newLine (depth : Nat) (rest : List Char) : Closed (newLine depth ++ rest) := by
  rintro c ⟨⟩
  exact Or.inr rfl

theorem closed_writeItems (depth : Nat) (items : List Document) (outer : Nat) (rest : List Char) :
    Closed (writeItems depth items ++ (newLine outer ++ rest)) := by
  cases items with
  | nil => exact closed_newLine outer rest
  | cons item items =>
    rintro c ⟨⟩
    exact Or.inl rfl

theorem closed_writeMembers (depth : Nat) (members : List (Literal × Document)) (outer : Nat)
    (rest : List Char) : Closed (writeMembers depth members ++ (newLine outer ++ rest)) := by
  cases members with
  | nil => exact closed_newLine outer rest
  | cons member members =>
    rintro c ⟨⟩
    exact Or.inl rfl

/-- Items are read one after the other up to the bracket. -/
theorem readItems_write (outer : Nat) (rest : List Char) {item : Document}
    {items : List Document} (first : ReadsBack item) (others : ∀ other ∈ items, ReadsBack other)
    (enough : (write depth item).length + (writeItems depth items).length < fuel) :
    readItems fuel (write depth item ++ (writeItems depth items ++ (newLine outer ++ ']' :: rest)))
      = some (item :: items, rest) := by
  induction items generalizing item fuel with
  | nil =>
    obtain ⟨fuel, rfl⟩ : ∃ less, fuel = less + 1 := ⟨fuel - 1, by omega⟩
    have read := first depth fuel (newLine outer ++ ']' :: rest) (by omega) (closed_newLine _ _)
    rw [writeItems, List.nil_append, readItems, read]
    simp [skipGap_newLine, skipGap_of_not_isGap (c := ']') rfl]
  | cons next items ih =>
    obtain ⟨fuel, rfl⟩ : ∃ less, fuel = less + 1 := ⟨fuel - 1, by omega⟩
    have size : (write depth next).length + (writeItems depth items).length
        < (writeItems depth (next :: items)).length := by
      simp only [writeItems, List.length_append, List.length_cons]
      omega
    have fits : (write depth next).length + (writeItems depth items).length < fuel := by omega
    have read := first depth fuel
      (writeItems depth (next :: items) ++ (newLine outer ++ ']' :: rest)) (by omega)
      (closed_writeItems _ _ _ _)
    have later := ih (others next List.mem_cons_self)
      (fun other member => others other (List.mem_cons_of_mem _ member)) fits
    rw [readItems, read]
    simp only [writeItems, List.cons_append, List.append_assoc, Option.bind_eq_bind,
      Option.bind_some, skipGap_of_not_isGap (c := ',') rfl, readItems_newLine, later]

/-- Members are read one after the other up to the brace. -/
theorem readMembers_write (outer : Nat) (rest : List Char) (key : Literal) {value : Document}
    {members : List (Literal × Document)} (first : ReadsBack value)
    (others : ∀ other ∈ members, ReadsBack other.2)
    (enough : (write depth value).length + (writeMembers depth members).length < fuel) :
    readMembers fuel (writeLiteral key ++ (':' :: ' ' :: (write depth value
        ++ (writeMembers depth members ++ (newLine outer ++ '\x7d' :: rest)))))
      = some ((key, value) :: members, rest) := by
  induction members generalizing key value fuel with
  | nil =>
    obtain ⟨fuel, rfl⟩ : ∃ less, fuel = less + 1 := ⟨fuel - 1, by omega⟩
    obtain ⟨body, written, reads⟩ := exists_writeLiteral key
    have read := first depth fuel (newLine outer ++ '\x7d' :: rest) (by omega)
      (closed_newLine _ _)
    have blank (s : List Char) : readValue fuel (' ' :: s) = readValue fuel s :=
      readValue_congr fuel rfl
    rw [writeMembers, List.nil_append, written, List.cons_append, readMembers,
      skipGap_of_not_isGap rfl]
    simp only [reads, Option.bind_eq_bind, Option.bind_some, skipGap_of_not_isGap (c := ':') rfl,
      blank, read, skipGap_newLine, skipGap_of_not_isGap (c := '\x7d') rfl]
  | cons next members ih =>
    obtain ⟨nextKey, nextValue⟩ := next
    obtain ⟨fuel, rfl⟩ : ∃ less, fuel = less + 1 := ⟨fuel - 1, by omega⟩
    obtain ⟨body, written, reads⟩ := exists_writeLiteral key
    have size : (write depth nextValue).length + (writeMembers depth members).length
        < (writeMembers depth ((nextKey, nextValue) :: members)).length := by
      simp only [writeMembers, List.length_append, List.length_cons]
      omega
    have fits : (write depth nextValue).length + (writeMembers depth members).length < fuel := by
      omega
    have read := first depth fuel
      (writeMembers depth ((nextKey, nextValue) :: members) ++ (newLine outer ++ '\x7d' :: rest))
      (by omega) (closed_writeMembers _ _ _ _)
    have later := ih nextKey (others (nextKey, nextValue) List.mem_cons_self)
      (fun other member => others other (List.mem_cons_of_mem _ member)) fits
    have blank (s : List Char) : readValue fuel (' ' :: s) = readValue fuel s :=
      readValue_congr fuel rfl
    rw [written, List.cons_append, readMembers, skipGap_of_not_isGap rfl]
    simp only [reads, Option.bind_eq_bind, Option.bind_some, skipGap_of_not_isGap (c := ':') rfl,
      blank, read]
    simp only [writeMembers, List.cons_append, List.nil_append, List.append_assoc,
      skipGap_of_not_isGap (c := ',') rfl, readMembers_newLine, later, Option.bind_some]

/-- What is between brackets and does not start with the closing one is read as items. -/
theorem readValue_array {s behind : List Char} {c : Char} {items : List Document}
    (front : skipGap s = c :: behind) (open_ : c ≠ ']')
    (read : readItems fuel (skipGap s) = some (items, rest)) :
    readValue (fuel + 1) ('[' :: s) = some (.array items, rest) := by
  rw [readValue, skipGap_of_not_isGap rfl]
  simp only
  split
  · next same => exact absurd (List.cons.inj (front.symm.trans same)).1 open_
  · rw [read]
    rfl

/-- What is between braces and starts with a quote is read as members. -/
theorem readValue_object {s behind : List Char} {members : List (Literal × Document)}
    (front : skipGap s = '"' :: behind)
    (read : readMembers fuel (skipGap s) = some (members, rest)) :
    readValue (fuel + 1) ('\x7b' :: s) = some (.object members, rest) := by
  rw [readValue, skipGap_of_not_isGap rfl]
  simp only
  split
  · next same => exact absurd (front.symm.trans same) (by simp)
  · rw [read]
    rfl

end

mutual

/-- Every document is read back from its text. -/
theorem readsBack : ∀ document : Document, ReadsBack document
  | .null => .of_step fun _ _ _ _ _ => rfl
  | .bool true => .of_step fun _ _ _ _ _ => rfl
  | .bool false => .of_step fun _ _ _ _ _ => rfl
  | .number n => .of_step fun _ fuel _ _ closed => readValue_writeNumber fuel n closed
  | .text literal => .of_step fun _ fuel rest _ _ => readValue_writeLiteral fuel literal rest
  | .array [] => .of_step fun _ _ _ _ _ => rfl
  | .array (item :: items) => by
    apply ReadsBack.of_step
    intro depth fuel rest enough _
    have fits : (write (depth + 1) item).length + (writeItems (depth + 1) items).length < fuel := by
      simp [write, newLine] at enough
      omega
    have read := readItems_write depth rest (readsBack item) (itemsReadBack items) fits
    obtain ⟨c, behind, written, tight, bracket⟩ := exists_write (depth + 1) item
    have front (s : List Char) :
        skipGap (newLine (depth + 1) ++ (write (depth + 1) item ++ s)) = c :: (behind ++ s) := by
      rw [skipGap_newLine, written, List.cons_append, skipGap_of_not_isGap tight]
    rw [write]
    simp only [List.cons_append, List.append_assoc, List.nil_append]
    refine readValue_array (front _) bracket ?_
    rw [front, ← List.cons_append, ← written]
    exact read
  | .object [] => .of_step fun _ _ _ _ _ => rfl
  | .object ((key, value) :: members) => by
    apply ReadsBack.of_step
    intro depth fuel rest enough _
    have fits : (write (depth + 1) value).length + (writeMembers (depth + 1) members).length
        < fuel := by
      simp [write, newLine] at enough
      omega
    have read := readMembers_write depth rest key (readsBack value) (membersReadBack members)
      fits
    obtain ⟨body, written, -⟩ := exists_writeLiteral key
    have front (s : List Char) :
        skipGap (newLine (depth + 1) ++ (writeLiteral key ++ s)) = '"' :: (body ++ s) := by
      rw [skipGap_newLine, written, List.cons_append, skipGap_of_not_isGap rfl]
    rw [write]
    simp only [List.cons_append, List.append_assoc, List.nil_append]
    refine readValue_object (front _) ?_
    rw [front, ← List.cons_append, ← written]
    exact read

theorem itemsReadBack : ∀ items : List Document, ∀ item ∈ items, ReadsBack item
  | [] => nofun
  | item :: items => List.forall_mem_cons.2 ⟨readsBack item, itemsReadBack items⟩

theorem membersReadBack : ∀ members : List (Literal × Document),
    ∀ member ∈ members, ReadsBack member.2
  | [] => nofun
  | (_, value) :: members => List.forall_mem_cons.2 ⟨readsBack value, membersReadBack members⟩

end

/-- A document that is written and read again is the same document. -/
theorem read_pretty (document : Document) : read? document.pretty = some document := by
  have all := readsBack document 0 (2 * (write 0 document).length + 2) [] (by omega) nofun
  rw [List.append_nil] at all
  have written : document.pretty.toList = write 0 document := String.toList_ofList
  rw [read?]
  simp only [written, all]
  rfl

end KeyStore.Document

import Mathlib.Data.List.Forall2
import Mathlib.Data.Option.Basic
import KeyStore.Proofs.Text.Ascii
import KeyStore.Proofs.Text.Lines
import KeyStore.Schema.Script

/-!
# The layout of structure scripts

A script is laid out with statements, each behind it a semicolon, and between them comment lines and
chunks of white space (`Layout`). A statement is spelled with its verb and its keyword in any letter
case, its quoted name and its body (`Object.Spelling`).

Comments are looked for before statements, so a line in a name or a body is taken out if it looks
like one; and a statement is cut out of what is left before its parts are told apart. Objects for
which neither does harm are well formed (`Object.WellFormed`). Those are read back from every
layout, and no script without carriage returns gives any others.

What the comments leave is followed character by character: at the start of a line it is not known
yet whether the line stays (`codeFrom`), within a line it is known (`codeWithin`).

Main statement: `parse_layout`.
-/

namespace KeyStore.Schema

open Text

/-! ### Well-formed objects -/

/-- The text has no carriage return, and no line after its first is a comment. -/
structure IsPlain (text : List Char) : Prop where
  noReturn : '\r' ∉ text
  noComment : ∀ line ∈ (splitAt '\n' text).tail, isComment line = false

/-- The object can be written into a script. -/
structure Object.WellFormed (object : Object) : Prop where
  verb_ne : object.verb ≠ ""
  verb_upper : ∀ c ∈ object.verb.toList, c.isUpper = true
  name_ne : object.name ≠ ""
  name_quote : '"' ∉ object.name.toList
  name_semicolon : ';' ∉ object.name.toList
  name_plain : IsPlain object.name.toList
  body_semicolon : ';' ∉ object.body.toList
  body_end : ∀ c, object.body.toList.getLast? = some c → isBlank c = false
  body_plain : IsPlain object.body.toList

/-! ### Layouts -/

/-- A word in any letter case, next to the word in capitals. -/
def Cased (word capitals : List Char) : Prop :=
  List.Forall₂ (fun c capital => c = capital ∨ c = capital.toLower) word capitals

/-- A statement that creates the object, without its semicolon. -/
def Object.Spelling (object : Object) (text : List Char) : Prop :=
  ∃ verb keyword, Cased verb object.verb.toList ∧ Cased keyword object.kind.keyword.toList ∧
    text = verb ++ ' ' :: (keyword ++ ' ' :: '"' :: (object.name.toList ++ '"' ::
      object.body.toList))

/-- A text with statements that create the objects, in order, each with its semicolon, and with
white space, lone semicolons and comment lines between them. It starts at the start of a line if
`fresh`, else within a line. -/
inductive Layout : (fresh : Bool) → List Char → List Object → Prop where
  | done {fresh : Bool} : Layout fresh [] []
  | blank {fresh : Bool} {c : Char} {rest : List Char} {objects : List Object}
      (white : isBlank c = true) (others : Layout (c = '\n') rest objects) :
      Layout fresh (c :: rest) objects
  | chunk {fresh : Bool} {rest : List Char} {objects : List Object}
      (others : Layout false rest objects) : Layout fresh (';' :: rest) objects
  | comment {line rest : List Char} {objects : List Object} (whole : '\n' ∉ line)
      (dashes : isComment line = true) (others : Layout true rest objects) :
      Layout true (line ++ '\n' :: rest) objects
  | lastComment {line : List Char} (whole : '\n' ∉ line) (dashes : isComment line = true) :
      Layout true line []
  | statement {fresh : Bool} {object : Object} {text rest : List Char} {objects : List Object}
      (spelled : object.Spelling text) (others : Layout false rest objects) :
      Layout fresh (text ++ ';' :: rest) (object :: objects)

/-! ### Comments -/

section Comments

variable {c : Char} {line more : List Char}

theorem isComment_cons_of_blank (blank : isBlank c = true) (line : List Char) :
    isComment (c :: line) = isComment line := by
  rw [isComment, trimStart, List.dropWhile_cons_of_pos blank]
  rfl

theorem isComment_cons (black : isBlank c = false) (line : List Char) :
    isComment (c :: line) = decide (c = '-' ∧ line.head? = some '-') := by
  rw [isComment, trimStart, List.dropWhile_cons_of_neg (by simp [black])]
  cases line <;> simp [List.isPrefixOf, Bool.decide_and, Bool.beq_eq_decide_eq, eq_comm]

theorem isComment_cons_of_ne (black : isBlank c = false) (other : c ≠ '-') (line : List Char) :
    isComment (c :: line) = false := by
  simp [isComment_cons black, other]

/-- What starts like a comment is one. -/
theorem isComment_of_append (comment : isComment (line ++ more) = false) :
    isComment line = false := by
  induction line with
  | nil => rfl
  | cons c line ih =>
    cases blank : isBlank c with
    | true =>
      rw [List.cons_append, isComment_cons_of_blank blank] at comment
      rw [isComment_cons_of_blank blank, ih comment]
    | false =>
      rw [List.cons_append, isComment_cons blank] at comment
      rw [isComment_cons blank]
      cases line with
      | nil => simp
      | cons d line => exact comment

/-- No comment arises where two texts meet, unless dashes do. -/
theorem isComment_append (first : isComment line = false) (second : isComment more = false)
    (apart : more.head? ≠ some '-') : isComment (line ++ more) = false := by
  induction line with
  | nil => exact second
  | cons c line ih =>
    cases blank : isBlank c with
    | true =>
      rw [isComment_cons_of_blank blank] at first
      rw [List.cons_append, isComment_cons_of_blank blank, ih first]
    | false =>
      rw [isComment_cons blank] at first
      rw [List.cons_append, isComment_cons blank]
      cases line with
      | nil => simp [apart]
      | cons d line => exact first

theorem isComment_dropReturn (line : List Char) : isComment (dropReturn line) = isComment line := by
  rw [dropReturn]
  split
  · next ends =>
    obtain ⟨front, rfl⟩ := List.getLast?_eq_some_iff.1 ends
    rw [List.dropLast_concat]
    cases comment : isComment front with
    | false => exact (isComment_append comment (by decide) (by decide)).symm
    | true =>
      cases whole : isComment (front ++ ['\r']) with
      | true => rfl
      | false => rw [isComment_of_append whole] at comment; cases comment
  · rfl

/-- Lines that are no comments make no comment together. -/
theorem isComment_intercalate {lines : List (List Char)}
    (plain : ∀ line ∈ lines, isComment line = false) :
    isComment (['\n'].intercalate lines) = false := by
  induction lines with
  | nil => rfl
  | cons line lines ih =>
    obtain ⟨here, later⟩ := List.forall_mem_cons.1 plain
    cases lines with
    | nil => rwa [List.intercalate_singleton]
    | cons next lines =>
      rw [List.intercalate_cons_cons, List.append_assoc]
      refine isComment_append here ?_ (by simp)
      exact (isComment_cons_of_blank (by decide) _).trans (ih later)

/-- Nothing after a line feed starts like a comment. -/
def Uncommented (text : List Char) : Prop :=
  ∀ before after, text = before ++ '\n' :: after → isComment after = false

theorem Uncommented.of_cons (plain : Uncommented (c :: line)) : Uncommented line :=
  fun before after split => plain (c :: before) after (by rw [split, List.cons_append])

theorem uncommented_of_notMem (whole : '\n' ∉ line) : Uncommented line := by
  rintro before after rfl
  exact absurd (List.mem_append_right _ List.mem_cons_self) whole

theorem Uncommented.of_part (plain : Uncommented line) (part : more <:+: line) :
    Uncommented more := by
  rintro before after rfl
  obtain ⟨front, back, rfl⟩ := part
  exact isComment_of_append (plain (front ++ before) (after ++ back) (by simp))

/-- Two texts with a mark between them that starts no comment. -/
theorem Uncommented.append_cons (first : Uncommented line) (black : isBlank c = false)
    (other : c ≠ '-') (second : Uncommented more) : Uncommented (line ++ c :: more) := by
  intro before after split
  induction line generalizing before with
  | nil =>
    cases before with
    | nil =>
      obtain ⟨rfl, -⟩ := List.cons.inj split
      cases black
    | cons d before => exact second before after (List.cons.inj split).2
  | cons d line ih =>
    cases before with
    | nil =>
      obtain ⟨rfl, rfl⟩ := List.cons.inj split
      exact isComment_append (first [] line rfl) (isComment_cons_of_ne black other more)
        (by simpa using other)
    | cons e before => exact ih first.of_cons before (List.cons.inj split).2

theorem noComment_iff {text : List Char} :
    (∀ line ∈ (splitAt '\n' text).tail, isComment line = false) ↔ Uncommented text := by
  constructor
  · rintro plain before after rfl
    rw [splitAt_eq_splitOn, List.splitOn_append_cons_self,
      List.tail_append_of_ne_nil (List.splitOn_ne_nil _ _)] at plain
    rw [← @List.intercalate_splitOn _ after]
    exact isComment_intercalate fun line listed => plain line (List.mem_append_right _ listed)
  · intro plain
    induction text with
    | nil => simp [splitAt]
    | cons c text ih =>
      have within := ih plain.of_cons
      obtain ⟨first, others, pieces⟩ :=
        List.exists_cons_of_ne_nil (List.splitOn_ne_nil '\n' text)
      rw [splitAt_eq_splitOn, List.splitOn_cons_eq_if_modifyHead, pieces]
      rw [splitAt_eq_splitOn, pieces] at within
      split
      · next feed =>
        refine List.forall_mem_cons.2 ⟨?_, within⟩
        obtain ⟨rest, split⟩ := splitOn_head_prefix pieces
        refine @isComment_of_append _ rest ?_
        rw [split]
        exact plain [] text (by rw [beq_iff_eq.1 feed, List.nil_append])
      · exact within

end Comments

/-! ### What the comments leave -/

/-- What is left of a text that starts at the start of a line, with a line feed after each line. -/
def codeFrom (text : List Char) : List Char :=
  ((lines text).filter fun line => !isComment line).flatMap (· ++ ['\n'])

/-- What is left of a text that starts within a line that stays. -/
def codeWithin : List Char → List Char
  | [] => ['\n']
  | '\n' :: rest => '\n' :: codeFrom rest
  | '\r' :: '\n' :: rest => '\n' :: codeFrom rest
  | c :: rest => c :: codeWithin rest

/-- What is left of a text that starts at the start of a line if `fresh`, else within a line. -/
def codeOf (fresh : Bool) (text : List Char) : List Char :=
  if fresh then codeFrom text else codeWithin text

section Code

variable {c : Char} {line rest text : List Char}

theorem codeFrom_comment (whole : '\n' ∉ line) (comment : isComment line = true)
    (rest : List Char) : codeFrom (line ++ '\n' :: rest) = codeFrom rest := by
  rw [codeFrom, lines_append whole, List.filter_cons_of_neg, codeFrom]
  simp [isComment_dropReturn, comment]

theorem codeFrom_lastComment (whole : '\n' ∉ line) (comment : isComment line = true) :
    codeFrom line = [] := by
  have some : line ≠ [] := by
    rintro rfl
    cases comment
  rw [codeFrom, lines_of_notMem whole some]
  simp [comment]

/-- A character that ends no line stays. -/
theorem codeWithin_cons (inner : c ≠ '\n') (alone : c = '\r' → rest.head? ≠ some '\n') :
    codeWithin (c :: rest) = c :: codeWithin rest := by
  rw [codeWithin]
  · exact fun fed => inner fed
  · rintro more rfl rfl
    exact alone rfl rfl

theorem codeWithin_semicolon (rest : List Char) :
    codeWithin (';' :: rest) = ';' :: codeWithin rest :=
  codeWithin_cons (by decide) fun same => absurd same (by decide)

theorem codeWithin_append (whole : '\n' ∉ line) (rest : List Char) :
    codeWithin (line ++ '\n' :: rest) = dropReturn line ++ '\n' :: codeFrom rest := by
  induction line with
  | nil => rfl
  | cons c line ih =>
    obtain ⟨inner, whole⟩ := not_or.1 (List.mem_cons.not.1 whole)
    cases line with
    | nil =>
      by_cases returns : c = '\r'
      · subst returns
        rfl
      · rw [List.cons_append, codeWithin_cons (Ne.symm inner) fun same => absurd same returns]
        simp [dropReturn, returns, codeWithin]
    | cons d line =>
      have here : d ≠ '\n' := fun same => whole (same ▸ List.mem_cons_self)
      rw [List.cons_append, codeWithin_cons (Ne.symm inner) (by simp [here]), ih whole]
      simp only [dropReturn, List.getLast?_cons_cons, List.dropLast_cons_cons]
      split <;> rfl

theorem codeWithin_of_notMem (whole : '\n' ∉ line) : codeWithin line = line ++ ['\n'] := by
  induction line with
  | nil => rfl
  | cons c line ih =>
    obtain ⟨inner, whole⟩ := not_or.1 (List.mem_cons.not.1 whole)
    rw [codeWithin_cons (Ne.symm inner), ih whole, List.cons_append]
    rintro - fed
    exact whole (List.mem_of_mem_head? fed)

/-- A line that does not start like a comment stays. -/
theorem codeFrom_eq_codeWithin (some : text ≠ [])
    (plain : isComment (text.takeWhile (· ≠ '\n')) = false) : codeFrom text = codeWithin text := by
  have inner {line : List Char} (whole : '\n' ∉ line) :
      ∀ c ∈ line, decide (c ≠ '\n') = true := fun c inside =>
    decide_eq_true fun same => whole (same ▸ inside)
  rcases line_cases text with whole | ⟨line, rest, rfl, whole⟩
  · rw [codeWithin_of_notMem whole, codeFrom, lines_of_notMem whole some]
    rw [List.takeWhile_eq_self_iff.2 (inner whole)] at plain
    simp [plain]
  · have first : (line ++ '\n' :: rest).takeWhile (· ≠ '\n') = line := by
      rw [List.takeWhile_append_of_pos (inner whole)]
      simp
    rw [first] at plain
    rw [codeWithin_append whole, codeFrom, lines_append whole, List.filter_cons_of_pos]
    · simp [codeFrom]
    · simp [isComment_dropReturn, plain]

/-- A text in which nothing after a line feed starts like a comment stays, if what comes next does
not start like one either. -/
theorem codeWithin_plain (noReturn : '\r' ∉ text) (plain : Uncommented text)
    (black : isBlank c = false) (other : c ≠ '-') (rest : List Char) :
    codeWithin (text ++ c :: rest) = text ++ codeWithin (c :: rest) := by
  induction text with
  | nil => rfl
  | cons d text ih =>
    obtain ⟨stays, noReturn⟩ := not_or.1 (List.mem_cons.not.1 noReturn)
    have later := ih noReturn plain.of_cons
    by_cases feed : d = '\n'
    · subst feed
      -- Behind a line feed the rest is seen as lines. Its first one starts like the rest, which
      -- is no comment, so the rest is within a line again.
      have whole : isComment (text ++ c :: rest) = false :=
        isComment_append (plain [] text rfl) (isComment_cons_of_ne black other rest)
          (by simpa using other)
      rw [← @List.takeWhile_append_dropWhile _ (· ≠ '\n') (text ++ c :: rest)] at whole
      have kept := codeFrom_eq_codeWithin (by simp) (isComment_of_append whole)
      rw [List.cons_append, codeWithin, kept, later, List.cons_append]
    · rw [List.cons_append, codeWithin_cons feed fun same => absurd same.symm stays, later,
        List.cons_append]

end Code

/-! ### Statements -/

/-- The pieces between semicolons without the blanks around them; empty ones are passed over. -/
def chunks (code : List Char) : List (List Char) :=
  ((splitAt ';' code).map trim).filter fun chunk => !chunk.isEmpty

section Chunks

variable {c : Char} {code text : List Char}

theorem chunks_cons_semicolon (code : List Char) : chunks (';' :: code) = chunks code := by
  simp [chunks, splitAt, trim, trimStart, trimEnd]

theorem chunks_cons_of_blank (blank : isBlank c = true) (code : List Char) :
    chunks (c :: code) = chunks code := by
  have inner : c ≠ ';' := by
    rintro rfl
    cases blank
  obtain ⟨first, others, pieces⟩ := List.exists_cons_of_ne_nil (List.splitOn_ne_nil ';' code)
  rw [chunks, chunks, splitAt_eq_splitOn, splitAt_eq_splitOn, List.splitOn_cons_eq_if_modifyHead,
    pieces, if_neg (by simpa using inner), List.modifyHead_cons, List.map_cons, List.map_cons,
    trim_cons_of_blank blank]

theorem chunks_concat_of_blank (blank : isBlank c = true) (code : List Char) :
    chunks (code ++ [c]) = chunks code := by
  have inner : c ≠ ';' := by
    rintro rfl
    cases blank
  obtain ⟨front, last, pieces, longer⟩ := splitOn_concat inner code
  simp [chunks, splitAt_eq_splitOn, pieces, longer, trim_concat_of_blank blank]

/-- A blank is skipped, and behind a line feed a line starts. -/
theorem chunks_codeWithin_cons (blank : isBlank c = true) (rest : List Char) :
    chunks (codeWithin (c :: rest)) = chunks (codeOf (c = '\n') rest) := by
  by_cases feed : c = '\n'
  · subst feed
    exact chunks_cons_of_blank blank _
  · rw [codeOf, if_neg (by simpa using feed)]
    by_cases ending : c = '\r' ∧ rest.head? = some '\n'
    · obtain ⟨rfl, first⟩ := ending
      obtain ⟨more, rfl⟩ := List.head?_eq_some_iff.1 first
      rfl
    · rw [codeWithin_cons feed fun same first => ending ⟨same, first⟩, chunks_cons_of_blank blank]

theorem chunks_append_semicolon (whole : ';' ∉ text) (some : text ≠ []) (trimmed : trim text = text)
    (code : List Char) : chunks (text ++ ';' :: code) = text :: chunks code := by
  rw [chunks, splitAt_eq_splitOn, List.splitOn_append_cons_self_of_not_mem whole, List.map_cons,
    trimmed, List.filter_cons_of_pos (by simpa using some), chunks, splitAt_eq_splitOn]

theorem intercalate_concat {kept : List (List Char)} (some : kept ≠ []) :
    ['\n'].intercalate kept ++ ['\n'] = kept.flatMap (· ++ ['\n']) := by
  induction kept with
  | nil => exact absurd rfl some
  | cons line kept ih =>
    cases kept with
    | nil => simp
    | cons next kept =>
      rw [List.intercalate_cons_cons, List.append_assoc, ih (by simp)]
      simp

/-- The statements of a script are those of what is left of it. -/
theorem statements_eq_chunks (script : List Char) :
    statements script = chunks (codeFrom script) := by
  change chunks (withoutComments script) = chunks (codeFrom script)
  rw [withoutComments, codeFrom]
  -- `codeFrom` has one line feed more at the end, and a blank at the end makes no chunk.
  cases kept : (lines script).filter fun line => !isComment line with
  | nil => rfl
  | cons line others =>
    rw [← intercalate_concat (by simp), chunks_concat_of_blank (by decide)]

end Chunks

/-! ### Letters -/

theorem toNat_lt_of_isAlpha {c : Char} (letter : c.isAlpha = true) : c.toNat < 128 := by
  have bounded (d : Char) (most : c.val ≤ d.val) : c.toNat ≤ d.toNat :=
    UInt32.le_iff_toNat_le.1 most
  rcases Bool.or_eq_true_iff.1 letter with upper | lower
  · exact (bounded 'Z' (of_decide_eq_true upper).2).trans_lt (by decide)
  · exact (bounded 'z' (of_decide_eq_true (Bool.and_eq_true_iff.1 lower).2)).trans_lt (by decide)

theorem isBlank_of_isAlpha {c : Char} (letter : c.isAlpha = true) : isBlank c = false :=
  of_code_lt (P := fun d => d.isAlpha = true → isBlank d = false) (by decide)
    (toNat_lt_of_isAlpha letter) letter

theorem isUpper_toUpper {c : Char} (letter : c.isAlpha = true) : c.toUpper.isUpper = true :=
  of_code_lt (P := fun d => d.isAlpha = true → d.toUpper.isUpper = true) (by decide)
    (toNat_lt_of_isAlpha letter) letter

theorem isAlpha_of_isUpper {c : Char} (capital : c.isUpper = true) : c.isAlpha = true :=
  Bool.or_eq_true_iff.2 (.inl capital)

/-- A capital is the upper case of itself and of its small letter. -/
theorem toUpper_of_isUpper {c : Char} (capital : c.isUpper = true) :
    c.toUpper = c ∧ c.toLower.toUpper = c ∧ c.toLower.isAlpha = true :=
  of_code_lt (P := fun d => d.isUpper = true →
      d.toUpper = d ∧ d.toLower.toUpper = d ∧ d.toLower.isAlpha = true) (by decide)
    (toNat_lt_of_isAlpha (isAlpha_of_isUpper capital)) capital

/-- A word in any letter case is of letters, and its capitals are the word in capitals. -/
theorem Cased.capitals {word text : List Char} (cased : Cased word text)
    (upper : ∀ c ∈ text, c.isUpper = true) :
    capitals word = text ∧ ∀ c ∈ word, c.isAlpha = true := by
  induction cased with
  | nil => exact ⟨rfl, nofun⟩
  | @cons c capital word text same _ ih =>
    obtain ⟨here, later⟩ := List.forall_mem_cons.1 upper
    obtain ⟨capitals, letters⟩ := ih later
    obtain ⟨kept, raised, small⟩ := toUpper_of_isUpper here
    rw [Schema.capitals, List.map_cons, ← Schema.capitals, capitals, List.forall_mem_cons]
    rcases same with rfl | rfl
    · exact ⟨by rw [kept], isAlpha_of_isUpper here, letters⟩
    · exact ⟨by rw [raised], small, letters⟩

/-! ### Reading a statement -/

theorem ofKeyword?_eq_some_iff {word : List Char} {kind : ObjectKind} :
    ObjectKind.ofKeyword? word = some kind ↔ kind.keyword.toList = capitals word := by
  constructor
  · intro found
    simpa using List.find?_some found
  · intro named
    rw [ObjectKind.ofKeyword?, ← named]
    cases kind <;> rfl

/-- What a statement is that is read as an object. -/
theorem ofStatement?_eq_some_iff {statement : List Char} {object : Object} :
    Object.ofStatement? statement = some object ↔
      ∃ verb keyword,
        statement = verb ++ ' ' :: (keyword ++ ' ' :: '"' :: (object.name.toList ++ '"' ::
          object.body.toList)) ∧
        (verb ≠ [] ∧ (∀ c ∈ verb, c.isAlpha = true) ∧ object.verb.toList = capitals verb) ∧
        (' ' ∉ keyword ∧ object.kind.keyword.toList = capitals keyword) ∧
        object.name ≠ "" ∧ '"' ∉ object.name.toList := by
  constructor
  · intro read
    obtain ⟨⟨verb, rest⟩, cut, read⟩ := Option.bind_eq_some_iff.1 read
    obtain ⟨_, letters, read⟩ := Option.bind_eq_some_iff.1 read
    obtain ⟨⟨keyword, rest⟩, again, read⟩ := Option.bind_eq_some_iff.1 read
    obtain ⟨kind, known, read⟩ := Option.bind_eq_some_iff.1 read
    split at read
    case h_2 => cases read
    obtain ⟨⟨name, body⟩, quoted, read⟩ := Option.bind_eq_some_iff.1 read
    obtain ⟨_, named, made⟩ := Option.bind_eq_some_iff.1 read
    obtain ⟨rfl, -⟩ := splitOnce_eq_some_iff.1 cut
    obtain ⟨rfl, whole⟩ := splitOnce_eq_some_iff.1 again
    obtain ⟨rfl, unquoted⟩ := splitOnce_eq_some_iff.1 quoted
    have spelled := (Option.guard_eq_some' _).1 letters
    have called := (Option.guard_eq_some' _).1 named
    simp only [Bool.and_eq_true, Bool.not_eq_true', List.isEmpty_eq_false_iff, List.all_eq_true]
      at spelled called
    obtain rfl := Option.some.inj made
    refine ⟨verb, keyword, by simp, ⟨spelled.1, spelled.2, by simp⟩,
      ⟨whole, ofKeyword?_eq_some_iff.1 known⟩, ?_, by simpa using unquoted⟩
    simpa using called
  · rintro ⟨verb, keyword, rfl, ⟨spelled, letters, capital⟩, ⟨whole, kind⟩, named, unquoted⟩
    have words : ' ' ∉ verb := fun inside => absurd (letters ' ' inside) (by decide)
    have all : verb.all Char.isAlpha = true := List.all_eq_true.2 letters
    rw [Object.ofStatement?, splitOnce_eq_some_iff.2 ⟨rfl, words⟩]
    simp only [Option.bind_eq_bind, Option.bind_some]
    rw [splitOnce_eq_some_iff.2 ⟨rfl, whole⟩]
    simp only [Option.bind_some, ofKeyword?_eq_some_iff.2 kind]
    rw [splitOnce_eq_some_iff.2 ⟨rfl, unquoted⟩]
    simp [spelled, all, named, guard, ← capital]

/-! ### Spelling a statement -/

theorem ObjectKind.keyword_upper (kind : ObjectKind) :
    ∀ c ∈ kind.keyword.toList, c.isUpper = true := by
  -- Decided over the letters of the keyword; an instance for all characters would go through those.
  apply List.all_eq_true.1
  cases kind <;> decide

namespace Object.Spelling

variable {object : Object} {text : List Char}

theorem reads (wellFormed : object.WellFormed) (spelled : object.Spelling text) :
    Object.ofStatement? text = some object := by
  obtain ⟨verb, keyword, verbs, keywords, rfl⟩ := spelled
  obtain ⟨capital, letters⟩ := verbs.capitals wellFormed.verb_upper
  obtain ⟨kind, words⟩ := keywords.capitals object.kind.keyword_upper
  refine ofStatement?_eq_some_iff.2 ⟨verb, keyword, rfl, ⟨?_, letters, capital.symm⟩,
    ⟨fun inside => absurd (words ' ' inside) (by decide), kind.symm⟩, wellFormed.name_ne,
    wellFormed.name_quote⟩
  rintro rfl
  exact wellFormed.verb_ne (String.toList_inj.1 capital.symm)

/-- A statement starts with a letter. -/
theorem starts (wellFormed : object.WellFormed) (spelled : object.Spelling text) :
    ∃ c rest, text = c :: rest ∧ c.isAlpha = true := by
  obtain ⟨verb, keyword, verbs, -, rfl⟩ := spelled
  obtain ⟨capital, letters⟩ := verbs.capitals wellFormed.verb_upper
  cases verb with
  | nil => exact absurd (String.toList_inj.1 capital.symm) wellFormed.verb_ne
  | cons c verb => exact ⟨c, _, rfl, letters c List.mem_cons_self⟩

/-- What is neither letter nor blank nor quote is in the name or in the body. -/
theorem mem_name_or_body (wellFormed : object.WellFormed) (spelled : object.Spelling text)
    {mark : Char} (other : mark.isAlpha = false ∧ mark ≠ ' ' ∧ mark ≠ '"')
    (inside : mark ∈ text) : mark ∈ object.name.toList ∨ mark ∈ object.body.toList := by
  obtain ⟨verb, keyword, verbs, keywords, rfl⟩ := spelled
  have verbs := (verbs.capitals wellFormed.verb_upper).2 mark
  have keywords := (keywords.capitals object.kind.keyword_upper).2 mark
  simp only [other.1, Bool.false_eq_true, imp_false] at verbs keywords
  simpa [other, verbs, keywords] using inside

/-- The ends of a statement are not blank. -/
theorem trimmed (wellFormed : object.WellFormed) (spelled : object.Spelling text) :
    trim text = text := by
  apply trim_eq_self
  · intro c first
    obtain ⟨d, rest, rfl, letter⟩ := spelled.starts wellFormed
    obtain rfl := Option.some.inj first
    exact isBlank_of_isAlpha letter
  · intro c last
    obtain ⟨verb, keyword, -, -, rfl⟩ := spelled
    have split : verb ++ ' ' :: (keyword ++ ' ' :: '"' :: (object.name.toList ++ '"' ::
        object.body.toList))
      = (verb ++ ' ' :: (keyword ++ ' ' :: '"' :: object.name.toList)) ++ '"' ::
        object.body.toList := by simp
    rw [split, List.getLast?_append_cons, List.getLast?_cons, Option.some.injEq] at last
    cases ends : object.body.toList.getLast? with
    | none =>
      rw [← last, ends]
      decide
    | some d =>
      rw [← last, ends]
      exact wellFormed.body_end d ends

/-- A statement stays among the comments around it. -/
theorem codeWithin_append (wellFormed : object.WellFormed) (spelled : object.Spelling text)
    (rest : List Char) : codeWithin (text ++ ';' :: rest) = text ++ ';' :: codeWithin rest := by
  have noReturn : '\r' ∉ text := fun inside =>
    (spelled.mem_name_or_body wellFormed (by decide) inside).elim wellFormed.name_plain.noReturn
      wellFormed.body_plain.noReturn
  have plain : Uncommented text := by
    obtain ⟨verb, keyword, verbs, keywords, rfl⟩ := spelled
    have verbs := (verbs.capitals wellFormed.verb_upper).2 '\n'
    have keywords := (keywords.capitals object.kind.keyword_upper).2 '\n'
    have words : '\n' ∉ verb ++ ' ' :: (keyword ++ [' ']) := by
      simpa using ⟨fun inside => absurd (verbs inside) (by decide),
        fun inside => absurd (keywords inside) (by decide)⟩
    have named := (noComment_iff.1 wellFormed.name_plain.noComment).append_cons (c := '"')
      (by decide) (by decide) (noComment_iff.1 wellFormed.body_plain.noComment)
    simpa using (uncommented_of_notMem words).append_cons (c := '"') (by decide) (by decide) named
  rw [codeWithin_plain noReturn plain (by decide) (by decide), codeWithin_semicolon]

end Object.Spelling

/-! ### Reading a layout -/

/-- A line that a layout is within does not start like a comment. -/
theorem Layout.opening {fresh : Bool} {text : List Char} {objects : List Object}
    (laid : Layout fresh text objects) (within : fresh = false)
    (wellFormed : ∀ object ∈ objects, object.WellFormed) :
    isComment (text.takeWhile (· ≠ '\n')) = false := by
  induction laid with
  | done => rfl
  | @blank _ c rest objects white others ih =>
    by_cases feed : c = '\n'
    · simp [feed, isComment, trimStart]
    · rw [List.takeWhile_cons_of_pos (by simpa using feed), isComment_cons_of_blank white]
      exact ih (by simpa using feed) wellFormed
  | chunk others ih => exact isComment_cons_of_ne (by decide) (by decide) _
  | comment => cases within
  | lastComment => cases within
  | @statement _ object text rest objects spelled others ih =>
    obtain ⟨c, more, rfl, letter⟩ := spelled.starts (wellFormed object List.mem_cons_self)
    have other (mark : Char) (noLetter : mark.isAlpha = false) : c ≠ mark := by
      rintro rfl
      exact absurd letter (by simp [noLetter])
    rw [List.cons_append, List.takeWhile_cons_of_pos (by simpa using other '\n' (by decide))]
    exact isComment_cons_of_ne (isBlank_of_isAlpha letter) (other '-' (by decide)) _

theorem Layout.codeOf_eq {text : List Char} {objects : List Object}
    (laid : Layout false text objects) (wellFormed : ∀ object ∈ objects, object.WellFormed)
    (some : text ≠ []) (fresh : Bool) : codeOf fresh text = codeWithin text := by
  cases fresh with
  | false => rfl
  | true => exact codeFrom_eq_codeWithin some (laid.opening rfl wellFormed)

/-- What is left of a layout of well-formed objects is read as these objects. -/
theorem Layout.reads {fresh : Bool} {text : List Char} {objects : List Object}
    (laid : Layout fresh text objects) (wellFormed : ∀ object ∈ objects, object.WellFormed) :
    objectsOfStatements (chunks (codeOf fresh text)) = .ok objects := by
  induction laid with
  | @done fresh => cases fresh <;> rfl
  -- A layout that goes on without a comment goes on as well within a line.
  | @blank fresh c rest objects white others ih =>
    have within : Layout false (c :: rest) objects := .blank white others
    rw [within.codeOf_eq wellFormed (by simp), chunks_codeWithin_cons white]
    exact ih wellFormed
  | @chunk fresh rest objects others ih =>
    have within : Layout false (';' :: rest) objects := .chunk others
    rw [within.codeOf_eq wellFormed (by simp), codeWithin_semicolon, chunks_cons_semicolon]
    exact ih wellFormed
  | comment whole dashes others ih =>
    rw [codeOf, if_pos rfl, codeFrom_comment whole dashes]
    exact ih wellFormed
  | lastComment whole dashes =>
    rw [codeOf, if_pos rfl, codeFrom_lastComment whole dashes]
    rfl
  | @statement fresh object text rest objects spelled others ih =>
    have within : Layout false (text ++ ';' :: rest) (object :: objects) :=
      .statement spelled others
    obtain ⟨here, later⟩ := List.forall_mem_cons.1 wellFormed
    obtain ⟨c, more, split, -⟩ := spelled.starts here
    have whole : ';' ∉ text := fun inside =>
      (spelled.mem_name_or_body here (by decide) inside).elim here.name_semicolon
        here.body_semicolon
    rw [within.codeOf_eq wellFormed (by simp), spelled.codeWithin_append here,
      chunks_append_semicolon whole (by simp [split]) (spelled.trimmed here), objectsOfStatements,
      spelled.reads here]
    exact congrArg (Except.map (object :: ·)) (ih later)

/-! ### Reading any script -/

/-- Where something is left of a script, some line is. -/
theorem kept_ne_nil {script : List Char} {c : Char} (inside : c ∈ withoutComments script) :
    ((lines script).filter fun line => !isComment line) ≠ [] := by
  intro none
  rw [withoutComments, none] at inside
  cases inside

/-- What is left of a script has no comments but perhaps in its first line. -/
theorem uncommented_withoutComments (script : List Char) :
    Uncommented (withoutComments script) := by
  rintro before after split
  have kept : ∀ line ∈ (lines script).filter fun line => !isComment line,
      '\n' ∉ line ∧ isComment line = false := by
    intro line listed
    obtain ⟨listed, stays⟩ := List.mem_filter.1 listed
    exact ⟨(infix_of_mem_lines listed).2, by simpa using stays⟩
  have some := kept_ne_nil (split ▸ List.mem_append_right before List.mem_cons_self)
  have pieces := List.splitOn_intercalate '\n' (fun line listed => (kept line listed).1) some
  rw [← withoutComments, split, List.splitOn_append_cons_self] at pieces
  rw [← @List.intercalate_splitOn _ after]
  refine isComment_intercalate fun line listed => (kept line ?_).2
  rw [← pieces]
  exact List.mem_append_right _ listed

/-- What is left of a script is drawn from the script. -/
theorem mem_of_mem_withoutComments {script : List Char} {c : Char}
    (inside : c ∈ withoutComments script) (other : c ≠ '\n') : c ∈ script := by
  have some := kept_ne_nil inside
  rw [withoutComments] at inside
  have drawn := List.mem_append_left ['\n'] inside
  rw [intercalate_concat some, List.mem_flatMap] at drawn
  obtain ⟨line, listed, drawn⟩ := drawn
  have part := (infix_of_mem_lines (List.mem_filter.1 listed).1).1
  exact part.subset (by simpa [other] using drawn)

/-- A statement of a script without carriage returns gives a well-formed object or none. -/
theorem wellFormed_of_mem_statements {script statement : List Char} {object : Object}
    (noReturn : '\r' ∉ script) (listed : statement ∈ statements script)
    (read : Object.ofStatement? statement = some object) : object.WellFormed := by
  obtain ⟨verb, keyword, split, ⟨spelled, letters, capital⟩, -, named, unquoted⟩ :=
    ofStatement?_eq_some_iff.1 read
  obtain ⟨listed, -⟩ := List.mem_filter.1 listed
  obtain ⟨chunk, cut, rfl⟩ := List.mem_map.1 listed
  -- Name and body are parts of a chunk of what is left of the script, and take over from there
  -- that no carriage return, no semicolon and no comment is in them.
  obtain ⟨part, whole⟩ := infix_of_mem_splitAt cut
  have part := (trim_isPart chunk).trans part
  have plain {text : List Char} (inside : text <:+: trim chunk) : IsPlain text :=
    ⟨fun returns => noReturn (mem_of_mem_withoutComments
      ((inside.trans part).subset returns) (by decide)),
      noComment_iff.2 ((uncommented_withoutComments script).of_part (inside.trans part))⟩
  have free {text : List Char} (inside : text <:+: trim chunk) : ';' ∉ text := fun marked =>
    whole ((inside.trans (trim_isPart chunk)).subset marked)
  have name : object.name.toList <:+: trim chunk :=
    ⟨verb ++ ' ' :: (keyword ++ [' ', '"']), '"' :: object.body.toList, by simp [split]⟩
  have body : object.body.toList <:+ trim chunk :=
    ⟨verb ++ ' ' :: (keyword ++ ' ' :: '"' :: (object.name.toList ++ ['"'])), by simp [split]⟩
  exact
    { verb_ne := fun none => spelled (by simpa [none, capitals, eq_comm] using capital)
      verb_upper := by
        rw [capital, capitals, List.forall_mem_map]
        exact fun c inside => isUpper_toUpper (letters c inside)
      name_ne := named
      name_quote := unquoted
      name_semicolon := free name
      name_plain := plain name
      body_semicolon := free body.isInfix
      body_end := by
        obtain ⟨front, ends⟩ := body
        intro c last
        exact getLast?_trim (by rw [← ends, List.getLast?_append, last, Option.some_or])
      body_plain := plain body.isInfix }

theorem exists_of_objectsOfStatements {statements : List (List Char)} {objects : List Object}
    (read : objectsOfStatements statements = .ok objects) :
    ∀ object ∈ objects, ∃ statement ∈ statements, Object.ofStatement? statement = some object := by
  induction statements generalizing objects with
  | nil =>
    cases read
    exact nofun
  | cons statement rest ih =>
    rw [objectsOfStatements] at read
    split at read
    · cases read
    · next object here =>
      cases others : objectsOfStatements rest with
      | error error =>
        rw [others] at read
        cases read
      | ok objects =>
        rw [others] at read
        cases read
        refine List.forall_mem_cons.2 ⟨⟨statement, List.mem_cons_self, here⟩, ?_⟩
        intro object listed
        obtain ⟨statement, member, read⟩ := ih others object listed
        exact ⟨statement, List.mem_cons_of_mem _ member, read⟩

/-- Well-formed objects are read back from every layout of them, and a script without carriage
returns, however it is laid out, gives well-formed objects only. -/
theorem parse_layout :
    (∀ (script : String) (objects : List Object), (∀ object ∈ objects, object.WellFormed) →
      Layout true script.toList objects → parse script = .ok objects) ∧
    (∀ (script : String) (objects : List Object), '\r' ∉ script.toList →
      parse script = .ok objects → ∀ object ∈ objects, object.WellFormed) := by
  constructor
  · intro script objects wellFormed laid
    rw [parse, statements_eq_chunks]
    exact laid.reads wellFormed
  · intro script objects noReturn read object listed
    obtain ⟨statement, member, read⟩ := exists_of_objectsOfStatements read object listed
    exact wellFormed_of_mem_statements noReturn member read

/-- A table with a body of three lines, and an index without a body. -/
def tableAndIndex : List Object :=
  [⟨"CREATE", .table, "keys", " (\n\t\"id\" TEXT\n)"⟩, ⟨"CREATE", .index, "keys by id", ""⟩]

/-- A layout with a comment that looks like a statement, a lone semicolon and mixed letter case. -/
def tableAndIndexScript : List Char :=
  "-- CREATE TABLE \"x\";".toList ++ '\n' :: ' ' :: ';' ::
    ("create Table \"keys\" (\n\t\"id\" TEXT\n)".toList ++ ';' :: '\n' ::
      ("  -- the index".toList ++ '\n' ::
        ("CREATE iNDEX \"keys by id\"".toList ++ ';' :: [])))

theorem parse_layout_tableAndIndex :
    (∀ object ∈ tableAndIndex, object.WellFormed) ∧ Layout true tableAndIndexScript tableAndIndex ∧
      '\r' ∉ tableAndIndexScript ∧
      parse (String.ofList tableAndIndexScript) = .ok tableAndIndex := by
  have laid : Layout true (String.ofList tableAndIndexScript).toList tableAndIndex := by
    rw [String.toList_ofList]
    refine .comment (by decide) (by decide) (.blank (by decide) (.chunk (.statement ?_
      (.blank (by decide) (.comment (by decide) (by decide) (.statement ?_ .done))))))
    · exact ⟨"create".toList, "Table".toList, by simp [Cased],
        by simp [Cased, ObjectKind.keyword], by decide⟩
    · exact ⟨"CREATE".toList, "iNDEX".toList, by simp [Cased],
        by simp [Cased, ObjectKind.keyword], by decide⟩
  have noReturn : '\r' ∉ (String.ofList tableAndIndexScript).toList := by
    rw [String.toList_ofList]
    decide
  have plain : ∀ object ∈ tableAndIndex, object.WellFormed := by
    have ends (text : List Char) (black : text.getLast?.all fun c => !isBlank c) (c : Char)
        (last : text.getLast? = some c) : isBlank c = false := by
      simpa [last] using black
    refine List.forall_mem_cons.2 ⟨?_, List.forall_mem_singleton.2 ?_⟩
    · exact ⟨by decide, List.all_eq_true.1 (by decide), by decide, by decide, by decide,
        ⟨by decide, by decide⟩, by decide, ends _ (by decide), ⟨by decide, by decide⟩⟩
    · exact ⟨by decide, List.all_eq_true.1 (by decide), by decide, by decide, by decide,
        ⟨by decide, by decide⟩, by decide, ends _ (by decide), ⟨by decide, by decide⟩⟩
  have parsed := parse_layout.1 _ _ plain laid
  rw [String.toList_ofList] at laid noReturn
  exact ⟨parse_layout.2 _ _ (by rwa [String.toList_ofList]) parsed, laid, noReturn, parsed⟩

end KeyStore.Schema

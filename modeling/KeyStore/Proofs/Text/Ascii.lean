import KeyStore.Text.Case

/-!
# Letter case of ASCII text

Among the characters of ASCII only the capital letters have another lower-case form and only the
small letters another upper-case form, and each of these is one character. Both forms of a text in
ASCII are made letter by letter.
-/

namespace KeyStore.Text

/-- The text has no characters beyond ASCII. -/
def IsAscii (text : List Char) : Prop := ∀ c ∈ text, c.toNat < 128

instance (text : List Char) : Decidable (IsAscii text) :=
  decidable_of_iff (text.all fun c => c.toNat < 128) (by simp [IsAscii])

/-- What holds of each of the first code points holds of every character among them. -/
theorem of_code_lt {bound : Nat} {P : Char → Prop} (each : ∀ n < bound, P (Char.ofNat n))
    {c : Char} (small : c.toNat < bound) : P c := by
  have here := each c.toNat small
  rwa [Char.ofNat_toNat] at here

/-- A table whose first run alone starts in ASCII moves the characters of that run. -/
theorem mapRuns_ascii {run : CodeRun} {others : List CodeRun}
    (beyond : others.all (fun other => 128 ≤ other.first) = true) {n : Nat} (ascii : n < 128) :
    mapRuns (run :: others) n
      = if run.contains n then ((n : Int) + run.offset).toNat else n := by
  have none_later : others.find? (·.contains n) = none := by
    rw [List.find?_eq_none]
    intro other member inside
    have first := of_decide_eq_true (List.all_eq_true.1 beyond other member)
    simp only [CodeRun.contains, Bool.and_eq_true, decide_eq_true_eq] at inside
    omega
  rw [mapRuns, List.find?_cons, none_later]
  cases run.contains n <;> rfl

/-! ### Lower case -/

/-- Lower case moves the capital letters of ASCII by 32 places. -/
theorem toLower_ofNat : ∀ n < 128,
    Char.ofNat (if (CodeRun.mk 0x41 0x5A 1 32).contains n then ((n : Int) + 32).toNat else n)
      = (Char.ofNat n).toLower := by
  decide

theorem lowerChar_ascii {c : Char} (ascii : c.toNat < 128) : lowerChar c = [c.toLower] := by
  have plain : c ≠ 'İ' := by
    rintro rfl
    exact absurd ascii (by decide)
  have table : lowercaseRuns = ⟨0x41, 0x5A, 1, 32⟩ :: lowercaseRuns.tail := rfl
  rw [lowerChar, if_neg plain, table, mapRuns_ascii (by decide +kernel) ascii,
    toLower_ofNat c.toNat ascii, Char.ofNat_toNat]

theorem lowerAfter_ascii (before : List Char) {text : List Char} (ascii : IsAscii text) :
    lowerAfter before text = text.map Char.toLower := by
  induction text generalizing before with
  | nil => rfl
  | cons c text ih =>
    have here : c.toNat < 128 := ascii c List.mem_cons_self
    have rest := ih (c :: before) fun d member => ascii d (List.mem_cons_of_mem _ member)
    have no_sigma : c ≠ 'Σ' := by
      rintro rfl
      exact absurd here (by decide)
    rw [lowerAfter, rest, if_neg no_sigma, lowerChar_ascii here]
    rfl

/-- The lower-case form of a text in ASCII. -/
theorem lower_ascii {text : List Char} (ascii : IsAscii text) :
    lower text = text.map Char.toLower :=
  lowerAfter_ascii [] ascii

/-! ### Upper case -/

/-- Upper case moves the small letters of ASCII by 32 places. -/
theorem toUpper_ofNat : ∀ n < 128,
    Char.ofNat (if (CodeRun.mk 0x61 0x7A 1 (-32)).contains n then ((n : Int) + -32).toNat else n)
      = (Char.ofNat n).toUpper := by
  decide

theorem upperChar_ascii {c : Char} (ascii : c.toNat < 128) : upperChar c = [c.toUpper] := by
  have single : uppercaseExpansions.lookup c.toNat = none := by
    rw [List.lookup_eq_none_iff]
    have beyond : ∀ entry ∈ uppercaseExpansions, 128 ≤ entry.1 := by decide +kernel
    intro entry listed
    have first := beyond entry listed
    rw [bne_iff_ne]
    omega
  have table : uppercaseRuns = ⟨0x61, 0x7A, 1, -32⟩ :: uppercaseRuns.tail := rfl
  have moved : mapRuns uppercaseRuns c.toNat
      = if (CodeRun.mk 0x61 0x7A 1 (-32)).contains c.toNat then ((c.toNat : Int) + -32).toNat
        else c.toNat := by
    rw [table]
    exact mapRuns_ascii (by decide +kernel) ascii
  rw [upperChar, single]
  exact congrArg ([·]) (by rw [moved, toUpper_ofNat c.toNat ascii, Char.ofNat_toNat])

/-- The upper-case form of a text in ASCII. -/
theorem upper_ascii {text : List Char} (ascii : IsAscii text) :
    upper text = text.map Char.toUpper := by
  induction text with
  | nil => rfl
  | cons c text ih =>
    rw [upper, List.flatMap_cons, upperChar_ascii (ascii c List.mem_cons_self)]
    exact congrArg (c.toUpper :: ·) (ih fun d member => ascii d (List.mem_cons_of_mem _ member))

theorem toUpper_toLower : ∀ n < 128,
    (Char.ofNat n).toLower.toUpper = (Char.ofNat n).toUpper := by
  decide

/-- Texts in ASCII that differ in letter case only have the same capitals. -/
theorem upper_eq_of_lower_eq {left right : List Char} (ascii_left : IsAscii left)
    (ascii_right : IsAscii right) (same : left.map Char.toLower = right.map Char.toLower) :
    upper left = upper right := by
  have through {text : List Char} (ascii : IsAscii text) :
      upper text = (text.map Char.toLower).map Char.toUpper := by
    rw [upper_ascii ascii, List.map_map]
    refine List.map_congr_left fun c member => ?_
    have plain := toUpper_toLower c.toNat (ascii c member)
    rw [Char.ofNat_toNat] at plain
    exact plain.symm
  rw [through ascii_left, through ascii_right, same]

end KeyStore.Text

import Mathlib.Algebra.Order.Ring.Nat
import Mathlib.Data.List.Nodup
import KeyStore.Document.Coding
import KeyStore.Proofs.Document.RoundTrip
import KeyStore.Proofs.Value.Rounding

/-!
# JSON documents say what they were made of

Documents are read as they were written, so `Coding.json` reads whatever it has printed. The members
of an object whose keys are distinct are found by their keys. What is read of a variant is looked
through first: what was made of texts, truth values, numbers and fields is sound, since a number of
64 bits rounds to a finite one.

Main statement: `Coding.json_lawful`.
-/

namespace KeyStore

namespace Document

/-! ### Numbers -/

theorem le_foldl_digits (n : Nat) (digits : List Digit) :
    n ≤ digits.foldl (fun n digit => 10 * n + digit.val) n := by
  induction digits generalizing n with
  | nil => exact Nat.le_refl n
  | cons digit rest ih => exact Nat.le_trans (by omega) (ih (10 * n + digit.val))

/-- All digits of a number that 64 bits hold are gathered. -/
theorem gather_eq {n : Nat} {digits : List Digit}
    (fits : digits.foldl (fun n digit => 10 * n + digit.val) n < UInt64.size) :
    gather n digits = (digits.foldl (fun n digit => 10 * n + digit.val) n, digits.length) := by
  induction digits generalizing n with
  | nil => rfl
  | cons digit rest ih =>
    have here := Nat.lt_of_le_of_lt (le_foldl_digits (10 * n + digit.val) rest) fits
    rw [gather, if_pos here, ih fits]
    rfl

theorem foldl_digitsOf (n : Nat) :
    (digitsOf n).foldl (fun n digit => 10 * n + digit.val) 0 = n := by
  have value : ∀ c ∈ Nat.toDigits 10 n, (Digit.ofChar c).val = c.toNat - '0'.toNat := by
    intro c member
    have digit := isDigit_of_mem_toDigits member
    simp only [isDigit, Bool.and_eq_true, decide_eq_true_eq] at digit
    have below : c.toNat ≤ '9'.toNat := digit.2
    have nine : '9'.toNat = '0'.toNat + 9 := rfl
    exact Nat.mod_eq_of_lt (by omega)
  calc (digitsOf n).foldl (fun n digit => 10 * n + digit.val) 0
    _ = (Nat.toDigits 10 n).foldl (fun n c => 10 * n + (c.toNat - '0'.toNat)) 0 := by
      rw [digitsOf, List.foldl_map]
      exact List.foldl_ext _ _ _ fun total c member => by rw [value c member]
    _ = n := ofDigits_toDigits n

theorem nearestNat_lt {n : Nat} (fits : n < UInt64.size) : Binary64.nearestNat n < 2 ^ 66 := by
  rw [Binary64.nearestNat]
  split
  · exact Nat.lt_trans fits (by decide)
  · next large =>
    have positive : n ≠ 0 := by
      rintro rfl
      exact large (by decide)
    have short : n.log2 < 64 := (Nat.log2_lt positive).2 fits
    rw [Nat.shiftLeft_eq]
    calc Binary64.nearestSignificand n * 2 ^ (n.log2 - 52)
      _ ≤ 2 ^ 53 * 2 ^ 12 := Nat.mul_le_mul (Binary64.nearestSignificand_bounds positive).2
        (Nat.pow_le_pow_right Nat.two_pos (by omega))
      _ < 2 ^ 66 := by decide

/-- A number that 64 bits hold is finite. -/
theorem isFinite_integer {n : Nat} (fits : n < UInt64.size) :
    Number.isFinite (.integer false n) = true := by
  have whole : scaled (digitsOf n) [] 0 = (n, 0) := by
    rw [scaled, gather_eq ((foldl_digitsOf n).symm ▸ fits), foldl_digitsOf]
    simp [gather]
  have one : Binary64.nearestNat 1 = 1 := by decide
  have bound : 2 ^ 66 ≤ Binary64.overflowBound := by decide
  have small := Nat.lt_of_lt_of_le (nearestNat_lt fits) bound
  simp [Number.isFinite, Number.scaled, whole, one, greatestPower, small]

/-! ### Members -/

section

variable {members : List (String × Document)}

theorem keyed?_ofMembers (members : List (String × Document)) :
    keyed? (members.map fun (key, value) => (some key, value)) = some members := by
  induction members with
  | nil => rfl
  | cons member members ih =>
    have later := ih
    rw [keyed?] at later ⊢
    simp [later]

theorem isUnambiguous_of_nodup (distinct : (members.map (·.1)).Nodup) (key : String) :
    isUnambiguous members key = true := by
  have count : (members.filter fun entry => entry.1 = key).length
      = (members.map (·.1)).count key := by
    rw [List.count, List.countP_map, List.countP_eq_length_filter]
    rfl
  exact decide_eq_true (count ▸ List.nodup_iff_count_le_one.1 distinct key)

/-- The members of an object are found by their keys. -/
theorem parts?_ofMembers (keys : List String) (distinct : (members.map (·.1)).Nodup) :
    parts? keys (ofMembers members) = some fun key => members.lookup key := by
  rw [ofMembers, parts?, keyed?_ofMembers]
  simp [isUnambiguous_of_nodup distinct]

/-- The member under the tag is taken from in front of the others. -/
theorem untag?_ofMembers {tag : String} (name : String)
    (distinct : (tag :: members.map (·.1)).Nodup) :
    untag? tag (ofMembers ((tag, .text (some name)) :: members))
      = some (name, ofMembers members) := by
  have others := (List.nodup_cons.1 distinct).1
  have kept : (members.map fun (key, value) => (some key, value)).filter
      (fun entry : Literal × Document => entry.1 ≠ some tag)
        = members.map fun (key, value) => (some key, value) := by
    simp only [List.filter_eq_self, List.forall_mem_map, decide_eq_true_eq, ne_eq]
    intro entry inside same
    exact others (List.mem_map.2 ⟨entry, inside, Option.some.inj same⟩)
  have unambiguous : isUnambiguous ((tag, .text (some name)) :: members) tag = true :=
    isUnambiguous_of_nodup (by exact distinct) tag
  rw [ofMembers, untag?, keyed?_ofMembers]
  simp only [Option.bind_eq_bind, Option.bind_some, unambiguous, if_true, List.lookup_cons_self]
  rw [List.map_cons, List.filter_cons_of_neg (by simp), kept]
  rfl

theorem membersAreSound_map {depth : Nat}
    (each : ∀ member ∈ members, isSound depth member.2 = true) :
    membersAreSound depth (members.map fun (key, value) => (some key, value)) = true := by
  induction members with
  | nil => rfl
  | cons member members ih =>
    obtain ⟨first, others⟩ := List.forall_mem_cons.1 each
    rw [List.map_cons, membersAreSound, first, ih others]
    rfl

theorem isSound_ofMembers {depth : Nat} (each : ∀ member ∈ members, isSound depth member.2 = true) :
    isSound (depth + 1) (ofMembers members) = true := by
  rw [ofMembers, isSound, Nat.add_sub_cancel, membersAreSound_map each]
  simp

/-- What is made of parts is sound. -/
theorem isSound_of_built {depth : Nat} {document : Coding.json.Encoded}
    (built : Coding.json.Built depth document) : isSound depth document = true := by
  induction built with
  | text s => rfl
  | bool b => rfl
  | number n => exact isFinite_integer n.toNat_lt
  | absent => rfl
  | fields _ _ ih => exact isSound_ofMembers ih
  | variant _ _ ih => exact isSound_ofMembers (List.forall_mem_cons.2 ⟨rfl, ih⟩)

/-- A variant is read in the way of the variant that it names. -/
theorem readTagged_ofMembers {α : Type} {tag name : String}
    {variants : List (String × (Document → Except String α))}
    {read : Document → Except String α} (distinct : (tag :: members.map (·.1)).Nodup)
    (built : ∀ member ∈ members, Coding.json.Built Coding.variantLimit member.2)
    (known : variants.lookup name = some read) :
    readTagged tag variants (ofMembers ((tag, .text (some name)) :: members))
      = read (ofMembers members) := by
  have sound : isSound (Coding.variantLimit + 1) (ofMembers ((tag, .text (some name)) :: members))
      = true :=
    isSound_ofMembers (List.forall_mem_cons.2
      ⟨rfl, fun member inside => isSound_of_built (built member inside)⟩)
  have limit : nestingLimit = Coding.variantLimit + 1 := rfl
  rw [readTagged, limit, if_pos sound, untag?_ofMembers name distinct]
  exact congrArg (fun found => demand found >>= fun read => read (ofMembers members)) known

end

end Document

open Document

/-- JSON documents are read as they were made. -/
theorem Coding.json_lawful : Coding.json.Lawful where
  parse_print value _ := ⟨value.pretty, rfl, congrArg demand (read_pretty value)⟩
  readText_text _ := rfl
  readBool_bool _ := rfl
  readNumber_number n := by
    have read : number? (.number (.integer false n.toNat)) = some n := by
      rw [number?, if_pos n.toNat_lt, UInt64.ofNat_toNat]
    exact congrArg demand read
  isAbsent_absent := rfl
  isAbsent_text _ := rfl
  isAbsent_bool _ := rfl
  isAbsent_number _ := rfl
  isAbsent_fields _ := rfl
  readFields_fields names members distinct :=
    ⟨_, congrArg demand (parts?_ofMembers names distinct), fun _ _ => rfl⟩
  readVariant_variant _ _ _ _ _ distinct built known := readTagged_ofMembers distinct built known

end KeyStore

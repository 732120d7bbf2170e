import KeyStore.Filter
import KeyStore.Proofs.Text.Sigma

/-!
# Finding a text regardless of case

A text is looked for in its own lower-case form, and a capital sigma at the end of the text has
another form there than in the middle of a word. So a text that ends in a sigma, or begins with one,
can stand in a value letter by letter and not be found. It is found wherever each of its sigmas has
the form that it has in the text alone, and the texts that are found in every value in which they
stand are those whose sigmas are settled (`alwaysFound_iff_settled`). What is equal regardless of
case is also found.
-/

namespace KeyStore.Filter

theorem containsIgnoringCase_iff (needle text : String) :
    (containsIgnoringCase needle).evaluate (.text text) = some true ↔
      Text.occursIn (Text.lower needle.toList) (Text.lower text.toList) = true := by
  rw [evaluate, textTest, Option.some_inj]

theorem equalsIgnoringCase_iff (expected text : String) :
    (equalsIgnoringCase expected).evaluate (.text text) = some true ↔
      Text.lower text.toList = Text.lower expected.toList := by
  rw [evaluate, textTest, Option.some_inj, decide_eq_true_iff]

/-- The text is found in every value in which it stands. -/
def AlwaysFound (needle : String) : Prop :=
  ∀ text : String, needle.toList <:+: text.toList →
    (containsIgnoringCase needle).evaluate (.text text) = some true

theorem found_of_standsAlike {before needle after : String}
    (alike : Text.StandsAlike before.toList.reverse needle.toList after.toList) :
    (containsIgnoringCase needle).evaluate (.text (before ++ needle ++ after)) = some true := by
  rw [containsIgnoringCase_iff, String.toList_append, String.toList_append]
  exact Text.occursIn_of_standsAlike alike

theorem alwaysFound_iff_settled (needle : String) :
    AlwaysFound needle ↔ Text.Settled needle.toList := by
  constructor
  · intro found
    have behind := found (String.ofList (['a'] ++ needle.toList ++ []))
      (by rw [String.toList_ofList]; exact List.infix_append ..)
    have ahead := found (String.ofList ([] ++ needle.toList ++ ['a']))
      (by rw [String.toList_ofList]; exact List.infix_append ..)
    rw [containsIgnoringCase_iff, String.toList_ofList] at behind ahead
    exact Text.settled_of_found behind ahead
  · rintro settled text ⟨before, after, stands⟩
    rw [containsIgnoringCase_iff, ← stands]
    exact Text.occursIn_of_standsAlike (Text.standsAlike_of_settled settled _ _)

theorem contains_of_equals {needle : String} {value : Value}
    (equal : (equalsIgnoringCase needle).evaluate value = some true) :
    (containsIgnoringCase needle).evaluate value = some true := by
  cases value with
  | text text =>
    rw [equalsIgnoringCase_iff] at equal
    rw [containsIgnoringCase_iff, equal, Text.occursIn_iff_isPart]
  | _ => cases equal

/-- A text is found wherever it stands with its sigmas as they are alone. It is found everywhere if
it has no capital sigma, or if its sigmas are settled, and only then; and it is found in what equals
it. -/
theorem found_where_settled (needle : String) :
    (∀ before after : String,
      Text.StandsAlike before.toList.reverse needle.toList after.toList →
        (containsIgnoringCase needle).evaluate (.text (before ++ needle ++ after)) = some true) ∧
    ('Σ' ∉ needle.toList → AlwaysFound needle) ∧
    (AlwaysFound needle ↔ Text.Settled needle.toList) ∧
    ∀ value : Value, (equalsIgnoringCase needle).evaluate value = some true →
      (containsIgnoringCase needle).evaluate value = some true :=
  ⟨fun _ _ => found_of_standsAlike,
    fun plain => (alwaysFound_iff_settled needle).2 (Text.settled_of_notMem plain),
    alwaysFound_iff_settled needle, fun _ => contains_of_equals⟩

/-- A sigma at the end of a word is found at the end of another word; a text without one, and a
sigma within a word, are found everywhere; and a text is found in itself in lower case. -/
theorem found_at_wordEnd :
    (Text.StandsAlike "ΛΟΓ".toList.reverse "ΟΣ".toList " ΤΟΥ".toList ∧
      (containsIgnoringCase "ΟΣ").evaluate (.text ("ΛΟΓ" ++ "ΟΣ" ++ " ΤΟΥ")) = some true) ∧
    ('Σ' ∉ "ßE".toList ∧ AlwaysFound "ßE") ∧
    (Text.Settled "ΣΜ".toList ∧ AlwaysFound "ΣΜ") ∧
    (equalsIgnoringCase "ΟΣ").evaluate (.text "ος") = some true ∧
    (containsIgnoringCase "ΟΣ").evaluate (.text "ος") = some true := by
  have alike : Text.StandsAlike "ΛΟΓ".toList.reverse "ΟΣ".toList " ΤΟΥ".toList := by
    decide +kernel
  have plain : 'Σ' ∉ "ßE".toList := by decide
  have settled : Text.Settled "ΣΜ".toList := by decide +kernel
  have equal : (equalsIgnoringCase "ΟΣ").evaluate (.text "ος") = some true := by decide +kernel
  exact ⟨⟨alike, (found_where_settled "ΟΣ").1 "ΛΟΓ" " ΤΟΥ" alike⟩,
    ⟨plain, (found_where_settled "ßE").2.1 plain⟩,
    ⟨settled, (found_where_settled "ΣΜ").2.2.1.2 settled⟩,
    equal, (found_where_settled "ΟΣ").2.2.2 _ equal⟩

/-- A sigma that ends the text that is looked for has not the form that it has within a word. -/
theorem wordEnd_missed_within :
    "ΑΣ".toList <:+: "ΑΣΑ".toList ∧
    (containsIgnoringCase "ΑΣ").evaluate (.text "ΑΣΑ") = some false :=
  ⟨⟨[], ['Α'], by decide⟩, by decide +kernel⟩

end KeyStore.Filter

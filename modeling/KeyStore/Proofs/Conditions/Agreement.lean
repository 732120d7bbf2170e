import KeyStore.Conditions
import KeyStore.Proofs.Filter.Agreement

/-!
# Conditions in a statement and in process

A database that reads the text of a WHERE clause takes the rows that `Conditions.accepts` takes, and
the text of a single filter is true, false or unknown of a row as `Filter.evaluate` says.
-/

namespace KeyStore

open Sql

/-- What the database says of a row under a WHERE clause; without one it takes every row. -/
def Sql.Engine.askWhere (db : Engine) (record : Record) (values : List Value)
    (dialect : Dialect) : Option String → Option (Option Bool)
  | none => some (some true)
  | some text => db.ask record values dialect text

theorem Sql.Connective.fold_and_eq_true_iff (answers : List (Option Bool)) :
    Connective.and.fold answers = some true ↔ ∀ answer ∈ answers, answer = some true := by
  induction answers with
  | nil => simp [Connective.fold, Connective.decisive]
  | cons answer rest ih =>
    rw [Connective.fold, List.forall_mem_cons, ← ih]
    generalize Connective.and.fold rest = others
    rcases answer with _ | _ | _ <;> rcases others with _ | _ | _ <;> simp [Connective.apply]

variable {db : Engine} {record : Record}

namespace Conditions

/-- Every filter of the conditions suits the value of its field. -/
def Suit (conditions : Conditions) (record : Record) : Prop :=
  ∀ entry ∈ conditions.toList, Filter.Suits (Record.value record entry.1) entry.2

theorem bindEntries_alike {entries : List (String × Filter)}
    (alike : ∀ entry ∈ entries, Filter.BindsAlike db record entry.1 entry.2) :
    ∀ args : Arguments, ∃ conditions bound,
      bindEntries entries args = (.ok conditions, args.extend bound) ∧
        ∀ later, List.Forall₂
          (fun formula answer =>
            formula.answer db record (args.values ++ bound ++ later) = some answer)
          (Condition.formulas args.dialect conditions)
          (entries.map fun entry => entry.2.evaluate (Record.value record entry.1)) := by
  induction entries with
  | nil => exact fun args => ⟨[], [], by rw [bindEntries, Arguments.extend_nil], fun _ => .nil⟩
  | cons entry rest ih =>
    intro args
    obtain ⟨field, filter⟩ := entry
    obtain ⟨condition, bound, binds, answers⟩ := alike (field, filter) List.mem_cons_self args
    obtain ⟨conditions, more, binds_rest, answers_rest⟩ :=
      ih (fun entry member => alike entry (List.mem_cons_of_mem _ member)) (args.extend bound)
    refine ⟨condition :: conditions, bound ++ more, ?_, fun later => ?_⟩
    · simp [bindEntries, binds, binds_rest, Except.map]
    · have first := answers (more ++ later)
      have others := answers_rest later
      rw [Arguments.extend_values] at others
      rw [← List.append_assoc] at first
      rw [← List.append_assoc]
      exact .cons first others

theorem accepts_iff_fold (conditions : Conditions) (record : Record) :
    conditions.accepts record = true ↔ Connective.and.fold (conditions.toList.map fun entry =>
      entry.2.evaluate (Record.value record entry.1)) = some true := by
  rw [Connective.fold_and_eq_true_iff, List.forall_mem_map, accepts, List.all_eq_true]
  simp only [Filter.accepts, decide_eq_true_eq]

theorem askWhere_conjunction {dialect : Dialect} {values : List Value} {parts : List Condition}
    {answers : List (Option Bool)}
    (each : List.Forall₂ (fun formula answer => formula.answer db record values = some answer)
      (Condition.formulas dialect parts) answers) :
    db.askWhere record values dialect (Condition.conjunction dialect parts)
      = some (Connective.and.fold answers) := by
  cases parts with
  | nil =>
    cases each
    rfl
  | cons part parts =>
    cases joined : Condition.conjunction dialect (part :: parts) with
    | none => cases joined
    | some text =>
      rw [Engine.askWhere, Engine.ask, Condition.parse_conjunction dialect joined]
      exact chain_answer .and each

/-- The database and the process agree: on a row whose values suit them, the text of conditions is
true exactly if the record satisfies the conditions, and the text of one filter is true, false or
unknown as the filter is. The arguments may hold other values before and after those that are bound
here. -/
theorem ask_render (db : Engine) (args : Arguments) (record : Record) (later : List Value) :
    (∀ conditions : Conditions, conditions.Suit record →
      ∃ text bound answer, conditions.render args = (.ok text, bound) ∧
        db.askWhere record (bound.values ++ later) args.dialect text = some answer ∧
        (answer = some true ↔ conditions.accepts record = true)) ∧
    ∀ column filter, Filter.Suits (Record.value record column) filter →
      ∃ condition bound, filter.bind column args = (some condition, bound) ∧
        db.ask record (bound.values ++ later) args.dialect (condition.render args.dialect)
          = some (filter.evaluate (Record.value record column)) := by
  constructor
  · intro conditions suit
    obtain ⟨parts, bound, binds, answers⟩ :=
      bindEntries_alike (fun entry member => Filter.bindsAlike db (suit entry member)) args
    refine ⟨Condition.conjunction args.dialect parts, args.extend bound, _, ?_,
      askWhere_conjunction (answers later), (accepts_iff_fold ..).symm⟩
    rw [render, Conditions.bind, binds]
    rfl
  · intro column filter suits
    obtain ⟨condition, bound, binds, answers⟩ := Filter.bindsAlike db suits args
    refine ⟨condition, _, binds, ?_⟩
    rw [Engine.ask, Condition.parse_render]
    exact answers later

/-- Someone younger than five, or of unknown age, whose name holds "an". -/
def sampleConditions : Conditions :=
  .ofList [("age", .any [.lessThan (.int 5), .equals .null]), ("name", .containsIgnoringCase "an")]

def sampleRecord : Record := .ofList [("name", .text "Hanna")]

theorem sample_suits : sampleConditions.Suit sampleRecord := by
  have entries : sampleConditions.toList = [("age", .any [.lessThan (.int 5), .equals .null]),
      ("name", .containsIgnoringCase "an")] := rfl
  have age : Record.value sampleRecord "age" = .null := rfl
  have name : Record.value sampleRecord "name" = .text "Hanna" := rfl
  have name_ascii : Text.IsAscii "Hanna".toList := by decide +kernel
  have needle_ascii : Text.IsAscii "an".toList := by decide +kernel
  rw [Suit, entries]
  intro entry member
  rcases List.mem_cons.1 member with rfl | member
  · rw [age]
    refine .any fun part member => ?_
    rcases List.mem_cons.1 member with rfl | member
    · exact .lessThan (Or.inl rfl)
    · cases List.mem_singleton.1 member
      exact .equals (Or.inl rfl)
  · cases List.mem_singleton.1 member
    rw [name]
    exact .containsIgnoringCase (Or.inr ⟨"Hanna", rfl, name_ascii⟩) needle_ascii

/-- A database for which nothing is known of values that do not mix. -/
def strictEngine : Engine := ⟨fun _ _ _ => none, fun _ => none⟩

theorem ask_render_sample :
    sampleConditions.Suit sampleRecord ∧
    (∃ text bound answer,
      sampleConditions.render ⟨.sqlite, [.int 7]⟩ = (.ok text, bound) ∧
      strictEngine.askWhere sampleRecord (bound.values ++ []) .sqlite text = some answer ∧
      (answer = some true ↔ sampleConditions.accepts sampleRecord = true)) ∧
    Filter.Suits (Record.value sampleRecord "name") (.containsIgnoringCase "an") ∧
    ∃ condition bound,
      Filter.bind "name" (.containsIgnoringCase "an") ⟨.sqlite, [.int 7]⟩
        = (some condition, bound) ∧
      strictEngine.ask sampleRecord (bound.values ++ []) .sqlite (condition.render .sqlite)
        = some (Filter.evaluate (.containsIgnoringCase "an")
            (Record.value sampleRecord "name")) := by
  have name := sample_suits ("name", .containsIgnoringCase "an")
    (List.mem_cons_of_mem _ (List.mem_singleton_self _))
  have agree := ask_render strictEngine ⟨.sqlite, [.int 7]⟩ sampleRecord []
  exact ⟨sample_suits, agree.1 _ sample_suits, name, agree.2 _ _ name⟩

end Conditions

end KeyStore

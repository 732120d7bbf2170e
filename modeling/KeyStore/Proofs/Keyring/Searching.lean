import KeyStore.Keyring.Search
import KeyStore.Proofs.Keyring.Faithful
import KeyStore.Proofs.Text.Ascii
import Mathlib.Data.List.ReduceOption

/-!
# What a search for keys reports

What is to be reported is said of the rows that a reader sees (`Reports`): a key that was found, by
itself if anything names it, and then once for each of its bindings whose parent is there, as a
subkey of that parent. A search runs a query for the keys, and for each of them up to four checks, a
query for its bindings and a look-up for each binding; what it collects is the concatenation of what
is to be reported of each key (`searchKeys_finds`). The keys come in the order in which the database
streams them to the query for keys, and the bindings of a key in the order in which it streams them
to the query for these bindings (`Streamed`).

Main statement: `Keyring.searches_report`, of the three searches for keys.
-/

namespace KeyStore

open Sql Entries

variable {σ : Type}

/-! ### What is to be reported -/

/-- The key is the one of the row. -/
structure KeyMatch.Describes (found : KeyMatch) (row : Record) : Prop where
  id : Record.value row "id" = .text found.id
  expires : found.expires = row.int? "expires"
  revoked : found.revoked = row.text? "revoked"

/-- An identity, an attribute, a bound subkey or a signature names the key. -/
def Tables.Names (tables : Tables) (key : String) : Prop :=
  (∃ row ∈ tables Relation.identities.name, Record.value row "key" = .text key) ∨
    (∃ row ∈ tables Relation.attributes.name, Record.value row "key" = .text key) ∨
    (∃ row ∈ tables Relation.subkeys.name, Record.value row "parentkey" = .text key) ∨
    ∃ row ∈ tables Relation.keySignatures.name, Record.value row "key" = .text key

instance (tables : Tables) (key : String) : Decidable (tables.Names key) :=
  inferInstanceAs (Decidable (_ ∨ _ ∨ _ ∨ _))

/-- What is reported for a binding of a key that was found: the parent with the key as its subkey,
which has the standing that the binding gives it. Without a parent it is nothing. -/
inductive Follows (tables : Tables) (found : KeyMatch) (binding : Record) :
    Option KeyMatch → Prop
  | missing
    (absent : ∀ row ∈ tables Relation.keys.name,
      Record.value row "id" ≠ Record.value binding "parentkey") :
    Follows tables found binding none
  | parent {row : Record} {parent : KeyMatch}
    (present : row ∈ tables Relation.keys.name)
    (same : Record.value row "id" = Record.value binding "parentkey")
    (describes : parent.Describes row) :
    Follows tables found binding (some { parent with
      subkey := some ⟨found.id, binding.int? "expires", binding.text? "revoked"⟩ })

/-- At this moment the database is asked for the rows that satisfy the conditions, and streams what
is wanted of them in this order. -/
def Streamed (backend : Backend σ) (moment : StoreRequest × Session σ) (relation : Relation)
    (names : List String) (conditions : Conditions) (rows : List Record) : Prop :=
  backend.StreamsTo relation conditions (fetchPlan relation (some names) .empty).columns none
    moment.1 moment.2.database
    (rows.map (·.project (fetchPlan relation (some names) .empty).columns))

/-- What is reported of the key of a row: itself if something names it, then what follows from its
bindings, in the order in which the database streams them at one of the moments. -/
def Reports (backend : Backend σ) (tables : Tables) (moments : List (StoreRequest × Session σ))
    (row : Record) (reported : List KeyMatch) : Prop :=
  ∃ (found : KeyMatch) (bindings : List Record) (links : List (Option KeyMatch)),
    found.Describes row ∧ found.subkey = none ∧
    bindings.Perm ((tables Relation.subkeys.name).filter
      fun binding => Record.value binding "id" = .text found.id) ∧
    (∃ moment ∈ moments, Streamed backend moment Relation.subkeys Keyring.bindingFields
      (Scope.conditions [("id", found.id)]) bindings) ∧
    List.Forall₂ (Follows tables found) bindings links ∧
    reported = (if tables.Names found.id then [found] else []) ++ links.reduceOption

/-- The search first asks for the keys that satisfy the conditions, and reports them one after the
other in the order in which the database streams them. -/
def Finds (backend : Backend σ) (seen : σ → Tables) (codec : Codec) (session : Session σ)
    (source : Sequence Store KeyMatch) (conditions : Conditions) (chosen : Record → Bool) : Prop :=
  ∃ (request : StoreRequest) (order : List Record) (groups : List (List KeyMatch)),
    (source.toList.asked (Session.handle backend codec) session).head? = some (request, session) ∧
    Streamed backend (request, session) Relation.keys Keyring.summaryFields conditions order ∧
    order.Perm ((seen session.database Relation.keys.name).filter chosen) ∧
    List.Forall₂ (Reports backend (seen session.database)
      (source.toList.asked (Session.handle backend codec) session)) order groups ∧
    outcome backend codec session source.toList = .ok groups.flatten

/-- Every key has an id. -/
def Tables.Identified (tables : Tables) : Prop :=
  ∀ row ∈ tables Relation.keys.name, Record.value row "id" ≠ .null

instance (tables : Tables) : Decidable tables.Identified :=
  inferInstanceAs (Decidable (∀ row ∈ tables Relation.keys.name, _))

/-! ### Rows cut to columns -/

namespace Record

variable {row : Record} {names : List String} {field : String}

theorem text?_project (wanted : field ∈ names) :
    text? (row.project names) field = text? row field :=
  congrArg Value.text? (value_project wanted)

theorem int?_project (wanted : field ∈ names) :
    int? (row.project names) field = int? row field :=
  congrArg Value.int? (value_project wanted)

theorem text?_eq_some_iff {text : String} :
    row.text? field = some text ↔ value row field = .text text := by
  rw [text?]
  cases value row field <;> simp [Value.text?]

end Record

/-- What a search reads of a row describes the same key. -/
theorem describes_project {found : KeyMatch} {row : Record} :
    found.Describes (row.project Keyring.summaryFields) ↔ found.Describes row := by
  have id : Record.value (row.project Keyring.summaryFields) "id" = Record.value row "id" :=
    Record.value_project (by decide)
  have expires : (row.project Keyring.summaryFields).int? "expires" = row.int? "expires" :=
    Record.int?_project (by decide)
  have revoked : (row.project Keyring.summaryFields).text? "revoked" = row.text? "revoked" :=
    Record.text?_project (by decide)
  exact ⟨fun found => ⟨id ▸ found.id, expires ▸ found.expires, revoked ▸ found.revoked⟩,
    fun found => ⟨id ▸ found.id, expires ▸ found.expires, revoked ▸ found.revoked⟩⟩

/-- What is reported of a key depends on what a search reads of it. -/
theorem reports_project {backend : Backend σ} {tables : Tables}
    {moments : List (StoreRequest × Session σ)} {row : Record} {reported : List KeyMatch} :
    Reports backend tables moments (row.project Keyring.summaryFields) reported
      ↔ Reports backend tables moments row reported := by
  simp only [Reports, describes_project]

/-- The key of a row that has an id. -/
theorem KeyMatch.exists_ofRow {row : Record} {id : String} (text : Record.value row "id" = .text id) :
    ∃ found : KeyMatch, KeyMatch.ofRow (row.project Keyring.summaryFields) = .ok found ∧
      found.Describes row ∧ found.id = id ∧ found.subkey = none := by
  refine ⟨⟨id, row.int? "expires", row.text? "revoked", none⟩, ?_, ⟨text, rfl, rfl⟩, rfl, rfl⟩
  rw [ofRow, Record.text?_project (by decide), Record.text?_project (by decide),
    Record.int?_project (by decide), Record.text?_eq_some_iff.2 text]

namespace Keyring

/-! ### What is asked for -/

/-- A binding is asked for by the key that it binds. -/
theorem subkey_asks (id : String) : (Scope.conditions [("id", id)]).Asks Relation.subkeys :=
  Scope.asks_scope (by simp) (by simp; decide)

/-- One of the checks finds something if something names the key. -/
theorem names_iff (tables : Tables) (key : String) :
    tables.Names key ↔ (((Collection.ofKey key).find? fun kind =>
      (tables kind.relation.name).any (Scope.conditions kind.scope).accepts).map
        (·.label)).isSome = true := by
  rw [Option.isSome_map, List.find?_isSome]
  simp only [Collection.ofKey, List.mem_cons, List.not_mem_nil, or_false, exists_eq_or_imp,
    exists_eq_left, List.any_eq_true, Scope.accepts_one]
  exact Iff.rfl

theorem accepts_single (field : String) (filter : Filter) (row : Record) :
    Conditions.accepts (.ofList [(field, filter)]) row
      = filter.accepts (Record.value row field) :=
  Bool.and_true _

/-- A short id is a part of a key id. -/
theorem accepts_shortId (digits : String) (row : Record) :
    (Filter.shortId digits).accepts (Record.value row "id") = (row.text? "id").any fun id =>
      (id.toList.drop 8).take 8 = Text.upper digits.toList := by
  rw [Record.text?]
  cases Record.value row "id" with
  | text id =>
    rw [Bool.eq_iff_iff, Filter.accepts, decide_eq_true_iff, Filter.evaluate, Filter.textTest,
      Option.some_inj]
    exact Iff.rfl
  | _ => rfl

/-- The database can look for a short id. -/
theorem shortId_plan (dialect : Dialect) (digits : String) :
    filterPlan dialect Relation.keys (.ofList [("id", .shortId digits)])
      = ⟨.ofList [("id", .shortId digits)], .empty⟩ := rfl

/-- Looking for a short id only depends on its capitals. -/
theorem searchShortId_congr (keyring : Keyring) {digits others : String}
    (same : Text.upper digits.toList = Text.upper others.toList) :
    keyring.searchShortId digits = keyring.searchShortId others := by
  have bound (args : Arguments) :
      Conditions.bind (.ofList [("id", .shortId digits)]) args
        = Conditions.bind (.ofList [("id", .shortId others)]) args := by
    show Conditions.bindEntries [("id", .shortId digits)] args
      = Conditions.bindEntries [("id", .shortId others)] args
    simp only [Conditions.bindEntries, Filter.bind, same]
  have asked : all keyring.dialect Relation.keys (.ofList [("id", .shortId digits)])
      (some summaryFields) = all keyring.dialect Relation.keys (.ofList [("id", .shortId others)])
      (some summaryFields) := by
    simp only [all, select, shortId_plan, Query.select, Query.onRows, bound]
  exact congrArg (·.flatMap keyring.expandMatch) asked

/-! ### One key -/

/-- What is known while bindings are followed: those that have been add what follows from them to
what was there at the start, and `rest` is still to come. -/
def Following (tables : Tables) (found : KeyMatch) (start : List KeyMatch) (bindings : List Record)
    (reported : List KeyMatch) (rest : List Record) : Prop :=
  ∃ (earlier later : List Record) (links : List (Option KeyMatch)),
    bindings = earlier ++ later ∧ rest = later.map (·.project bindingFields) ∧
    List.Forall₂ (Follows tables found) earlier links ∧ reported = start ++ links.reduceOption

theorem Following.step {tables : Tables} {found : KeyMatch} {start reported : List KeyMatch}
    {bindings rest : List Record} {item : Record}
    (following : Following tables found start bindings reported (item :: rest)) :
    ∃ binding, item = binding.project bindingFields ∧
      ∀ link, Follows tables found binding link →
        Following tables found start bindings (reported ++ [link].reduceOption) rest := by
  obtain ⟨earlier, later, links, split, coming, each, rfl⟩ := following
  obtain ⟨binding, others, rfl, rfl, rfl⟩ := List.map_eq_cons_iff.1 coming.symm
  refine ⟨binding, rfl, fun link follows => ⟨earlier ++ [binding], others, links ++ [link], ?_, rfl,
    List.rel_append each (.cons follows .nil), ?_⟩⟩
  · rw [split, List.append_assoc, List.singleton_append]
  · rw [List.reduceOption_append, List.append_assoc]

variable {backend : Backend σ} {seen : σ → Tables} {holds : Test} (session : Session σ)
  (schema : String)

/-- Looking up a key shows its row, cut to what a search reads. -/
theorem run_find_key (codec : Codec) (faithful : backend.Faithful seen holds)
    (fit : (seen session.database).Fit) (id : String) :
    ∃ (order : List Record) (later : Session σ),
      (find? ⟨backend.dialect, schema⟩ .keys id (some summaryFields)).run
        (Session.handle backend codec) session
        = (.ok (order.head?.map (·.project summaryFields)), later) ∧
      seen later.database = seen session.database ∧
      ∀ row, row ∈ order ↔
        row ∈ seen session.database Relation.keys.name ∧ Record.value row "id" = .text id := by
  have listed : Relation.keys ∈ Relation.catalogue := by decide
  have asks := Collection.asks_entry .keys id
  obtain ⟨order, ordered, opens⟩ := columns_open codec (faithful.streams _ listed true)
    (Conditions.filterPlan_of_asks asks _) (faithful.understood asks (fit _ listed))
    summaryFields (by decide)
  obtain ⟨later, ran, same⟩ := opens.run_first
  refine ⟨order, later, ?_, same, fun row => ?_⟩
  · rw [if_pos rfl, List.head?_map, List.head?_take, if_neg Nat.one_ne_zero] at ran
    exact ran
  · rw [ordered.mem_iff, List.mem_filter]
    exact and_congr_right fun _ => Scope.accepts_one "id" id row

section

variable (codec : Codec) (faithful : backend.Faithful seen holds)
  (fit : (seen session.database).Fit) (identified : (seen session.database).Identified)

include faithful fit identified

/-- Following a binding adds what is to be reported for it. -/
theorem run_followBinding (found : KeyMatch) (before : List KeyMatch) (binding : Record) :
    ∃ (link : Option KeyMatch) (later : Session σ),
      (followBinding ⟨backend.dialect, schema⟩ found before (binding.project bindingFields)).run
        (Session.handle backend codec) session = (.ok (before ++ [link].reduceOption), later) ∧
      seen later.database = seen session.database ∧
      Follows (seen session.database) found binding link := by
  have texts : ∀ row ∈ seen session.database Relation.keys.name,
      ∃ id, Record.value row "id" = .text id := fun row member =>
    (fit Relation.keys (by decide) row member).exists_text rfl (identified row member)
  rw [followBinding, Record.text?_project (by decide)]
  cases named : binding.text? "parentkey" with
  | none =>
    refine ⟨none, session, ?_, rfl, .missing fun row member same => ?_⟩
    · rw [List.reduceOption_cons_of_none, List.reduceOption_nil, List.append_nil]
      rfl
    · obtain ⟨id, text⟩ := texts row member
      rw [Record.text?_eq_some_iff.2 (same ▸ text)] at named
      cases named
  | some parentId =>
    have names := Record.text?_eq_some_iff.1 named
    obtain ⟨order, later, ran, kept, members⟩ :=
      run_find_key session schema codec faithful fit parentId
    cases order with
    | nil =>
      refine ⟨none, later, ?_, kept, .missing fun row member same => ?_⟩
      · rw [List.reduceOption_cons_of_none, List.reduceOption_nil, List.append_nil]
        exact Action.run_bind_of_ok ran
      · exact List.not_mem_nil ((members row).2 ⟨member, same.trans names⟩)
    | cons row rest =>
      obtain ⟨present, same⟩ := (members row).1 List.mem_cons_self
      obtain ⟨parent, made, describes, _⟩ := KeyMatch.exists_ofRow same
      refine ⟨_, later, ?_, kept, .parent present (same.trans names.symm) describes⟩
      refine (Action.run_bind_of_ok ran).trans ?_
      simp only [List.head?_cons, Option.map_some, made, Record.int?_project (show "expires" ∈
        bindingFields by decide), Record.text?_project (show "revoked" ∈ bindingFields by decide),
        List.reduceOption_singleton, Option.toList_some]
      rfl

/-- Following all bindings of a key. -/
theorem run_bindings (found : KeyMatch) (start : List KeyMatch) :
    ∃ (bindings : List Record) (links : List (Option KeyMatch)) (later : Session σ),
      ((all backend.dialect Relation.subkeys (Scope.conditions [("id", found.id)])
          (some bindingFields)).fold (followBinding ⟨backend.dialect, schema⟩ found) start).run
        (Session.handle backend codec) session = (.ok (start ++ links.reduceOption), later) ∧
      seen later.database = seen session.database ∧
      (∃ moment ∈ ((all backend.dialect Relation.subkeys (Scope.conditions [("id", found.id)])
          (some bindingFields)).fold (followBinding ⟨backend.dialect, schema⟩ found) start).asked
        (Session.handle backend codec) session,
        Streamed backend moment Relation.subkeys bindingFields
          (Scope.conditions [("id", found.id)]) bindings) ∧
      bindings.Perm ((seen session.database Relation.subkeys.name).filter
        fun binding => Record.value binding "id" = .text found.id) ∧
      List.Forall₂ (Follows (seen session.database) found) bindings links := by
  obtain ⟨bindings, request, ordered, streamed, opens⟩ := columns_stream codec
    (faithful.streams Relation.subkeys (by decide) false)
    (Conditions.filterPlan_of_asks (subkey_asks found.id) _)
    (faithful.understood (subkey_asks found.id) (fit _ (by decide)))
    bindingFields (by decide)
  rw [if_neg Bool.false_ne_true, if_neg Bool.false_ne_true] at streamed
  rw [if_neg Bool.false_ne_true] at opens
  have put := opens.asked_fold (followBinding ⟨backend.dialect, schema⟩ found) start
  have opened : Session.Opens backend codec seen session _ _ := ⟨request, opens⟩
  obtain ⟨reported, later, folded, kept, earlier, coming, links, rfl, nothing, each, rfl⟩ :=
    opened.run_fold (f := followBinding ⟨backend.dialect, schema⟩ found)
      (fun reported rest tables => tables = seen session.database ∧
        Following (seen session.database) found start bindings reported rest)
      (fun reported item rest state ⟨here, following⟩ => by
        obtain ⟨binding, rfl, goes_on⟩ := following.step
        obtain ⟨link, later, ran, kept, follows⟩ := run_followBinding state schema
          codec faithful (here ▸ fit) (here ▸ identified) found reported binding
        exact ⟨_, later, ran, kept.trans here, goes_on link (here ▸ follows)⟩)
      ⟨rfl, [], bindings, [], rfl, rfl, .nil, (List.append_nil start).symm⟩
  obtain rfl := List.map_eq_nil_iff.1 nothing.symm
  rw [List.append_nil] at ordered
  rw [List.append_nil] at streamed
  refine ⟨earlier, links, later, folded, kept, ⟨_, put, streamed⟩, ?_, each⟩
  refine ordered.trans (.of_eq (List.filter_congr fun row _ => ?_))
  rw [Bool.eq_iff_iff, decide_eq_true_iff]
  exact Scope.accepts_one "id" found.id row

/-- A key that was found is reported with what follows from its bindings. -/
theorem run_expandMatch {row : Record} (present : row ∈ seen session.database Relation.keys.name) :
    ∃ (reported : List KeyMatch) (later : Session σ),
      (expandMatch ⟨backend.dialect, schema⟩ (row.project summaryFields)).run
        (Session.handle backend codec) session = (.ok reported, later) ∧
      seen later.database = seen session.database ∧
      ∀ moments, (expandMatch ⟨backend.dialect, schema⟩ (row.project summaryFields)).asked
        (Session.handle backend codec) session ⊆ moments →
        Reports backend (seen session.database) moments row reported := by
  obtain ⟨id, text⟩ :=
    (fit Relation.keys (by decide) row present).exists_text rfl (identified row present)
  obtain ⟨found, made, describes, rfl, alone⟩ := KeyMatch.exists_ofRow text
  obtain ⟨checked, checks, same⟩ := firstDependent?_answers schema faithful codec fit
    (Collection.ofKey found.id)
    (fun kind member => (Collection.dependents_shown .keys found.id kind member).1)
    (Collection.asks_dependents .keys found.id)
  obtain ⟨bindings, links, later, folded, kept, ⟨moment, put, streamed⟩, ordered, each⟩ :=
    run_bindings checked schema codec faithful (same ▸ fit) (same ▸ identified) found
      (if (seen session.database).Names found.id then [found] else [])
  rw [same] at kept ordered each
  refine ⟨_, later, ?_, kept, fun moments all => ⟨found, bindings, links, describes, alone, ordered,
    ⟨moment, all ?_, streamed⟩, each, rfl⟩⟩
  · rw [expandMatch, made]
    refine (Action.run_bind_of_ok checks).trans ?_
    simp only [← names_iff]
    exact folded
  · rw [expandMatch, made]
    refine (Action.asked_bind_of_ok checks).symm ▸ List.mem_append_right _ ?_
    simp only [← names_iff]
    exact put

/-- A search reports what is to be reported of each key that satisfies its conditions. -/
theorem searchKeys_finds {conditions : Conditions}
    (plan : filterPlan backend.dialect Relation.keys conditions = ⟨conditions, .empty⟩)
    (suit : ∀ row ∈ seen session.database Relation.keys.name, conditions.Suit row) :
    Finds backend seen codec session (searchKeys ⟨backend.dialect, schema⟩ conditions) conditions
      conditions.accepts := by
  obtain ⟨order, request, ordered, streamed, opens⟩ := columns_stream codec
    (faithful.streams Relation.keys (by decide) false) plan
    (fun row member => faithful.understands conditions row (suit row member))
    summaryFields (by decide)
  rw [if_neg Bool.false_ne_true, if_neg Bool.false_ne_true] at streamed
  rw [if_neg Bool.false_ne_true] at opens
  obtain ⟨groups, later, ran, _, first, grouped⟩ := opens.run_flatMap
    (f := expandMatch ⟨backend.dialect, schema⟩)
    (Reports backend (seen session.database)) fun item member state here => by
      obtain ⟨row, chosen, rfl⟩ := List.mem_map.1 member
      have present := (List.mem_filter.1 (ordered.mem_iff.1 chosen)).1
      obtain ⟨reported, later, ran, kept, reports⟩ := run_expandMatch state schema
        codec faithful (here ▸ fit) (here ▸ identified) (here ▸ present)
      rw [here] at kept reports
      exact ⟨reported, later, ran, kept, fun moments all => reports_project.2 (reports moments all)⟩
  exact ⟨request, order, groups, first, streamed, ordered,
    (List.forall₂_map_left_iff.1 grouped).imp fun _ _ => reports_project.1, congrArg Prod.fst ran⟩

/-- Looking for a text in a column. -/
theorem searchText_finds {field : String} (column : Relation.keys.column? field = some ⟨field, .text⟩)
    (text : String) :
    Finds backend seen codec session
      (searchKeys ⟨backend.dialect, schema⟩ (Scope.conditions [(field, text)]))
      (Scope.conditions [(field, text)]) fun row => Record.value row field = .text text := by
  have asks : (Scope.conditions [(field, text)]).Asks Relation.keys :=
    Scope.asks_scope (by simp) (List.forall_mem_singleton.2 column)
  have chosen : (Scope.conditions [(field, text)]).accepts
      = fun row => decide (Record.value row field = .text text) := by
    funext row
    rw [Bool.eq_iff_iff, decide_eq_true_iff]
    exact Scope.accepts_one field text row
  rw [← chosen]
  exact searchKeys_finds session schema codec faithful fit identified
    (Conditions.filterPlan_of_asks asks _) fun row member =>
      asks.suit (fit Relation.keys (by decide) row member)

/-- Looking for a short id. -/
theorem searchShortId_finds (digits : String) :
    Finds backend seen codec session (searchShortId ⟨backend.dialect, schema⟩ digits)
      (.ofList [("id", .shortId digits)]) fun row => (row.text? "id").any fun id =>
        (id.toList.drop 8).take 8 = Text.upper digits.toList := by
  have chosen : Conditions.accepts (.ofList [("id", .shortId digits)])
      = fun row => (row.text? "id").any fun id =>
        (id.toList.drop 8).take 8 = Text.upper digits.toList := by
    funext row
    rw [accepts_single, accepts_shortId]
  rw [← chosen]
  refine searchKeys_finds session schema codec faithful fit identified (shortId_plan _ digits)
    fun row member => List.forall_mem_singleton.2 (.shortId ?_)
  obtain ⟨id, named⟩ :=
    (fit Relation.keys (by decide) row member).exists_text rfl (identified row member)
  exact Or.inr ⟨id, named, trivial⟩

end

/-- A text differs from another in letter case only. -/
def SameLetters (text other : String) : Prop :=
  Text.IsAscii text.toList ∧ Text.IsAscii other.toList ∧
    text.toList.map Char.toLower = other.toList.map Char.toLower

/-- A search for an id, a fingerprint or a short id reports, of each key that has it in capitals,
what is to be reported; and texts that differ in letter case only are searched for alike. -/
theorem searches_report (faithful : backend.Faithful seen holds) (codec : Codec)
    (fit : (seen session.database).Fit)
    (identified : (seen session.database).Identified)
    (text : String) :
    Finds backend seen codec session (searchLongId ⟨backend.dialect, schema⟩ text)
        (Scope.conditions [("id", capitals text)])
        (fun row => Record.value row "id" = .text (capitals text)) ∧
      Finds backend seen codec session (searchFingerprint ⟨backend.dialect, schema⟩ text)
        (Scope.conditions [("fingerprint", capitals text)])
        (fun row => Record.value row "fingerprint" = .text (capitals text)) ∧
      Finds backend seen codec session (searchShortId ⟨backend.dialect, schema⟩ text)
        (.ofList [("id", .shortId text)])
        (fun row => (row.text? "id").any fun id =>
          (id.toList.drop 8).take 8 = Text.upper text.toList) ∧
      ∀ other, SameLetters text other → ∀ keyring : Keyring,
        keyring.searchLongId text = keyring.searchLongId other ∧
        keyring.searchFingerprint text = keyring.searchFingerprint other ∧
        keyring.searchShortId text = keyring.searchShortId other := by
  refine ⟨searchText_finds session schema codec faithful fit identified rfl _,
    searchText_finds session schema codec faithful fit identified rfl _,
    searchShortId_finds session schema codec faithful fit identified text,
    fun other ⟨ascii, ascii_other, same⟩ keyring => ?_⟩
  have capital := Text.upper_eq_of_lower_eq ascii ascii_other same
  exact ⟨by rw [searchLongId, capitals, capital]; rfl,
    by rw [searchFingerprint, capitals, capital]; rfl, searchShortId_congr keyring capital⟩

/-- A key that is revoked, and its subkey, which expires later than the binding says. -/
def familyTables : Tables :=
  Function.update (Function.update (fun _ => [])
    "keys" [.ofList [("id", .text "A"), ("revoked", .text "r")],
      .ofList [("id", .text "B"), ("expires", .int 2)]])
    "keys_signatures" [.ofList [("key", .text "B"), ("id", .text "s"), ("issuer", .text "A"),
      ("sigtype", .int SignatureType.subkeyBinding.code), ("expires", .int 1)]]

/-- The subkey is found in small letters and reported by itself and with its key. -/
theorem searches_report_family :
    Finds (Conditions.strictEngine.served .sqlite fun _ _ => true) Tables.shown
        (fun _ _ => .ok .empty) (.start familyTables) (searchLongId ⟨.sqlite, "main"⟩ "b")
        (Scope.conditions [("id", "B")]) (fun row => Record.value row "id" = .text "B") ∧
      outcome (Conditions.strictEngine.served .sqlite fun _ _ => true) (fun _ _ => .ok .empty)
        (.start familyTables) (searchLongId ⟨.sqlite, "main"⟩ "b").toList
        = .ok [⟨"B", some 2, none, none⟩, ⟨"A", none, some "r", some ⟨"B", some 1, none⟩⟩] := by
  have family : familyTables.shown.Fit ∧ familyTables.shown.Identified := by decide +kernel
  have finds := searches_report (.start familyTables) "main"
    (Conditions.strictEngine.served_faithful .sqlite fun _ _ => true) (fun _ _ => .ok .empty)
    family.1 family.2 "b"
  exact ⟨finds.1, rfl⟩

end Keyring

end KeyStore

import KeyStore.Proofs.Entries.Faults
import KeyStore.Proofs.Keyring.Adding

/-!
# Signatures that keep a key from being removed

A signature on a key keeps the key from being removed whatever its type is. The listings of
signatures on keys and on subkeys show the types of their collection, and no addition looks at the
type. So the listings of a key on which signatures hang may have nothing to show
(`unlisted_signature_blocks`). If the records that were added have the types of the columns, they
show something exactly if one of the signatures has a type of either collection, and in particular
if only such signatures were added.

Main statement: `Keyring.blocking_signatures_listed`.
-/

namespace KeyStore

open Sql Entries

variable {σ : Type}

namespace Keyring

variable {backend : Backend σ} {seen : σ → Tables} {holds : Test} {session : Session σ}
  (schema : String) (codec : Codec)

/-! ### Types of signature -/

/-- The signature has a type of one of the collections of signatures on keys and on subkeys. -/
def Classified (row : Record) : Prop :=
  SignedAs [0x1F, 0x20, 0x19] row ∨ SignedAs [0x18, 0x28] row

instance (row : Record) : Decidable (Classified row) := inferInstanceAs (Decidable (_ ∨ _))

/-- Additions of signatures on keys and on subkeys say such a type. -/
def SaysType (entry : Collection × Record) : Prop :=
  entry.1.target = Relation.keySignatures →
    ∃ code ∈ [0x1F, 0x20, 0x19, 0x18, 0x28], Record.value entry.2 "sigtype" = .int code

instance (entry : Collection × Record) : Decidable (SaysType entry) :=
  inferInstanceAs (Decidable (_ → _))

/-- All signatures have such a type. -/
def AllClassified (tables : Tables) : Prop :=
  ∀ row ∈ tables Relation.keySignatures.name, Classified row

theorem classified_of_value {row : Record} {code : Int64}
    (known : code ∈ [0x1F, 0x20, 0x19, 0x18, 0x28])
    (typed : Record.value row "sigtype" = .int code) : Classified row := by
  rw [Classified, SignedAs, SignedAs, typed]
  simp only [List.mem_cons, List.not_mem_nil, or_false] at known
  obtain rfl | rfl | rfl | rfl | rfl := known <;> decide

/-- What the record says about the type of signature is what is added. -/
theorem get?_sigtype (collection : Collection) {record : Record} {code : Int64}
    (typed : Record.value record "sigtype" = .int code) :
    (collection.stamp.record.overlay record).get? "sigtype" = some (.int code) :=
  (Collection.get?_stamped (by cases collection <;> simp [Collection.owners]) record).trans
    (Record.get?_of_value typed nofun)

theorem classified_of_adds {entry : Collection × Record} {before after : Tables}
    (adds : Adds entry.1 entry.2 before after) (typed : SaysType entry)
    (all : AllClassified before) : AllClassified after := by
  rcases adds with rfl | ⟨added, _, holds, members⟩
  · exact all
  · intro row present
    rcases (members .keySignatures (by decide) rfl row).1 present with old | ⟨same, rfl⟩
    · exact all row old
    · have apart : ∀ relation ∈ Relation.catalogue,
          Relation.keySignatures.name = relation.name → relation = Relation.keySignatures := by
        decide
      have signed := apart _ entry.1.target_written.1 same
      obtain ⟨code, known, value⟩ := typed signed
      refine classified_of_value known (holds ⟨"sigtype", .int⟩ ?_ _ (get?_sigtype _ value)
        (Or.inr rfl))
      rw [signed]
      decide

/-! ### Blocked keys -/

/-- A listing of the whole collection shows something. -/
def Shows (backend : Backend σ) (codec : Codec) (session : Session σ) (schema : String)
    (collection : Collection) : Prop :=
  ∃ ids, outcome backend codec session
    (list ⟨backend.dialect, schema⟩ collection .empty).toList = .ok ids ∧ ids ≠ []

/-- The listing of signatures on a key shows something, or one of those on it as a subkey does. -/
def ShowsSignature (backend : Backend σ) (codec : Codec) (session : Session σ) (schema : String)
    (key : String) : Prop :=
  Shows backend codec session schema (.keySignatures key) ∨
    ∃ issuer, Shows backend codec session schema (.subkeySignatures issuer key)

/-- A listing of a collection that is written shows something exactly if the collection has a
row. -/
theorem exists_listing (faithful : backend.Faithful seen holds)
    (sound : (seen session.database).Sound) (collection : Collection)
    (written : collection.relation.isWritable = true) :
    ∃ ids, outcome backend codec session
        (list ⟨backend.dialect, schema⟩ collection .empty).toList = .ok ids ∧
      (ids ≠ [] ↔
        ∃ row ∈ seen session.database collection.relation.name, collection.Covers row) := by
  have listed := collection.readsFrom_relation.listed
  have complete := sound.complete _ listed written
  have named : ∀ row ∈ seen session.database collection.relation.name,
      Record.value row "id" ≠ .null := fun row member =>
    complete row member _ (List.mem_of_find?_eq_some collection.id_column) (by decide)
  obtain ⟨ids, result, members⟩ := listed_ids schema faithful codec sound.fit collection named
  refine ⟨ids, result, fun some_id => ?_, fun ⟨row, present, covers⟩ => ?_⟩
  · obtain ⟨id, member⟩ := List.exists_mem_of_ne_nil _ some_id
    obtain ⟨row, present, covers, _⟩ := (members id).1 member
    exact ⟨row, present, covers⟩
  · obtain ⟨id, text⟩ :=
      (sound.fit _ listed row present).exists_text collection.id_column (named row present)
    exact List.ne_nil_of_mem ((members id).2 ⟨row, present, covers, text⟩)

theorem shows_iff (faithful : backend.Faithful seen holds) (sound : (seen session.database).Sound)
    (collection : Collection) (written : collection.relation.isWritable = true) :
    Shows backend codec session schema collection ↔
      ∃ row ∈ seen session.database collection.relation.name, collection.Covers row := by
  obtain ⟨ids, result, nonempty_iff⟩ :=
    exists_listing schema codec faithful sound collection written
  rw [Shows, result, ← nonempty_iff]
  exact ⟨fun ⟨_, same, nonempty⟩ => Except.ok.inj same ▸ nonempty,
    fun nonempty => ⟨ids, rfl, nonempty⟩⟩

/-- One of the listings of a key shows something exactly if a signature has a type of either. -/
theorem shows_signature_iff (faithful : backend.Faithful seen holds)
    (sound : (seen session.database).Sound) (key : String) :
    ShowsSignature backend codec session schema key ↔
      ∃ row ∈ seen session.database Relation.keySignatures.name,
        Record.value row "key" = .text key ∧ Classified row := by
  simp only [ShowsSignature, shows_iff schema codec faithful sound (.keySignatures key) rfl,
    shows_iff schema codec faithful sound (.subkeySignatures _ key) rfl]
  constructor
  · rintro (⟨row, present, owned, typed⟩ | ⟨issuer, row, present, ⟨owned, _⟩, typed⟩)
    · exact ⟨row, present, owned, Or.inl typed⟩
    · exact ⟨row, present, owned, Or.inr typed⟩
  · rintro ⟨row, present, owned, typed | typed⟩
    · exact Or.inl ⟨row, present, owned, typed⟩
    · have listed : Relation.keySignatures ∈ Relation.catalogue := by decide
      have column : Relation.keySignatures.column? "issuer" = some ⟨"issuer", .text⟩ := rfl
      obtain ⟨issuer, issued⟩ := (sound.complete _ listed rfl row present).exists_text
        (sound.fit _ listed row present) column (by decide)
      exact Or.inr ⟨issuer, row, present, ⟨owned, issued⟩, typed⟩

/-- Neither the database nor what opens its transaction says that others hang on an entry. -/
theorem remove_silent (stores : backend.Stores seen holds) {relation : Relation}
    {conditions : Conditions} (writable : relation.isWritable = true)
    (asks : conditions.Asks relation) (session : Session σ) (message : String) :
    outcome backend codec session (Entries.remove backend.dialect relation conditions)
      ≠ .error (.dependencyExists message) := by
  obtain ⟨parts, bound, _, body⟩ := remove_eq backend.dialect writable asks
  rw [outcome, body]
  rcases Session.run_written stores.toFaithful codec ⟨.delete relation.name parts, bound⟩ session
    with ⟨error, later, ran, failed, _⟩ | ⟨begun, _, ran⟩
  · rw [ran]
    rintro ⟨⟩
    exact stores.silent _ _ _ (Session.transact_error .begin failed nofun).2
  · rw [ran]
    exact stores.silent _ _ _

theorem stillHas_inj {entry label other : String}
    (same : StoreError.stillHas entry label = .stillHas entry other) : label = other :=
  (String.append_right_inj _).1 (StoreError.dependencyExists.inj same)

/-- If a key is said to have signatures still, it has. -/
theorem exists_signature_of_blocked (stores : backend.Stores seen holds)
    (sound : (seen session.database).Sound) {key : String}
    (blocked : outcome backend codec session (remove ⟨backend.dialect, schema⟩ .keys key)
      = .error (.stillHas (Collection.keys.describe key) "signatures")) :
    ∃ row ∈ seen session.database Relation.keySignatures.name,
      Record.value row "key" = .text key := by
  obtain ⟨asked, ran, same⟩ := firstDependent?_answers schema stores.toFaithful codec sound.fit
    (Collection.ofKey key)
    (fun kind member => (Collection.dependents_shown .keys key kind member).1)
    (Collection.asks_dependents .keys key)
  have goes_on : (remove ⟨backend.dialect, schema⟩ .keys key).run
      (Session.handle backend codec) session = _ := Action.run_bind_of_ok ran
  rw [outcome, goes_on] at blocked
  cases found : (Collection.ofKey key).find? fun kind =>
      (seen session.database kind.relation.name).any (Scope.conditions kind.scope).accepts with
  | some kind =>
    rw [found] at blocked
    have label : kind.label = "signatures" := stillHas_inj (Except.error.inj blocked)
    have signatures : ∀ kind ∈ Collection.ofKey key, kind.label = "signatures" →
        kind = ⟨"signatures", Relation.keySignatures, [("key", key)]⟩ := by
      simp [Collection.ofKey]
    obtain rfl := signatures kind (List.mem_of_find?_eq_some found) label
    have some_row := List.find?_some found
    obtain ⟨row, present, accepted⟩ := List.any_eq_true.1 some_row
    exact ⟨row, present, (Scope.accepts_one "key" key row).1 accepted⟩
  | none =>
    rw [found] at blocked
    have silent := remove_silent codec stores (by decide) (Collection.asks_entry .keys key) asked
    have removed : (((Entries.remove backend.dialect Relation.keys (Collection.keys.entry key)).bind
        fun _ => .done ()).run (Session.handle backend codec) asked).1 = _ := blocked
    rw [Action.run_bind] at removed
    rcases ran : (Entries.remove backend.dialect Relation.keys (Collection.keys.entry key)).run
      (Session.handle backend codec) asked with ⟨error | count, later⟩
    · rw [ran] at removed
      cases removed
      exact absurd (congrArg Prod.fst ran) (silent _)
    · rw [ran] at removed
      cases removed

/-- After any additions of records that have the types of the columns, the listings of a key that
still has signatures show something exactly if a signature on it has a type of either collection;
and they do if only such signatures were added. -/
theorem blocking_signatures_listed (stores : backend.Stores seen holds) {database : σ}
    (empty : ∀ relation ∈ Relation.catalogue, seen database relation.name = [])
    (entries : List (Collection × Record)) (fitting : ∀ entry ∈ entries, entry.1.Typed entry.2)
    (reached : session = addEach ⟨backend.dialect, schema⟩ (Session.handle backend codec)
      (.start database) entries)
    (key : String)
    (blocked : outcome backend codec session (remove ⟨backend.dialect, schema⟩ .keys key)
      = .error (.stillHas (Collection.keys.describe key) "signatures")) :
    (ShowsSignature backend codec session schema key ↔
      ∃ row ∈ seen session.database Relation.keySignatures.name,
        Record.value row "key" = .text key ∧ Classified row) ∧
    ((∀ entry ∈ entries, SaysType entry) → ShowsSignature backend codec session schema key) := by
  have nothing := Tables.sound_of_empty empty
  have sound : (seen session.database).Sound := reached ▸
    (addEach_keeps schema codec stores (fun _ => True) fitting (fun _ _ _ _ _ _ => trivial)
      (.start database) nothing trivial).1
  have shows_iff := shows_signature_iff schema codec stores.toFaithful sound key
  refine ⟨shows_iff, fun typed => shows_iff.2 ?_⟩
  have all_start : AllClassified (seen (Session.start database).database) := fun row present => by
    have none_present : seen database Relation.keySignatures.name = [] := empty _ (by decide)
    exact absurd (none_present ▸ present) List.not_mem_nil
  have all : AllClassified (seen session.database) := reached ▸
    (addEach_keeps schema codec stores AllClassified fitting
      (fun entry member _ _ adds => classified_of_adds adds (typed entry member))
      (.start database) nothing all_start).2
  obtain ⟨row, present, owned⟩ := exists_signature_of_blocked schema codec stores sound blocked
  exact ⟨row, present, owned, all row present⟩

/-! A key with a signature of some type, in a database for which values of kinds that do not mix are
never equal. -/

/-- Nothing is known of values that do not mix but that a comparison of them fails. -/
def apartEngine : Sql.Engine := ⟨fun _ _ _ => some false, fun _ => none⟩

theorem apartEngine_compare (comparison : Comparison) (left right : Value) :
    apartEngine.compare comparison left right
      = Filter.comparison left right comparison.accepts := by
  rw [Sql.Engine.compare, Filter.comparison]
  split
  · rfl
  · cases left.compare? right <;> rfl

theorem apartEngine_bindsAlike (row : Record) (column : String) {type : ColumnType}
    {filter : Filter} (compares : filter.Compares type) :
    Filter.BindsAlike apartEngine row column filter := by
  induction compares with
  | @equals constant kind _ =>
    have known : constant.isNull = false := by cases constant <;> first | rfl | cases kind
    have binds (args : Arguments) : Filter.bind column (.equals constant) args
        = Filter.bindOne args constant (.compare column .equal) := by
      rw [Filter.bind, known]
      rfl
    refine Filter.bindsAlike_of_bindOne binds fun dialect operand values has => ?_
    rw [Condition.formula, Formula.answer, has, Filter.evaluate, known]
    exact congrArg some (apartEngine_compare .equal _ _)
  | any _ ih => exact Filter.group_bindsAlike (fun _ => rfl) rfl (fun _ _ => rfl) ih

/-- What the operations of a keyring ask is understood of rows with any values. -/
theorem apartEngine_understands {relation : Relation} {conditions : Conditions}
    (asks : conditions.Asks relation) (dialect : Dialect) (row : Record) :
    conditions.UnderstoodBy (apartEngine.holds dialect) dialect row := by
  refine apartEngine.understoodBy_of_alike dialect fun ⟨field, filter⟩ listed => ?_
  obtain ⟨_, _, compares⟩ := asks field filter ((conditions.mem_toList_iff ..).1 listed)
  exact apartEngine_bindsAlike row field compares

/-- A listing of a collection that no row belongs to is empty. -/
theorem list_nothing (schema : String) (codec : Codec) {session : Session Tables}
    {accepts : String → Record → Bool} {dialect : Dialect} (collection : Collection)
    (uncovered : ∀ row ∈ session.database.shown collection.relation.name,
      ¬ collection.Covers row) :
    outcome (apartEngine.served dialect accepts) codec session
      (list ⟨dialect, schema⟩ collection .empty).toList = .ok [] := by
  have reads := collection.readsFrom_relation
  have asks := Collection.asks_restrict_empty reads
  have faithful := apartEngine.served_faithful dialect accepts
  obtain ⟨order, ordered, opens⟩ := columns_open codec (faithful.streams _ reads.listed false)
    (Conditions.filterPlan_of_asks asks _)
    (fun row _ => apartEngine_understands asks dialect row) ["id"]
    (List.forall_mem_singleton.2 (by rw [Relation.hasColumn, collection.id_column]; rfl))
  have nothing : (session.database.shown collection.relation.name).filter
      (collection.restrict .empty).accepts = [] :=
    List.filter_eq_nil_iff.2 fun row present accepted =>
      uncovered row present ((collection.accepts_restrict_iff .empty row).1 accepted).2
  obtain rfl := (nothing ▸ ordered).eq_nil
  exact ids_of_opens schema opens rfl

/-- A database without rows. -/
def blankTables : Tables := fun _ => []

/-- A key, and a signature of a type on it by an issuer. -/
def signedEntries (type : Int64) (issuer : Value) : List (Collection × Record) :=
  [(.keys, .ofList [("id", .text "A"), ("fingerprint", .text "F"), ("binary", .bytes [1]),
      ("date", .int 0)]),
    (.keySignatures "A", .ofList [("id", .text "s"), ("issuer", issuer), ("date", .int 0),
      ("binary", .bytes [2]), ("sigtype", .int type)])]

/-- A session after these additions to a database that takes the rows that pass a test. -/
def signedSession (accepts : String → Record → Bool) (type : Int64) (issuer : Value) :
    Session Tables :=
  addEach ⟨.sqlite, "main"⟩
    (Session.handle (apartEngine.served .sqlite accepts) fun _ _ => .ok .empty)
    (.start blankTables) (signedEntries type issuer)

/-- A direct-key signature is listed. -/
theorem blocking_signatures_listed_direct :
    ShowsSignature (apartEngine.served .sqlite Engine.admits) (fun _ _ => .ok .empty)
      (signedSession Engine.admits 0x1F (.text "B")) "main" "A" :=
  (blocking_signatures_listed "main" (fun _ _ => .ok .empty) (apartEngine.served_stores .sqlite)
    (show ∀ relation ∈ Relation.catalogue, blankTables.shown relation.name = [] by decide +kernel)
    (signedEntries 0x1F (.text "B")) (by decide +kernel) rfl "A" rfl).2 (by decide +kernel)

/-- The key is said to have signatures still, and neither listing shows one. -/
def BlockedUnseen (backend : Backend Tables) (session : Session Tables) : Prop :=
  outcome backend (fun _ _ => .ok .empty) session (remove ⟨backend.dialect, "main"⟩ .keys "A")
      = .error (.stillHas "key A" "signatures") ∧
    outcome backend (fun _ _ => .ok .empty) session
      (list ⟨backend.dialect, "main"⟩ (.keySignatures "A") .empty).toList = .ok [] ∧
    ∀ issuer, outcome backend (fun _ _ => .ok .empty) session
      (list ⟨backend.dialect, "main"⟩ (.subkeySignatures issuer "A") .empty).toList = .ok []

/-- A certification is a signature on a user id. Added to a key, it keeps the key from being
removed, and neither listing shows it. The binding of a subkey whose issuer is not a text does the
same in a database that stores such an issuer. -/
theorem unlisted_signature_blocks :
    BlockedUnseen (apartEngine.served .sqlite Engine.admits)
        (signedSession Engine.admits 0x10 (.text "B")) ∧
      BlockedUnseen (apartEngine.served .sqlite fun _ _ => true)
        (signedSession (fun _ _ => true) 0x18 (.bytes [66])) := by
  have certified : ∀ row ∈ (signedSession Engine.admits 0x10 (.text "B")).database.shown
      Relation.keySignatures.name, ¬ Classified row := by decide +kernel
  have bound : ∀ row ∈ (signedSession (fun _ _ => true) 0x18 (.bytes [66])).database.shown
      Relation.keySignatures.name, ¬ SignedAs [0x1F, 0x20, 0x19] row ∧
        Record.value row "issuer" = .bytes [66] := by decide +kernel
  refine ⟨⟨rfl, ?_, fun issuer => ?_⟩, rfl, ?_, fun issuer => ?_⟩
  · exact list_nothing "main" _ _ fun row present covers =>
      certified row present (Or.inl covers.2)
  · exact list_nothing "main" _ _ fun row present covers =>
      certified row present (Or.inr covers.2)
  · exact list_nothing "main" _ _ fun row present covers => (bound row present).1 covers.2
  · refine list_nothing "main" _ _ fun row present covers => ?_
    rw [Collection.Covers, (bound row present).2] at covers
    exact Value.noConfusion covers.1.2

end Keyring

end KeyStore

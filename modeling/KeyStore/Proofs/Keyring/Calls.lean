import KeyStore.Keyring.Search
import KeyStore.Keyring.Signatures
import KeyStore.Proofs.Entries.Requests
import KeyStore.Schema.Bootstrap

/-!
# The calls of a keyring

Every operation of a keyring as data, and how it runs against a handler. A call only reads, or
creates what the keyring needs, or writes and opens a transaction for that, or ends the
transaction.
-/

namespace KeyStore

/-- A call of an operation of a keyring. Of a sequence as many items are pulled as are wanted. -/
inductive Call where
  | list (collection : Collection) (conditions : Conditions) (wanted : Option Nat)
  | entries (collection : Collection) (conditions : Conditions) (fields : Option (List String))
    (wanted : Option Nat)
  | selfSignedEntries (collection : Collection) (conditions : Conditions)
    (fields : Option (List String)) (wanted : Option Nat)
  | parents (subkey : String) (wanted : Option Nat)
  | signaturesBy (kind : SignedKind) (issuer : String) (conditions : Conditions)
    (wanted : Option Nat)
  | searchIdentities (search : String) (wanted : Option Nat)
  | searchShortId (shortId : String) (wanted : Option Nat)
  | searchLongId (id : String) (wanted : Option Nat)
  | searchFingerprint (fingerprint : String) (wanted : Option Nat)
  | contains (collection : Collection) (id : String)
  | find (collection : Collection) (id : String) (fields : Option (List String))
  | findSelfSigned (collection : Collection) (id : String) (fields : Option (List String))
  | relationNames
  | bootstrap (objects : List Schema.Object)
  | initialise
  | add (collection : Collection) (record : Record)
  | update (collection : Collection) (id : String) (record : Record)
  | remove (collection : Collection) (id : String)
  | save
  | revert

namespace Call

variable {σ α : Type}

/-- Runs an action, and says whether it failed. -/
def act (handle : Handler Store σ) (action : Action Store α) (state : σ) :
    Except StoreError Unit × σ :=
  let (result, state) := action.run handle state
  (result.map fun _ => (), state)

/-- Pulls items of a sequence, and says whether it failed. -/
def draw (handle : Handler Store σ) (items : Sequence Store α) (wanted : Option Nat) (state : σ) :
    Except StoreError Unit × σ :=
  let (pulled, state) := items.pull handle wanted state
  match pulled.ending with
  | .failed error => (.error error, state)
  | _ => (.ok (), state)

/-- Runs a call, and says whether it failed. -/
def run (keyring : Keyring) (handle : Handler Store σ) : Call → σ → Except StoreError Unit × σ
  | list collection conditions wanted => draw handle (keyring.list collection conditions) wanted
  | entries collection conditions fields wanted =>
    draw handle (keyring.entries collection conditions fields) wanted
  | selfSignedEntries collection conditions fields wanted =>
    draw handle (keyring.selfSignedEntries collection conditions fields) wanted
  | parents subkey wanted => draw handle (keyring.parents subkey) wanted
  | signaturesBy kind issuer conditions wanted =>
    draw handle (keyring.signaturesBy kind issuer conditions) wanted
  | searchIdentities search wanted => draw handle (keyring.searchIdentities search) wanted
  | searchShortId shortId wanted => draw handle (keyring.searchShortId shortId) wanted
  | searchLongId id wanted => draw handle (keyring.searchLongId id) wanted
  | searchFingerprint fingerprint wanted =>
    draw handle (keyring.searchFingerprint fingerprint) wanted
  | contains collection id => act handle (keyring.contains collection id)
  | find collection id fields => act handle (keyring.find? collection id fields)
  | findSelfSigned collection id fields => act handle (keyring.findSelfSigned? collection id fields)
  | relationNames => act handle keyring.relationNames
  | bootstrap objects => act handle (keyring.bootstrap objects)
  | initialise => act handle keyring.initialise
  | add collection record => act handle (keyring.add collection record)
  | update collection id record => act handle (keyring.update collection id record)
  | remove collection id => act handle (keyring.remove collection id)
  | save => act handle Keyring.save
  | revert => act handle Keyring.revert

end Call

namespace Keyring

/-! ### Calls that only read -/

theorem ids_reads (keyring : Keyring) (relation : Relation) (field : String)
    (conditions : Conditions) :
    (keyring.ids relation field conditions).Only StoreRequest.Reads := by
  refine (Entries.values_reads _ _ _ _).map fun value => ?_
  cases value <;> trivial

theorem firstDependent?_reads (keyring : Keyring) (dependents : List Collection.Dependents) :
    (keyring.firstDependent? dependents).Only StoreRequest.Reads := by
  induction dependents with
  | nil => trivial
  | cons first rest ih =>
    refine (Entries.exist_reads _ _ _).bind fun found => ?_
    cases found with
    | true => trivial
    | false => exact ih

theorem searchIdentities_reads (keyring : Keyring) (search : String) :
    (keyring.searchIdentities search).Only StoreRequest.Reads :=
  (Store.rows_reads _ _).map fun _ => Action.only_ofExcept _

theorem followBinding_reads (keyring : Keyring) (found : KeyMatch) (others : List KeyMatch)
    (binding : Record) : (keyring.followBinding found others binding).Only StoreRequest.Reads := by
  unfold followBinding
  split
  · trivial
  · refine (Entries.first?_reads _ _ _ _).bind fun row => ?_
    cases row with
    | none => trivial
    | some row => exact (Action.only_ofExcept _).bind fun _ => trivial

theorem expandMatch_reads (keyring : Keyring) (row : Record) :
    (keyring.expandMatch row).Only StoreRequest.Reads :=
  (Action.only_ofExcept _).bind fun found => (keyring.firstDependent?_reads _).bind fun _ =>
    (Entries.select_reads _ _ _ _ _).fold (keyring.followBinding_reads found) _

theorem searchKeys_reads (keyring : Keyring) (conditions : Conditions) :
    (keyring.searchKeys conditions).Only StoreRequest.Reads :=
  (Entries.select_reads _ _ _ _ _).flatMap keyring.expandMatch_reads

theorem signaturesBy_reads (keyring : Keyring) (kind : SignedKind) (issuer : String)
    (conditions : Conditions) :
    (keyring.signaturesBy kind issuer conditions).Only StoreRequest.Reads :=
  (Entries.select_reads _ _ _ _ _).map fun _ => Action.only_ofExcept _

theorem relationNames_reads (keyring : Keyring) :
    keyring.relationNames.Only StoreRequest.Reads := by
  refine Action.Only.bind ?_ fun _ => trivial
  exact ⟨trivial, fun _ => Action.only_ofExcept _⟩

/-! ### Calls that create -/

theorem createMissing_spares (keyring : Keyring) (present : List String)
    (objects : List Schema.Object) (report : Schema.Report) :
    (keyring.createMissing present objects report).Only StoreRequest.Spares := by
  induction objects generalizing report with
  | nil => trivial
  | cons object rest ih =>
    rw [createMissing]
    split
    · exact ih _
    · have created : (Store.execute ⟨.create keyring.schema object, []⟩).Only
          StoreRequest.Spares := ⟨⟨rfl, nofun⟩, fun _ => Action.only_ofExcept _⟩
      refine created.attempt.bind fun outcome => ?_
      cases outcome with
      | ok affected => exact ih _
      | error error => exact ih _

theorem bootstrap_spares (keyring : Keyring) (objects : List Schema.Object) :
    (keyring.bootstrap objects).Only StoreRequest.Spares :=
  (keyring.relationNames_reads.mono fun _ => StoreRequest.Reads.spares).bind fun present =>
    keyring.createMissing_spares present objects _

/-- Whatever script is read, what is created is what it says. -/
theorem bootstrap_parsed_spares (keyring : Keyring)
    (parsed : Except StoreError (List Schema.Object)) :
    Action.Only StoreRequest.Spares ((Action.ofExcept parsed).bind keyring.bootstrap) :=
  (Action.only_ofExcept parsed).bind keyring.bootstrap_spares

/-! ### Calls that write -/

theorem insert_opens (keyring : Keyring) (collection : Collection) (record : Record) :
    (keyring.insert collection record).Opens :=
  Entries.add_opens _ _ _

theorem add_opens (keyring : Keyring) (collection : Collection) (record : Record) :
    (keyring.add collection record).Opens := by
  unfold add
  split
  · refine Action.Opens.bind_of_reads (Entries.exist_reads _ _ _) fun known => ?_
    cases known with
    | true => exact keyring.insert_opens _ record
    | false => trivial
  · exact keyring.insert_opens collection record

theorem update_opens (keyring : Keyring) (collection : Collection) (id : String)
    (record : Record) : (keyring.update collection id record).Opens :=
  (Entries.update_opens _ _ _ _).bind_done

theorem remove_opens (keyring : Keyring) (collection : Collection) (id : String) :
    (keyring.remove collection id).Opens := by
  refine Action.Opens.bind_of_reads (keyring.firstDependent?_reads _) fun found => ?_
  cases found with
  | some label => trivial
  | none => exact (Entries.remove_opens _ _ _).bind_done

end Keyring

end KeyStore

import Mathlib.Data.List.Induction
import KeyStore.Proofs.Keyring.Calls
import KeyStore.Proofs.Session.Transactional

/-!
# Taking changes back

Calls are made one at a time over a database with transactions, which may refuse any statement. When
a COMMIT or ROLLBACK is refused the session counts as idle and the transaction stays open in the
database: from then on, until a BEGIN succeeds, saving and reverting succeed and do nothing.

`revert_restores`: apart from that, reverting leaves the content as it was right after the last time
it was saved, and there is such a transaction only if one of the two statements was refused.
-/

namespace KeyStore

open Transaction

instance {γ : Type} (session : Session (Storage γ)) : Decidable session.Stranded :=
  inferInstanceAs (Decidable (_ ∧ _))

/-- A keyring in use. -/
structure Use (γ : Type) where
  session : Session (Storage γ)
  /-- The content right after the last `save` that succeeded, or at the start. -/
  kept : γ
  /-- Whether that `save` did nothing while a transaction was open in the database. -/
  hollow : Bool

namespace Use

variable {γ : Type}

/-- Nothing has been done yet. -/
def start (content : γ) : Use γ := ⟨.start (.start content), content, false⟩

/-- Makes a call. -/
def make (keyring : Keyring) (engine : Engine γ) (codec : Codec) (use : Use γ) (call : Call) :
    Use γ :=
  match call, call.run keyring (Session.handle engine.backend codec) use.session with
  | .save, (.ok (), session) =>
    { session, kept := session.database.content, hollow := decide use.session.Stranded }
  | _, (_, session) => { use with session }

/-- Makes calls one after the other. -/
def after (keyring : Keyring) (engine : Engine γ) (codec : Codec) (content : γ)
    (calls : List Call) : Use γ :=
  calls.foldl (make keyring engine codec) (start content)

end Use

namespace Call

variable {γ : Type} {session : Session (Storage γ)} {kept : γ}

theorem act_settled {α : Type} (engine : Engine γ) (codec : Codec) {action : Action Store α}
    (only : action.Only StoreRequest.Spares) (settled : session.Settled kept) :
    (act (Session.handle engine.backend codec) action session).2.Settled kept :=
  only.run_keeps (Session.Settled kept)
    (fun _ spares _ => Session.Settled.spare engine codec spares) settled

theorem draw_settled {α : Type} (engine : Engine γ) (codec : Codec) {items : Sequence Store α}
    (only : items.Only StoreRequest.Reads) (wanted : Option Nat) (settled : session.Settled kept) :
    (draw (Session.handle engine.backend codec) items wanted session).2.Settled kept := by
  have pulled := only.pull_keeps (Session.Settled kept)
    (fun _ reads _ => Session.Settled.spare engine codec (StoreRequest.Reads.spares reads)) wanted
    settled
  unfold draw
  dsimp only
  split <;> exact pulled

theorem act_reads_settled {α : Type} (engine : Engine γ) (codec : Codec) {action : Action Store α}
    (only : action.Only StoreRequest.Reads) (settled : session.Settled kept) :
    (act (Session.handle engine.backend codec) action session).2.Settled kept :=
  act_settled engine codec (only.mono fun _ => StoreRequest.Reads.spares) settled

theorem act_opens_settled {α : Type} (engine : Engine γ) (codec : Codec) {action : Action Store α}
    (opens : action.Opens) (settled : session.Settled kept) :
    (act (Session.handle engine.backend codec) action session).2.Settled kept :=
  settled.run_opens engine codec opens

/-- Every call but those that end the transaction takes nothing back and commits nothing. -/
theorem run_settled (keyring : Keyring) (engine : Engine γ) (codec : Codec) {call : Call}
    (unsaving : call ≠ .save) (unreverting : call ≠ .revert) (settled : session.Settled kept) :
    (call.run keyring (Session.handle engine.backend codec) session).2.Settled kept := by
  unfold run
  cases call with
  | list collection conditions wanted =>
    exact draw_settled engine codec (keyring.ids_reads _ _ _) wanted settled
  | entries collection conditions fields wanted =>
    exact draw_settled engine codec (Entries.select_reads _ _ _ _ _) wanted settled
  | selfSignedEntries collection conditions fields wanted =>
    exact draw_settled engine codec (Entries.select_reads _ _ _ _ _) wanted settled
  | parents subkey wanted =>
    exact draw_settled engine codec (keyring.ids_reads _ _ _) wanted settled
  | signaturesBy kind issuer conditions wanted =>
    exact draw_settled engine codec (keyring.signaturesBy_reads _ _ _) wanted settled
  | searchIdentities search wanted =>
    exact draw_settled engine codec (keyring.searchIdentities_reads _) wanted settled
  | searchShortId shortId wanted =>
    exact draw_settled engine codec (keyring.searchKeys_reads _) wanted settled
  | searchLongId id wanted =>
    exact draw_settled engine codec (keyring.searchKeys_reads _) wanted settled
  | searchFingerprint fingerprint wanted =>
    exact draw_settled engine codec (keyring.searchKeys_reads _) wanted settled
  | contains collection id =>
    exact act_reads_settled engine codec (Entries.exist_reads _ _ _) settled
  | find collection id fields =>
    exact act_reads_settled engine codec (Entries.first?_reads _ _ _ _) settled
  | findSelfSigned collection id fields =>
    exact act_reads_settled engine codec (Entries.first?_reads _ _ _ _) settled
  | relationNames => exact act_reads_settled engine codec keyring.relationNames_reads settled
  | bootstrap objects => exact act_settled engine codec (keyring.bootstrap_spares objects) settled
  | initialise =>
    -- The script is long, and what it says does not matter here.
    unfold Keyring.initialise
    generalize Schema.parse Schema.keyringScript = parsed
    exact act_settled engine codec (keyring.bootstrap_parsed_spares parsed) settled
  | add collection record => exact act_opens_settled engine codec (keyring.add_opens _ _) settled
  | update collection id record =>
    exact act_opens_settled engine codec (keyring.update_opens _ _ _) settled
  | remove collection id => exact act_opens_settled engine codec (keyring.remove_opens _ _) settled
  | save => exact absurd rfl unsaving
  | revert => exact absurd rfl unreverting

/-- A transaction request alone. -/
theorem act_transact (engine : Engine γ) (codec : Codec) (command : Command)
    (session : Session (Storage γ)) :
    act (Session.handle engine.backend codec) (Store.transact command) session
      = session.transact engine.backend command := by
  rw [act, Session.run_transact]
  generalize session.transact engine.backend command = outcome
  obtain ⟨result, later⟩ := outcome
  cases result <;> rfl

end Call

namespace Use

variable {γ : Type} {use : Use γ}

/-- What is kept between calls: what is committed is what the last `save` has left, unless that was
hollow. -/
def Firm (use : Use γ) : Prop :=
  ∃ kept, use.session.Settled kept ∧ (use.hollow = false → use.kept = kept)

theorem start_firm (content : γ) : Firm (start content) :=
  ⟨content, ⟨Session.start_rests _, nofun, rfl, fun left => by cases left.2⟩, fun _ => rfl⟩

theorem closed_of_not_stranded {session : Session (Storage γ)} (idle : session.transaction = .idle)
    (reached : ¬ session.Stranded) : session.database.saved = none := by
  cases saved : session.database.saved with
  | none => rfl
  | some content => exact absurd ⟨idle, by rw [saved]; rfl⟩ reached

/-- The call `save` is a COMMIT. -/
theorem make_save (keyring : Keyring) (engine : Engine γ) (codec : Codec) (use : Use γ) :
    use.make keyring engine codec .save
      = match use.session.transact engine.backend .commit with
        | (.ok (), session) =>
          { session, kept := session.database.content, hollow := decide use.session.Stranded }
        | (.error _, session) => { use with session } := by
  have ran : Call.save.run keyring (Session.handle engine.backend codec) use.session
      = use.session.transact engine.backend .commit := Call.act_transact engine codec .commit _
  unfold make
  rw [ran]
  generalize use.session.transact engine.backend .commit = outcome
  obtain ⟨result, later⟩ := outcome
  cases result <;> rfl

theorem save_firm (keyring : Keyring) (engine : Engine γ) (codec : Codec) (firm : Firm use) :
    Firm (use.make keyring engine codec .save) := by
  obtain ⟨kept, settled, same⟩ := firm
  have cases_of_end := settled.end_cases engine (show Command.commit ≠ .begin by decide)
  rw [make_save]
  generalize use.session.transact engine.backend .commit = outcome at cases_of_end ⊢
  obtain ⟨result, later⟩ := outcome
  rcases cases_of_end with ⟨idle, rfl, unchanged, settled_later⟩ | ⟨error, rfl, settled_later⟩ |
    ⟨inside, rfl, changed, rests, idle⟩
  · refine ⟨kept, settled_later, fun solid => ?_⟩
    have closed := closed_of_not_stranded idle (of_decide_eq_false solid)
    rw [← settled.committed, Storage.committed, closed]
    exact congrArg Storage.content unchanged
  · exact ⟨kept, settled_later, same⟩
  · refine ⟨later.database.content, Session.Settled.of_closed rests idle ?_, fun _ => rfl⟩
    rw [changed]
    rfl

theorem make_other (keyring : Keyring) (engine : Engine γ) (codec : Codec) (use : Use γ)
    {call : Call} (other : call ≠ .save) :
    use.make keyring engine codec call
      = { use with
          session := (call.run keyring (Session.handle engine.backend codec) use.session).2 } := by
  unfold make
  split
  · exact absurd rfl other
  · next ran => rw [ran]

/-- Reverting is a ROLLBACK. -/
theorem run_revert (keyring : Keyring) (engine : Engine γ) (codec : Codec)
    (session : Session (Storage γ)) :
    Call.revert.run keyring (Session.handle engine.backend codec) session
      = session.transact engine.backend .rollback :=
  Call.act_transact engine codec .rollback session

theorem revert_settled {kept : γ} {session : Session (Storage γ)} (engine : Engine γ)
    (settled : session.Settled kept) :
    (session.transact engine.backend .rollback).2.Settled kept := by
  rcases settled.end_cases engine (show Command.rollback ≠ .begin by decide) with
    ⟨_, _, _, later⟩ | ⟨_, _, later⟩ | ⟨_, _, changed, rests, idle⟩
  · exact later
  · exact later
  · have closed := Session.Settled.of_closed rests idle (by rw [changed]; rfl)
    have restored : (session.transact engine.backend .rollback).2.database.content = kept := by
      rw [changed]
      exact settled.committed
    exact restored ▸ closed

theorem make_firm (keyring : Keyring) (engine : Engine γ) (codec : Codec) (firm : Firm use)
    (call : Call) : Firm (use.make keyring engine codec call) := by
  by_cases saves : call = .save
  · subst saves
    exact save_firm keyring engine codec firm
  · obtain ⟨kept, settled, same⟩ := firm
    rw [make_other keyring engine codec use saves]
    refine ⟨kept, ?_, same⟩
    by_cases reverts : call = .revert
    · subst reverts
      rw [run_revert]
      exact revert_settled engine settled
    · exact Call.run_settled keyring engine codec saves reverts settled

theorem after_firm (keyring : Keyring) (engine : Engine γ) (codec : Codec) (content : γ)
    (calls : List Call) : Firm (after keyring engine codec content calls) := by
  induction calls using List.reverseRecOn with
  | nil => exact start_firm content
  | append_singleton calls call ih =>
    rw [after, List.foldl_append]
    exact make_firm keyring engine codec ih call

/-- Whatever calls were made and whatever was refused: if reverting succeeds, the content is what it
was right after the last `save` that succeeded, unless this revert, or that `save`, has found the
session idle with a transaction still open in the database. A session is found so only if a COMMIT
or ROLLBACK was refused before. -/
theorem revert_restores (keyring : Keyring) (engine : Engine γ) (codec : Codec) (content : γ)
    (calls : List Call)
    (succeeds : (Call.revert.run keyring (Session.handle engine.backend codec)
      (after keyring engine codec content calls).session).1 = .ok ()) :
    (¬ (after keyring engine codec content calls).session.Stranded →
      (after keyring engine codec content calls).hollow = false →
      (Call.revert.run keyring (Session.handle engine.backend codec)
          (after keyring engine codec content calls).session).2.database.content
        = (after keyring engine codec content calls).kept) ∧
    ((after keyring engine codec content calls).session.Stranded →
      ∃ query ∈ (after keyring engine codec content calls).session.database.refused,
        Session.Ends query) := by
  obtain ⟨kept, settled, same⟩ := after_firm keyring engine codec content calls
  refine ⟨fun reached solid => ?_, settled.stranded⟩
  rw [same solid]
  rw [run_revert] at succeeds ⊢
  rcases settled.end_cases engine (show Command.rollback ≠ .begin by decide) with
    ⟨idle, _, unchanged, _⟩ | ⟨error, failed, _⟩ | ⟨_, _, changed, _, _⟩
  · have closed := closed_of_not_stranded idle reached
    rw [unchanged, ← settled.committed, Storage.committed, closed]
    rfl
  · rw [failed] at succeeds
    cases succeeds
  · rw [changed]
    exact settled.committed

/-! A database that counts the rows that were added, and may refuse to commit. -/

/-- Counts rows. -/
def countingEngine (commits : Bool) : Engine Nat where
  dialect := .sqlite
  refuses _ query :=
    match query.statement with
    | .control .commit => if commits then none else some (.driver "disk full")
    | _ => none
  write _ _ rows := (1, rows + 1)
  fetch _ _ _ _ := []
  stream _ _ _ _ := []

/-- A keyring over SQLite. -/
def mainKeyring : Keyring := ⟨.sqlite, "main"⟩

/-- Adds a key. -/
def addsKey (id : String) : Call := .add .keys (.ofList [("id", .text id)])

/-- Every packet can be read and says nothing. -/
def silentCodec : Codec := fun _ _ => .ok .empty

/-- Of two keys the first is saved, and the second is taken back. -/
theorem revert_restores_saved :
    (Call.revert.run mainKeyring (Session.handle (countingEngine true).backend silentCodec)
        (after mainKeyring (countingEngine true) silentCodec 0
          [addsKey "A", .save, addsKey "B"]).session).2.database.content = 1 :=
  (revert_restores mainKeyring (countingEngine true) silentCodec 0
    [addsKey "A", .save, addsKey "B"] rfl).1 (by decide) rfl

/-- The COMMIT is refused, and reverting succeeds without taking anything back. -/
theorem revert_leaves_refused :
    ¬ ∀ calls : List Call,
      (Call.revert.run mainKeyring (Session.handle (countingEngine false).backend silentCodec)
        (after mainKeyring (countingEngine false) silentCodec 0 calls).session).1 = .ok () →
      (Call.revert.run mainKeyring (Session.handle (countingEngine false).backend silentCodec)
          (after mainKeyring (countingEngine false) silentCodec 0 calls).session).2.database.content
        = (after mainKeyring (countingEngine false) silentCodec 0 calls).kept := by
  intro restores
  have still : (1 : Nat) = 0 := restores [addsKey "A", .save] rfl
  cases still

end Use

end KeyStore

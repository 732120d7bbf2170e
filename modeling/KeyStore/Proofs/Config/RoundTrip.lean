import KeyStore.Config.Format
import KeyStore.Proofs.Document.Coding

/-!
# Configurations are read as they were written

Nothing is known of a coding but that it is lawful: what it printed it can parse, fields are found
by their names, and a variant is read in its own way. Each part of a configuration is then the part
that was encoded: an absent one is read as absent, and one that is there as itself. So a
configuration that `validate` accepts comes back from the text of its file; of any other the text
gives the error that `validate` gives.

Main statement: `Config.ofText_toText`.
-/

namespace KeyStore

namespace Coding

variable {coding : Coding} {α : Type} {found : String → Option coding.Encoded} {field : String}

/-! ### Parts -/

theorem Built.optional {depth : Nat} {encode : α → coding.Encoded}
    (built : ∀ part, coding.Built depth (encode part)) (part : Option α) :
    coding.Built depth (coding.optional encode part) := by
  cases part with
  | none => exact .absent
  | some part => exact built part

/-- A field that is there is read as what was encoded. -/
theorem require_eq {read : coding.Encoded → Except String α} {encoded : coding.Encoded} {part : α}
    (said : found field = some encoded) (back : read encoded = .ok part) :
    coding.require read found field = .ok part := by
  rw [require, said]
  exact back

/-- A part that may be absent is read back if the part itself is, and does not pass for absent. -/
theorem Lawful.readOptional_eq (lawful : coding.Lawful) {encode : α → coding.Encoded}
    {read : coding.Encoded → Except String α} {part : Option α}
    (said : found field = some (coding.optional encode part))
    (shown : ∀ part, coding.isAbsent (encode part) = false)
    (back : ∀ part, read (encode part) = .ok part) :
    coding.readOptional read found field = .ok part := by
  rw [readOptional, said]
  cases part with
  | none => exact if_pos lawful.isAbsent_absent
  | some part =>
    simp only [optional, shown, Bool.false_eq_true, if_false, back]
    rfl

variable (lawful : coding.Lawful)
include lawful

theorem Lawful.readOptional_text {part : Option String}
    (said : found field = some (coding.optional coding.text part)) :
    coding.readOptional coding.readText found field = .ok part :=
  lawful.readOptional_eq said lawful.isAbsent_text lawful.readText_text

theorem Lawful.readOptional_bool {part : Option Bool}
    (said : found field = some (coding.optional coding.bool part)) :
    coding.readOptional coding.readBool found field = .ok part :=
  lawful.readOptional_eq said lawful.isAbsent_bool lawful.readBool_bool

theorem Lawful.readOptional_number {part : Option UInt64}
    (said : found field = some (coding.optional coding.number part)) :
    coding.readOptional coding.readNumber found field = .ok part :=
  lawful.readOptional_eq said lawful.isAbsent_number lawful.readNumber_number

end Coding

namespace Config

variable {coding : Coding}

/-! ### What is printed -/

theorem built_encodeDatabase (depth : Nat) (database : Database) :
    coding.Built (depth + 1) (encodeDatabase coding database) := by
  cases database with
  | sqlite path =>
    exact .variant (by simp) (List.forall_mem_singleton.2 (.optional .text path))
  | postgres url schema =>
    refine .variant (by simp) ?_
    simp only [List.forall_mem_cons]
    exact ⟨.text url, .optional .text schema, nofun⟩

theorem built_encodeConnection (depth : Nat) (connection : Connection) :
    coding.Built (depth + 1) (encodeConnection coding connection) := by
  refine .fields (by simp) ?_
  simp only [List.forall_mem_cons]
  exact ⟨.optional .number _, .optional .number _, .optional .bool _, nofun⟩

theorem built_encode (depth : Nat) (config : Config) :
    coding.Built (depth + 2) (config.encode coding) := by
  refine .fields (by simp) ?_
  simp only [List.forall_mem_cons]
  exact ⟨built_encodeDatabase depth _, .optional (built_encodeConnection depth) _,
    .optional .bool _, nofun⟩

/-! ### What is read -/

section

variable (lawful : coding.Lawful)
include lawful

theorem decodeSqlite_fields (path : Option String) :
    decodeSqlite coding (coding.fields [("path", coding.optional coding.text path)])
      = .ok (.sqlite path) := by
  obtain ⟨found, reads, said⟩ := lawful.readFields_fields ["path"]
    [("path", coding.optional coding.text path)] (by simp)
  have path_read := lawful.readOptional_text (said "path" (by simp))
  rw [decodeSqlite, reads]
  simp only [bind, Except.bind, path_read]
  rfl

theorem decodePostgres_fields (url : String) (schema : Option String) :
    decodePostgres coding
        (coding.fields [("url", coding.text url), ("schema", coding.optional coding.text schema)])
      = .ok (.postgres url schema) := by
  obtain ⟨found, reads, said⟩ := lawful.readFields_fields ["url", "schema"]
    [("url", coding.text url), ("schema", coding.optional coding.text schema)] (by simp)
  have url_read := Coding.require_eq (said "url" (by simp)) (lawful.readText_text url)
  have schema_read := lawful.readOptional_text (said "schema" (by simp))
  rw [decodePostgres, reads]
  simp only [bind, Except.bind, url_read, schema_read]
  rfl

/-- The tag tells which kind of database it is. -/
theorem decodeDatabase_encodeDatabase (database : Database) :
    decodeDatabase coding (encodeDatabase coding database) = .ok database := by
  cases database with
  | sqlite path =>
    rw [encodeDatabase, decodeDatabase, lawful.readVariant_variant "backend" "sqlite" _ _
      (decodeSqlite coding) (by simp) (List.forall_mem_singleton.2 (.optional .text path)) rfl]
    exact decodeSqlite_fields lawful path
  | postgres url schema =>
    have built : ∀ member ∈ [("url", coding.text url),
        ("schema", coding.optional coding.text schema)],
        coding.Built Coding.variantLimit member.2 := by
      simp only [List.forall_mem_cons]
      exact ⟨.text url, .optional .text schema, nofun⟩
    rw [encodeDatabase, decodeDatabase, lawful.readVariant_variant "backend" "postgres" _ _
      (decodePostgres coding) (by simp) built rfl]
    exact decodePostgres_fields lawful url schema

theorem decodeConnection_encodeConnection (connection : Connection) :
    decodeConnection coding (encodeConnection coding connection) = .ok connection := by
  obtain ⟨found, reads, said⟩ := lawful.readFields_fields
    ["connect_timeout_ms", "acquire_timeout_ms", "sql_logging"]
    [("connect_timeout_ms", coding.optional coding.number connection.connectTimeout),
      ("acquire_timeout_ms", coding.optional coding.number connection.acquireTimeout),
      ("sql_logging", coding.optional coding.bool connection.sqlLogging)] (by simp)
  have connect_read := lawful.readOptional_number (said "connect_timeout_ms" (by simp))
  have acquire_read := lawful.readOptional_number (said "acquire_timeout_ms" (by simp))
  have logging_read := lawful.readOptional_bool (said "sql_logging" (by simp))
  rw [decodeConnection, encodeConnection, reads]
  simp only [bind, Except.bind, connect_read, acquire_read, logging_read]
  rfl

/-- A configuration is what it was encoded from. -/
theorem decode_encode (config : Config) : decode coding (config.encode coding) = .ok config := by
  obtain ⟨found, reads, said⟩ := lawful.readFields_fields ["database", "connection", "initialise"]
    [("database", encodeDatabase coding config.database),
      ("connection", coding.optional (encodeConnection coding) config.connection),
      ("initialise", coding.optional coding.bool config.initialise)] (by simp)
  have database_read := Coding.require_eq (said "database" (by simp))
    (decodeDatabase_encodeDatabase lawful config.database)
  have connection_read := lawful.readOptional_eq (said "connection" (by simp))
    (fun _ => lawful.isAbsent_fields _) (decodeConnection_encodeConnection lawful)
  have initialise_read := lawful.readOptional_bool (said "initialise" (by simp))
  rw [decode, encode, reads]
  simp only [bind, Except.bind, database_read, connection_read, initialise_read]
  rfl

/-- Every configuration has a text. If it can work, it is read back from its text, and the text of
one that cannot work gives the reason why. -/
theorem ofText_toText (config : Config) :
    ∃ text, config.toText coding = .ok text ∧
      (config.validate = .ok () → ofText coding text = .ok config) ∧
      ∀ error, config.validate = .error error → ofText coding text = .error error := by
  obtain ⟨text, printed, parsed⟩ := lawful.parse_print _ (built_encode 125 config)
  have decoded : ((coding.parse text).bind (decode coding)).mapError StoreError.validation
      = .ok config := by
    rw [parsed, Except.bind, decode_encode lawful]
    rfl
  refine ⟨text, printed, fun valid => ?_, fun error invalid => ?_⟩
  · rw [ofText, decoded]
    simp only [bind, Except.bind, valid]
    rfl
  · rw [ofText, decoded]
    simp only [bind, Except.bind, invalid]

end

/-- Quotes, controls and characters beyond the first plane, a number at its limit, and a connection
of which nothing is said, in JSON. -/
theorem ofText_toText_escapes :
    let server : Config :=
      { database := .postgres "postgres://\"\\/\n\x01\x7f" (some "é😀")
        connection := some ⟨some 18446744073709551615, none, some false⟩
        initialise := none }
    let file : Config := ⟨.sqlite none, some ⟨none, none, none⟩, some true⟩
    Coding.json.Lawful ∧
      (server.validate = .ok () ∧ ∃ text, server.toText .json = .ok text ∧
        ofText .json text = .ok server) ∧
      file.validate = .ok () ∧ ∃ text, file.toText .json = .ok text ∧
        ofText .json text = .ok file := by
  intro server file
  have server_valid : server.validate = .ok () := rfl
  have file_valid : file.validate = .ok () := rfl
  obtain ⟨server_text, server_printed, server_read, _⟩ := ofText_toText Coding.json_lawful server
  obtain ⟨file_text, file_printed, file_read, _⟩ := ofText_toText Coding.json_lawful file
  exact ⟨Coding.json_lawful,
    ⟨server_valid, server_text, server_printed, server_read server_valid⟩,
    file_valid, file_text, file_printed, file_read file_valid⟩

end Config

end KeyStore

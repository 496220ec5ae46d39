import TypedSql.Descriptor
import TypedSql.Proofs.Json.Records

/-!
# Descriptors as JSON

A descriptor, and every part of it, is read back from its JSON form. The form leaves out the
optional fields that are absent and the flags of types that are not set, and nothing else: the
schema of a table name is written as null.

- **Fields**: the fields of the records, as they are declared
- **Parts**: what the reader of a part answers
- **Descriptors**: what survives
-/

namespace TypedSql

open Json

/-! ## Fields -/

/-- The fields of a type. -/
def SqlType.spec : RecordSpec SqlType where
  fields := [⟨"name", (.string ·.name), .never⟩, ⟨"unsigned", (.bool ·.unsigned), .ifFalse⟩,
    ⟨"array", (.bool ·.array), .ifFalse⟩]

/-- The fields of a table name. -/
def TableName.spec : RecordSpec TableName where
  fields := [⟨"schema", (nullable .string ·.schema), .never⟩, ⟨"name", (.string ·.name), .never⟩]

/-- The fields of a parameter. -/
def Parameter.spec : RecordSpec Parameter where
  fields := [⟨"number", (.nat ·.number), .never⟩, ⟨"name", (nullable .string ·.name), .ifNull⟩,
    ⟨"data_type", (·.type.toJson), .never⟩, ⟨"not_null", (.bool ·.notNull), .never⟩]

/-- The fields of a result column. -/
def ResultColumn.spec : RecordSpec ResultColumn where
  fields := [⟨"name", (.string ·.name), .never⟩, ⟨"data_type", (·.type.toJson), .never⟩,
    ⟨"not_null", (.bool ·.notNull), .never⟩,
    ⟨"table", (nullable TableName.toJson ·.table), .ifNull⟩,
    ⟨"original_name", (nullable .string ·.originalName), .ifNull⟩]

/-- The fields of a descriptor. -/
def QueryDescriptor.spec : RecordSpec QueryDescriptor where
  fields := [⟨"name", (nullable .string ·.name), .ifNull⟩,
    ⟨"command", (nullable QueryCommand.toJson ·.command), .ifNull⟩,
    ⟨"sql", (.string ·.sql), .never⟩, ⟨"file", (nullable .string ·.file), .ifNull⟩,
    ⟨"location", (.nat ·.location), .never⟩,
    ⟨"params", (.array <| ·.params.map Parameter.toJson), .never⟩,
    ⟨"columns", (.array <| ·.columns.map ResultColumn.toJson), .never⟩,
    ⟨"insert_into_table", (nullable TableName.toJson ·.insertIntoTable), .ifNull⟩]

theorem SqlType.toJson_eq (t : SqlType) : t.toJson = .object (entries spec.fields t) := by
  obtain ⟨name, unsigned, array⟩ := t
  cases unsigned <;> cases array <;> rfl

theorem TableName.toJson_eq (t : TableName) : t.toJson = .object (entries spec.fields t) := rfl

theorem Parameter.toJson_eq (p : Parameter) : p.toJson = .object (entries spec.fields p) := by
  obtain ⟨number, name, type, notNull⟩ := p
  cases name <;> rfl

theorem ResultColumn.toJson_eq (c : ResultColumn) : c.toJson = .object (entries spec.fields c) := by
  obtain ⟨name, type, notNull, table, originalName⟩ := c
  cases table <;> cases originalName <;> rfl

theorem QueryDescriptor.toJson_eq (d : QueryDescriptor) :
    d.toJson = .object (entries spec.fields d) := by
  obtain ⟨name, command, sql, file, location, params, columns, insertIntoTable⟩ := d
  cases name <;> cases command <;> cases file <;> cases insertIntoTable <;> rfl

/-! ## Parts -/

/-- Every command is read back from its spelling. -/
theorem QueryCommand.reads (c : QueryCommand) : Reads ofJson? c.toJson c := by
  intro i h
  cases h
  cases c <;> rfl

theorem SqlType.reads (t : SqlType) : Reads ofJson? t.toJson t := by
  intro i h
  rw [toJson_eq] at h
  obtain ⟨r, hr, hfields⟩ := spec.exists_holds h 3
  have hname : r.required 0 "name" string? = some t.name :=
    hfields.required rfl (reads_string t.name)
  have hunsigned : r.flag 1 "unsigned" = some t.unsigned := hfields.flag rfl
  have harray : r.flag 2 "array" = some t.array := hfields.flag rfl
  simp [ofJson?, hr, hname, hunsigned, harray]

theorem TableName.reads (t : TableName) : Reads ofJson? t.toJson t := by
  intro i h
  rw [toJson_eq] at h
  obtain ⟨r, hr, hfields⟩ := spec.exists_holds h 2
  have hschema : r.optional 0 "schema" string? = some t.schema :=
    hfields.optional rfl (fun s _ => reads_string s) rfl
  have hname : r.required 1 "name" string? = some t.name :=
    hfields.required rfl (reads_string t.name)
  simp [ofJson?, hr, hschema, hname]

theorem Parameter.reads {p : Parameter} (hnumber : p.number < wordCount) :
    Reads ofJson? p.toJson p := by
  intro i h
  rw [toJson_eq] at h
  -- the record is read field by field, each at the position that the writer gives it
  obtain ⟨r, hr, hfields⟩ := spec.exists_holds h 4
  have hnumber : r.required 0 "number" word? = some p.number :=
    hfields.required rfl (reads_word hnumber)
  have hname : r.optional 1 "name" string? = some p.name :=
    hfields.optional rfl (fun s _ => reads_string s) rfl
  have htype : r.required 2 "data_type" SqlType.ofJson? = some p.type :=
    hfields.required rfl p.type.reads
  have hnotNull : r.required 3 "not_null" bool? = some p.notNull :=
    hfields.required rfl (reads_bool p.notNull)
  simp [ofJson?, hr, hnumber, hname, htype, hnotNull]

theorem ResultColumn.reads (c : ResultColumn) : Reads ofJson? c.toJson c := by
  intro i h
  rw [toJson_eq] at h
  obtain ⟨r, hr, hfields⟩ := spec.exists_holds h 5
  have hname : r.required 0 "name" string? = some c.name :=
    hfields.required rfl (reads_string c.name)
  have htype : r.required 1 "data_type" SqlType.ofJson? = some c.type :=
    hfields.required rfl c.type.reads
  have hnotNull : r.required 2 "not_null" bool? = some c.notNull :=
    hfields.required rfl (reads_bool c.notNull)
  have htable : r.optional 3 "table" TableName.ofJson? = some c.table :=
    hfields.optional rfl (fun t _ => t.reads) rfl
  have horiginal : r.optional 4 "original_name" string? = some c.originalName :=
    hfields.optional rfl (fun s _ => reads_string s) rfl
  simp [ofJson?, hr, hname, htype, hnotNull, htable, horiginal]

theorem QueryDescriptor.reads {d : QueryDescriptor} (hlocation : d.location < wordCount)
    (hparams : ∀ p ∈ d.params, p.number < wordCount) : Reads ofJson? d.toJson d := by
  intro i h
  rw [toJson_eq] at h
  obtain ⟨r, hr, hfields⟩ := spec.exists_holds h 8
  have hname : r.optional 0 "name" string? = some d.name :=
    hfields.optional rfl (fun s _ => reads_string s) rfl
  have hcommand : r.optional 1 "command" QueryCommand.ofJson? = some d.command :=
    hfields.optional rfl (fun c _ => c.reads) rfl
  have hsql : r.required 2 "sql" string? = some d.sql :=
    hfields.required rfl (reads_string d.sql)
  have hfile : r.optional 3 "file" string? = some d.file :=
    hfields.optional rfl (fun s _ => reads_string s) rfl
  have hlocation : r.required 4 "location" word? = some d.location :=
    hfields.required rfl (reads_word hlocation)
  have hparams : r.required 5 "params" (list? Parameter.ofJson?) = some d.params :=
    hfields.required rfl (reads_list fun p hp => Parameter.reads (hparams p hp))
  have hcolumns : r.required 6 "columns" (list? ResultColumn.ofJson?) = some d.columns :=
    hfields.required rfl (reads_list fun c _ => c.reads)
  have htable : r.optional 7 "insert_into_table" TableName.ofJson? = some d.insertIntoTable :=
    hfields.optional rfl (fun t _ => t.reads) rfl
  simp [ofJson?, hr, hname, hcommand, hsql, hfile, hlocation, hparams, hcolumns, htable]

/-! ## Descriptors -/

/-- A record survives JSON. -/
structure Survives {α : Type} (spec : RecordSpec α) (toJson : α → Json)
    (ofJson? : Json → Option α) (a : α) : Prop where
  /-- The form is an object with the values of the fields. -/
  written : toJson a = .object (entries spec.fields a)
  /-- It leaves out the fields that may be skipped and have nothing to tell, and no others. -/
  omitted : ∀ f ∈ spec.fields, f.name ∉ names (toJson a) ↔ f.skip.applies (f.value a) = true
  /-- It is read back, in whatever order its fields stand. -/
  read : ∀ j, Same j (toJson a) → ofJson? j = some a

theorem Survives.of_reads {α : Type} {spec : RecordSpec α} {toJson : α → Json}
    {ofJson? : Json → Option α} {a : α} (hwritten : toJson a = .object (entries spec.fields a))
    (hread : Reads ofJson? (toJson a) a) : Survives spec toJson ofJson? a where
  written := hwritten
  omitted f hf := by
    rw [hwritten]
    exact spec.name_notMem_names_iff hf a
  read := hread

/-- Types, table names, parameters, result columns and descriptors survive JSON, if their numbers
are words. -/
theorem descriptors_survive_json :
    (∀ t, Survives SqlType.spec SqlType.toJson SqlType.ofJson? t) ∧
      (∀ t, Survives TableName.spec TableName.toJson TableName.ofJson? t) ∧
      (∀ p : Parameter, p.number < wordCount →
        Survives Parameter.spec Parameter.toJson Parameter.ofJson? p) ∧
      (∀ c, Survives ResultColumn.spec ResultColumn.toJson ResultColumn.ofJson? c) ∧
      ∀ d : QueryDescriptor, d.location < wordCount → (∀ p ∈ d.params, p.number < wordCount) →
        Survives QueryDescriptor.spec QueryDescriptor.toJson QueryDescriptor.ofJson? d := by
  refine ⟨fun t => ?type, fun t => ?table, fun p hp => ?parameter, fun c => ?column,
    fun d hlocation hparams => ?descriptor⟩
  case type => exact .of_reads t.toJson_eq t.reads
  case table => exact .of_reads t.toJson_eq t.reads
  case parameter => exact .of_reads p.toJson_eq (Parameter.reads hp)
  case column => exact .of_reads c.toJson_eq c.reads
  case descriptor =>
    exact .of_reads d.toJson_eq (QueryDescriptor.reads hlocation hparams)

/-- An INSERT at the last offset that is a word, with the last number that is one. What may be
absent is there in some places and absent in others. -/
def lastWordInsert : QueryDescriptor where
  name := none
  command := some .execLastId
  sql := "INSERT INTO t (a) SELECT \"b\" FROM u WHERE c = ?"
  file := none
  location := 18446744073709551615
  params := [⟨1, none, .opaqueType, false⟩,
    ⟨18446744073709551615, some "c", ⟨"int", true, false⟩, true⟩]
  columns := [.computed "?column?" ⟨"text", false, true⟩ false,
    ⟨"a", ⟨"int", true, true⟩, true, some (.qualified "s" "u"), some "b"⟩]
  insertIntoTable := some (.unqualified "t")

theorem descriptors_survive_json_lastWord :
    (∀ p ∈ lastWordInsert.params, p.number < wordCount ∧
        Survives Parameter.spec Parameter.toJson Parameter.ofJson? p) ∧
      lastWordInsert.location < wordCount ∧
      Survives QueryDescriptor.spec QueryDescriptor.toJson QueryDescriptor.ofJson?
        lastWordInsert := by
  -- the greatest number and the greatest location still fit into a word
  have hparams : ∀ p ∈ lastWordInsert.params, p.number < wordCount := by decide
  have hlocation : lastWordInsert.location < wordCount := by decide
  obtain ⟨-, -, hparameter, -, hdescriptor⟩ := descriptors_survive_json
  exact ⟨fun p hp => ⟨hparams p hp, hparameter p (hparams p hp)⟩, hlocation,
    hdescriptor lastWordInsert hlocation hparams⟩

example :
    TableName.ofJson? (.object [("name", .string "t"), ("schema", .null)]) =
      some (.unqualified "t") := rfl

end TypedSql

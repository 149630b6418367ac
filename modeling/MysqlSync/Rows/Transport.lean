import MysqlSync.Rows.Replay

/-!
# Columns in transport

The operations travel as gob, which carries the values of the columns over as they are but for an
empty byte slice, which arrives as a nil one and would be bound as NULL. The applier repairs the
columns with the type code of the blobs, and no others. The row decoder hands over byte slices for
two more types, so a row comes back as it was sent exactly when none of its columns of these types
holds an empty slice (`repair_gob_iff`).
-/

namespace MysqlSync

open BinlogExtract

/-! ### What the extractor sends -/

namespace ColumnType

/-- `MYSQL_TYPE_JSON` -/
def json : UInt8 := 245

/-- `MYSQL_TYPE_BLOB`, the type code of all texts and blobs -/
def blob : UInt8 := 252

/-- `MYSQL_TYPE_GEOMETRY` -/
def geometry : UInt8 := 255

end ColumnType

namespace Value

/-- A byte slice that is not nil. -/
def isSlice : Value → Bool
  | .bytes (some _) => true
  | _ => false

/-- An integer, a float or a string. -/
def isScalar : Value → Bool
  | .nil | .bytes _ => false
  | _ => true

/-- What the row decoder gives for a column that is not NULL: blobs and geometries are byte slices,
a JSON document is text, or an empty byte slice where it is empty, and everything else is a number
or a string. -/
def DecodedAs (columnType : UInt8) (v : Value) : Prop :=
  if columnType = ColumnType.blob ∨ columnType = ColumnType.geometry then v.isSlice = true
  else if columnType = ColumnType.json then v.isSlice = true ∨ ∃ text, v = .string text
  else v.isScalar = true

end Value

/-- The columns the extractor builds: NULL is marked, and any other value is one of the decoder's for
the type of the column. -/
structure MysqlOperationDMLColumn.Extracted (col : MysqlOperationDMLColumn) : Prop where
  isNil : col.columnValueIsNil = true ↔ col.columnValue = .nil
  decodedAs : col.columnValue ≠ .nil → col.columnValue.DecodedAs col.columnType

/-- The values of a row are the decoder's for the types of the table map. -/
def DecodedRow (table : TableMapEvent) (row : List Value) : Prop :=
  ∀ (i : ℕ) (columnType : UInt8) (v : Value), table.columnType[i]? = some columnType →
    row[i]? = some v → v ≠ .nil → v.DecodedAs columnType

lemma extracted_of_column {table : TableMapEvent} {row : List Value} {i : ℕ}
    {col : MysqlOperationDMLColumn} (hrow : DecodedRow table row)
    (h : column table row i = some col) : col.Extracted := by
  simp only [column, Option.bind_eq_bind, Option.bind_eq_some_iff] at h
  obtain ⟨columnName, -, columnType, htype, v, hv, hcol⟩ := h
  obtain rfl := Option.some.inj hcol
  exact ⟨by simp, hrow i columnType v htype hv⟩

lemma forall_of_mapM {α β : Type} {f : α → Option β} {l : List α} {l' : List β} {P : β → Prop}
    (hP : ∀ a b, f a = some b → P b) (h : l.mapM f = some l') : ∀ b ∈ l', P b := by
  induction l generalizing l' with
  | nil =>
    obtain rfl : [] = l' := by simpa using h
    simp
  | cons a l ih =>
    simp only [List.mapM_cons, Option.bind_eq_bind, Option.bind_eq_some_iff] at h
    obtain ⟨b, hb, bs, hbs, hcons⟩ := h
    obtain rfl := Option.some.inj hcons
    exact List.forall_mem_cons.mpr ⟨hP a b hb, ih hbs⟩

/-- The extractor sends such columns for every row of the decoder. -/
lemma extracted_of_columns {table : TableMapEvent} {row : List Value}
    {cols : List MysqlOperationDMLColumn} (hrow : DecodedRow table row)
    (h : columns table row = some cols) : ∀ col ∈ cols, col.Extracted :=
  forall_of_mapM (fun _ _ hcol => extracted_of_column hrow hcol) h

/-! ### Transport and repair -/

/-- What arrives for a value. -/
def Value.gob : Value → Value
  | .bytes (some []) => .bytes none
  | v => v

def MysqlOperationDMLColumn.gob (col : MysqlOperationDMLColumn) : MysqlOperationDMLColumn :=
  { col with columnValue := col.columnValue.gob }

/-- An empty byte slice in a column that is not a blob. -/
def MysqlOperationDMLColumn.EmptyElsewhere (col : MysqlOperationDMLColumn) : Prop :=
  col.columnType ≠ ColumnType.blob ∧ col.columnValue = .bytes (some [])

instance (col : MysqlOperationDMLColumn) : Decidable col.EmptyElsewhere :=
  inferInstanceAs (Decidable (_ ∧ _))

section

variable {col : MysqlOperationDMLColumn}

lemma Value.gob_of_ne {v : Value} (h : v ≠ .bytes (some [])) : v.gob = v := by
  unfold Value.gob
  split
  · exact absurd rfl h
  · rfl

lemma repairColumn_of_ne (h : col.columnType ≠ ColumnType.blob) : repairColumn col = some col := by
  have hne : (col.columnType == 252) = false := by simpa [ColumnType.blob] using h
  simp [repairColumn, hne]

lemma repairColumn_of_isNil (h : col.columnValueIsNil = true) : repairColumn col = some col := by
  simp [repairColumn, h]

lemma repairColumn_of_isSlice (h : col.columnValue.isSlice = true) :
    repairColumn col = some col := by
  rw [repairColumn]
  split_ifs with hblob
  · cases hv : col.columnValue with
    | bytes v =>
      cases v with
      | none => simp [hv, Value.isSlice] at h
      | some v => rfl
    | _ => simp [hv, Value.isSlice] at h
  · rfl

/-- A blob that arrives as a nil slice is made empty again. -/
lemma repairColumn_gob_of_blob (hext : col.Extracted) (hblob : col.columnType = ColumnType.blob)
    (hempty : col.columnValue = .bytes (some [])) : repairColumn col.gob = some col := by
  have hnil : col.columnValueIsNil = false := by
    rw [Bool.eq_false_iff, Ne, hext.isNil, hempty]
    simp
  obtain ⟨name, type, value, isNil⟩ := col
  simp only at hblob hempty hnil
  subst hblob hempty hnil
  rfl

lemma repairColumn_gob_of_emptyElsewhere (h : col.EmptyElsewhere) :
    repairColumn col.gob ≠ some col := by
  rw [repairColumn_of_ne (show col.gob.columnType ≠ ColumnType.blob from h.1)]
  intro heq
  have hvalue := congrArg MysqlOperationDMLColumn.columnValue (Option.some.inj heq)
  rw [h.2] at hvalue
  simp [MysqlOperationDMLColumn.gob, h.2, Value.gob] at hvalue

lemma repairColumn_gob (hext : col.Extracted) (h : ¬ col.EmptyElsewhere) :
    repairColumn col.gob = some col := by
  by_cases hempty : col.columnValue = .bytes (some [])
  · have hblob : col.columnType = ColumnType.blob := by
      by_contra hne
      exact h ⟨hne, hempty⟩
    exact repairColumn_gob_of_blob hext hblob hempty
  · -- any other value arrives as it was sent
    have hgob : col.gob = col := by rw [MysqlOperationDMLColumn.gob, Value.gob_of_ne hempty]
    rw [hgob]
    by_cases hblob : col.columnType = ColumnType.blob
    · by_cases hnil : col.columnValue = .nil
      · exact repairColumn_of_isNil (hext.isNil.mpr hnil)
      · have hslice := hext.decodedAs hnil
        rw [Value.DecodedAs, if_pos (.inl hblob)] at hslice
        exact repairColumn_of_isSlice hslice
    · exact repairColumn_of_ne hblob

lemma gobUint8NilRepair_gob_iff {cols : List MysqlOperationDMLColumn}
    (h : ∀ col ∈ cols, col.Extracted) :
    gobUint8NilRepair (cols.map MysqlOperationDMLColumn.gob) = some cols ↔
      ∀ col ∈ cols, ¬ col.EmptyElsewhere := by
  rw [gobUint8NilRepair]
  induction cols with
  | nil => simp
  | cons col cols ih =>
    obtain ⟨hcol, hcols⟩ := List.forall_mem_cons.mp h
    rw [List.forall_mem_cons, ← ih hcols, List.map_cons, List.mapM_cons]
    constructor
    · intro hrepair
      simp only [Option.bind_eq_bind, Option.bind_eq_some_iff] at hrepair
      obtain ⟨col', hcol', cols', hcols', heq⟩ := hrepair
      obtain ⟨rfl, rfl⟩ := List.cons.inj (Option.some.inj heq)
      exact ⟨fun hempty => repairColumn_gob_of_emptyElsewhere hempty hcol', hcols'⟩
    · rintro ⟨hne, hrepair⟩
      rw [repairColumn_gob hcol hne, hrepair]
      rfl

end

/-- A row that the extractor sends comes back as it was sent exactly when no column of another type
than the blobs holds an empty byte slice. -/
theorem repair_gob_iff (table : TableMapEvent) (row : List Value)
    (cols : List MysqlOperationDMLColumn) (hrow : DecodedRow table row)
    (hcols : columns table row = some cols) :
    gobUint8NilRepair (cols.map MysqlOperationDMLColumn.gob) = some cols ↔
      ∀ col ∈ cols, ¬ col.EmptyElsewhere :=
  gobUint8NilRepair_gob_iff (extracted_of_columns hrow hcols)

/-- A table with a key, a text and a JSON column. -/
def documents : TableMapEvent :=
  ⟨"db", "t", 3, [3, ColumnType.blob, ColumnType.json], ["id", "body", "doc"], [0]⟩

lemma decodedRow_documents (id : Int32) (body : List UInt8) {doc : Value}
    (hdoc : doc.isSlice = true ∨ ∃ text, doc = .string text) :
    DecodedRow documents [.int32 id, .bytes (some body), doc] := by
  intro i columnType v htype hv _
  match i with
  | 0 =>
    cases htype
    cases hv
    rfl
  | 1 =>
    cases htype
    cases hv
    rfl
  | 2 =>
    cases htype
    cases hv
    exact hdoc
  | n + 3 => simp [documents] at htype

/-- An empty text is repaired, and the document is text. -/
theorem repair_gob_emptyText :
    gobUint8NilRepair
      ([⟨"id", 3, .int32 1, false⟩, ⟨"body", 252, .bytes (some []), false⟩,
        ⟨"doc", 245, .string "1", false⟩].map MysqlOperationDMLColumn.gob) =
      some [⟨"id", 3, .int32 1, false⟩, ⟨"body", 252, .bytes (some []), false⟩,
        ⟨"doc", 245, .string "1", false⟩] :=
  (repair_gob_iff documents [.int32 1, .bytes (some []), .string "1"] _
    (decodedRow_documents 1 [] (.inr ⟨"1", rfl⟩)) rfl).mpr (by decide)

/-- An empty document arrives as a nil slice, which stands for NULL. -/
theorem repair_gob_emptyDocument :
    ¬ ∀ (table : TableMapEvent) (row : List Value) (cols : List MysqlOperationDMLColumn),
      DecodedRow table row → columns table row = some cols →
        gobUint8NilRepair (cols.map MysqlOperationDMLColumn.gob) = some cols := by
  intro h
  have hrepair := h documents [.int32 1, .bytes (some []), .bytes (some [])] _
    (decodedRow_documents 1 [] (.inl rfl)) rfl
  exact absurd hrepair (by decide)

end MysqlSync

import MysqlSync.Rows.Replay
import MysqlSync.Applier.Turn

/-!
# Integer columns

The row decoder hands over an integer column as the two's complement reading of its bytes,
whatever the signedness of the column; the extractor copies that value into the operation, and it
is bound as it is. A parameter therefore denotes the value of the source exactly when that value
is below half of the column's unsigned range (`denotes_decode_iff`).
-/

namespace MysqlSync

open MysqlApplier BinlogExtract

/-! ### Columns and values -/

inductive IntType where
  | tiny
  | short
  | int24
  | long
  | longlong
  deriving DecidableEq, Repr

namespace IntType

/-- The type code in the table map. -/
def columnType : IntType → UInt8
  | .tiny => 1
  | .short => 2
  | .int24 => 9
  | .long => 3
  | .longlong => 8

def bits : IntType → ℕ
  | .tiny => 8
  | .short => 16
  | .int24 => 24
  | .long => 32
  | .longlong => 64

/-- The value of a row for a column that holds `v`: the signed reading of its bytes. -/
def decode : IntType → ℤ → Value
  | .tiny, v => .int8 (.ofInt v)
  | .short, v => .int16 (.ofInt v)
  | .int24, v => .int32 (.ofInt (v.bmod (2 ^ 24)))
  | .long, v => .int32 (.ofInt v)
  | .longlong, v => .int64 (.ofInt v)

end IntType

/-- The integer a bound parameter denotes. -/
def Value.toInt? : Value → Option ℤ
  | .int8 v => some v.toInt
  | .int16 v => some v.toInt
  | .int32 v => some v.toInt
  | .int64 v => some v.toInt
  | .int v => some v.toInt
  | _ => none

structure IntColumn where
  name : String
  type : IntType
  unsigned : Bool
  deriving DecidableEq, Repr

/-- The values a column can hold. -/
def IntColumn.InRange (c : IntColumn) (v : ℤ) : Prop :=
  if c.unsigned then 0 ≤ v ∧ v < 2 ^ c.type.bits
  else -2 ^ (c.type.bits - 1) ≤ v ∧ v < 2 ^ (c.type.bits - 1)

/-- The values of an unsigned column below half of its range; every value of a signed column. -/
def IntColumn.Fits (c : IntColumn) (v : ℤ) : Prop :=
  c.unsigned = true → v < 2 ^ (c.type.bits - 1)

lemma IntType.toInt?_decode (t : IntType) (v : ℤ) :
    (t.decode v).toInt? = some (v.bmod (2 ^ t.bits)) := by
  cases t with
  | tiny | short | long | longlong => simp [IntType.decode, Value.toInt?, IntType.bits]
  | int24 =>
    simp only [IntType.decode, Value.toInt?, IntType.bits, Int32.toInt_ofInt]
    congr 1
    apply Int.bmod_eq_of_le
    · have := Int.le_bmod (x := v) (m := 2 ^ 24) (by decide)
      simp at this ⊢
      omega
    · have := Int.bmod_lt (x := v) (m := 2 ^ 24) (by decide)
      simp at this ⊢
      omega

/-- A parameter denotes the value of the source exactly when the value fits the signed reading. -/
theorem denotes_decode_iff {c : IntColumn} {v : ℤ} (h : c.InRange v) :
    (c.type.decode v).toInt? = some v ↔ c.Fits v := by
  have htwice : ((2 ^ c.type.bits : ℕ) : ℤ) = 2 * 2 ^ (c.type.bits - 1) := by
    cases c.type <;> rfl
  have hpos : 0 < 2 ^ c.type.bits := Nat.pow_pos (by decide)
  rw [IntType.toInt?_decode, Option.some.injEq, Int.bmod_eq_iff hpos, htwice, Int.sub_self]
  have hhalf : (0 : ℤ) < 2 ^ (c.type.bits - 1) := Int.pow_pos (by decide)
  rw [IntColumn.InRange] at h
  rw [IntColumn.Fits]
  split_ifs at h with hunsigned
  · constructor
    · intro hle _
      omega
    · intro hfits
      have hlt := hfits hunsigned
      refine ⟨by omega, by omega, Int.dvd_zero _⟩
  · constructor
    · intro _ htrue
      exact absurd htrue hunsigned
    · intro _
      refine ⟨by omega, by omega, Int.dvd_zero _⟩

/-! ### Rows -/

/-- A table of integer columns; `primaryKey` holds positions of columns. -/
structure IntLayout where
  columns : List IntColumn
  primaryKey : List UInt64
  primaryKey_lt : ∀ k ∈ primaryKey, k.toNat < columns.length

namespace IntLayout

/-- A row of values that the columns can hold. -/
abbrev Row (l : IntLayout) : Type :=
  { values : List ℤ // List.Forall₂ IntColumn.InRange l.columns values }

variable (l : IntLayout)

def tableMap (database table : String) : TableMapEvent where
  schema := database
  table := table
  columnCount := l.columns.length
  columnType := l.columns.map (·.type.columnType)
  columnName := l.columns.map (·.name)
  primaryKey := l.primaryKey

/-- The row as it arrives in a rows event. -/
def decode (row : l.Row) : List Value :=
  List.zipWith (fun c v => c.type.decode v) l.columns row.1

/-- The values of the key columns. -/
def keyValues (row : l.Row) : List (Option ℤ) :=
  (l.primaryKey.map UInt64.toNat).map (row.1[·]?)

/-- Every value fits its column's signed reading. -/
def Fits (row : l.Row) : Prop := List.Forall₂ IntColumn.Fits l.columns row.1

/-- Every key value fits its column's signed reading. -/
def KeyFits (row : l.Row) : Prop :=
  ∀ k ∈ l.primaryKey, ∀ c v, l.columns[k.toNat]? = some c → row.1[k.toNat]? = some v → c.Fits v

variable {l}

lemma length_row (row : l.Row) : row.1.length = l.columns.length := row.2.length_eq.symm

lemma length_decode (row : l.Row) : (l.decode row).length = l.columns.length := by
  rw [decode, List.length_zipWith, length_row, min_self]

lemma getElem?_decode (row : l.Row) {i : ℕ} {c : IntColumn} {v : ℤ} (hc : l.columns[i]? = some c)
    (hv : row.1[i]? = some v) : (l.decode row)[i]? = some (c.type.decode v) := by
  rw [decode, List.getElem?_zipWith, hc, hv]

lemma inRange_of_getElem? (row : l.Row) {i : ℕ} {c : IntColumn} {v : ℤ}
    (hc : l.columns[i]? = some c) (hv : row.1[i]? = some v) : c.InRange v := by
  obtain ⟨hi, rfl⟩ := List.getElem?_eq_some_iff.mp hc
  obtain ⟨hi', rfl⟩ := List.getElem?_eq_some_iff.mp hv
  exact row.2.get hi hi'

/-- The values of a row survive exactly when they all fit. -/
lemma map_toInt?_decode (row : l.Row) :
    (l.decode row).map Value.toInt? = row.1.map some ↔ l.Fits row := by
  obtain ⟨values, hrange⟩ := row
  simp only [decode, Fits]
  generalize l.columns = columns at hrange
  induction hrange with
  | nil => simp
  | cons hc _ ih =>
    rw [List.zipWith_cons_cons, List.map_cons, List.map_cons, List.cons.injEq, ih,
      denotes_decode_iff hc, List.forall₂_cons]

/-- The values of the key survive exactly when they all fit. -/
lemma map_key_decode (row : l.Row) :
    (l.primaryKey.map UInt64.toNat).map (fun i => (l.decode row)[i]?.bind Value.toInt?) =
      l.keyValues row ↔ l.KeyFits row := by
  rw [keyValues, List.map_inj_left, List.forall_mem_map]
  refine forall₂_congr fun k hk => ?_
  obtain ⟨c, hc⟩ : ∃ c, l.columns[k.toNat]? = some c :=
    ⟨_, List.getElem?_eq_getElem (l.primaryKey_lt k hk)⟩
  obtain ⟨v, hv⟩ : ∃ v, row.1[k.toNat]? = some v :=
    ⟨_, List.getElem?_eq_getElem (by rw [length_row]; exact l.primaryKey_lt k hk)⟩
  rw [getElem?_decode row hc hv, hv, Option.bind_some,
    denotes_decode_iff (inRange_of_getElem? row hc hv)]
  constructor
  · intro hfits c' v' hc' hv'
    cases hc.symm.trans hc'
    cases hv'
    exact hfits
  · intro hall
    exact hall c v hc rfl

end IntLayout

/-! ### Parameters -/

/-- The applier builds a statement for the operation, and its parameters denote these values. -/
def Binds (conf : Settings) (op : Option MysqlOperation) (values : List (Option ℤ)) : Prop :=
  ∃ op' query, op = some op' ∧ dmlQuery conf op' = .ok (some query) ∧
    query.params.map Value.toInt? = values

/-- The parameters of the statements built for an inserted row, an update and a deleted row denote
the values of the source: in `INSERT` or `REPLACE` as `dml_mode` says, in the `SET` list followed by
the `WHERE` list, and in the `WHERE` list. A table without a primary key only gets its inserts. -/
structure Survives (conf : Settings) (eh : EventHeader) (database table : String) (l : IntLayout)
    (before after : l.Row) : Prop where
  insert : Binds conf (insertOperation (l.tableMap database table) eh (l.decode after))
    (after.1.map some)
  update : l.primaryKey ≠ [] →
    Binds conf (updateOperation (l.tableMap database table) eh (l.decode before) (l.decode after))
      (if conf.dmlModeUpdate = "replace" then after.1.map some
        else after.1.map some ++ l.keyValues before)
  delete : l.primaryKey ≠ [] →
    Binds conf (deleteOperation (l.tableMap database table) eh (l.decode before))
      (l.keyValues before)

section

variable {conf : Settings} {eh : EventHeader} {database table : String} {l : IntLayout}

/-- Integer columns are left alone by the repair after transport. -/
lemma gobUint8NilRepair_of_ne {cols : List MysqlOperationDMLColumn}
    (h : ∀ c ∈ cols, c.columnType ≠ 252) : gobUint8NilRepair cols = some cols := by
  rw [gobUint8NilRepair]
  induction cols with
  | nil => rfl
  | cons c cols ih =>
    have hc : repairColumn c = some c := by
      simp [repairColumn, h c List.mem_cons_self]
    rw [List.mapM_cons, hc, ih fun c' hc' => h c' (List.mem_cons_of_mem _ hc')]
    rfl

lemma IntType.columnType_ne (t : IntType) : t.columnType ≠ 252 := by
  cases t <;> decide

variable (database table) in
/-- The columns of a row of integers. -/
lemma IntLayout.columns_decode (row : l.Row) :
    ∃ cols, BinlogExtract.columns (l.tableMap database table) (l.decode row) = some cols ∧
      gobUint8NilRepair cols = some cols ∧ columnValues cols = l.decode row := by
  obtain ⟨cols, hcols, -, htypes, hvalues⟩ :=
    columns_eq (l.tableMap database table) (l.decode row)
      (List.length_map ..) (List.length_map ..) (length_decode row)
  refine ⟨cols, hcols, gobUint8NilRepair_of_ne fun c hc => ?_, hvalues⟩
  have hmem : c.columnType ∈ (l.tableMap database table).columnType := by
    rw [← htypes]
    exact List.mem_map_of_mem hc
  obtain ⟨col, -, hcol⟩ := List.mem_map.mp hmem
  rw [← hcol]
  exact col.type.columnType_ne

/-- The parameters of the `WHERE` list are the values at the positions of the key. -/
lemma IntLayout.condition_decode {row : l.Row} {cols : List MysqlOperationDMLColumn}
    (hvalues : columnValues cols = l.decode row) (hpk : l.primaryKey ≠ []) :
    ∃ conditions params, generateConditionAndValues l.primaryKey cols = some (conditions, params) ∧
      params.map Value.toInt? = (l.primaryKey.map UInt64.toNat).map
        (fun i => (l.decode row)[i]?.bind Value.toInt?) := by
  have hlen : cols.length = l.columns.length := by
    have := length_decode row
    rwa [← hvalues, columnValues, List.length_map] at this
  obtain ⟨conds, hconds, -, hmap⟩ := mapM_getElem? cols l.primaryKey
    (fun k hk => by rw [hlen]; exact l.primaryKey_lt k hk)
    (f := fun c => c.columnValue.toInt?)
    (g := fun i => (l.decode row)[i]?.bind Value.toInt?) (by
      intro i c hc
      rw [← hvalues, columnValues, List.getElem?_map, hc]
      rfl)
  have hpos : l.primaryKey.length ≥ 1 := List.length_pos_iff.mpr hpk
  refine ⟨columnNames conds, columnValues conds, ?_, ?_⟩
  · rw [generateConditionAndValues, conditionColumns, if_pos hpos, hconds]
    rfl
  · rw [columnValues, List.map_map, ← hmap]
    rfl

lemma binds_iff {op : Option MysqlOperation} {op' : MysqlOperation} {query : Query}
    (hop : op = some op') (hquery : dmlQuery conf op' = .ok (some query))
    (values : List (Option ℤ)) :
    Binds conf op values ↔ query.params.map Value.toInt? = values := by
  constructor
  · rintro ⟨op'', query', hop'', hquery', hvalues⟩
    cases hop.symm.trans hop''
    cases hquery.symm.trans hquery'
    exact hvalues
  · intro hvalues
    exact ⟨op', query, hop, hquery, hvalues⟩

variable (hconf : conf.replicate.filter database table = true)

include hconf

lemma binds_insert (row : l.Row) (values : List (Option ℤ)) :
    Binds conf (insertOperation (l.tableMap database table) eh (l.decode row)) values ↔
      (l.decode row).map Value.toInt? = values := by
  obtain ⟨cols, hcols, hrepair, hvalues⟩ := IntLayout.columns_decode database table row
  have hop : insertOperation (l.tableMap database table) eh (l.decode row) =
      some (.dmlInsert ⟨database, table, cols, l.primaryKey, eh.timestamp⟩) := by
    rw [insertOperation, hcols]
    rfl
  obtain ⟨query, hquery, hparams⟩ : ∃ query,
      dmlQuery conf (.dmlInsert ⟨database, table, cols, l.primaryKey, eh.timestamp⟩) =
        .ok (some query) ∧ query.params = l.decode row := by
    simp only [dmlQuery, replicateNotExecute, hconf, hrepair, Bool.not_true, Bool.false_eq_true,
      ↓reduceIte]
    refine ⟨_, rfl, ?_⟩
    split_ifs
    · exact hvalues
    · exact hvalues
  rw [binds_iff hop hquery, hparams]

lemma binds_delete (hpk : l.primaryKey ≠ []) (row : l.Row) (values : List (Option ℤ)) :
    Binds conf (deleteOperation (l.tableMap database table) eh (l.decode row)) values ↔
      (l.primaryKey.map UInt64.toNat).map (fun i => (l.decode row)[i]?.bind Value.toInt?) =
        values := by
  obtain ⟨cols, hcols, hrepair, hvalues⟩ :=
    IntLayout.columns_decode database table row
  obtain ⟨conditions, params, hgen, hparams⟩ := IntLayout.condition_decode hvalues hpk
  have hlen : l.primaryKey.length ≠ 0 := List.length_eq_zero_iff.not.mpr hpk
  have hop : deleteOperation (l.tableMap database table) eh (l.decode row) =
      some (.dmlDelete ⟨database, table, cols, l.primaryKey, eh.timestamp⟩) := by
    rw [deleteOperation, hcols]
    rfl
  have hquery : dmlQuery conf (.dmlDelete ⟨database, table, cols, l.primaryKey, eh.timestamp⟩) =
      .ok (some ⟨.delete database table conditions, params⟩) := by
    simp only [dmlQuery, replicateNotExecute, hconf, hrepair, hlen, buildDMLDeleteQuery, hgen,
      Bool.not_true, Bool.false_eq_true, ↓reduceIte, Option.map_some]
  rw [binds_iff hop hquery, hparams]

lemma binds_update (hpk : l.primaryKey ≠ []) (before after : l.Row) (values : List (Option ℤ)) :
    Binds conf (updateOperation (l.tableMap database table) eh (l.decode before) (l.decode after))
        values ↔
      (if conf.dmlModeUpdate = "replace" then (l.decode after).map Value.toInt?
        else (l.decode after).map Value.toInt? ++ (l.primaryKey.map UInt64.toNat).map
          (fun i => (l.decode before)[i]?.bind Value.toInt?)) = values := by
  obtain ⟨beforeCols, hb, hbrepair, hbvalues⟩ :=
    IntLayout.columns_decode database table before
  obtain ⟨afterCols, ha, harepair, havalues⟩ :=
    IntLayout.columns_decode database table after
  obtain ⟨conditions, params, hgen, hparams⟩ := IntLayout.condition_decode hbvalues hpk
  have hlen : l.primaryKey.length ≠ 0 := List.length_eq_zero_iff.not.mpr hpk
  have hop : updateOperation (l.tableMap database table) eh (l.decode before) (l.decode after) =
      some (.dmlUpdate ⟨database, table, afterCols, beforeCols, l.primaryKey, eh.timestamp⟩) := by
    rw [updateOperation, hb, ha]
    rfl
  by_cases hmode : conf.dmlModeUpdate = "replace"
  · have hquery : dmlQuery conf (.dmlUpdate ⟨database, table, afterCols, beforeCols, l.primaryKey,
        eh.timestamp⟩) = .ok (some (buildDMLInsertQueryReplace database table afterCols)) := by
      simp only [dmlQuery, replicateNotExecute, hconf, harepair, hbrepair, hlen, hmode,
        Bool.not_true, Bool.false_eq_true, ↓reduceIte]
    rw [binds_iff hop hquery, if_pos hmode, buildDMLInsertQueryReplace, havalues]
  · have hquery : dmlQuery conf (.dmlUpdate ⟨database, table, afterCols, beforeCols, l.primaryKey,
        eh.timestamp⟩) = .ok (some ⟨.update database table (columnNames afterCols) conditions,
          columnValues afterCols ++ params⟩) := by
      simp only [dmlQuery, replicateNotExecute, hconf, harepair, hbrepair, hlen, hmode,
        buildDMLUpdateQuery, hgen, Bool.not_true, Bool.false_eq_true, ↓reduceIte, Option.map_some]
    rw [binds_iff hop hquery, if_neg hmode, havalues, List.map_append, hparams]

end

/-- Integer values survive the pipeline exactly when the unsigned ones among them are below half
of their column's range. -/
theorem survives_iff {conf : Settings} {database table : String}
    (hconf : conf.replicate.filter database table = true) (eh : EventHeader) (l : IntLayout)
    (before after : l.Row) :
    Survives conf eh database table l before after ↔ l.Fits after ∧ l.KeyFits before := by
  constructor
  · intro h
    refine ⟨?_, ?_⟩
    · rw [← IntLayout.map_toInt?_decode]
      exact (binds_insert hconf after _).mp h.insert
    · by_cases hpk : l.primaryKey = []
      · intro k hk
        rw [hpk] at hk
        simp at hk
      · rw [← IntLayout.map_key_decode]
        exact (binds_delete hconf hpk before _).mp (h.delete hpk)
  · rintro ⟨hafter, hbefore⟩
    rw [← IntLayout.map_toInt?_decode] at hafter
    rw [← IntLayout.map_key_decode] at hbefore
    refine ⟨?_, fun hpk => ?_, fun hpk => ?_⟩
    · exact (binds_insert hconf after _).mpr hafter
    · rw [binds_update hconf hpk, hafter, hbefore]
    · exact (binds_delete hconf hpk before _).mpr hbefore

/-- A table with an unsigned key of 4 bytes and a signed column of 3 bytes. -/
def unsignedKey : IntLayout where
  columns := [⟨"id", .long, true⟩, ⟨"v", .int24, false⟩]
  primaryKey := [0]
  primaryKey_lt := by
    intro k hk
    rw [List.mem_singleton.mp hk]
    decide

/-- A row of the table. -/
def unsignedKeyRow (id v : ℤ) (hid : 0 ≤ id ∧ id < 2 ^ 32) (hv : -2 ^ 23 ≤ v ∧ v < 2 ^ 23) :
    unsignedKey.Row :=
  ⟨[id, v], .cons hid (.cons hv .nil)⟩

theorem survives_small_key :
    Survives Settings.unrestricted ⟨7, "UpdateRowsEventV2", 1, 100⟩ "db" "t" unsignedKey
      (unsignedKeyRow 5 (-3) (by decide) (by decide))
      (unsignedKeyRow 2147483647 8388607 (by decide) (by decide)) := by
  refine (survives_iff (by decide) _ _ _ _).mpr ⟨?_, ?_⟩
  · exact .cons (fun _ => by decide) (.cons (fun _ => by decide) .nil)
  · intro k hk c v hc hv
    rw [List.mem_singleton.mp hk] at hc hv
    cases hc
    cases hv
    exact fun _ => by decide

/-- The key 3000000000 of the source is looked up as -1294967296. -/
theorem not_survives_large_key :
    ¬ Survives Settings.unrestricted ⟨7, "DeleteRowsEventV2", 1, 100⟩ "db" "t" unsignedKey
      (unsignedKeyRow 3000000000 0 (by decide) (by decide))
      (unsignedKeyRow 5 0 (by decide) (by decide)) := by
  intro h
  obtain ⟨op, query, hop, hquery, hvalues⟩ := h.delete (by decide)
  cases hop
  cases hquery
  revert hvalues
  decide

end MysqlSync

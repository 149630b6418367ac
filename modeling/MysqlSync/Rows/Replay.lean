import MysqlSync.Rows.Database
import MysqlSync.Extract.Sends
import MysqlSync.Applier.Basic

/-!
# Row replay

The changes of a rows event go through the extractor's row loops and the applier's statement
builders, and come out as statements. Each statement means on the destination what the change
means on the source (`execOn_insert`, `execOn_delete`, `execOn_update`), so a destination that
equals the source stays equal to it.
-/

namespace MysqlSync

open MysqlApplier BinlogExtract

/-! ### Statements -/

/-- The statement the applier builds for a row change in insert and update mode. -/
def builtQuery : MysqlOperation → Option Query
  | .dmlInsert op => some (buildDMLInsertQuery op.database op.table op.columns)
  | .dmlDelete op =>
    if op.primaryKey.length = 0 then none
    else buildDMLDeleteQuery op.database op.table op.columns op.primaryKey
  | .dmlUpdate op =>
    if op.primaryKey.length = 0 then none
    else buildDMLUpdateQuery op.database op.table op.afterColumns op.beforeColumns op.primaryKey
  | _ => none

/-- What the applier does with a row change in insert and update mode. -/
def onDML (conf : Settings) (env : Env) : MysqlOperation → Action Unit
  | .dmlInsert op => onDMLInsert1 conf env op
  | .dmlDelete op => onDMLDelete conf env op
  | .dmlUpdate op => onDMLUpdate1 conf env op
  | _ => pure ()

lemma onDML_of_builtQuery {op : MysqlOperation} {query : Query} (h : builtQuery op = some query)
    (conf : Settings) (env : Env) :
    onDML conf env op = MysqlClient.executeOnDML conf env query := by
  cases op with
  | dmlInsert op =>
    cases h
    rfl
  | dmlDelete op =>
    rw [builtQuery] at h
    split_ifs at h with hlen
    rw [onDML, onDMLDelete, if_neg hlen, h]
    rfl
  | dmlUpdate op =>
    rw [builtQuery] at h
    split_ifs at h with hlen
    rw [onDML, onDMLUpdate1, if_neg hlen, h]
    rfl
  | _ => simp [builtQuery] at h

/-- What the row statements that an action of the applier executes in an open transaction make of
`a`, read from the log of the action. -/
def afterAction {α : Type} (exec : α → Query → Option α) (a : α) (act : Action Unit) : Option α :=
  match act { newMysqlApplier ⟨∅, "", 0⟩ with tx := true } with
  | (.error _, _) => none
  | (.ok (), ma) => ma.log.foldlM (fun a e => match e with
      | .call (.exec (.dml query)) .ok => exec a query
      | _ => some a) a

lemma afterAction_executeOnDML {α : Type} (exec : α → Query → Option α) (a : α) (conf : Settings)
    (query : Query) :
    afterAction exec a (MysqlClient.executeOnDML conf (fun _ _ => .ok) query) = exec a query := by
  have hexec : MysqlClient.executeOnDML conf (fun _ _ => .ok) query
      { newMysqlApplier ⟨∅, "", 0⟩ with tx := true } =
        (.ok (), { newMysqlApplier ⟨∅, "", 0⟩ with
          tx := true, log := [.call (.exec (.dml query)) .ok] }) := rfl
  rw [afterAction, hexec]
  exact bind_pure _

/-! ### Columns -/

/-- The table map of an event describes a table. -/
structure Schema.Describes (s : Schema) (table : TableMapEvent) : Prop where
  columnCount : table.columnCount = s.width
  columnName : table.columnName = s.columns
  columnType : table.columnType.length = s.width
  primaryKey : table.primaryKey = s.primaryKey

/-- The loop over the columns of a row that has all of them. -/
lemma mapM_range {α : Type} {f : ℕ → Option α} {n : ℕ} (h : ∀ i < n, (f i).isSome = true) :
    ∃ l, (List.range n).mapM f = some l ∧ l.length = n ∧ ∀ i < n, l[i]? = f i := by
  induction n with
  | zero => exact ⟨[], rfl, rfl, fun i hi => absurd hi (Nat.not_lt_zero i)⟩
  | succ n ih =>
    obtain ⟨l, hl, hlen, hget⟩ := ih fun i hi => h i (Nat.lt_succ_of_lt hi)
    obtain ⟨a, ha⟩ := Option.isSome_iff_exists.mp (h n (Nat.lt_succ_self n))
    refine ⟨l ++ [a], ?_, by simp [hlen], fun i hi => ?_⟩
    · rw [List.range_succ, List.mapM_append, hl]
      simp [ha]
    · rcases Nat.lt_succ_iff_lt_or_eq.mp hi with hi | rfl
      · rw [List.getElem?_append_left (by omega), hget i hi]
      · rw [ha, ← hlen]
        simp

section

variable {s : Schema} {table : TableMapEvent} {row : List Value}

lemma column_eq {i : ℕ} {name : String} {type : UInt8} {value : Value}
    (hname : table.columnName[i]? = some name) (htype : table.columnType[i]? = some type)
    (hvalue : row[i]? = some value) :
    column table row i = some ⟨name, type, value, value = .nil⟩ := by
  simp [column, hname, htype, hvalue]

variable (table row) in
/-- The columns of a full row image carry the names and types of the table map and the values of
the row. -/
lemma columns_eq (hname : table.columnName.length = table.columnCount)
    (htype : table.columnType.length = table.columnCount) (hrow : row.length = table.columnCount) :
    ∃ cols, columns table row = some cols ∧ columnNames cols = table.columnName ∧
      cols.map (·.columnType) = table.columnType ∧ columnValues cols = row := by
  have hcol : ∀ i < table.columnCount, ∃ name type value, table.columnName[i]? = some name ∧
      table.columnType[i]? = some type ∧ row[i]? = some value ∧
      column table row i = some ⟨name, type, value, value = .nil⟩ := by
    intro i hi
    obtain ⟨name, hname⟩ : ∃ name, table.columnName[i]? = some name :=
      ⟨_, List.getElem?_eq_getElem (by rw [hname]; exact hi)⟩
    obtain ⟨type, htype⟩ : ∃ type, table.columnType[i]? = some type :=
      ⟨_, List.getElem?_eq_getElem (by rw [htype]; exact hi)⟩
    obtain ⟨value, hvalue⟩ : ∃ value, row[i]? = some value :=
      ⟨_, List.getElem?_eq_getElem (by rw [hrow]; exact hi)⟩
    exact ⟨name, type, value, hname, htype, hvalue, column_eq hname htype hvalue⟩
  obtain ⟨cols, hcols, hlen, hget⟩ := mapM_range (f := column table row) (n := table.columnCount) (by
    intro i hi
    obtain ⟨name, type, value, -, -, -, hc⟩ := hcol i hi
    rw [hc]
    rfl)
  -- a field of the columns is the list it was read from
  have hfield {β : Type} (f : MysqlOperationDMLColumn → β) {l : List β}
      (hl : l.length = table.columnCount)
      (hf : ∀ i < table.columnCount, (column table row i).map f = l[i]?) : cols.map f = l := by
    apply List.ext_getElem?
    intro i
    rw [List.getElem?_map]
    by_cases hi : i < table.columnCount
    · rw [hget i hi, hf i hi]
    · rw [List.getElem?_eq_none (by omega), List.getElem?_eq_none (by omega)]
      rfl
  refine ⟨cols, hcols, hfield _ hname ?_, hfield _ htype ?_, hfield _ hrow ?_⟩
  · intro i hi
    obtain ⟨name, type, value, hname, -, -, hc⟩ := hcol i hi
    rw [hc, hname]
    rfl
  · intro i hi
    obtain ⟨name, type, value, -, htype, -, hc⟩ := hcol i hi
    rw [hc, htype]
    rfl
  · intro i hi
    obtain ⟨name, type, value, -, -, hvalue, hc⟩ := hcol i hi
    rw [hc, hvalue]
    rfl

lemma Schema.Describes.columns_eq (h : s.Describes table) (hrow : row.length = s.width) :
    ∃ cols, BinlogExtract.columns table row = some cols ∧ columnNames cols = s.columns ∧
      columnValues cols = row := by
  obtain ⟨cols, hcols, hnames, -, hvalues⟩ := MysqlSync.columns_eq table row
    (by rw [h.columnName, h.columnCount]; rfl) (by rw [h.columnType, h.columnCount])
    (by rw [hrow, h.columnCount])
  exact ⟨cols, hcols, hnames.trans h.columnName, hvalues⟩

/-- The columns of a condition are those at the positions of the primary key. -/
lemma mapM_getElem? (cols : List MysqlOperationDMLColumn) (pk : List UInt64)
    (hlt : ∀ k ∈ pk, k.toNat < cols.length) {β : Type} {f : MysqlOperationDMLColumn → β}
    {g : ℕ → β} (hfg : ∀ i c, cols[i]? = some c → f c = g i) :
    ∃ conds, (pk.mapM fun k => cols[k.toNat]?) = some conds ∧ conds ⊆ cols ∧
      conds.map f = (pk.map UInt64.toNat).map g := by
  induction pk with
  | nil => exact ⟨[], rfl, List.nil_subset cols, rfl⟩
  | cons k pk ih =>
    obtain ⟨conds, hconds, hsub, hmap⟩ := ih fun k' hk' => hlt k' (List.mem_cons_of_mem _ hk')
    obtain ⟨c, hc⟩ : ∃ c, cols[k.toNat]? = some c :=
      ⟨_, List.getElem?_eq_getElem (hlt k List.mem_cons_self)⟩
    refine ⟨c :: conds, ?_, ?_, ?_⟩
    · rw [List.mapM_cons, hc, hconds]
      rfl
    · exact List.cons_subset.mpr ⟨List.mem_of_getElem? hc, hsub⟩
    · rw [List.map_cons, hfg _ _ hc, hmap, List.map_cons, List.map_cons]

/-- The condition the applier builds from a full row image singles out the key of the row. -/
lemma generateConditionAndValues_eq {cols : List MysqlOperationDMLColumn}
    (hnames : columnNames cols = s.columns) (hvalues : columnValues cols = row) :
    ∃ conditions params, generateConditionAndValues s.primaryKey cols = some (conditions, params) ∧
      (∀ c ∈ conditions, c ∈ s.columns) ∧ params.length = conditions.length ∧
      ∀ (row' : Row s.width), s.holds (conditions.zip params) row' = true ↔
        s.key row' = (s.primaryKey.map UInt64.toNat).map (row[·]?) := by
  have hlen : cols.length = s.columns.length := by
    rw [← hnames, columnNames, List.length_map]
  have hget : ∀ i c, cols[i]? = some c →
      (s.columns.idxOf c.columnName, some c.columnValue) = (i, row[i]?) := by
    intro i c hc
    have hi : i < s.columns.length := by
      rw [← hlen]
      exact (List.getElem?_eq_some_iff.mp hc).1
    have hname : s.columns[i]? = some c.columnName := by
      rw [← hnames, columnNames, List.getElem?_map, hc]
      rfl
    have hvalue : row[i]? = some c.columnValue := by
      rw [← hvalues, columnValues, List.getElem?_map, hc]
      rfl
    obtain ⟨_, hname⟩ := List.getElem?_eq_some_iff.mp hname
    rw [hvalue, ← hname, s.columns_nodup.idxOf_getElem i hi]
  obtain ⟨conds, hconds, hsub, hmap⟩ := mapM_getElem? cols s.primaryKey
    (fun k hk => by rw [hlen]; exact s.primaryKey_lt k hk) hget
  have hpos : s.primaryKey.length ≥ 1 := List.length_pos_iff.mpr s.primaryKey_ne_nil
  refine ⟨columnNames conds, columnValues conds, ?_, ?_, ?_, fun row' => ?_⟩
  · rw [generateConditionAndValues, conditionColumns, if_pos hpos, hconds]
    rfl
  · intro c hc
    obtain ⟨col, hcol, rfl⟩ := List.mem_map.mp hc
    rw [← hnames]
    exact List.mem_map_of_mem (hsub hcol)
  · rw [columnNames, columnValues, List.length_map, List.length_map]
  · rw [Schema.holds, decide_eq_true_iff]
    apply Columns.holds_iff_map_eq
    rw [columnNames, columnValues, List.zip_map', List.map_map, ← hmap]
    rfl

end

/-! ### One change -/

section

variable {t t' : Table} {cols beforeCols afterCols : List MysqlOperationDMLColumn}
  {row before after : List Value} {databaseName tableName : String}

lemma Schema.set_zip {s : Schema} {row : Row s.width} {after : List Value}
    (h : after.length = s.width) : s.set (s.columns.zip after) row = ⟨after, h⟩ :=
  Subtype.ext (Columns.assign_zip s.columns_nodup row.2 h)

lemma Schema.names_columns (s : Schema) : s.Names s.columns :=
  ⟨s.columns_nodup, fun _ hc => hc⟩

/-- An `INSERT` of a full row image inserts that row. -/
lemma execOn_insert (hnames : columnNames cols = t.schema.columns)
    (hvalues : columnValues cols = row) (hrow : row.length = t.schema.width) :
    (buildDMLInsertQuery databaseName tableName cols).sql.execOn
      (buildDMLInsertQuery databaseName tableName cols).params t = t.apply (.insert row) := by
  have hlen : t.schema.columns.length = cols.length := by
    rw [← hnames, columnNames, List.length_map]
  have hlen' : row.length = cols.length := hrow.trans hlen
  rw [buildDMLInsertQuery, hnames, hvalues, Table.apply, dif_pos hrow]
  simp only [Sql.execOn]
  rw [if_pos ⟨t.schema.names_columns, hlen, hlen'⟩, Schema.inserted, Schema.set_zip hrow]

variable (databaseName tableName) in
/-- A `DELETE` by the key of a row of the table deletes that row. -/
lemma execOn_delete (hnames : columnNames cols = t.schema.columns)
    (hvalues : columnValues cols = row) (h : t.apply (.delete row) = some t') :
    ∃ query, buildDMLDeleteQuery databaseName tableName cols t.schema.primaryKey = some query ∧
      query.sql.name = (databaseName, tableName) ∧
      query.sql.execOn query.params t = some t' := by
  rw [Table.apply] at h
  split_ifs at h with hrow hmem
  obtain ⟨conditions, params, hgen, hcols, hlen, hholds⟩ :=
    generateConditionAndValues_eq hnames hvalues
  refine ⟨⟨.delete databaseName tableName conditions, params⟩, ?_, rfl, ?_⟩
  · rw [buildDMLDeleteQuery, hgen]
    rfl
  · simp only [Sql.execOn]
    rw [if_pos ⟨hcols, hlen⟩, ← h,
      KeyedTable.deleteWhere_eq_erase hmem fun row' _ => hholds row']

variable (databaseName tableName) in
/-- An `UPDATE` by the key of a row of the table puts the after image in its place. -/
lemma execOn_update (hbefore : columnNames beforeCols = t.schema.columns)
    (hbefore' : columnValues beforeCols = before) (hafter : columnNames afterCols = t.schema.columns)
    (hafter' : columnValues afterCols = after) (h : t.apply (.update before after) = some t') :
    ∃ query, buildDMLUpdateQuery databaseName tableName afterCols beforeCols
        t.schema.primaryKey = some query ∧
      query.sql.name = (databaseName, tableName) ∧
      query.sql.execOn query.params t = some t' := by
  rw [Table.apply] at h
  split_ifs at h with hrow hmem
  obtain ⟨conditions, params, hgen, hcols, hlen, hholds⟩ :=
    generateConditionAndValues_eq hbefore hbefore'
  refine ⟨⟨.update databaseName tableName t.schema.columns conditions, after ++ params⟩, ?_, rfl,
    ?_⟩
  · rw [buildDMLUpdateQuery, hgen, hafter, hafter']
    rfl
  · have hset : (after ++ params).take t.schema.columns.length = after :=
      List.take_left' hrow.2
    have hwhere : (after ++ params).drop t.schema.columns.length = params :=
      List.drop_left' hrow.2
    have hcount : (after ++ params).length = t.schema.columns.length + conditions.length := by
      rw [List.length_append, hlen, hrow.2]
      rfl
    simp only [Sql.execOn]
    rw [if_pos ⟨t.schema.names_columns, hcols, hcount⟩, hset, hwhere, ← h,
      KeyedTable.updateWhere_eq_move hmem (fun row' _ => hholds row') (Schema.set_zip hrow.2)]

end

/-- The operation the extractor sends for a change. -/
def changeOperation (table : TableMapEvent) (eh : EventHeader) : RowChange → Option MysqlOperation
  | .insert row => insertOperation table eh row
  | .update before after => updateOperation table eh before after
  | .delete row => deleteOperation table eh row

/-- A change and the statement it is turned into do the same to a table. -/
lemma exists_query_of_apply {t t' : Table} {table : TableMapEvent} {c : RowChange}
    (hdesc : t.schema.Describes table) (h : t.apply c = some t') (eh : EventHeader) :
    ∃ op query, changeOperation table eh c = some op ∧ builtQuery op = some query ∧
      query.sql.name = (table.schema, table.table) ∧ query.sql.execOn query.params t = some t' := by
  have hpk : ¬ table.primaryKey.length = 0 := by
    rw [hdesc.primaryKey, List.length_eq_zero_iff]
    exact t.schema.primaryKey_ne_nil
  cases c with
  | insert row =>
    have hrow : row.length = t.schema.width := by
      rw [Table.apply] at h
      split_ifs at h with hrow
      exact hrow
    obtain ⟨cols, hcols, hnames, hvalues⟩ := hdesc.columns_eq hrow
    refine ⟨_, _, by rw [changeOperation, insertOperation, hcols]; rfl, rfl, rfl, ?_⟩
    exact (execOn_insert hnames hvalues hrow).trans h
  | update before after =>
    have hrow : before.length = t.schema.width ∧ after.length = t.schema.width := by
      rw [Table.apply] at h
      split_ifs at h with hrow
      exact hrow
    obtain ⟨beforeCols, hb, hbnames, hbvalues⟩ := hdesc.columns_eq hrow.1
    obtain ⟨afterCols, ha, hanames, havalues⟩ := hdesc.columns_eq hrow.2
    obtain ⟨query, hquery, hname, hexec⟩ := execOn_update table.schema table.table
      hbnames hbvalues hanames havalues h
    refine ⟨_, query, by rw [changeOperation, updateOperation, hb, ha]; rfl, ?_, hname, hexec⟩
    rw [← hdesc.primaryKey] at hquery
    exact (if_neg hpk).trans hquery
  | delete row =>
    have hrow : row.length = t.schema.width := by
      rw [Table.apply] at h
      split_ifs at h with hrow
      exact hrow
    obtain ⟨cols, hcols, hnames, hvalues⟩ := hdesc.columns_eq hrow
    obtain ⟨query, hquery, hname, hexec⟩ := execOn_delete table.schema table.table
      hnames hvalues h
    refine ⟨_, query, by rw [changeOperation, deleteOperation, hcols]; rfl, ?_, hname, hexec⟩
    rw [← hdesc.primaryKey] at hquery
    exact (if_neg hpk).trans hquery

/-! ### Whole events -/

/-- The schema of a table of the database. -/
def Database.schema (db : Database) (name : String × String) : Option Schema :=
  (db.lookup name).map Table.schema

section

variable {db db' : Database} {name : String × String} {table : TableMapEvent} {s : Schema}

lemma Database.modify_eq_some {f : Table → Option Table} (h : db.modify name f = some db') :
    ∃ t t', db.lookup name = some t ∧ f t = some t' ∧ db' = db.insert name t' := by
  obtain ⟨t, ht, h⟩ := Option.bind_eq_some_iff.mp h
  obtain ⟨t', ht', rfl⟩ := Option.map_eq_some_iff.mp h
  exact ⟨t, t', ht, ht', rfl⟩

lemma Table.schema_change {t t' : Table} {contents : Option (KeyedTable t.schema.key)}
    (h : t.change contents = some t') : t'.schema = t.schema := by
  obtain ⟨contents', -, rfl⟩ := Option.map_eq_some_iff.mp h
  rfl

lemma Table.schema_apply {t t' : Table} {c : RowChange} (h : t.apply c = some t') :
    t'.schema = t.schema := by
  cases c with
  | insert row =>
    rw [Table.apply] at h
    split_ifs at h
    exact Table.schema_change h
  | update before after =>
    rw [Table.apply] at h
    split_ifs at h
    exact Table.schema_change h
  | delete row =>
    rw [Table.apply] at h
    split_ifs at h
    exact Table.schema_change h

/-- Row changes do not change schemas. -/
lemma Database.schema_insert {t t' : Table} (ht : db.lookup name = some t)
    (hs : t'.schema = t.schema) (name' : String × String) :
    Database.schema (db.insert name t') name' = Database.schema db name' := by
  by_cases hname : name' = name
  · subst hname
    simp [Database.schema, ht, hs]
  · simp [Database.schema, Finmap.lookup_insert_of_ne _ hname]

/-- The statements of a list of changes of one table. -/
lemma exists_queries_of_applyAll {changes : List RowChange} (hdesc : s.Describes table)
    (hs : Database.schema db (table.schema, table.table) = some s)
    (h : db.applyAll (table.schema, table.table) changes = some db') (eh : EventHeader) :
    ∃ ops queries, changes.mapM (changeOperation table eh) = some ops ∧
      ops.mapM builtQuery = some queries ∧ queries.foldlM Database.exec db = some db' ∧
      ∀ name, Database.schema db' name = Database.schema db name := by
  induction changes generalizing db with
  | nil =>
    cases h
    exact ⟨[], [], rfl, rfl, rfl, fun _ => rfl⟩
  | cons c changes ih =>
    rw [Database.applyAll, List.foldlM_cons] at h
    obtain ⟨db₁, h₁, h⟩ := Option.bind_eq_some_iff.mp h
    obtain ⟨t, t', ht, happly, rfl⟩ := Database.modify_eq_some h₁
    have hschema : t.schema = s := by
      rw [Database.schema, ht] at hs
      exact Option.some.inj hs
    subst hschema
    obtain ⟨op, query, hop, hquery, hname, hexec⟩ := exists_query_of_apply hdesc happly eh
    have hsame := Database.schema_insert ht (Table.schema_apply happly)
    obtain ⟨ops, queries, hops, hqueries, hrun, hsame'⟩ :=
      ih ((hsame _).trans hs) h
    refine ⟨op :: ops, query :: queries, ?_, ?_, ?_, fun name => (hsame' name).trans (hsame name)⟩
    · rw [List.mapM_cons, hop, hops]
      rfl
    · rw [List.mapM_cons, hquery, hqueries]
      rfl
    · have hstep : db.exec query = some (db.insert (table.schema, table.table) t') := by
        rw [Database.exec, hname, Database.modify, ht, Option.bind_some, hexec]
        rfl
      rw [List.foldlM_cons, hstep]
      exact hrun

end

lemma updateOperations_eq (table : TableMapEvent) (eh : EventHeader) {rows : List (List Value)}
    {changes : List RowChange} (h : updateChanges rows = some changes) :
    updateOperations table eh rows = changes.mapM (changeOperation table eh) := by
  induction rows using updateChanges.induct generalizing changes with
  | case1 =>
    cases h
    rfl
  | case2 row => simp [updateChanges] at h
  | case3 before after rows ih =>
    rw [updateChanges] at h
    obtain ⟨changes', hchanges', rfl⟩ := Option.map_eq_some_iff.mp h
    rw [updateOperations, ih hchanges', List.mapM_cons, changeOperation]
    cases updateOperation table eh before after with
    | none => rfl
    | some op => cases changes'.mapM (changeOperation table eh) <;> rfl

/-- The extractor sends one operation for each change, in order. -/
lemma rowsOperations_eq {type : RowsEventType} {e : RowsEvent} {changes : List RowChange}
    (h : eventChanges type e = some changes) (eh : EventHeader) :
    rowsOperations type e eh = changes.mapM (changeOperation e.table eh) := by
  cases type with
  | write =>
    cases h
    rw [rowsOperations, List.mapM_map]
    rfl
  | update => exact updateOperations_eq e.table eh h
  | delete =>
    cases h
    rw [rowsOperations, List.mapM_map]
    rfl
  | other => simp [eventChanges] at h

/-- The table an event is about. -/
def tableOf (ev : EventHeader × RowsEventType × RowsEvent) : String × String :=
  (ev.2.2.table.schema, ev.2.2.table.table)

/-- What the extractor does with a rows event. -/
def handleRows (ev : EventHeader × RowsEventType × RowsEvent) : Extraction Unit :=
  handleEventRows ev.2.1 ev.2.2 ev.1

lemma forall₂_executeOnDML (conf : Settings) (env : Env) {ops : List MysqlOperation}
    {queries : List Query} (h : ops.mapM builtQuery = some queries) :
    List.Forall₂ (fun op query => onDML conf env op = MysqlClient.executeOnDML conf env query)
      ops queries := by
  induction ops generalizing queries with
  | nil =>
    cases h
    exact .nil
  | cons op ops ih =>
    rw [List.mapM_cons] at h
    obtain ⟨query, hquery, h⟩ := Option.bind_eq_some_iff.mp h
    obtain ⟨queries', hqueries', h⟩ := Option.bind_eq_some_iff.mp h
    cases h
    exact .cons (onDML_of_builtQuery hquery conf env) (ih hqueries')

/-- The log of the applier has the statements that are built. -/
lemma foldlM_afterAction {conf : Settings} {ops : List MysqlOperation} {queries : List Query}
    (h : List.Forall₂ (fun op query => onDML conf (fun _ _ => .ok) op =
      MysqlClient.executeOnDML conf (fun _ _ => .ok) query) ops queries) (db : Database) :
    ops.foldlM (fun db op => afterAction Database.exec db (onDML conf (fun _ _ => .ok) op)) db =
      queries.foldlM Database.exec db := by
  induction h generalizing db with
  | nil => rfl
  | cons hop _ ih =>
    rw [List.foldlM_cons, List.foldlM_cons, hop, afterAction_executeOnDML]
    exact congrArg _ (funext ih)

lemma exists_queries_of_source {db db' : Database}
    {events : List (EventHeader × RowsEventType × RowsEvent)}
    (hdesc : ∀ ev ∈ events, ∃ s, Database.schema db (tableOf ev) = some s ∧
      s.Describes ev.2.2.table)
    (h : events.foldlM Database.source db = some db') :
    ∃ ops queries, sentByAll (fun ev => rowsOperations ev.2.1 ev.2.2 ev.1) events = some ops ∧
      ops.mapM builtQuery = some queries ∧ queries.foldlM Database.exec db = some db' := by
  induction events generalizing db with
  | nil =>
    cases h
    exact ⟨[], [], rfl, rfl, rfl⟩
  | cons ev events ih =>
    rw [List.foldlM_cons] at h
    obtain ⟨db₁, h₁, h⟩ := Option.bind_eq_some_iff.mp h
    obtain ⟨changes, hchanges, h₁⟩ := Option.bind_eq_some_iff.mp h₁
    obtain ⟨s, hs, hev⟩ := hdesc ev List.mem_cons_self
    obtain ⟨ops₁, queries₁, hops₁, hqueries₁, hrun₁, hsame⟩ :=
      exists_queries_of_applyAll hev hs h₁ ev.1
    have hdesc₁ : ∀ ev' ∈ events, ∃ s, Database.schema db₁ (tableOf ev') = some s ∧
        s.Describes ev'.2.2.table := by
      intro ev' hev'
      obtain ⟨s', hs', hev''⟩ := hdesc ev' (List.mem_cons_of_mem _ hev')
      exact ⟨s', (hsame _).trans hs', hev''⟩
    obtain ⟨ops₂, queries₂, hops₂, hqueries₂, hrun₂⟩ := ih hdesc₁ h
    refine ⟨ops₁ ++ ops₂, queries₁ ++ queries₂, ?_, ?_, ?_⟩
    · rw [sentByAll, rowsOperations_eq hchanges, hops₁, hops₂]
      rfl
    · rw [List.mapM_append, hqueries₁, hqueries₂]
      rfl
    · rw [List.foldlM_append, hrun₁]
      exact hrun₂

/-- Row replay keeps the destination equal to the source. For every sequence of rows events whose
changes are valid on the source, the extractor sends operations, and executing in order the
statements the applier builds from them, which are those in its log, takes a destination equal to
the source before the events to one that is equal to it after them. -/
theorem replay_eq_source (conf : Settings) (env : Env) {db db' : Database}
    {events : List (EventHeader × RowsEventType × RowsEvent)}
    (hdesc : ∀ ev ∈ events, ∃ s, Database.schema db (tableOf ev) = some s ∧
      s.Describes ev.2.2.table)
    (hsource : events.foldlM Database.source db = some db') :
    ∃ ops queries,
      (∀ bext, Prog.forEach handleRows events bext = (.ok (), bext.send ops)) ∧
      List.Forall₂ (fun op query => onDML conf env op = MysqlClient.executeOnDML conf env query)
        ops queries ∧
      queries.foldlM Database.exec db = some db' ∧
      ops.foldlM (fun db op => afterAction Database.exec db (onDML conf (fun _ _ => .ok) op)) db =
        some db' := by
  obtain ⟨ops, queries, hops, hqueries, hrun⟩ := exists_queries_of_source hdesc hsource
  refine ⟨ops, queries, ?_, forall₂_executeOnDML conf env hqueries, hrun,
    (foldlM_afterAction (forall₂_executeOnDML conf _ hqueries) db).trans hrun⟩
  have hsends : Sends (Prog.forEach handleRows events)
      (sentByAll (fun ev => rowsOperations ev.2.1 ev.2.2 ev.1) events) :=
    Sends.forEach (f := handleRows) (fun ev => sends_handleEventRows ev.2.2 ev.1 ev.2.1) events
  rw [hops] at hsends
  exact hsends

/-- A table of two columns, the first of which is its key. -/
def pairs : Schema where
  columns := ["id", "v"]
  columns_nodup := by decide
  primaryKey := [0]
  primaryKey_ne_nil := by decide
  primaryKey_lt := by
    intro k hk
    rw [List.mem_singleton.mp hk]
    decide

/-- A row is inserted and then moved to another key. -/
def insertThenMove : List (EventHeader × RowsEventType × RowsEvent) :=
  [(⟨7, "WriteRowsEventV2", 1, 100⟩, .write,
      ⟨⟨"db", "t", 2, [3, 3], ["id", "v"], [0]⟩, [[.int32 1, .int32 10]]⟩),
   (⟨7, "UpdateRowsEventV2", 1, 200⟩, .update,
      ⟨⟨"db", "t", 2, [3, 3], ["id", "v"], [0]⟩, [[.int32 1, .int32 10], [.int32 2, .int32 20]]⟩)]

theorem replay_eq_source_insertThenMove :
    ∃ ops queries db',
      (∀ bext, Prog.forEach handleRows insertThenMove bext = (.ok (), bext.send ops)) ∧
      List.Forall₂ (fun op query => onDML Settings.unrestricted (fun _ _ => .ok) op =
        MysqlClient.executeOnDML Settings.unrestricted (fun _ _ => .ok) query) ops queries ∧
      queries.foldlM Database.exec (Finmap.singleton ("db", "t") ⟨pairs, ⟨∅, by simp⟩⟩) =
        some db' ∧
      ops.foldlM (fun db op =>
          afterAction Database.exec db (onDML Settings.unrestricted (fun _ _ => .ok) op))
        (Finmap.singleton ("db", "t") ⟨pairs, ⟨∅, by simp⟩⟩) = some db' ∧
      insertThenMove.foldlM Database.source
        (Finmap.singleton ("db", "t") ⟨pairs, ⟨∅, by simp⟩⟩) = some db' := by
  have hsource : ∃ db', insertThenMove.foldlM Database.source
      (Finmap.singleton ("db", "t") ⟨pairs, ⟨∅, by simp⟩⟩) = some db' :=
    ⟨_, rfl⟩
  obtain ⟨db', hsource⟩ := hsource
  obtain ⟨ops, queries, hsent, hbuilt, hrun, hlog⟩ :=
    replay_eq_source Settings.unrestricted (fun _ _ => .ok) (fun ev hev => by
      refine ⟨pairs, ?_, ?_⟩
      · simp only [insertThenMove, List.mem_cons, List.not_mem_nil, or_false] at hev
        rcases hev with rfl | rfl
        · rfl
        · rfl
      · simp only [insertThenMove, List.mem_cons, List.not_mem_nil, or_false] at hev
        rcases hev with rfl | rfl
        · exact ⟨rfl, rfl, rfl, rfl⟩
        · exact ⟨rfl, rfl, rfl, rfl⟩) hsource
  exact ⟨ops, queries, db', hsent, hbuilt, hrun, hlog, hsource⟩

end MysqlSync

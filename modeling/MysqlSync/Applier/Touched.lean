import MysqlSync.Applier.Filtering
import MysqlSync.Applier.SqlText
import MysqlSync.Applier.Writes
import MysqlSync.Extract.Sends

/-!
# The tables the destination's statements touch

The filter is asked about the one table that the extractor attached to an operation, while the
destination executes texts. A row statement is read token by token, any other statement by the
parser, and a name without a database stands for a table of the database that the text of the
`USE` before the statement is read as (`Statement.MayTouch`). A `RENAME` also names the new table,
an `ALTER` the tables of its specs, and names are put into texts as they are: every table touched
passes the filter if the stream happens to name none that does not, and nothing that is read as
something else (`BinlogEvent.Contained`). A `DROP DATABASE` names no table and is left out.
-/

namespace MysqlSync

open MysqlApplier SqlLexer

/-! ### What a statement touches -/

/-- The tables a statement creates, renames, drops, alters or truncates. Statements on databases
and users name no table. -/
def StmtNode.tables : StmtNode → List TableName
  | .renameTable tableToTables => tableToTables.flatMap fun tab => [tab.oldTable, tab.newTable]
  | .alterTable table newTables => table :: newTables
  | .dropTable tables => tables
  | .createTable table | .truncateTable table | .dropIndex table | .createIndex table => [table]
  | _ => []

/-- The schema context of the `USE` in the open transaction, if there is one. -/
def Event.useAfter (used : Option String) : Event → Option String
  | .call .begin _ => none
  | .call (.exec (.use schemaContext)) .ok => some schemaContext
  | _ => used

def usedContext (log : List Event) : Option String := log.foldl Event.useAfter none

section

variable (reserved : String → Bool)

/-- The connection may be in the database: it is the one that the text of the `USE` is read as.
Without a `USE`, or with one that is not read as such, it may be any. -/
def MayBeIn (used : Option String) (database : String) : Prop :=
  (∃ ctx, used = some ctx ∧ ReadsText reserved ("USE " ++ ctx) (.use database)) ∨
    ∀ ctx database', used = some ctx → ¬ ReadsText reserved ("USE " ++ ctx) (.use database')

/-- The table may be the one a name stands for. -/
def TableName.MayBe (used : Option String) (tab : TableName) (t : String × String) : Prop :=
  (if tab.schema = "" then MayBeIn reserved used t.1 else t.1 = tab.schema) ∧ t.2 = tab.name

/-- The statement may create, rename, drop, alter or write the table: it is read as one that does,
or its text is not read at all. A text is one statement, and one that sets up the session or begins
with `USE` touches no table, whatever database it selects. -/
def Statement.MayTouch (parse : String → Option (List StmtNode)) (used : Option String)
    (t : String × String) : Statement → Prop
  | .dml query =>
    (∃ reading, ReadsText reserved query.sql.text reading ∧ t ∈ reading.tables) ∨
      ∀ reading, ¬ ReadsText reserved query.sql.text reading
  | .nonDML query =>
    (∃ stmts, parse query = some stmts ∧
      ∃ stmt ∈ stmts, ∃ tab ∈ stmt.tables, tab.MayBe reserved used t) ∨ parse query = none
  | .setSession _ _ | .use _ => False

/-- Every table that a statement sent to the destination may touch passes the filter. -/
def Untouched (rf : Replicate) (parse : String → Option (List StmtNode)) (log : List Event) :
    Prop :=
  ∀ before st r, before ++ [.call (.exec st) r] <+: log →
    ∀ t, st.MayTouch reserved parse (usedContext before) t → rf.filter t.1 t.2 = true

end

/-! ### Statements, their operations and the database they are sent in -/

section

variable {conf : Settings} {env : Env} {ckpt : Checkpoint} {ma : MysqlApplier} {x : Ending}
  {op : MysqlOperation}

/-- Every event appended to the log of `ma` is `P` of the events before it. -/
def EmitsIn (P : List Event → Event → Prop) (ma : MysqlApplier) (x : Ending) : Prop :=
  ∃ l, x.2.log = ma.log ++ l ∧ Trace.Each P ma.log l

variable {P : List Event → Event → Prop}

lemma EmitsIn.trans {y : Ending} (h : EmitsIn P ma x) (h' : EmitsIn P x.2 y) : EmitsIn P ma y := by
  obtain ⟨l, hl, heach⟩ := h
  obtain ⟨l', hl', heach'⟩ := h'
  refine ⟨l ++ l', by rw [hl', hl, List.append_assoc], Trace.each_append.mpr ⟨heach, ?_⟩⟩
  rwa [← hl]

lemma Emits.emitsIn {Q : Event → Prop} (h : Emits Q ma x) (hQ : ∀ e, Q e → ∀ log, P log e) :
    EmitsIn P ma x := by
  obtain ⟨l, hl, hev⟩ := h
  exact ⟨l, hl, Trace.each_of_forall fun e he log => hQ e (hev e he) log⟩

variable (conf op) in
/-- A data statement is that of the operation, sent after the `USE` of its schema context. -/
def InContext (before : List Event) (e : Event) : Prop :=
  ∀ st r, e = .call (.exec st) r → st.isData = true →
    MysqlApplier.statement conf op = .ok (some st) ∧
      ∀ ctx query, nonDMLQuery conf op = some (ctx, query) → ctx ≠ "" →
        usedContext before = some ctx

lemma inContext_of_not_exec {e : Event}
    (h : ∀ st r, e = .call (.exec st) r → st.isData = false) (before : List Event) :
    InContext conf op before e := by
  intro st r he hst
  rw [h st r he] at hst
  cases hst

lemma inContext_of_isFrame {e : Event} (h : e.isFrame = true) (before : List Event) :
    InContext conf op before e := by
  refine inContext_of_not_exec (fun st r he => ?_) before
  subst he
  simpa [Event.isFrame] using h

/-- A row change has no schema context. -/
lemma Emitted.inContext {e : Event} (hq : nonDMLQuery conf op = none)
    (h : Emitted conf op ckpt e) (before : List Event) : InContext conf op before e := by
  cases h with
  | frame h => exact inContext_of_isFrame h before
  | exec r hst =>
    intro st' r' he _
    cases he
    exact ⟨hst, fun ctx query hquery => by simp [hq] at hquery⟩
  | putGtidsets r | putBinlogpos r => exact inContext_of_not_exec (by simp) before

lemma usedContext_openEvents {ctx : String} (hctx : ctx ≠ "") (before : List Event) :
    usedContext (before ++ MysqlClient.openEvents conf ctx) = some ctx := by
  rw [MysqlClient.openEvents, MysqlClient.useEvents, if_neg hctx, usedContext, List.foldl_append,
    List.foldl_append]
  rfl

lemma emitsIn_of_executedNonDML {ctx query : String}
    (hq : nonDMLQuery conf op = some (ctx, query))
    (h : MysqlClient.ExecutedNonDML conf env ctx query ma x) :
    EmitsIn (InContext conf op) ma x := by
  have hst := statement_of_nonDMLQuery conf hq
  have hexec (r : Reply) (e : Event) (he : e.isFrame = true) :
      Trace.Each (InContext conf op) ma.log
        (MysqlClient.openEvents conf ctx ++ [Event.call (.exec (.nonDML query)) r, e]) := by
    refine Trace.each_append.mpr ⟨?_, ?_, inContext_of_isFrame he _, trivial⟩
    · exact Trace.each_of_forall fun e he => inContext_of_isFrame (isFrame_openEvents ctx e he)
    · intro st r' heq _
      cases heq
      refine ⟨hst, fun ctx' query' hquery hctx => ?_⟩
      cases hq.symm.trans hquery
      exact usedContext_openEvents hctx _
  cases h with
  | ok htx r hr result =>
    subst result
    exact ⟨_, rfl, hexec r _ rfl⟩
  | began e ma' hb result =>
    subst result
    exact (emits_of_began hb).emitsIn fun e he => inContext_of_isFrame he
  | use htx r hr henv e r' result =>
    subst result
    refine ⟨_, rfl, Trace.each_of_forall fun e he => inContext_of_isFrame ?_⟩
    rcases List.mem_append.mp he with he | he
    · exact isFrame_begin (MysqlClient.allSession_sessionEvents _) e he
    · simp only [List.mem_cons, List.not_mem_nil, or_false] at he
      rcases he with rfl | rfl <;> rfl
  | failed htx r hr henv e r' result =>
    subst result
    exact ⟨_, rfl, hexec r _ rfl⟩
  | commit htx r hr r' hr' henv result =>
    subst result
    exact ⟨_, rfl, hexec r _ rfl⟩

/-- A merge executes no data statement. -/
lemma emitsIn_of_merged (h : Merged env ma x) : EmitsIn (InContext conf op) ma x := by
  refine (emits_of_merged conf (.xid ⟨0⟩) h).emitsIn fun e he => ?_
  cases he with
  | frame h => exact inContext_of_isFrame h
  | exec r hst => cases hst
  | putGtidsets r | putBinlogpos r => exact inContext_of_not_exec (by simp)

lemma EmitsIn.thenState (h : EmitsIn P ma x) (s : State) : EmitsIn P ma (thenState x s) := by
  rwa [EmitsIn, thenState_log]

lemma emitsIn_of_dispatched (h : Dispatched conf env op ma x) :
    EmitsIn (InContext conf op) ma x := by
  cases hq : nonDMLQuery conf op with
  | none => exact (emits_of_dispatched h).emitsIn fun e he => he.inContext hq
  | some q =>
    have hop : op.isNonDML = true := by
      cases op <;> first | rfl | simp [nonDMLQuery] at hq
    cases h with
    | refused hs ts result =>
      subst result
      exact ⟨[], (List.append_nil _).symm, trivial⟩
    | nonDMLMerge _ hs e ma₁ h result =>
      subst result
      exact emitsIn_of_merged h
    | nonDML _ hs hnone => simp [hq] at hnone
    | nonDMLExec _ hs ctx query hquery ma₁ h x₂ h₂ result =>
      subst result
      exact ((emitsIn_of_merged h).trans (emitsIn_of_executedNonDML hquery h₂)).thenState _
    | dmlStop hdml | dml hdml | dmlMissing hdml | dmlExec hdml =>
      cases op <;> simp_all [MysqlOperation.isNonDML, MysqlOperation.isDML]
    | binLogPos o ho | heartbeat o ho | gtidSettle o ho | gtid o ho | beginMerged o ho
    | begin o ho | xid o ho =>
      subst ho
      cases hop

variable (conf env) in
/-- What a turn sends, after its operation is received. -/
lemma emitsIn_start (op : MysqlOperation) (ma : MysqlApplier) :
    EmitsIn (InContext conf op) (ma.emit [.receive op]) (MysqlApplier.start conf env op ma) := by
  cases Turn.of_start conf env op ma with
  | skipped hskip hop result =>
    rw [result]
    exact ⟨[], (List.append_nil _).symm, trivial⟩
  | taken hnot x₁ h result =>
    rw [result, EmitsIn, finish_log]
    have hw := emitsIn_of_dispatched h
    exact hw

variable (conf env ckpt) in
/-- However a run is cut, the destination was sent only statements of the stream, each after the
`USE` of its schema context. -/
lemma inContext_run (opers : List MysqlOperation) :
    Trace.Each (fun before e => ∃ op ∈ opers, InContext conf op before e) []
      (run conf env opers (newMysqlApplier ckpt)).2.log := by
  refine Prog.forEach_along (P := fun _ (ma : MysqlApplier) =>
    Trace.Each (fun before e => ∃ op ∈ opers, InContext conf op before e) [] ma.log)
    opers trivial ?_ ?_
  · intro as op ma hpre hrun ih
    have hop : op ∈ opers := hpre.subset (by simp)
    obtain ⟨l, hl, heach⟩ := emitsIn_start conf env op ma
    rw [hl, emit_log]
    refine Trace.each_append.mpr ⟨Trace.each_append.mpr ⟨ih, ⟨op, hop, ?_⟩, trivial⟩, ?_⟩
    · exact inContext_of_not_exec (by simp) _
    · exact heach.mono fun before e he => ⟨op, hop, he⟩
  · intro as op e ma hrun ih
    exact ih

end

/-! ### What passes the filter -/

/-- A row statement by the names in it. -/
def Sql.reading : Sql → Reading
  | .insert db tab keys _ => .insert (db, tab) keys
  | .replace db tab keys _ => .replace (db, tab) keys
  | .delete db tab conditions => .delete (db, tab) conditions
  | .update db tab setClauses conditions => .update (db, tab) setClauses conditions

lemma Sql.tables_reading (sql : Sql) : sql.reading.tables = [sql.name] := by
  cases sql <;> rfl

/-- The names in the row statement of an operation. -/
def MysqlOperation.rowNames : MysqlOperation → List String
  | .dmlInsert op => op.database :: op.table :: columnNames op.columns
  | .dmlDelete op => op.database :: op.table :: columnNames op.columns
  | .dmlUpdate op => op.database :: op.table ::
      (columnNames op.afterColumns ++ columnNames op.beforeColumns)
  | _ => []

section

variable {reserved : String → Bool} {conf : Settings} {op : MysqlOperation} {query : Query}

/-- A row statement is built only for a table that passes. -/
lemma filter_of_rowQuery (h : RowQuery conf op query) :
    conf.replicate.filter query.sql.name.1 query.sql.name.2 = true := by
  cases h with
  | insert op columns hpass | insertReplace op columns hpass | updateReplace op columns hpass =>
    exact hpass
  | delete op columns hpass query hq =>
    obtain ⟨_, -, rfl⟩ := Option.map_eq_some_iff.mp hq
    exact hpass
  | update op afterColumns beforeColumns hpass hmode query hq =>
    obtain ⟨_, -, rfl⟩ := Option.map_eq_some_iff.mp hq
    exact hpass

/-- The repair changes no name. -/
lemma columnNames_repair {columns columns' : List MysqlOperationDMLColumn}
    (h : gobUint8NilRepair columns = some columns') :
    columnNames columns' = columnNames columns := by
  have hcol {col col' : MysqlOperationDMLColumn} (h : repairColumn col = some col') :
      col'.columnName = col.columnName := by
    rw [repairColumn] at h
    split_ifs at h
    · split at h <;> cases h <;> rfl
    · cases h
      rfl
  induction columns generalizing columns' with
  | nil =>
    cases h
    rfl
  | cons col columns ih =>
    rw [gobUint8NilRepair, List.mapM_cons] at h
    obtain ⟨col', hcol', h⟩ := Option.bind_eq_some_iff.mp h
    obtain ⟨columns', hcolumns', h⟩ := Option.bind_eq_some_iff.mp h
    cases h
    exact congrArg₂ List.cons (hcol hcol') (ih hcolumns')

/-- The columns of a condition are columns of the row. -/
lemma columnNames_condition_subset {primaryKey : List UInt64}
    {columns used : List MysqlOperationDMLColumn}
    (h : conditionColumns primaryKey columns = some used) :
    columnNames used ⊆ columnNames columns := by
  intro name hname
  obtain ⟨col, hcol, rfl⟩ := List.mem_map.mp hname
  have hcompared := (mem_conditionColumns_iff h col).mp hcol
  rw [Compared] at hcompared
  refine List.mem_map_of_mem ?_
  split_ifs at hcompared
  · exact hcompared
  · obtain ⟨k, -, hget⟩ := hcompared
    exact List.mem_of_getElem? hget

/-- A row statement of harmless names is read as itself. -/
lemma readsText_of_rowQuery (h : RowQuery conf op query)
    (hnames : ∀ name ∈ op.rowNames, NoBackquote name) :
    ReadsText reserved query.sql.text query.sql.reading := by
  have hlength (columns : List MysqlOperationDMLColumn) :
      columns.length = (columnNames columns).length := by simp [columnNames]
  cases h with
  | insert op columns hpass hmode hrepair =>
    rw [buildDMLInsertQuery, hlength, ReadsText, Sql.reading, readsAs_insert, Reading.names,
      columnNames_repair hrepair]
    exact hnames
  | insertReplace op columns hpass hrepair =>
    rw [buildDMLInsertQueryReplace, hlength, ReadsText, Sql.reading, readsAs_replace,
      Reading.names, columnNames_repair hrepair]
    exact hnames
  | delete op columns hpass query hq hrepair =>
    obtain ⟨_, hgenerate, rfl⟩ := Option.map_eq_some_iff.mp hq
    obtain ⟨used, hused, rfl⟩ := Option.map_eq_some_iff.mp hgenerate
    rw [ReadsText, Sql.reading, readsAs_delete, Reading.names]
    have hsub := columnNames_condition_subset hused
    rw [columnNames_repair hrepair] at hsub
    exact fun name hname => hnames name
      (List.cons_subset_cons _ (List.cons_subset_cons _ hsub) hname)
  | update op afterColumns beforeColumns hpass hmode query hq hafter hbefore =>
    obtain ⟨_, hgenerate, rfl⟩ := Option.map_eq_some_iff.mp hq
    obtain ⟨used, hused, rfl⟩ := Option.map_eq_some_iff.mp hgenerate
    rw [ReadsText, Sql.reading, readsAs_update, Reading.names, columnNames_repair hafter]
    have hsub := columnNames_condition_subset hused
    rw [columnNames_repair hbefore] at hsub
    have hall := List.append_subset.mpr ⟨List.subset_append_left (columnNames op.afterColumns) _,
      List.subset_append_of_subset_right (columnNames op.afterColumns) hsub⟩
    exact fun name hname => hnames name
      (List.cons_subset_cons _ (List.cons_subset_cons _ hall) hname)
  | updateReplace op afterColumns hpass hafter =>
    rw [buildDMLInsertQueryReplace, hlength, ReadsText, Sql.reading, readsAs_replace,
      Reading.names, columnNames_repair hafter]
    intro name hname
    refine hnames name ?_
    exact List.cons_subset_cons _ (List.cons_subset_cons _ (List.subset_append_left _ _)) hname

/-- A text that is read as a statement touches the tables of that statement. -/
lemma mem_tables_of_mayTouch {parse : String → Option (List StmtNode)} {used : Option String}
    {t : String × String} {reading : Reading} (hread : ReadsText reserved query.sql.text reading)
    (h : Statement.MayTouch reserved parse used t (.dml query)) : t ∈ reading.tables := by
  rcases h with ⟨reading', hread', ht⟩ | hnone
  · rwa [hread.tables_eq hread'] at ht
  · exact absurd hread (hnone reading)

end

/-! ### Where the extracted operations come from -/

namespace BinlogExtract

open Prog

variable {parse : String → Option (List StmtNode)}

variable (parse) in
/-- An operation of an event: a row change of its table, one of the operations of a statement of
its query, or no row, table, database or user operation at all. -/
inductive Origin (ev : BinlogEvent) (op : MysqlOperation) : Prop where
  | other (hnon : op.isNonDML = false) (hdml : op.isDML = false)
  | row (type : RowsEventType) (e : RowsEvent) (hev : ev.event = .rows type e)
      (hop : RowOf e.table op)
  | stmt (e : QueryEvent) (hev : ev.event = .query e) (stmts : List StmtNode)
      (hparse : parse e.query = some stmts) (stmt : StmtNode) (hstmt : stmt ∈ stmts)
      (hop : op ∈ stmtOperations e ev.header stmt)

lemma sendsOnly_start (ev : BinlogEvent) : SendsOnly (Origin parse ev) (start parse ev) := by
  have hother {op : MysqlOperation} (hnon : op.isNonDML = false) (hdml : op.isDML = false) :
      SendsOnly (Origin parse ev) (toMoCh op) := sendsOnly_toMoCh (.other hnon hdml)
  refine SendsOnly.bind (sendsOnly_of_moCh fun _ => rfl) fun bext => ?_
  cases hev : ev.event with
  | rows type e =>
    exact (hother rfl rfl).bind fun _ =>
      sendsOnly_handleEventRows e (fun op hop => .row type e hev hop) _ _
  | gtid e =>
    exact (hother rfl rfl).bind fun _ =>
      sendsOnly_handleEventGtid (fun _ => .other rfl rfl) e ev.header
  | query e =>
    refine (hother rfl rfl).bind fun _ => ?_
    rw [handleQueryEvent]
    split
    · exact sendsOnly_of_moCh fun _ => rfl
    · rename_i stmts hparse
      refine SendsOnly.forEach fun stmt hstmt => SendsOnly.forEach fun op hop => ?_
      exact sendsOnly_toMoCh (.stmt e hev stmts hparse stmt hstmt hop)
  | xid => exact (hother rfl rfl).bind fun _ => hother rfl rfl
  | rotate isRotate nextLogName =>
    refine sendsOnly_of_moCh fun bext => ?_
    cases isRotate <;> rfl
  | heartbeat now => exact hother rfl rfl
  | other => exact sendsOnly_of_moCh fun _ => rfl

/-- Every extracted operation comes from one of the events. -/
lemma exists_origin_of_mem_moCh {events : List BinlogEvent} {binlogFile : String}
    {op : MysqlOperation} (h : op ∈ (run parse events ⟨binlogFile, []⟩).2.moCh) :
    ∃ ev ∈ events, Origin parse ev op := by
  have hrun : SendsOnly (fun op => ∃ ev ∈ events, Origin parse ev op) (run parse events) := by
    refine SendsOnly.forEach fun ev hev bext => ?_
    obtain ⟨l, hl, hP⟩ := sendsOnly_start ev bext
    exact ⟨l, hl, fun op hop => ⟨ev, hev, hP op hop⟩⟩
  obtain ⟨l, hl, hP⟩ := hrun ⟨binlogFile, []⟩
  rw [hl, List.nil_append] at h
  exact hP op h

/-- The names in a row change are those of its table map. -/
lemma RowOf.rowNames_subset {table : TableMapEvent} {op : MysqlOperation} (h : RowOf table op) :
    op.rowNames ⊆ table.schema :: table.table :: table.columnName := by
  have hcolumns {row : List Value} {cols : List MysqlOperationDMLColumn}
      (h : columns table row = some cols) : columnNames cols ⊆ table.columnName := by
    intro name hname
    obtain ⟨col, hcol, rfl⟩ := List.mem_map.mp hname
    obtain ⟨i, -, hi⟩ := (mem_of_mapM_eq_some h col).mp hcol
    obtain ⟨columnName, hget, hi⟩ := Option.bind_eq_some_iff.mp hi
    obtain ⟨columnType, -, hi⟩ := Option.bind_eq_some_iff.mp hi
    obtain ⟨columnValue, -, hi⟩ := Option.bind_eq_some_iff.mp hi
    cases hi
    exact List.mem_of_getElem? hget
  cases h with
  | insert timestamp h | delete timestamp h =>
    exact List.cons_subset_cons _ (List.cons_subset_cons _ (hcolumns h))
  | update timestamp hbefore hafter =>
    exact List.cons_subset_cons _ (List.cons_subset_cons _
      (List.append_subset.mpr ⟨hcolumns hafter, hcolumns hbefore⟩))

end BinlogExtract

/-! ### Containment -/

open BinlogExtract

/-- A name that stands for itself between backquotes. -/
def Quotable (name : String) : Prop := name ≠ "" ∧ '\x60' ∉ name.toList

instance (name : String) : Decidable (Quotable name) := inferInstanceAs (Decidable (_ ∧ _))

/-- A name that stands for itself without quotes. -/
def PlainName (reserved : String → Bool) (name : String) : Prop :=
  name ≠ "" ∧ name.toList.all isWordChar = true ∧ reserved name = false

instance (reserved : String → Bool) (name : String) : Decidable (PlainName reserved name) :=
  inferInstanceAs (Decidable (_ ∧ _))

-- what follows the `#` is a comment in the `USE`
example : ¬ PlainName (fun _ => false) "db#1" := by decide

/-- The parser reads the texts the extractor builds from quotable names. -/
structure ReadsBuilt (parse : String → Option (List StmtNode)) : Prop where
  rename : ∀ oldDatabase oldTable newDatabase newTable, Quotable oldDatabase →
    Quotable oldTable → Quotable newDatabase → Quotable newTable →
    parse (renameQuery oldDatabase oldTable newDatabase newTable) =
      some [.renameTable [⟨⟨oldDatabase, oldTable⟩, ⟨newDatabase, newTable⟩⟩]]
  drop : ∀ database table, Quotable database → Quotable table →
    parse (dropQuery database table) = some [.dropTable [⟨database, table⟩]]

/-- The statements that are sent with the text of their event. -/
def StmtNode.verbatim : StmtNode → Bool
  | .renameTable _ | .dropTable _ | .begin | .commit | .other => false
  | _ => true

section

variable (reserved : String → Bool) (rf : Replicate) (e : QueryEvent)

def Passes (tab : TableName) : Prop :=
  rf.filter (tab.resolve e.schema).1 (tab.resolve e.schema).2 = true

instance (tab : TableName) : Decidable (Passes rf e tab) := inferInstanceAs (Decidable (_ = true))

/-- The filter lets a statement through that is sent with this table. -/
def Admits (tab : TableName) : Prop := rf.filter e.schema "" = true ∧ Passes rf e tab

def BothQuotable (tab : TableName) : Prop :=
  Quotable (tab.resolve e.schema).1 ∧ Quotable (tab.resolve e.schema).2

instance (tab : TableName) : Decidable (BothQuotable e tab) := inferInstanceAs (Decidable (_ ∧ _))

/-- Whenever the filter lets a statement of the event through, the other tables its text names
pass too, and the text is read as it is meant: names in built texts are quotable, a text that is
sent as it is holds one statement, and the schema context is plain if a name needs one. -/
structure QueryEvent.Contained (stmts : List StmtNode) : Prop where
  renamed : ∀ tabs, .renameTable tabs ∈ stmts → ∀ tab ∈ tabs, Admits rf e tab.oldTable →
    Passes rf e tab.newTable ∧ BothQuotable e tab.oldTable ∧ BothQuotable e tab.newTable
  dropped : ∀ tables, .dropTable tables ∈ stmts → ∀ tab ∈ tables, Admits rf e tab →
    BothQuotable e tab
  altered : ∀ table newTables, .alterTable table newTables ∈ stmts → Admits rf e table →
    ∀ tab ∈ newTables, Passes rf e tab
  alone : ∀ stmt ∈ stmts, stmt.verbatim = true → stmts = [stmt]
  context : ∀ stmt ∈ stmts, stmt.verbatim = true → ∀ table ∈ stmt.tables.head?, Admits rf e table →
    ∀ tab ∈ stmt.tables, tab.schema = "" → PlainName reserved e.schema

/-- If the filter lets the row changes of the event through, its names hold no backquote. -/
def RowsEvent.Contained (e : RowsEvent) : Prop :=
  rf.filter e.table.schema e.table.table = true →
    ∀ name ∈ e.table.schema :: e.table.table :: e.table.columnName, NoBackquote name

/-- What the filter lets through of the event touches no other table, and is read as it is meant. -/
def BinlogEvent.Contained (parse : String → Option (List StmtNode)) (ev : BinlogEvent) : Prop :=
  match ev.event with
  | .rows _ e => e.Contained rf
  | .query e => ∀ stmts, parse e.query = some stmts → e.Contained reserved rf stmts
  | _ => True

end

section

variable {reserved : String → Bool} {conf : Settings} {parse : String → Option (List StmtNode)}
  {used : Option String} {st : Statement} {t : String × String}

/-- The `USE` of a plain context is read as one of this database and no other. -/
lemma eq_of_mayBeIn {ctx database : String} (hplain : PlainName reserved ctx)
    (hused : used = some ctx) (h : MayBeIn reserved used database) : database = ctx := by
  have hread : ReadsText reserved ("USE " ++ ctx) (.use ctx) := (readsAs_use hplain.1).mpr hplain.2
  rcases h with ⟨ctx', hctx', hread'⟩ | hnone
  · cases hused.symm.trans hctx'
    obtain ⟨toks, hlex, hmatches⟩ := hread
    obtain ⟨toks', hlex', hmatches'⟩ := hread'
    cases hlex.symm.trans hlex'
    exact eq_of_forall₂_name (List.forall₂_drop 1 hmatches) (List.forall₂_drop 1 hmatches')
  · exact absurd hread (hnone ctx ctx hused)

/-- A name in a plain context stands for the table it is resolved to. -/
lemma eq_resolve_of_mayBe {ctx : String} {tab : TableName}
    (hplain : tab.schema = "" → PlainName reserved ctx) (hused : ctx ≠ "" → used = some ctx)
    (h : tab.MayBe reserved used t) : t = tab.resolve ctx := by
  obtain ⟨hdatabase, hname⟩ := h
  refine Prod.ext ?_ hname
  split_ifs at hdatabase with hschema
  · have hctx := hplain hschema
    rw [eq_of_mayBeIn hctx (hused hctx.1) hdatabase]
    simp [TableName.resolve, databaseOr, hschema]
  · simp [hdatabase, TableName.resolve, databaseOr, hschema]

/-- Between quotable names nothing depends on the context. -/
lemma eq_of_mayBe_quotable {database table : String} (hquotable : Quotable database)
    (h : TableName.MayBe reserved used ⟨database, table⟩ t) : t = (database, table) := by
  obtain ⟨hdatabase, hname⟩ := h
  rw [if_neg hquotable.1] at hdatabase
  exact Prod.ext hdatabase hname

/-- What the statements of a text that is parsed touch. -/
lemma exists_mayBe_of_mayTouch {query : String} {stmts : List StmtNode}
    (hparse : parse query = some stmts)
    (h : Statement.MayTouch reserved parse used t (.nonDML query)) :
    ∃ stmt ∈ stmts, ∃ tab ∈ stmt.tables, tab.MayBe reserved used t := by
  rcases h with ⟨stmts', hparse', h⟩ | hnone
  · cases hparse.symm.trans hparse'
    exact h
  · simp [hparse] at hnone

lemma eq_nonDML_of_ddlTable {o : MysqlOperationDDLTable}
    (h : MysqlApplier.statement conf (.ddlTable o) = .ok (some st)) :
    st = .nonDML o.query ∧ nonDMLQuery conf (.ddlTable o) = some (o.schemaContext, o.query) ∧
      conf.replicate.filter o.schemaContext "" = true ∧
      conf.replicate.filter o.database o.table = true := by
  obtain ⟨hctx, htab⟩ := (exists_statement_ddlTable o).mp ⟨st, h⟩
  have hquery : nonDMLQuery conf (.ddlTable o) = some (o.schemaContext, o.query) := by
    simp [nonDMLQuery, replicateNotExecute, hctx, htab]
  rw [statement_of_nonDMLQuery conf hquery] at h
  cases h
  exact ⟨rfl, hquery, hctx, htab⟩

/-- What is sent for a table, database or user statement is its query. -/
lemma exists_nonDMLQuery {op : MysqlOperation} (hop : op.isNonDML = true)
    (h : MysqlApplier.statement conf op = .ok (some st)) :
    ∃ ctx query, nonDMLQuery conf op = some (ctx, query) ∧ st = .nonDML query := by
  cases hquery : nonDMLQuery conf op with
  | none =>
    rw [statement_of_isNonDML conf hop hquery] at h
    cases h
  | some q =>
    rw [statement_of_nonDMLQuery conf hquery] at h
    cases h
    exact ⟨_, _, rfl, rfl⟩

/-- An operation that is no table, database or user statement has a row statement or none. -/
lemma exists_rowQuery {op : MysqlOperation} (hop : op.isNonDML = false)
    (h : MysqlApplier.statement conf op = .ok (some st)) :
    ∃ query, st = .dml query ∧ RowQuery conf op query := by
  have hnon : nonDMLQuery conf op = none := by
    cases op <;> simp_all [MysqlOperation.isNonDML, nonDMLQuery]
  simp only [MysqlApplier.statement, hnon] at h
  rcases hq : dmlQuery conf op with e | _ | query
  · simp [hq] at h
  · simp [hq] at h
  · simp only [hq, Except.ok.injEq, Option.some.injEq] at h
    exact ⟨query, h.symm, .of_dmlQuery hq⟩

lemma isDML_of_rowQuery {op : MysqlOperation} {query : Query} (h : RowQuery conf op query) :
    op.isDML = true := by
  cases h <;> rfl

/-- Row changes. -/
lemma filter_of_mayTouch_row {e : RowsEvent} (hcont : e.Contained conf.replicate)
    {op : MysqlOperation} (hop : RowOf e.table op)
    (h : MysqlApplier.statement conf op = .ok (some st))
    (ht : st.MayTouch reserved parse used t) : conf.replicate.filter t.1 t.2 = true := by
  have hnon : op.isNonDML = false := by
    cases hop <;> rfl
  obtain ⟨query, rfl, hrow⟩ := exists_rowQuery hnon h
  have hpass : conf.replicate.filter e.table.schema e.table.table = true := by
    cases hop <;> cases hrow <;> assumption
  have hread : ReadsText reserved query.sql.text query.sql.reading := readsText_of_rowQuery hrow
    fun name hname => hcont hpass name (hop.rowNames_subset hname)
  have hmem := mem_tables_of_mayTouch hread ht
  rw [Sql.tables_reading, List.mem_singleton] at hmem
  rw [hmem]
  exact filter_of_rowQuery hrow

/-- A statement that is sent with its text and names tables. -/
lemma filter_of_mayTouch_ddlTable {e : QueryEvent} {eh : EventHeader} {stmts : List StmtNode}
    {stmt : StmtNode} {table : TableName} {others : List TableName}
    (hcont : e.Contained reserved conf.replicate stmts) (hparse : parse e.query = some stmts)
    (hstmt : stmt ∈ stmts) (hverbatim : stmt.verbatim = true)
    (htables : stmt.tables = table :: others)
    (hothers : Admits conf.replicate e table → ∀ tab ∈ others, Passes conf.replicate e tab)
    (h : MysqlApplier.statement conf (ddlTable e eh table) = .ok (some st))
    (hused : ∀ ctx query, nonDMLQuery conf (ddlTable e eh table) = some (ctx, query) → ctx ≠ "" →
      used = some ctx)
    (ht : st.MayTouch reserved parse used t) : conf.replicate.filter t.1 t.2 = true := by
  obtain ⟨rfl, hquery, hctx, htab⟩ := eq_nonDML_of_ddlTable h
  have hadmits : Admits conf.replicate e table := ⟨hctx, htab⟩
  obtain ⟨stmt', hstmt', tab, hmem, hmaybe⟩ := exists_mayBe_of_mayTouch hparse ht
  rw [hcont.alone stmt hstmt hverbatim, List.mem_singleton] at hstmt'
  subst hstmt'
  have hplain := hcont.context stmt' hstmt hverbatim table (by rw [htables]; rfl) hadmits tab hmem
  rw [eq_resolve_of_mayBe hplain (hused _ _ hquery) hmaybe]
  rw [htables] at hmem
  rcases List.mem_cons.mp hmem with rfl | hmem
  · exact htab
  · exact hothers hadmits tab hmem

/-- A text that is sent as it is and names no table. -/
lemma not_mayTouch_of_alone {e : QueryEvent} {stmts : List StmtNode} {stmt : StmtNode}
    (hparse : parse e.query = some stmts) (halone : stmts = [stmt]) (htables : stmt.tables = []) :
    ¬ Statement.MayTouch reserved parse used t (.nonDML e.query) := by
  intro ht
  obtain ⟨stmt', hstmt', tab, hmem, -⟩ := exists_mayBe_of_mayTouch hparse ht
  rw [halone, List.mem_singleton] at hstmt'
  rw [hstmt', htables] at hmem
  exact List.not_mem_nil hmem

/-- The statements a query event is turned into. -/
lemma filter_of_mayTouch_stmt (hreads : ReadsBuilt parse) {e : QueryEvent} {eh : EventHeader}
    {stmts : List StmtNode} (hparse : parse e.query = some stmts)
    (hcont : e.Contained reserved conf.replicate stmts) {stmt : StmtNode} (hstmt : stmt ∈ stmts)
    {op : MysqlOperation} (hop : op ∈ stmtOperations e eh stmt)
    (h : MysqlApplier.statement conf op = .ok (some st))
    (hused : ∀ ctx query, nonDMLQuery conf op = some (ctx, query) → ctx ≠ "" → used = some ctx)
    (ht : st.MayTouch reserved parse used t) : conf.replicate.filter t.1 t.2 = true := by
  cases stmt with
  | renameTable tabs =>
    obtain ⟨tab, htab, rfl⟩ := List.mem_map.mp hop
    obtain ⟨rfl, -, hctx, hold⟩ := eq_nonDML_of_ddlTable h
    obtain ⟨hnew, hqold, hqnew⟩ := hcont.renamed tabs hstmt tab htab ⟨hctx, hold⟩
    obtain ⟨stmt, hstmt', name, hmem, hmaybe⟩ := exists_mayBe_of_mayTouch
      (hreads.rename _ _ _ _ hqold.1 hqold.2 hqnew.1 hqnew.2) ht
    rw [List.mem_singleton.mp hstmt', StmtNode.tables, List.flatMap_singleton,
      List.mem_pair] at hmem
    rcases hmem with rfl | rfl
    · rw [eq_of_mayBe_quotable hqold.1 hmaybe]
      exact hold
    · rw [eq_of_mayBe_quotable hqnew.1 hmaybe]
      exact hnew
  | dropTable tables =>
    obtain ⟨tab, htab, rfl⟩ := List.mem_map.mp hop
    obtain ⟨rfl, -, hctx, hpass⟩ := eq_nonDML_of_ddlTable h
    have hquot := hcont.dropped tables hstmt tab htab ⟨hctx, hpass⟩
    obtain ⟨stmt, hstmt', name, hmem, hmaybe⟩ := exists_mayBe_of_mayTouch
      (hreads.drop _ _ hquot.1 hquot.2) ht
    rw [List.mem_singleton.mp hstmt', StmtNode.tables, List.mem_singleton] at hmem
    subst hmem
    rw [eq_of_mayBe_quotable hquot.1 hmaybe]
    exact hpass
  | alterTable table newTables =>
    cases List.mem_singleton.mp hop
    exact filter_of_mayTouch_ddlTable hcont hparse hstmt rfl rfl
      (hcont.altered table newTables hstmt) h hused ht
  | createTable table | truncateTable table | dropIndex table | createIndex table =>
    cases List.mem_singleton.mp hop
    exact filter_of_mayTouch_ddlTable hcont hparse hstmt rfl rfl (by simp) h hused ht
  | createDatabase name | alterDatabase name | dropDatabase name | createUser | dropUser | grant
  | revoke | alterUser =>
    cases List.mem_singleton.mp hop
    obtain ⟨ctx, query, hquery, rfl⟩ := exists_nonDMLQuery rfl h
    simp only [nonDMLQuery, ddlDatabase, dclUser] at hquery
    split_ifs at hquery
    cases hquery
    exact absurd ht (not_mayTouch_of_alone hparse (hcont.alone _ hstmt rfl) rfl)
  | begin =>
    cases List.mem_singleton.mp hop
    obtain ⟨query, -, hrow⟩ := exists_rowQuery rfl h
    cases hrow
  | commit => exact absurd hop List.not_mem_nil
  | other => exact absurd hop List.not_mem_nil

end

/-- If the statements the filter lets through name no table that it does not, and all texts are
read as they are meant, every table that a statement sent to the destination may touch passes the
filter, however the run is cut. -/
theorem untouched_of_contained {parse : String → Option (List StmtNode)} (hreads : ReadsBuilt parse)
    (reserved : String → Bool) (conf : Settings) (env : Env) (ckpt : Checkpoint)
    (binlogFile : String) {events : List BinlogEvent}
    (hcont : ∀ ev ∈ events, ev.Contained reserved conf.replicate parse) :
    Untouched reserved conf.replicate parse
      (run conf env (BinlogExtract.run parse events ⟨binlogFile, []⟩).2.moCh
        (newMysqlApplier ckpt)).2.log := by
  intro before st r hprefix t ht
  obtain ⟨op, hop, hcontext⟩ := (inContext_run conf env ckpt _).of_concat_isPrefix hprefix
  have hdata : st.isData = true := by
    cases st <;> first | rfl | exact ht.elim
  obtain ⟨hst, hused⟩ := hcontext st r rfl hdata
  obtain ⟨ev, hev, horigin⟩ := exists_origin_of_mem_moCh hop
  have hcontained := hcont ev hev
  cases horigin with
  | other hnon hdml =>
    obtain ⟨query, -, hrow⟩ := exists_rowQuery hnon hst
    rw [isDML_of_rowQuery hrow] at hdml
    cases hdml
  | row type e hevent hrowOf =>
    rw [BinlogEvent.Contained, hevent] at hcontained
    exact filter_of_mayTouch_row hcontained hrowOf hst ht
  | stmt e hevent stmts hparse stmt hstmt hmem =>
    rw [BinlogEvent.Contained, hevent] at hcontained
    exact filter_of_mayTouch_stmt hreads hparse (hcontained stmts hparse) hstmt hmem hst hused ht

open Strings

/-- Reads the texts built by the extractor, and no others. -/
def readBuilt (query : String) : Option (List StmtNode) :=
  match split query '\x60' with
  | [rename, oldDatabase, dot, oldTable, into, newDatabase, dot', newTable, rest] =>
    if rename = "RENAME TABLE " ∧ dot = "." ∧ into = " TO " ∧ dot' = "." ∧ rest = "" then
      some [.renameTable [⟨⟨oldDatabase, oldTable⟩, ⟨newDatabase, newTable⟩⟩]]
    else none
  | [drop, database, dot, table, rest] =>
    if drop = "DROP TABLE IF EXISTS " ∧ dot = "." ∧ rest = "" then
      some [.dropTable [⟨database, table⟩]]
    else none
  | _ => none

lemma readsBuilt_readBuilt : ReadsBuilt readBuilt where
  rename := by
    intro oldDatabase oldTable newDatabase newTable h₁ h₂ h₃ h₄
    have hsplit : split (renameQuery oldDatabase oldTable newDatabase newTable) '\x60' =
        ["RENAME TABLE ", oldDatabase, ".", oldTable, " TO ", newDatabase, ".", newTable, ""] := by
      rw [renameQuery_eq_join]
      refine split_join rfl (by simp) ?_
      simp [h₁.2, h₂.2, h₃.2, h₄.2]
    rw [readBuilt, hsplit]
    simp
  drop := by
    intro database table h₁ h₂
    have hsplit : split (dropQuery database table) '\x60' =
        ["DROP TABLE IF EXISTS ", database, ".", table, ""] := by
      rw [dropQuery_eq_join]
      refine split_join rfl (by simp) ?_
      simp [h₁.2, h₂.2]
    rw [readBuilt, hsplit]
    simp

/-- A transaction that renames `db.t`. -/
def renames (newDatabase newTable : String) : List BinlogEvent :=
  [⟨⟨7, "GTIDEvent", 1, 100⟩, .gtid ⟨1, some "u:1"⟩⟩,
   ⟨⟨7, "QueryEvent", 1, 200⟩, .query ⟨"db", renameQuery "db" "t" newDatabase newTable⟩⟩]

/-- What the extractor makes of it. -/
def renamedStream (query : String) : List MysqlOperation :=
  [.binLogPos ⟨1, "GTIDEvent", "bin.1", 100, 7⟩, .gtid ⟨1, 1, 7, "u", 1⟩,
   .binLogPos ⟨1, "QueryEvent", "bin.1", 200, 7⟩, .ddlTable ⟨"db", "db", "t", query, 7⟩]

lemma moCh_renames {newDatabase newTable : String} (h : Quotable newDatabase)
    (h' : Quotable newTable) :
    (BinlogExtract.run readBuilt (renames newDatabase newTable) ⟨"bin.1", []⟩).2.moCh =
      renamedStream (renameQuery "db" "t" newDatabase newTable) := by
  have hread := readsBuilt_readBuilt.rename "db" "t" newDatabase newTable
    (by decide) (by decide) h h'
  have hgtid : split "u:1" ':' = ["u", "1"] := by decide
  have hnumber : parseInt64 "1" = some 1 := by decide
  simp [renames, renamedStream, BinlogExtract.run, BinlogExtract.start, Prog.bind_apply,
    Prog.forEach_cons, handleEventGtid, handleQueryEvent, hgtid, hnumber, hread, stmtOperations,
    renameTable, databaseOr, toMoCh, h.1]

/-- Also reads a transaction that creates a table and one that writes it. -/
def readStream (query : String) : Option (List StmtNode) :=
  (readBuilt query).orElse fun _ =>
    if query = "CREATE TABLE t (id int)" then some [.createTable ⟨"", "t"⟩]
    else if query = "BEGIN" then some [.begin]
    else none

lemma readsBuilt_readStream : ReadsBuilt readStream where
  rename := by
    intro oldDatabase oldTable newDatabase newTable h₁ h₂ h₃ h₄
    rw [readStream, readsBuilt_readBuilt.rename _ _ _ _ h₁ h₂ h₃ h₄]
    rfl
  drop := by
    intro database table h₁ h₂
    rw [readStream, readsBuilt_readBuilt.drop _ _ h₁ h₂]
    rfl

/-- Creates `t` in the database of the session, writes a row of it, and renames it. -/
def createsAndRenames : List BinlogEvent :=
  [⟨⟨5, "GTIDEvent", 1, 10⟩, .gtid ⟨0, some "u:1"⟩⟩,
   ⟨⟨5, "QueryEvent", 1, 20⟩, .query ⟨"db", "CREATE TABLE t (id int)"⟩⟩,
   ⟨⟨6, "GTIDEvent", 1, 30⟩, .gtid ⟨0, some "u:2"⟩⟩,
   ⟨⟨6, "QueryEvent", 1, 40⟩, .query ⟨"db", "BEGIN"⟩⟩,
   ⟨⟨6, "WriteRowsEventV2", 1, 50⟩,
    .rows .write ⟨⟨"db", "t", 1, [3], ["id"], [0]⟩, [[.int64 1]]⟩⟩,
   ⟨⟨6, "XIDEvent", 1, 60⟩, .xid⟩,
   ⟨⟨7, "GTIDEvent", 1, 70⟩, .gtid ⟨0, some "u:3"⟩⟩,
   ⟨⟨7, "QueryEvent", 1, 80⟩, .query ⟨"db", renameQuery "db" "t" "db" "u"⟩⟩]

/-- A table created by its bare name, written, and renamed within a database that is replicated. -/
theorem untouched_renames :
    Untouched (fun _ => false) Settings.unrestricted.replicate readStream
      (MysqlApplier.run Settings.unrestricted (fun _ _ => .ok)
        (BinlogExtract.run readStream createsAndRenames ⟨"bin.1", []⟩).2.moCh
        (newMysqlApplier ⟨∅, "", 0⟩)).2.log := by
  refine untouched_of_contained readsBuilt_readStream _ _ _ _ _ fun ev hev => ?_
  simp only [createsAndRenames, List.mem_cons, List.not_mem_nil, or_false] at hev
  rcases hev with rfl | rfl | rfl | rfl | rfl | rfl | rfl | rfl
  · trivial
  · have hread : readStream "CREATE TABLE t (id int)" = some [.createTable ⟨"", "t"⟩] := by
      decide +kernel
    intro stmts hparse
    cases hread.symm.trans hparse
    refine ⟨by simp, by simp, by simp, by simp, ?_⟩
    intro stmt hstmt _ table _ _ tab _ _
    decide
  · trivial
  · have hread : readStream "BEGIN" = some [.begin] := by decide +kernel
    intro stmts hparse
    cases hread.symm.trans hparse
    exact ⟨by simp, by simp, by simp, by simp, by simp [StmtNode.verbatim]⟩
  · intro _
    decide
  · trivial
  · trivial
  · have hread := readsBuilt_readStream.rename "db" "t" "db" "u" (by decide) (by decide)
      (by decide) (by decide)
    intro stmts hparse
    cases hread.symm.trans hparse
    refine ⟨?_, by simp, by simp, by simp [StmtNode.verbatim], by simp [StmtNode.verbatim]⟩
    intro tabs htabs tab htab _
    obtain rfl : tabs = [⟨⟨"db", "t"⟩, ⟨"db", "u"⟩⟩] := by simpa using htabs
    cases List.mem_singleton.mp htab
    exact ⟨by decide, by decide, by decide⟩

/-- The same table renamed into the database `mysql`, which every configuration ignores. -/
theorem not_untouched_renames :
    ¬ Untouched (fun _ => false) Settings.unrestricted.replicate readBuilt
      (MysqlApplier.run Settings.unrestricted (fun _ _ => .ok)
        (BinlogExtract.run readBuilt (renames "mysql" "t") ⟨"bin.1", []⟩).2.moCh
        (newMysqlApplier ⟨∅, "", 0⟩)).2.log := by
  have hread := readsBuilt_readBuilt.rename "db" "t" "mysql" "t" (by decide) (by decide)
    (by decide) (by decide)
  rw [moCh_renames (by decide) (by decide)]
  intro h
  have hprefix : (renamedStream (renameQuery "db" "t" "mysql" "t")).map .receive ++
      [.call .begin .ok, .call (.exec (.use "db")) .ok] ++
      [.call (.exec (.nonDML (renameQuery "db" "t" "mysql" "t"))) .ok] <+:
      (MysqlApplier.run Settings.unrestricted (fun _ _ => .ok)
        (renamedStream (renameQuery "db" "t" "mysql" "t")) (newMysqlApplier ⟨∅, "", 0⟩)).2.log :=
    ⟨[.call .commit .ok], rfl⟩
  have hmay : Statement.MayTouch (fun _ => false) readBuilt (some "db") ("mysql", "t")
      (.nonDML (renameQuery "db" "t" "mysql" "t")) :=
    .inl ⟨_, hread, _, List.mem_singleton_self _, ⟨"mysql", "t"⟩, by simp [StmtNode.tables],
      by simp [TableName.MayBe]⟩
  have hfilter := h _ _ _ hprefix ("mysql", "t") hmay
  revert hfilter
  decide

end MysqlSync

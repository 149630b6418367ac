import MysqlSync.System.Pipeline

/-!
# From the source database to a destination database

A history of the source is a list of transactions in the binlog and what they do to its database.
The extractor turns the binlog into operations, the transfer carries a part of them to each
destination, and the applier commits statements. Wherever any of them ends, the tables that the
destination replicates are those of the source after some number of transactions
(`destination_agrees`).
-/

namespace MysqlSync

open MysqlApplier BinlogExtract

/-! ### The source -/

namespace BinlogEvent

/-- The events that may stand between two transactions. -/
def isIdle (ev : BinlogEvent) : Bool :=
  match ev.event with
  | .rotate _ _ | .heartbeat _ | .other => true
  | _ => false

/-- The events of the row changes of a transaction; table maps are among the others. -/
def inBody (ev : BinlogEvent) : Bool :=
  match ev.event with
  | .rows _ _ | .other => true
  | _ => false

def rows? (ev : BinlogEvent) : Option (EventHeader × RowsEventType × RowsEvent) :=
  match ev.event with
  | .rows type e => some (ev.header, type, e)
  | _ => none

end BinlogEvent

/-- A source transaction with rows, as the binlog has it. -/
structure SourceTransaction (parse : String → Option (List StmtNode)) where
  before : List BinlogEvent
  gtidHeader : EventHeader
  gtidEvent : GTIDEvent
  gtid : MysqlOperationGTID
  beginHeader : EventHeader
  beginEvent : QueryEvent
  body : List BinlogEvent
  xidHeader : EventHeader
  before_isIdle : ∀ ev ∈ before, ev.isIdle = true
  gtid_eq : gtidOperation gtidEvent gtidHeader = some (.gtid gtid)
  begin_eq : parse beginEvent.query = some [.begin]
  body_inBody : ∀ ev ∈ body, ev.inBody = true

namespace SourceTransaction

variable {parse : String → Option (List StmtNode)} (t : SourceTransaction parse)

/-- Its own events, from the GTID to the XID. -/
def own : List BinlogEvent :=
  ⟨t.gtidHeader, .gtid t.gtidEvent⟩ :: ⟨t.beginHeader, .query t.beginEvent⟩ ::
    (t.body ++ [⟨t.xidHeader, .xid⟩])

def events : List BinlogEvent := t.before ++ t.own

def rowsEvents : List (EventHeader × RowsEventType × RowsEvent) :=
  t.body.filterMap BinlogEvent.rows?

/-- The source after the transaction. -/
def apply (db : Database) : Option Database := t.rowsEvents.foldlM Database.source db

end SourceTransaction

/-! ### Extraction -/

namespace BinlogExtract

variable {parse : String → Option (List StmtNode)}

/-- An event that is no rotation sends its operations. -/
lemma start_of_eventOperations {bext : BinlogExtract} {ev : BinlogEvent}
    {ops : List MysqlOperation} (hrot : ev.isRotate = false)
    (h : eventOperations parse bext.binlogFile ev = some ops) :
    start parse ev bext = (.ok (), bext.send ops) := by
  obtain ⟨eh, body⟩ := ev
  have hbp := sends_toMoCh (moblp bext.binlogFile eh)
  cases body with
  | rows type e =>
    obtain ⟨ops', hops', rfl⟩ := Option.map_eq_some_iff.mp h
    have hx := hbp.andThen (sends_handleEventRows e eh type)
    rw [show rowsOperations type e eh = some ops' from hops'] at hx
    exact hx bext
  | gtid e =>
    obtain ⟨op, hop, rfl⟩ := Option.map_eq_some_iff.mp h
    have hx := hbp.andThen (sends_handleEventGtid eh e)
    rw [show gtidOperation e eh = some op from hop] at hx
    exact hx bext
  | query e =>
    obtain ⟨stmts, hstmts, rfl⟩ := Option.map_eq_some_iff.mp h
    have hx := hbp.andThen (sends_handleQueryEvent parse eh e)
    rw [show parse e.query = some stmts from hstmts] at hx
    exact hx bext
  | xid =>
    cases h
    exact hbp.andThen (sends_toMoCh (.xid ⟨eh.timestamp⟩)) bext
  | rotate isRotate nextLogName => cases hrot
  | heartbeat now =>
    cases h
    exact sends_toMoCh (.heartbeat ⟨now⟩) bext
  | other =>
    cases h
    exact sends_pure bext

/-- A list of events without rotations sends the operations of all of them. -/
lemma run_of_sentByAll {evs : List BinlogEvent} {bext : BinlogExtract} {ops : List MysqlOperation}
    (hrot : ∀ ev ∈ evs, ev.isRotate = false)
    (h : sentByAll (eventOperations parse bext.binlogFile) evs = some ops) :
    run parse evs bext = (.ok (), bext.send ops) := by
  induction evs generalizing bext ops with
  | nil =>
    cases h
    rw [send_nil]
    rfl
  | cons ev evs ih =>
    obtain ⟨hev, hevs⟩ := List.forall_mem_cons.mp hrot
    obtain ⟨ops₁, hops₁, h⟩ := Option.bind_eq_some_iff.mp h
    obtain ⟨ops₂, hops₂, rfl⟩ := Option.map_eq_some_iff.mp h
    have hstart := start_of_eventOperations hev hops₁
    rw [run, Prog.forEach_cons, Prog.bind_of_ok hstart, ← send_send]
    exact ih hevs hops₂

variable (parse) in
/-- The events between two transactions send heartbeats at most. -/
lemma exists_run_of_isIdle {evs : List BinlogEvent} (h : ∀ ev ∈ evs, ev.isIdle = true)
    (bext : BinlogExtract) :
    ∃ bext' ops, run parse evs bext = (.ok (), bext') ∧ bext'.moCh = bext.moCh ++ ops ∧
      ∀ op ∈ ops, op.isIdle = true := by
  induction evs generalizing bext with
  | nil => exact ⟨bext, [], rfl, (List.append_nil _).symm, by simp⟩
  | cons ev evs ih =>
    obtain ⟨hev, hevs⟩ := List.forall_mem_cons.mp h
    -- one event sends a heartbeat or nothing, and may name another file
    obtain ⟨bext₁, ops₁, hstart, hmoCh₁, hidle₁⟩ : ∃ bext₁ ops₁,
        start parse ev bext = (.ok (), bext₁) ∧ bext₁.moCh = bext.moCh ++ ops₁ ∧
          ∀ op ∈ ops₁, op.isIdle = true := by
      obtain ⟨eh, body⟩ := ev
      cases body with
      | rotate isRotate nextLogName =>
        cases isRotate with
        | true => exact ⟨_, [], rfl, (List.append_nil _).symm, by simp⟩
        | false => exact ⟨_, [], rfl, (List.append_nil _).symm, by simp⟩
      | heartbeat now => exact ⟨_, [.heartbeat ⟨now⟩], rfl, rfl, by simp [MysqlOperation.isIdle]⟩
      | other => exact ⟨_, [], rfl, (List.append_nil _).symm, by simp⟩
      | _ => cases hev
    obtain ⟨bext₂, ops₂, hrun, hmoCh₂, hidle₂⟩ := ih hevs bext₁
    refine ⟨bext₂, ops₁ ++ ops₂, ?_, ?_, List.forall_mem_append.mpr ⟨hidle₁, hidle₂⟩⟩
    · rw [run, Prog.forEach_cons, Prog.bind_of_ok hstart]
      exact hrun
    · rw [hmoCh₂, hmoCh₁, List.append_assoc]

lemma sentByAll_append {α : Type} {g : α → Option (List MysqlOperation)} {as as' : List α}
    {ops ops' : List MysqlOperation} (h : sentByAll g as = some ops)
    (h' : sentByAll g as' = some ops') : sentByAll g (as ++ as') = some (ops ++ ops') := by
  induction as generalizing ops with
  | nil =>
    cases h
    exact h'
  | cons a as ih =>
    obtain ⟨ops₁, hops₁, h⟩ := Option.bind_eq_some_iff.mp h
    obtain ⟨ops₂, hops₂, rfl⟩ := Option.map_eq_some_iff.mp h
    rw [List.cons_append, sentByAll, hops₁, ih hops₂, List.append_assoc]
    rfl

lemma isDML_of_mapM {α : Type} {f : α → Option MysqlOperation} {l : List α}
    {ops : List MysqlOperation} (hf : ∀ a op, f a = some op → op.isDML = true)
    (h : l.mapM f = some ops) : ∀ op ∈ ops, op.isDML = true :=
  forall_of_mapM (P := fun op => op.isDML = true) hf h

/-- A rows event sends row changes. -/
lemma isDML_of_rowsOperations {type : RowsEventType} {e : RowsEvent} {eh : EventHeader}
    {ops : List MysqlOperation} (h : rowsOperations type e eh = some ops) :
    ∀ op ∈ ops, op.isDML = true := by
  cases type with
  | write =>
    refine isDML_of_mapM (fun row op hop => ?_) h
    obtain ⟨columns, -, rfl⟩ := Option.map_eq_some_iff.mp hop
    rfl
  | delete =>
    refine isDML_of_mapM (fun row op hop => ?_) h
    obtain ⟨columns, -, rfl⟩ := Option.map_eq_some_iff.mp hop
    rfl
  | other =>
    cases h
    simp
  | update =>
    rw [rowsOperations] at h
    generalize e.rows = rows at h
    induction rows using updateOperations.induct generalizing ops with
    | case1 =>
      cases h
      simp
    | case2 row => cases h
    | case3 before after rows ih =>
      obtain ⟨op, hop, h⟩ := Option.bind_eq_some_iff.mp h
      obtain ⟨ops', hops', rfl⟩ := Option.map_eq_some_iff.mp h
      obtain ⟨beforeColumns, -, hop⟩ := Option.bind_eq_some_iff.mp hop
      obtain ⟨afterColumns, -, rfl⟩ := Option.map_eq_some_iff.mp hop
      exact List.forall_mem_cons.mpr ⟨rfl, ih hops'⟩

/-- The operations of the rows events of a transaction. -/
def bodyOperations (evs : List (EventHeader × RowsEventType × RowsEvent)) :
    Option (List MysqlOperation) :=
  sentByAll (fun ev => rowsOperations ev.2.1 ev.2.2 ev.1) evs

variable (parse) in
/-- The body of a transaction sends its row changes with positions between them. -/
lemma exists_sentByAll_body {body : List BinlogEvent} {dmls : List MysqlOperation} (file : String)
    (hbody : ∀ ev ∈ body, ev.inBody = true)
    (h : bodyOperations (body.filterMap BinlogEvent.rows?) = some dmls) :
    ∃ ops, sentByAll (eventOperations parse file) body = some ops ∧
      (∀ op ∈ ops, op.isDML = true ∨ ∃ o, op = .binLogPos o) ∧
      ops.filter MysqlOperation.isDML = dmls := by
  induction body generalizing dmls with
  | nil =>
    cases h
    exact ⟨[], rfl, by simp, rfl⟩
  | cons ev body ih =>
    obtain ⟨hev, hbody'⟩ := List.forall_mem_cons.mp hbody
    obtain ⟨eh, event⟩ := ev
    cases event with
    | rows type e =>
      obtain ⟨ops₁, hops₁, h⟩ := Option.bind_eq_some_iff.mp h
      obtain ⟨dmls₂, hdmls₂, rfl⟩ := Option.map_eq_some_iff.mp h
      obtain ⟨ops₂, hops₂, hin₂, hfilter₂⟩ := ih hbody' hdmls₂
      have hdml₁ := isDML_of_rowsOperations hops₁
      refine ⟨moblp file eh :: ops₁ ++ ops₂, ?_, ?_, ?_⟩
      · have hev : eventOperations parse file ⟨eh, .rows type e⟩ = some (moblp file eh :: ops₁) :=
          Option.map_eq_some_iff.mpr ⟨ops₁, hops₁, rfl⟩
        rw [sentByAll, hev, hops₂]
        rfl
      · refine List.forall_mem_append.mpr ⟨List.forall_mem_cons.mpr ⟨.inr ⟨_, rfl⟩, ?_⟩, hin₂⟩
        exact fun op hop => .inl (hdml₁ op hop)
      · have hpos : ¬(moblp file eh).isDML = true := by simp [moblp, MysqlOperation.isDML]
        rw [List.filter_append, hfilter₂, List.filter_cons_of_neg hpos,
          List.filter_eq_self.mpr hdml₁]
    | other =>
      obtain ⟨ops, hops, hin, hfilter⟩ := ih hbody' h
      exact ⟨ops, by rw [sentByAll, hops]; rfl, hin, hfilter⟩
    | _ => cases hev

end BinlogExtract

/-- The transaction that a destination receives for one of the source. -/
structure SourceTransaction.Extracts {parse : String → Option (List StmtNode)}
    (t : SourceTransaction parse) (rt : RowTransaction) : Prop where
  gtid : rt.gtid = t.gtid
  rows : bodyOperations t.rowsEvents = some (rt.rows.filter MysqlOperation.isDML)

section

variable {parse : String → Option (List StmtNode)}

lemma SourceTransaction.isRotate_of_mem_own {t : SourceTransaction parse} :
    ∀ ev ∈ t.own, ev.isRotate = false := by
  refine List.forall_mem_cons.mpr ⟨rfl, List.forall_mem_cons.mpr ⟨rfl,
    List.forall_mem_append.mpr ⟨fun ev hev => ?_, List.forall_mem_singleton.mpr rfl⟩⟩⟩
  have hbody := t.body_inBody ev hev
  obtain ⟨eh, event⟩ := ev
  cases event <;> simp_all [BinlogEvent.inBody, BinlogEvent.isRotate]

/-- What the events of a transaction send while the binlog file is `file`. -/
lemma SourceTransaction.sentByAll_own {t : SourceTransaction parse} {file : String}
    {rows : List MysqlOperation}
    (hrows : sentByAll (eventOperations parse file) t.body = some rows) :
    sentByAll (eventOperations parse file) t.own =
      some ([moblp file t.gtidHeader, .gtid t.gtid, moblp file t.beginHeader,
        .begin ⟨0, t.beginHeader.timestamp⟩] ++
          (rows ++ [moblp file t.xidHeader, .xid ⟨t.xidHeader.timestamp⟩])) := by
  have hgtid : eventOperations parse file ⟨t.gtidHeader, .gtid t.gtidEvent⟩ =
      some [moblp file t.gtidHeader, .gtid t.gtid] :=
    Option.map_eq_some_iff.mpr ⟨_, t.gtid_eq, rfl⟩
  have hbegin : eventOperations parse file ⟨t.beginHeader, .query t.beginEvent⟩ =
      some [moblp file t.beginHeader, .begin ⟨0, t.beginHeader.timestamp⟩] :=
    Option.map_eq_some_iff.mpr ⟨_, t.begin_eq, rfl⟩
  have hxid : sentByAll (eventOperations parse file) [⟨t.xidHeader, .xid⟩] =
      some [moblp file t.xidHeader, .xid ⟨t.xidHeader.timestamp⟩] := rfl
  rw [own, sentByAll, hgtid, sentByAll, hbegin, sentByAll_append hrows hxid]
  rfl

/-- The extractor sends a transaction with rows. -/
lemma SourceTransaction.exists_extracts {t : SourceTransaction parse} {dmls : List MysqlOperation}
    (h : bodyOperations t.rowsEvents = some dmls) (bext : BinlogExtract) :
    ∃ bext' rt, BinlogExtract.run parse t.events bext = (.ok (), bext') ∧
      bext'.moCh = bext.moCh ++ rt.ops ∧ t.Extracts rt := by
  obtain ⟨bext₁, lead, hrun₁, hmoCh₁, hidle⟩ := exists_run_of_isIdle parse t.before_isIdle bext
  let file := bext₁.binlogFile
  obtain ⟨rows, hrows, hin, hfilter⟩ := exists_sentByAll_body parse file t.body_inBody h
  have hrun₂ := run_of_sentByAll isRotate_of_mem_own (sentByAll_own hrows)
  let rt : RowTransaction :=
    { lead := lead ++ [moblp file t.gtidHeader]
      gtid := t.gtid
      positions := [⟨t.beginHeader.serverID, t.beginHeader.eventType, file, t.beginHeader.logPos,
        t.beginHeader.timestamp⟩]
      begin := ⟨0, t.beginHeader.timestamp⟩
      rows := rows ++ [moblp file t.xidHeader]
      xid := ⟨t.xidHeader.timestamp⟩
      trail := []
      lead_isIdle := List.forall_mem_append.mpr ⟨hidle, List.forall_mem_singleton.mpr rfl⟩
      rows_inRows := List.forall_mem_append.mpr
        ⟨hin, List.forall_mem_singleton.mpr (.inr ⟨_, rfl⟩)⟩
      trail_isIdle := by simp }
  refine ⟨_, rt, (Prog.forEach_append_of_ok hrun₁).trans hrun₂, ?_, rfl, ?_⟩
  · rw [send, hmoCh₁]
    simp [rt, file, RowTransaction.ops, RowTransaction.head, moblp]
  · have hpos : (moblp file t.xidHeader).isDML = false := rfl
    show bodyOperations t.rowsEvents = some ((rows ++ [moblp file t.xidHeader]).filter _)
    rw [List.filter_append, List.filter_singleton, hpos, hfilter, h]
    exact congrArg some (List.append_nil _).symm

/-- The extractor sends a history as a history. -/
lemma exists_extracts_all {txs : List (SourceTransaction parse)}
    (h : ∀ t ∈ txs, (bodyOperations t.rowsEvents).isSome = true) (bext : BinlogExtract) :
    ∃ bext' rtxs, BinlogExtract.run parse (txs.flatMap SourceTransaction.events) bext =
        (.ok (), bext') ∧
      bext'.moCh = bext.moCh ++ stream rtxs ∧ List.Forall₂ SourceTransaction.Extracts txs rtxs := by
  induction txs generalizing bext with
  | nil => exact ⟨bext, [], rfl, (List.append_nil _).symm, .nil⟩
  | cons t txs ih =>
    obtain ⟨ht, htxs⟩ := List.forall_mem_cons.mp h
    obtain ⟨dmls, hdmls⟩ := Option.isSome_iff_exists.mp ht
    obtain ⟨bext₁, rt, hrun₁, hmoCh₁, hext⟩ := SourceTransaction.exists_extracts hdmls bext
    obtain ⟨bext₂, rtxs, hrun₂, hmoCh₂, hexts⟩ := ih htxs bext₁
    refine ⟨bext₂, rt :: rtxs, ?_, ?_, .cons hext hexts⟩
    · rw [List.flatMap_cons, BinlogExtract.run, Prog.forEach_append_of_ok hrun₁]
      exact hrun₂
    · rw [hmoCh₂, hmoCh₁, stream_cons, List.append_assoc]

end

/-! ### Changes on a destination -/

/-- The database after a statement. Only row statements have a meaning here. -/
def Database.runStatement (db : Database) : Statement → Option Database
  | .dml query => db.exec query
  | _ => none

/-- The database after statements that were committed; one that got an error has changed
nothing. -/
def Database.runEntries (db : Database) (entries : List Entry) : Option Database :=
  entries.foldlM (fun db e => if e.reply = .ok then db.runStatement e.statement else some db) db

/-- The databases have the same tables among those that the filter lets through. -/
def Database.Agrees (conf : Settings) (db db' : Database) : Prop :=
  ∀ name, conf.replicate.filter name.1 name.2 = true → db.lookup name = db'.lookup name

/-- A row of the decoder that transport and repair leave as it is. -/
def Transportable (table : TableMapEvent) (row : List Value) : Prop :=
  DecodedRow table row ∧ ∀ (i : ℕ) (columnType : UInt8), table.columnType[i]? = some columnType →
    row[i]? = some (.bytes (some [])) → columnType = ColumnType.blob

/-- The row images of a change. -/
def RowChange.images : RowChange → List (List Value)
  | .insert row => [row]
  | .update before after => [before, after]
  | .delete row => [row]

section

variable {conf : Settings} {table : TableMapEvent} {row : List Value} {eh : EventHeader}
  {c : RowChange} {op : MysqlOperation} {query : Query}

lemma Transportable.repair (h : Transportable table row) {cols : List MysqlOperationDMLColumn}
    (hcols : columns table row = some cols) :
    gobUint8NilRepair (cols.map MysqlOperationDMLColumn.gob) = some cols := by
  refine (gobUint8NilRepair_gob_iff (extracted_of_columns h.1 hcols)).mpr ?_
  refine forall_of_mapM (fun i col hcol => ?_) hcols
  simp only [column, Option.bind_eq_bind, Option.bind_eq_some_iff] at hcol
  obtain ⟨columnName, -, columnType, htype, v, hv, hcol⟩ := hcol
  obtain rfl := Option.some.inj hcol
  rintro ⟨hne, hempty⟩
  exact hne (h.2 i columnType htype (hv.trans (congrArg some hempty)))

/-- In insert and update mode the statement of a change is the one that was built for it, unless the
filter suppresses it. -/
lemma statements_gob (hinsert : conf.dmlModeInsert ≠ "replace")
    (hupdate : conf.dmlModeUpdate ≠ "replace") (hop : changeOperation table eh c = some op)
    (hrows : ∀ row ∈ c.images, Transportable table row) (hquery : builtQuery op = some query) :
    Plain.statements conf op.gob =
      if conf.replicate.filter table.schema table.table then [.dml query] else [] := by
  have hstatement (o : MysqlOperation) (hdml : o.isDML = true) (q : Option Query)
      (h : dmlQuery conf o = .ok q) : Plain.statements conf o = q.toList.map .dml := by
    rw [Plain.statements, statement_of_isDML conf hdml, h]
    cases q <;> rfl
  have hfilter : replicateNotExecute conf table.schema table.table =
      !conf.replicate.filter table.schema table.table := rfl
  cases c with
  | insert row =>
    obtain ⟨cols, hcols, rfl⟩ := Option.map_eq_some_iff.mp hop
    cases hquery
    rw [hstatement _ rfl (if conf.replicate.filter table.schema table.table then
      some (buildDMLInsertQuery table.schema table.table cols) else none)]
    · split <;> rfl
    · simp only [MysqlOperation.gob, dmlQuery, hfilter,
        (hrows row List.mem_cons_self).repair hcols, if_neg hinsert]
      cases conf.replicate.filter table.schema table.table <;> rfl
  | delete row =>
    obtain ⟨cols, hcols, rfl⟩ := Option.map_eq_some_iff.mp hop
    rw [builtQuery] at hquery
    split_ifs at hquery with hpk
    rw [hstatement _ rfl (if conf.replicate.filter table.schema table.table then
      some query else none)]
    · split <;> rfl
    · simp only [MysqlOperation.gob, dmlQuery, hfilter,
        (hrows row List.mem_cons_self).repair hcols, if_neg hpk, hquery]
      cases conf.replicate.filter table.schema table.table <;> rfl
  | update before after =>
    obtain ⟨beforeCols, hbefore, hop⟩ := Option.bind_eq_some_iff.mp hop
    obtain ⟨afterCols, hafter, rfl⟩ := Option.map_eq_some_iff.mp hop
    rw [builtQuery] at hquery
    split_ifs at hquery with hpk
    rw [hstatement _ rfl (if conf.replicate.filter table.schema table.table then
      some query else none)]
    · split <;> rfl
    · simp only [MysqlOperation.gob, dmlQuery, hfilter,
        (hrows before List.mem_cons_self).repair hbefore,
        (hrows after (List.mem_cons_of_mem _ List.mem_cons_self)).repair hafter, if_neg hpk,
        if_neg hupdate, hquery]
      cases conf.replicate.filter table.schema table.table <;> rfl

/-- The statements of operations as they arrive. -/
def arrivedStatements (conf : Settings) (ops : List MysqlOperation) : List Statement :=
  ops.flatMap fun op => Plain.statements conf op.gob

variable {db db' dest : Database}

/-- A change of the source, and its statement on the destination. -/
lemma Database.Agrees.change (hinsert : conf.dmlModeInsert ≠ "replace")
    (hupdate : conf.dmlModeUpdate ≠ "replace") (hagrees : dest.Agrees conf db) {s : Schema}
    (hs : Database.schema db (table.schema, table.table) = some s) (hdesc : s.Describes table)
    (hrows : ∀ row ∈ c.images, Transportable table row)
    (h : db.modify (table.schema, table.table) (·.apply c) = some db') (eh : EventHeader) :
    ∃ op dest', changeOperation table eh c = some op ∧
      (Plain.statements conf op.gob).foldlM Database.runStatement dest = some dest' ∧
      dest'.Agrees conf db' ∧ ∀ name, Database.schema db' name = Database.schema db name := by
  obtain ⟨t, t', ht, happly, rfl⟩ := Database.modify_eq_some h
  obtain rfl : t.schema = s := by
    rw [Database.schema, ht] at hs
    exact Option.some.inj hs
  obtain ⟨op, query, hop, hquery, hname, hexec⟩ := exists_query_of_apply hdesc happly eh
  have hsame := Database.schema_insert ht (Table.schema_apply happly)
  refine ⟨op, ?_⟩
  rw [statements_gob hinsert hupdate hop hrows hquery]
  split
  case isTrue hpass =>
    -- the statement finds the table of the source
    have hlookup : dest.lookup (table.schema, table.table) = some t :=
      (hagrees (table.schema, table.table) hpass).trans ht
    refine ⟨dest.insert (table.schema, table.table) t', hop, ?_, fun name hname' => ?_, hsame⟩
    · have hstep : dest.runStatement (.dml query) =
          some (dest.insert (table.schema, table.table) t') := by
        rw [Database.runStatement, Database.exec, hname, Database.modify, hlookup,
          Option.bind_some, hexec]
        rfl
      rw [List.foldlM_cons, hstep]
      rfl
    · by_cases heq : name = (table.schema, table.table)
      · rw [heq, Finmap.lookup_insert, Finmap.lookup_insert]
      · rw [Finmap.lookup_insert_of_ne _ heq, Finmap.lookup_insert_of_ne _ heq]
        exact hagrees name hname'
  case isFalse hpass =>
    refine ⟨dest, hop, rfl, fun name hname' => ?_, hsame⟩
    have hne : name ≠ (table.schema, table.table) := by
      rintro rfl
      exact hpass hname'
    rw [Finmap.lookup_insert_of_ne _ hne]
    exact hagrees name hname'

lemma Database.Agrees.changes (hinsert : conf.dmlModeInsert ≠ "replace")
    (hupdate : conf.dmlModeUpdate ≠ "replace") (hagrees : dest.Agrees conf db) {s : Schema}
    (hs : Database.schema db (table.schema, table.table) = some s) (hdesc : s.Describes table)
    {changes : List RowChange} (hrows : ∀ c ∈ changes, ∀ row ∈ c.images, Transportable table row)
    (h : db.applyAll (table.schema, table.table) changes = some db') (eh : EventHeader) :
    ∃ ops dest', changes.mapM (changeOperation table eh) = some ops ∧
      (arrivedStatements conf ops).foldlM Database.runStatement dest = some dest' ∧
      dest'.Agrees conf db' ∧ ∀ name, Database.schema db' name = Database.schema db name := by
  induction changes generalizing db dest with
  | nil =>
    cases h
    exact ⟨[], dest, rfl, rfl, hagrees, fun _ => rfl⟩
  | cons c changes ih =>
    obtain ⟨hc, hchanges⟩ := List.forall_mem_cons.mp hrows
    rw [Database.applyAll, List.foldlM_cons] at h
    obtain ⟨db₁, h₁, h⟩ := Option.bind_eq_some_iff.mp h
    obtain ⟨op, dest₁, hop, hrun₁, hagrees₁, hsame₁⟩ :=
      hagrees.change hinsert hupdate hs hdesc hc h₁ eh
    obtain ⟨ops, dest₂, hops, hrun₂, hagrees₂, hsame₂⟩ :=
      ih hagrees₁ ((hsame₁ _).trans hs) hchanges h
    refine ⟨op :: ops, dest₂, ?_, ?_, hagrees₂, fun name => (hsame₂ name).trans (hsame₁ name)⟩
    · rw [List.mapM_cons, hop, hops]
      rfl
    · rw [arrivedStatements, List.flatMap_cons, List.foldlM_append, hrun₁]
      exact hrun₂

lemma updateChanges_images {rows : List (List Value)} {changes : List RowChange}
    (h : updateChanges rows = some changes) : ∀ c ∈ changes, c.images ⊆ rows := by
  induction rows using updateChanges.induct generalizing changes with
  | case1 =>
    cases h
    simp
  | case2 row => cases h
  | case3 before after rows ih =>
    obtain ⟨changes', hchanges', rfl⟩ := Option.map_eq_some_iff.mp h
    refine List.forall_mem_cons.mpr ⟨?_, fun c hc row hrow => ?_⟩
    · simp [RowChange.images]
    · exact List.mem_cons_of_mem _ (List.mem_cons_of_mem _ (ih hchanges' c hc hrow))

/-- The row images of the changes of an event are its rows. -/
lemma eventChanges_images {type : RowsEventType} {e : RowsEvent} {changes : List RowChange}
    (h : eventChanges type e = some changes) : ∀ c ∈ changes, c.images ⊆ e.rows := by
  cases type with
  | write =>
    cases h
    simp [RowChange.images]
  | update => exact updateChanges_images h
  | delete =>
    cases h
    simp [RowChange.images]
  | other => cases h

/-- The rows events of the binlog fit the tables of a database, and their rows survive transport. -/
def Describable (db : Database) (events : List (EventHeader × RowsEventType × RowsEvent)) : Prop :=
  ∀ ev ∈ events, (∃ s, Database.schema db (tableOf ev) = some s ∧ s.Describes ev.2.2.table) ∧
    ∀ row ∈ ev.2.2.rows, Transportable ev.2.2.table row

lemma Describable.of_schema {events : List (EventHeader × RowsEventType × RowsEvent)}
    (h : Describable db events)
    (hsame : ∀ name, Database.schema db' name = Database.schema db name) :
    Describable db' events := by
  intro ev hev
  obtain ⟨⟨s, hs, hdesc⟩, hrows⟩ := h ev hev
  exact ⟨⟨s, (hsame _).trans hs, hdesc⟩, hrows⟩

lemma Database.Agrees.events (hinsert : conf.dmlModeInsert ≠ "replace")
    (hupdate : conf.dmlModeUpdate ≠ "replace") (hagrees : dest.Agrees conf db)
    {events : List (EventHeader × RowsEventType × RowsEvent)} (hdesc : Describable db events)
    (h : events.foldlM Database.source db = some db') :
    ∃ ops dest', bodyOperations events = some ops ∧
      (arrivedStatements conf ops).foldlM Database.runStatement dest = some dest' ∧
      dest'.Agrees conf db' ∧ ∀ name, Database.schema db' name = Database.schema db name := by
  induction events generalizing db dest with
  | nil =>
    cases h
    exact ⟨[], dest, rfl, rfl, hagrees, fun _ => rfl⟩
  | cons ev events ih =>
    obtain ⟨⟨⟨s, hs, hev⟩, hrows⟩, hdesc'⟩ := List.forall_mem_cons.mp hdesc
    rw [List.foldlM_cons] at h
    obtain ⟨db₁, h₁, h⟩ := Option.bind_eq_some_iff.mp h
    obtain ⟨changes, hchanges, h₁⟩ := Option.bind_eq_some_iff.mp h₁
    have himages := eventChanges_images hchanges
    obtain ⟨ops₁, dest₁, hops₁, hrun₁, hagrees₁, hsame₁⟩ := hagrees.changes hinsert hupdate hs hev
      (fun c hc row hrow => hrows row (himages c hc hrow)) h₁ ev.1
    obtain ⟨ops₂, dest₂, hops₂, hrun₂, hagrees₂, hsame₂⟩ :=
      ih hagrees₁ (Describable.of_schema hdesc' hsame₁) h
    refine ⟨ops₁ ++ ops₂, dest₂, ?_, ?_, hagrees₂, fun name => (hsame₂ name).trans (hsame₁ name)⟩
    · rw [bodyOperations] at hops₂
      rw [bodyOperations, sentByAll, rowsOperations_eq hchanges, hops₁, hops₂]
      rfl
    · rw [arrivedStatements, List.flatMap_append, List.foldlM_append]
      rw [arrivedStatements] at hrun₁ hrun₂
      rw [hrun₁]
      exact hrun₂

end

/-! ### Histories -/

section

variable {parse : String → Option (List StmtNode)} {conf : Settings} {db db' dest : Database}
  {txs : List (SourceTransaction parse)} {rtxs : List RowTransaction}

/-- The source after a history. -/
def Database.applyHistory (db : Database) (txs : List (SourceTransaction parse)) :
    Option Database :=
  txs.foldlM (fun db t => t.apply db) db

lemma Database.applyHistory_append (db : Database) (txs txs' : List (SourceTransaction parse)) :
    db.applyHistory (txs ++ txs') =
      (db.applyHistory txs).bind fun db' => db'.applyHistory txs' :=
  List.foldlM_append

/-- Only the row changes of a transaction have statements. -/
lemma RowTransaction.statements_gob (rt : RowTransaction) :
    rt.gob.statements conf = arrivedStatements conf (rt.rows.filter MysqlOperation.isDML) := by
  have hrows := rt.rows_inRows
  rw [RowTransaction.statements, RowTransaction.gob, arrivedStatements, List.flatMap_map]
  generalize rt.rows = rows at hrows
  induction rows with
  | nil => rfl
  | cons op rows ih =>
    obtain ⟨hop, hops⟩ := List.forall_mem_cons.mp hrows
    rw [List.flatMap_cons, ih hops]
    rcases hop with hdml | ⟨o, rfl⟩
    · rw [List.filter_cons_of_pos hdml, List.flatMap_cons]
    · rfl

lemma Database.Agrees.history (hinsert : conf.dmlModeInsert ≠ "replace")
    (hupdate : conf.dmlModeUpdate ≠ "replace") (hagrees : dest.Agrees conf db)
    (hext : List.Forall₂ SourceTransaction.Extracts txs rtxs)
    (hdesc : ∀ t ∈ txs, Describable db t.rowsEvents) (h : db.applyHistory txs = some db') :
    ∃ dest', ((rtxs.map RowTransaction.gob).flatMap (RowTransaction.statements conf)).foldlM
        Database.runStatement dest = some dest' ∧ dest'.Agrees conf db' := by
  induction hext generalizing db dest with
  | nil =>
    cases h
    exact ⟨dest, rfl, hagrees⟩
  | cons hext _ ih =>
    obtain ⟨ht, htxs⟩ := List.forall_mem_cons.mp hdesc
    rw [Database.applyHistory, List.foldlM_cons] at h
    obtain ⟨db₁, h₁, h⟩ := Option.bind_eq_some_iff.mp h
    obtain ⟨ops, dest₁, hops, hrun₁, hagrees₁, hsame⟩ := hagrees.events hinsert hupdate ht h₁
    obtain rfl := Option.some.inj (hops.symm.trans hext.rows)
    obtain ⟨dest₂, hrun₂, hagrees₂⟩ :=
      ih hagrees₁ (fun t ht => (htxs t ht).of_schema hsame) h
    refine ⟨dest₂, ?_, hagrees₂⟩
    rw [List.map_cons, List.flatMap_cons, RowTransaction.statements_gob, List.foldlM_append, hrun₁]
    exact hrun₂

/-- The row changes of a transaction do not change schemas, and the extractor describes them. -/
lemma SourceTransaction.apply_of_describable {t : SourceTransaction parse}
    (hdesc : Describable db t.rowsEvents) (h : t.apply db = some db') :
    (bodyOperations t.rowsEvents).isSome = true ∧
      ∀ name, Database.schema db' name = Database.schema db name := by
  -- a destination without a filter follows the source
  have hself : db.Agrees Settings.unrestricted db := fun _ _ => rfl
  obtain ⟨ops, dest', hops, -, -, hsame⟩ := hself.events (by decide) (by decide) hdesc h
  exact ⟨Option.isSome_iff_exists.mpr ⟨ops, hops⟩, hsame⟩

lemma Database.applyHistory_of_describable (hdesc : ∀ t ∈ txs, Describable db t.rowsEvents)
    (h : db.applyHistory txs = some db') :
    (∀ t ∈ txs, (bodyOperations t.rowsEvents).isSome = true) ∧
      ∀ name, Database.schema db' name = Database.schema db name := by
  induction txs generalizing db with
  | nil =>
    cases h
    exact ⟨by simp, fun _ => rfl⟩
  | cons t txs ih =>
    obtain ⟨ht, htxs⟩ := List.forall_mem_cons.mp hdesc
    rw [Database.applyHistory, List.foldlM_cons] at h
    obtain ⟨db₁, h₁, h⟩ := Option.bind_eq_some_iff.mp h
    obtain ⟨hsome, hsame⟩ := SourceTransaction.apply_of_describable ht h₁
    obtain ⟨hsomes, hsames⟩ := ih (fun t ht => (htxs t ht).of_schema hsame) h
    exact ⟨List.forall_mem_cons.mpr ⟨hsome, hsomes⟩,
      fun name => (hsames name).trans (hsame name)⟩

lemma gtids_eq_of_extracts (hext : List.Forall₂ SourceTransaction.Extracts txs rtxs) :
    gtids rtxs = txs.map SourceTransaction.gtid := by
  induction hext with
  | nil => rfl
  | cons hext _ ih => rw [gtids, List.map_cons, hext.gtid, List.map_cons, ← ih, gtids]

/-- Without a skip list every committed statement succeeded. -/
lemma Database.runEntries_eq (hskip : conf.skipErrors = []) {entries : List Entry}
    (h : ∀ e ∈ entries, e.reply.Tolerated conf) (db : Database) :
    db.runEntries entries = (entries.map Entry.statement).foldlM Database.runStatement db := by
  induction entries generalizing db with
  | nil => rfl
  | cons e entries ih =>
    obtain ⟨he, hentries⟩ := List.forall_mem_cons.mp h
    have hok : e.reply = .ok := by
      rcases he with hok | herr
      · exact hok
      · cases hr : e.reply <;> simp [hr, MysqlClient.skipError, hskip] at herr ⊢
    rw [Database.runEntries, List.foldlM_cons, if_pos hok, List.map_cons, List.foldlM_cons]
    cases db.runStatement e.statement with
    | none => rfl
    | some db' => exact ih hentries db'

end

/-- The destination agrees with the source. Let the extractor handle the binlog of a history of
transactions with rows, let any part of what it has sent pass through the transfer to any number of
clients, and let a destination in insert and update mode without a skip list start from the first
`k` transactions. However its calls are answered and wherever it ends, the tables that it
replicates are those of the source after the first `n` transactions, for some `n` that is at least
`k`, and the checkpoint it has stored does not go beyond them. -/
theorem destination_agrees {parse : String → Option (List StmtNode)}
    {txs : List (SourceTransaction parse)} {db db' : Database}
    (hsource : db.applyHistory txs = some db') (hdesc : ∀ t ∈ txs, Describable db t.rowsEvents)
    (hasc : Ascends (txs.map SourceTransaction.gtid)) {ι : Type} [Fintype ι] [DecidableEq ι]
    {es : List (TransferEvent ι)} {ts : TCPServer ι} (hrun : TCPServer.run es = some ts)
    {file : String} (hsent : es.filterMap TransferEvent.extracted <+:
      (BinlogExtract.run parse (txs.flatMap SourceTransaction.events) ⟨file, []⟩).2.moCh)
    (c : ι) {conf : Settings} (hinsert : conf.dmlModeInsert ≠ "replace")
    (hupdate : conf.dmlModeUpdate ≠ "replace") (hskip : conf.skipErrors = []) {env : Env}
    {ckpt : Checkpoint} {k : ℕ}
    (hk : CoversFirst ckpt.gtidSetsMap (txs.map SourceTransaction.gtid) k) {dbₖ dest : Database}
    (hdbₖ : db.applyHistory (txs.take k) = some dbₖ) (hdest : dest.Agrees conf dbₖ)
    {opers : List MysqlOperation}
    (hopers : opers <+: (ts.links c).client.moCh.map MysqlOperation.gob)
    {p : List Event} (hp : p <+: (run conf env opers (newMysqlApplier ckpt)).2.log) :
    ∃ n dbₙ dest', k ≤ n ∧ db.applyHistory (txs.take n) = some dbₙ ∧
      dest.runEntries (World.replay p).committed = some dest' ∧ dest'.Agrees conf dbₙ ∧
      ∀ m, (World.replay p).gtidsets = some m →
        ∃ k' ≤ n, CoversFirst m (txs.map SourceTransaction.gtid) k' := by
  obtain ⟨bext, rtxs, hextract, hmoCh, hext⟩ :=
    exists_extracts_all (Database.applyHistory_of_describable hdesc hsource).1 ⟨file, []⟩
  rw [hextract, hmoCh] at hsent
  have hstream : opers <+: stream (rtxs.map RowTransaction.gob) := by
    rw [stream_gob]
    exact hopers.trans (((TCPServer.moCh_isPrefix_extracted hrun c).trans hsent).map _)
  have hgtids : gtids (rtxs.map RowTransaction.gob) = txs.map SourceTransaction.gtid :=
    (gtids_gob rtxs).trans (gtids_eq_of_extracts hext)
  rw [← hgtids] at hk hasc
  obtain ⟨n, hcut⟩ := exists_cut hk hasc hstream hp
  -- the source after `n` transactions, and from `k` on
  have htake := Blocks.drop_take_eq_append txs (Nat.zero_le k) hcut.ge
  rw [List.drop_zero, List.drop_zero] at htake
  have hsplit := hsource
  rw [← List.take_append_drop n txs, Database.applyHistory_append] at hsplit
  obtain ⟨dbₙ, hdbₙ, -⟩ := Option.bind_eq_some_iff.mp hsplit
  have hsegment : dbₖ.applyHistory ((txs.take n).drop k) = some dbₙ := by
    have hfrom := hdbₙ
    rw [htake, Database.applyHistory_append, hdbₖ] at hfrom
    exact hfrom
  have hdescₖ : ∀ t ∈ (txs.take n).drop k, Describable dbₖ t.rowsEvents := by
    intro t ht
    have hmem : t ∈ txs := List.mem_of_mem_take (List.mem_of_mem_drop ht)
    exact (hdesc t hmem).of_schema (Database.applyHistory_of_describable
      (fun t' ht' => hdesc t' (List.mem_of_mem_take ht')) hdbₖ).2
  have hextₖ := List.forall₂_drop k (List.forall₂_take n hext)
  obtain ⟨dest', hdest', hagrees⟩ := hdest.history hinsert hupdate hextₖ hdescₖ hsegment
  refine ⟨n, dbₙ, dest', hcut.ge, hdbₙ, ?_, hagrees, fun m hm => ?_⟩
  · rw [Database.runEntries_eq hskip hcut.tolerated, hcut.committed, ← List.map_take,
      ← List.map_drop]
    exact hdest'
  · obtain ⟨k', -, hle, hcov⟩ := hcut.stored m hm
    exact ⟨k', hle, hgtids ▸ hcov⟩

/-- A parser that knows the `BEGIN` of a transaction. -/
def parsesBegin (query : String) : Option (List StmtNode) :=
  if query = "BEGIN" then some [.begin] else none

/-- The table of the histories below, without rows. -/
def emptyPairs : Database := Finmap.singleton ("db", "t") ⟨pairs, ⟨∅, by simp⟩⟩

def pairsMap : TableMapEvent := ⟨"db", "t", 2, [3, 3], ["id", "v"], [0]⟩

/-- A transaction with one rows event. -/
def onePairEvent (trxID : Int64) (text : String) (type : RowsEventType) (rows : List (List Value))
    (h : gtidOperation ⟨0, some text⟩ ⟨7, "GTIDEvent", 1, 100⟩ =
      some (.gtid ⟨0, 1, 7, "u", trxID⟩)) : SourceTransaction parsesBegin where
  before := [⟨⟨7, "RotateEvent", 1, 0⟩, .rotate true "mysql-bin.1"⟩]
  gtidHeader := ⟨7, "GTIDEvent", 1, 100⟩
  gtidEvent := ⟨0, some text⟩
  gtid := ⟨0, 1, 7, "u", trxID⟩
  beginHeader := ⟨7, "QueryEvent", 1, 200⟩
  beginEvent := ⟨"db", "BEGIN"⟩
  body := [⟨⟨7, "TableMapEvent", 1, 300⟩, .other⟩,
    ⟨⟨7, "RowsEvent", 1, 400⟩, .rows type ⟨pairsMap, rows⟩⟩]
  xidHeader := ⟨7, "XIDEvent", 1, 500⟩
  before_isIdle := List.forall_mem_singleton.mpr rfl
  gtid_eq := h
  begin_eq := rfl
  body_inBody := List.forall_mem_cons.mpr ⟨rfl, List.forall_mem_singleton.mpr rfl⟩

/-- A row is inserted, and then moved to another key. -/
def insertAndMove : List (SourceTransaction parsesBegin) :=
  [onePairEvent 1 "u:1" .write [[.int32 1, .int32 10]] (by decide),
   onePairEvent 2 "u:2" .update [[.int32 1, .int32 10], [.int32 2, .int32 20]] (by decide)]

lemma describable_insertAndMove : ∀ t ∈ insertAndMove, Describable emptyPairs t.rowsEvents := by
  have hdesc : pairs.Describes pairsMap := ⟨rfl, rfl, rfl, rfl⟩
  have hrow (a b : Int32) : Transportable pairsMap [.int32 a, .int32 b] := by
    constructor
    · intro i columnType v htype hv _
      match i with
      | 0 =>
        cases htype
        cases hv
        rfl
      | 1 =>
        cases htype
        cases hv
        rfl
      | n + 2 => simp [pairsMap] at htype
    · intro i columnType htype hv
      match i with
      | 0 => cases hv
      | 1 => cases hv
      | n + 2 => simp at hv
  simp only [insertAndMove, List.mem_cons, List.not_mem_nil, or_false]
  rintro t (rfl | rfl) ev hev
  · obtain rfl := List.mem_singleton.mp hev
    exact ⟨⟨pairs, rfl, hdesc⟩, List.forall_mem_singleton.mpr (hrow 1 10)⟩
  · obtain rfl := List.mem_singleton.mp hev
    exact ⟨⟨pairs, rfl, hdesc⟩,
      List.forall_mem_cons.mpr ⟨hrow 1 10, List.forall_mem_singleton.mpr (hrow 2 20)⟩⟩

/-- What the extractor sends for it goes to two clients, of which one has put all but the last
three operations on its channel. -/
def insertAndMoveSent : List (TransferEvent Bool) :=
  List.flatten [
    (BinlogExtract.run parsesBegin (insertAndMove.flatMap SourceTransaction.events)
      ⟨"", []⟩).2.moCh.map .extract,
    [.link false .register, .link true .register, .readDead false, .readState, .readDead true,
      .readState, .evaluateFetchCount 16],
    List.replicate 16 .takeMo,
    [.formBatch, .link false .setPush, .link true .setPush, .link true .clientPush,
      .link false .clientPush, .link true (.sendOperations none true), .link true .decodeSignal1],
    List.replicate 13 (.link true .putMo)]

theorem destination_agrees_insertAndMove :
    ∃ ts, TCPServer.run insertAndMoveSent = some ts ∧ (ts.links true).client.moCh.length = 13 ∧
      ∃ n dbₙ dest', 0 ≤ n ∧ emptyPairs.applyHistory (insertAndMove.take n) = some dbₙ ∧
        emptyPairs.runEntries (World.replay (run Settings.unrestricted (fun _ _ => .ok)
          ((ts.links true).client.moCh.map MysqlOperation.gob)
          (newMysqlApplier ⟨∅, "", 0⟩)).2.log).committed = some dest' ∧
        dest'.Agrees Settings.unrestricted dbₙ ∧
        ∀ m, (World.replay (run Settings.unrestricted (fun _ _ => .ok)
          ((ts.links true).client.moCh.map MysqlOperation.gob)
          (newMysqlApplier ⟨∅, "", 0⟩)).2.log).gtidsets = some m →
          ∃ k' ≤ n, CoversFirst m (insertAndMove.map SourceTransaction.gtid) k' := by
  have hrun : ((TCPServer.run insertAndMoveSent).map fun ts =>
      decide ((ts.links true).client.moCh.length = 13)) = some true := by decide +kernel
  obtain ⟨ts, hts, hlen⟩ := Option.map_eq_some_iff.mp hrun
  have hsource : ∃ db', emptyPairs.applyHistory insertAndMove = some db' := ⟨_, rfl⟩
  obtain ⟨db', hsource⟩ := hsource
  have hascends : Ascends (insertAndMove.map SourceTransaction.gtid) :=
    .cons (List.forall_mem_singleton.mpr fun _ => by decide) (.cons (by simp) .nil)
  have hcovers : CoversFirst ∅ (insertAndMove.map SourceTransaction.gtid) 0 :=
    ⟨Nat.zero_le _, by simp [GtidSetsMap.Covers]⟩
  have hsent : insertAndMoveSent.filterMap TransferEvent.extracted <+:
      (BinlogExtract.run parsesBegin (insertAndMove.flatMap SourceTransaction.events)
        ⟨"", []⟩).2.moCh := by decide +kernel
  refine ⟨ts, hts, of_decide_eq_true hlen, ?_⟩
  exact destination_agrees hsource describable_insertAndMove hascends hts hsent true (by decide)
    (by decide) rfl hcovers rfl (fun _ _ => rfl) (List.prefix_refl _) (List.prefix_refl _)

end MysqlSync

import MysqlSync.Extract.Basic

/-!
# What an event sends

`Sends x ops` says that an action sends the operations `ops` and otherwise leaves the extractor
as it is, or, for `none`, that it stops. The rules follow the ways actions are put together;
`start_eq_ok` is the account of one event, `run_eq_ok` that of a list of events in one binlog file.
-/

namespace MysqlSync

def BinlogEvent.isRotate (ev : BinlogEvent) : Bool :=
  match ev.event with
  | .rotate _ _ => true
  | _ => false

namespace BinlogExtract

open Prog

def send (bext : BinlogExtract) (ops : List MysqlOperation) : BinlogExtract :=
  { bext with moCh := bext.moCh ++ ops }

/-- The action sends exactly these operations, or stops. -/
def Sends (x : Extraction Unit) : Option (List MysqlOperation) → Prop
  | some ops => ∀ bext, x bext = (.ok (), bext.send ops)
  | none => ∀ bext, ∃ e bext', x bext = (.error e, bext')

@[simp] lemma send_nil (bext : BinlogExtract) : bext.send [] = bext := by simp [send]

@[simp] lemma send_send (bext : BinlogExtract) (ops ops' : List MysqlOperation) :
    (bext.send ops).send ops' = bext.send (ops ++ ops') := by
  simp [send]

/-! ### Rules -/

section

variable {x y : Extraction Unit} {l l' : Option (List MysqlOperation)}

lemma sends_pure : Sends (pure ()) (some []) := by
  intro bext
  rw [send_nil]
  rfl

lemma sends_stop (e : ExtractStop) : Sends (stop e) none :=
  fun bext => ⟨e, bext, rfl⟩

lemma sends_toMoCh (mo : MysqlOperation) : Sends (toMoCh mo) (some [mo]) :=
  fun _ => rfl

/-- One action after another. -/
lemma Sends.andThen (hx : Sends x l) (hy : Sends y l') :
    Sends (x >>= fun _ => y) (l.bind fun ops => l'.map (ops ++ ·)) := by
  cases l with
  | none =>
    intro bext
    obtain ⟨e, bext', h⟩ := hx bext
    exact ⟨e, bext', bind_of_error h⟩
  | some ops =>
    cases l' with
    | none =>
      intro bext
      obtain ⟨e, bext', h⟩ := hy (bext.send ops)
      exact ⟨e, bext', (bind_of_ok (hx bext)).trans h⟩
    | some ops' =>
      intro bext
      rw [bind_of_ok (hx bext), hy, send_send]

lemma Sends.orPanic {α : Type} (value : Option α) {f : α → Extraction Unit}
    {g : α → Option (List MysqlOperation)} (h : ∀ a, Sends (f a) (g a)) :
    Sends (orPanic value >>= f) (value.bind g) := by
  cases value with
  | none => exact fun bext => ⟨.panic, bext, rfl⟩
  | some a => exact h a

/-- What a loop sends. -/
def sentByAll {α : Type} (g : α → Option (List MysqlOperation)) :
    List α → Option (List MysqlOperation)
  | [] => some []
  | a :: as => (g a).bind fun ops => (sentByAll g as).map (ops ++ ·)

lemma Sends.forEach {α : Type} {f : α → Extraction Unit} {g : α → Option (List MysqlOperation)}
    (h : ∀ a, Sends (f a) (g a)) (as : List α) : Sends (forEach f as) (sentByAll g as) := by
  induction as with
  | nil => exact sends_pure
  | cons a as ih => exact (h a).andThen ih

lemma sentByAll_some {α : Type} (g : α → List MysqlOperation) (as : List α) :
    sentByAll (fun a => some (g a)) as = some (as.flatMap g) := by
  induction as with
  | nil => rfl
  | cons a as ih => simp [sentByAll, ih]

end

/-! ### However it ends -/

/-- Everything an action sends satisfies `P`, however it ends. -/
def SendsOnly {α : Type} (P : MysqlOperation → Prop) (x : Extraction α) : Prop :=
  ∀ bext, ∃ l, (x bext).2.moCh = bext.moCh ++ l ∧ ∀ op ∈ l, P op

section

variable {α β : Type} {P : MysqlOperation → Prop}

lemma sendsOnly_of_moCh {x : Extraction α} (h : ∀ bext, (x bext).2.moCh = bext.moCh) :
    SendsOnly P x :=
  fun bext => ⟨[], by rw [h, List.append_nil], by simp⟩

lemma sendsOnly_toMoCh {op : MysqlOperation} (h : P op) : SendsOnly P (toMoCh op) :=
  fun _ => ⟨[op], rfl, by simpa using h⟩

lemma SendsOnly.bind {x : Extraction α} {f : α → Extraction β} (hx : SendsOnly P x)
    (hf : ∀ a, SendsOnly P (f a)) : SendsOnly P (x >>= f) := by
  intro bext
  obtain ⟨l, hl, hP⟩ := hx bext
  rcases h : x bext with ⟨e | a, bext'⟩
  · rw [h] at hl
    exact ⟨l, by rw [bind_of_error h]; exact hl, hP⟩
  · rw [h] at hl
    rw [bind_of_ok h]
    obtain ⟨l', hl', hP'⟩ := hf a bext'
    refine ⟨l ++ l', ?_, ?_⟩
    · rw [hl', hl, List.append_assoc]
    · intro op hop
      rcases List.mem_append.mp hop with hop | hop
      · exact hP op hop
      · exact hP' op hop

lemma SendsOnly.forEach {f : α → Extraction PUnit} {as : List α}
    (h : ∀ a ∈ as, SendsOnly P (f a)) : SendsOnly P (forEach f as) := by
  induction as with
  | nil => exact sendsOnly_of_moCh fun _ => rfl
  | cons a as ih =>
    exact (h a List.mem_cons_self).bind fun _ => ih fun a' ha' => h a' (List.mem_cons_of_mem a ha')

/-- A value that is used if it is there. -/
lemma SendsOnly.orPanic {γ : Type} {value : Option γ} {f : γ → Extraction β}
    (h : ∀ a, value = some a → SendsOnly P (f a)) : SendsOnly P (orPanic value >>= f) := by
  cases value with
  | none => exact sendsOnly_of_moCh fun _ => rfl
  | some a => exact h a rfl

/-- A row change of the table that a table map describes. -/
inductive RowOf (table : TableMapEvent) : MysqlOperation → Prop where
  | insert {row : List Value} {cols : List MysqlOperationDMLColumn} (timestamp : UInt32)
      (h : columns table row = some cols) :
      RowOf table (.dmlInsert ⟨table.schema, table.table, cols, table.primaryKey, timestamp⟩)
  | delete {row : List Value} {cols : List MysqlOperationDMLColumn} (timestamp : UInt32)
      (h : columns table row = some cols) :
      RowOf table (.dmlDelete ⟨table.schema, table.table, cols, table.primaryKey, timestamp⟩)
  | update {before after : List Value}
      {beforeColumns afterColumns : List MysqlOperationDMLColumn} (timestamp : UInt32)
      (hbefore : columns table before = some beforeColumns)
      (hafter : columns table after = some afterColumns) :
      RowOf table (.dmlUpdate ⟨table.schema, table.table, afterColumns, beforeColumns,
        table.primaryKey, timestamp⟩)

lemma RowOf.isDML {table : TableMapEvent} {op : MysqlOperation} (h : RowOf table op) :
    op.isDML = true := by
  cases h <;> rfl

lemma sendsOnly_updateRows (table : TableMapEvent) (hP : ∀ op, RowOf table op → P op)
    (eh : EventHeader) (rows : List (List Value)) : SendsOnly P (updateRows table eh rows) := by
  induction rows using updateRows.induct with
  | case1 => exact sendsOnly_of_moCh fun _ => rfl
  | case2 row => exact sendsOnly_of_moCh fun _ => rfl
  | case3 before after rows ih =>
    rw [updateRows]
    exact SendsOnly.orPanic fun _ hbefore => SendsOnly.orPanic fun _ hafter =>
      (sendsOnly_toMoCh (hP _ (.update _ hbefore hafter))).bind fun _ => ih

lemma sendsOnly_handleEventRows (e : RowsEvent) (hP : ∀ op, RowOf e.table op → P op)
    (type : RowsEventType) (eh : EventHeader) : SendsOnly P (handleEventRows type e eh) := by
  cases type with
  | write =>
    exact SendsOnly.forEach fun row _ =>
      SendsOnly.orPanic fun _ h => sendsOnly_toMoCh (hP _ (.insert _ h))
  | delete =>
    exact SendsOnly.forEach fun row _ =>
      SendsOnly.orPanic fun _ h => sendsOnly_toMoCh (hP _ (.delete _ h))
  | update => exact sendsOnly_updateRows e.table hP eh e.rows
  | other => exact sendsOnly_of_moCh fun _ => rfl

lemma sendsOnly_handleEventGtid (hP : ∀ o, P (.gtid o)) (e : GTIDEvent) (eh : EventHeader) :
    SendsOnly P (handleEventGtid e eh) := by
  rw [handleEventGtid]
  split
  · exact sendsOnly_of_moCh fun _ => rfl
  · split
    · split
      · exact sendsOnly_of_moCh fun _ => rfl
      · exact sendsOnly_toMoCh (hP _)
    · exact sendsOnly_of_moCh fun _ => rfl

end

/-! ### The handlers -/

/-- The operation of one inserted row. -/
def insertOperation (table : TableMapEvent) (eh : EventHeader) (row : List Value) :
    Option MysqlOperation :=
  (columns table row).map fun columns =>
    .dmlInsert ⟨table.schema, table.table, columns, table.primaryKey, eh.timestamp⟩

def deleteOperation (table : TableMapEvent) (eh : EventHeader) (row : List Value) :
    Option MysqlOperation :=
  (columns table row).map fun columns =>
    .dmlDelete ⟨table.schema, table.table, columns, table.primaryKey, eh.timestamp⟩

def updateOperation (table : TableMapEvent) (eh : EventHeader) (before after : List Value) :
    Option MysqlOperation :=
  (columns table before).bind fun beforeColumns => (columns table after).map fun afterColumns =>
    .dmlUpdate ⟨table.schema, table.table, afterColumns, beforeColumns, table.primaryKey,
      eh.timestamp⟩

def updateOperations (table : TableMapEvent) (eh : EventHeader) :
    List (List Value) → Option (List MysqlOperation)
  | [] => some []
  | [_] => none
  | before :: after :: rows =>
    (updateOperation table eh before after).bind fun op =>
      (updateOperations table eh rows).map (op :: ·)

/-- The operations of a rows event. -/
def rowsOperations (type : RowsEventType) (e : RowsEvent) (eh : EventHeader) :
    Option (List MysqlOperation) :=
  match type with
  | .write => e.rows.mapM (insertOperation e.table eh)
  | .update => updateOperations e.table eh e.rows
  | .delete => e.rows.mapM (deleteOperation e.table eh)
  | .other => some []

/-- The operation of a GTID event. -/
def gtidOperation (e : GTIDEvent) (eh : EventHeader) : Option MysqlOperation :=
  match e.gtidNext.map (Strings.split · ':') with
  | some [serverUUID, trxID] => (Strings.parseInt64 trxID).map fun xid =>
      .gtid ⟨e.lastCommitted, eh.serverID, eh.timestamp, serverUUID, xid⟩
  | _ => none

section

variable (parse : String → Option (List StmtNode)) (table : TableMapEvent) (e : RowsEvent)
  (eh : EventHeader)

lemma sentByAll_singleton {α : Type} (g : α → Option MysqlOperation) (as : List α) :
    sentByAll (fun a => (g a).map ([·])) as = as.mapM g := by
  induction as with
  | nil => rfl
  | cons a as ih =>
    rw [sentByAll, ih, List.mapM_cons]
    cases g a with
    | none => rfl
    | some op => cases as.mapM g <;> rfl

lemma sends_handleEventWriteRows :
    Sends (handleEventWriteRows e eh) (e.rows.mapM (insertOperation e.table eh)) := by
  rw [← sentByAll_singleton]
  apply Sends.forEach
  intro row
  have h := Sends.orPanic (columns e.table row) fun columns =>
    sends_toMoCh (.dmlInsert ⟨e.table.schema, e.table.table, columns, e.table.primaryKey,
      eh.timestamp⟩)
  cases hc : columns e.table row <;> rw [hc] at h <;> simpa [insertOperation, hc] using h

lemma sends_handleEventDeleteRows :
    Sends (handleEventDeleteRows e eh) (e.rows.mapM (deleteOperation e.table eh)) := by
  rw [← sentByAll_singleton]
  apply Sends.forEach
  intro row
  have h := Sends.orPanic (columns e.table row) fun columns =>
    sends_toMoCh (.dmlDelete ⟨e.table.schema, e.table.table, columns, e.table.primaryKey,
      eh.timestamp⟩)
  cases hc : columns e.table row <;> rw [hc] at h <;> simpa [deleteOperation, hc] using h

lemma sends_updateRows (rows : List (List Value)) :
    Sends (updateRows table eh rows) (updateOperations table eh rows) := by
  induction rows using updateRows.induct with
  | case1 => exact sends_pure
  | case2 row => exact sends_stop .panic
  | case3 before after rows ih =>
    have h := Sends.orPanic (columns table before) fun beforeColumns =>
      Sends.orPanic (columns table after) fun afterColumns =>
        (sends_toMoCh (.dmlUpdate ⟨table.schema, table.table, afterColumns, beforeColumns,
          table.primaryKey, eh.timestamp⟩)).andThen ih
    have heq : updateOperations table eh (before :: after :: rows) =
        (columns table before).bind fun beforeColumns =>
          (columns table after).bind fun afterColumns =>
            (some [.dmlUpdate ⟨table.schema, table.table, afterColumns, beforeColumns,
              table.primaryKey, eh.timestamp⟩]).bind fun ops =>
                (updateOperations table eh rows).map (ops ++ ·) := by
      rw [updateOperations, updateOperation]
      cases columns table before with
      | none => rfl
      | some beforeColumns => cases columns table after <;> rfl
    rw [heq]
    exact h

lemma sends_handleEventRows (type : RowsEventType) :
    Sends (handleEventRows type e eh) (rowsOperations type e eh) := by
  cases type with
  | write => exact sends_handleEventWriteRows e eh
  | update => exact sends_updateRows e.table eh e.rows
  | delete => exact sends_handleEventDeleteRows e eh
  | other => exact sends_pure

lemma sends_handleEventGtid (e : GTIDEvent) :
    Sends (handleEventGtid e eh) ((gtidOperation e eh).map ([·])) := by
  rcases e with ⟨lastCommitted, _ | gtidNext⟩
  · exact sends_stop .gtidNext
  simp only [handleEventGtid, gtidOperation, Option.map_some]
  rcases hparts : Strings.split gtidNext ':' with _ | ⟨serverUUID, _ | ⟨trxID, _ | ⟨part, parts⟩⟩⟩
  · exact sends_stop _
  · exact sends_stop _
  · cases hxid : Strings.parseInt64 trxID with
    | none =>
      simp only [hxid]
      exact sends_stop .parseInt
    | some xid =>
      simp only [hxid]
      exact sends_toMoCh _
  · exact sends_stop _

lemma sends_handleQueryEvent (e : QueryEvent) :
    Sends (handleQueryEvent e eh parse)
      ((parse e.query).map fun stmts => stmts.flatMap (stmtOperations e eh)) := by
  rw [handleQueryEvent]
  cases parse e.query with
  | none => exact sends_stop .parser
  | some stmts =>
    have hstmt (stmt : StmtNode) :
        Sends (forEach toMoCh (stmtOperations e eh stmt)) (some (stmtOperations e eh stmt)) := by
      have h := Sends.forEach sends_toMoCh (stmtOperations e eh stmt)
      rwa [sentByAll_some, List.flatMap_singleton'] at h
    have h := Sends.forEach hstmt stmts
    rwa [sentByAll_some] at h

end

/-! ### Events -/

section

variable (parse : String → Option (List StmtNode))

/-- The position operation that precedes what an event sends. -/
def moblp (file : String) (eh : EventHeader) : MysqlOperation :=
  .binLogPos ⟨eh.serverID, eh.eventType, file, eh.logPos, eh.timestamp⟩

/-- What an event sends while the binlog file is `file`. -/
def eventOperations (file : String) (ev : BinlogEvent) : Option (List MysqlOperation) :=
  match ev.event with
  | .rows type e => (rowsOperations type e ev.header).map (moblp file ev.header :: ·)
  | .gtid e => (gtidOperation e ev.header).map ([moblp file ev.header, ·])
  | .query e => (parse e.query).map fun stmts =>
      moblp file ev.header :: stmts.flatMap (stmtOperations e ev.header)
  | .xid => some [moblp file ev.header, .xid ⟨ev.header.timestamp⟩]
  | .rotate _ _ => some []
  | .heartbeat now => some [.heartbeat ⟨now⟩]
  | .other => some []

variable {parse}

/-- What an event sends, when it does not stop the extractor. -/
lemma start_eq_ok {bext bext' : BinlogExtract} {ev : BinlogEvent}
    (hrot : ev.isRotate = false) (h : start parse ev bext = (.ok (), bext')) :
    ∃ ops, eventOperations parse bext.binlogFile ev = some ops ∧ bext' = bext.send ops := by
  obtain ⟨eh, body⟩ := ev
  have hbp := sends_toMoCh (moblp bext.binlogFile eh)
  -- each case is an action whose operations are known, run from `bext`
  have hend {x : Extraction Unit} {l : Option (List MysqlOperation)} (hx : Sends x l)
      (hrun : x bext = (.ok (), bext')) : ∃ ops, l = some ops ∧ bext' = bext.send ops := by
    cases l with
    | none =>
      obtain ⟨e, bext'', herr⟩ := hx bext
      exact absurd (hrun.symm.trans herr) (by simp)
    | some ops =>
      obtain ⟨-, heq⟩ := Prod.mk.inj (hrun.symm.trans (hx bext))
      exact ⟨ops, rfl, heq⟩
  cases body with
  | rows type e =>
    have hx := hbp.andThen (sends_handleEventRows e eh type)
    rw [eventOperations]
    exact hend hx h
  | gtid e =>
    have hx := hbp.andThen (sends_handleEventGtid eh e)
    simp only [eventOperations]
    cases hop : gtidOperation e eh with
    | none =>
      rw [hop] at hx
      exact hend hx h
    | some op =>
      rw [hop] at hx
      exact hend hx h
  | query e =>
    have hx := hbp.andThen (sends_handleQueryEvent parse eh e)
    simp only [eventOperations]
    cases hstmts : parse e.query with
    | none =>
      rw [hstmts] at hx
      exact hend hx h
    | some stmts =>
      rw [hstmts] at hx
      exact hend hx h
  | xid => exact hend (hbp.andThen (sends_toMoCh (.xid ⟨eh.timestamp⟩))) h
  | rotate isRotate nextLogName => simp [BinlogEvent.isRotate] at hrot
  | heartbeat now => exact hend (sends_toMoCh (.heartbeat ⟨now⟩)) h
  | other => exact hend sends_pure h

/-- What a list of events of one binlog file sends, when none stops the extractor. -/
theorem run_eq_ok {bext bext' : BinlogExtract} {events : List BinlogEvent}
    (hrot : ∀ ev ∈ events, ev.isRotate = false)
    (h : run parse events bext = (.ok (), bext')) :
    ∃ ops, sentByAll (eventOperations parse bext.binlogFile) events = some ops ∧
      bext' = bext.send ops := by
  induction events generalizing bext with
  | nil =>
    obtain ⟨-, rfl⟩ := Prod.mk.inj h
    exact ⟨[], rfl, (send_nil bext).symm⟩
  | cons ev events ih =>
    rw [run, forEach_cons] at h
    rcases hstart : start parse ev bext with ⟨e | ⟨⟩, bext₁⟩
    · rw [bind_of_error hstart] at h
      simp at h
    rw [bind_of_ok hstart] at h
    obtain ⟨ops, hops, rfl⟩ := start_eq_ok (hrot ev List.mem_cons_self) hstart
    obtain ⟨ops', hops', rfl⟩ := ih (fun ev hev => hrot ev (List.mem_cons_of_mem _ hev)) h
    refine ⟨ops ++ ops', ?_, send_send bext ops ops'⟩
    have hfile : (bext.send ops).binlogFile = bext.binlogFile := rfl
    rw [hfile] at hops'
    rw [sentByAll, hops, Option.bind_some, hops', Option.map_some]

end

end BinlogExtract

end MysqlSync

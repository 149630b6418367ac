import MysqlSync.Lib.Prog
import MysqlSync.Lib.Strings
import MysqlSync.Operation

/-!
# The extractor

`BinlogExtract.start` handles one binlog event, as one turn of the loop of the source's `Start`
does, and appends what it sends to the channel of operations.

The SQL parser is a parameter: a function from the text of a query to the statement nodes it
returns, or `none` for its error. Of the nodes the model keeps what the type switch and the
parser's own node types hold about the objects a statement names.
-/

namespace MysqlSync

/-! ### Statement nodes -/

structure TableName where
  schema : String
  name : String
  deriving DecidableEq, Repr

structure TableToTable where
  oldTable : TableName
  newTable : TableName
  deriving DecidableEq, Repr

/-- The nodes the type switch tells apart. Every other node is `other`. -/
inductive StmtNode where
  | renameTable (tableToTables : List TableToTable)
  /-- The new tables are those of its specs: the target of a `RENAME`, the table of an
  `EXCHANGE PARTITION`. -/
  | alterTable (table : TableName) (newTables : List TableName)
  | dropTable (tables : List TableName)
  | createTable (table : TableName)
  | truncateTable (table : TableName)
  | dropIndex (table : TableName)
  | createIndex (table : TableName)
  | createDatabase (name : String)
  | alterDatabase (name : String)
  | dropDatabase (name : String)
  | createUser
  | dropUser
  | grant
  | revoke
  | alterUser
  | begin
  | commit
  | other
  deriving DecidableEq, Repr

/-! ### Binlog events -/

structure EventHeader where
  timestamp : UInt32
  /-- The name of the event type. -/
  eventType : String
  serverID : UInt32
  logPos : UInt32
  deriving DecidableEq, Repr

structure TableMapEvent where
  schema : String
  table : String
  columnCount : ℕ
  columnType : List UInt8
  columnName : List String
  primaryKey : List UInt64
  deriving DecidableEq, Repr

structure RowsEvent where
  table : TableMapEvent
  rows : List (List Value)
  deriving DecidableEq, Repr

/-- The event types of a rows event, over their versions. -/
inductive RowsEventType where
  | write
  | update
  | delete
  | other
  deriving DecidableEq, Repr

structure GTIDEvent where
  lastCommitted : Int64
  /-- The text of the decoded GTID, `none` if it cannot be decoded. -/
  gtidNext : Option String
  deriving DecidableEq, Repr

structure QueryEvent where
  schema : String
  query : String
  deriving DecidableEq, Repr

inductive EventBody where
  | rows (type : RowsEventType) (e : RowsEvent)
  | gtid (e : GTIDEvent)
  | query (e : QueryEvent)
  | xid
  /-- A rotate event, with whether its header says so too. -/
  | rotate (isRotate : Bool) (nextLogName : String)
  /-- A heartbeat, with the time of the clock when it is handled. -/
  | heartbeat (now : UInt32)
  | other
  deriving DecidableEq, Repr

structure BinlogEvent where
  header : EventHeader
  event : EventBody
  deriving DecidableEq, Repr

/-! ### The extractor -/

structure BinlogExtract where
  binlogFile : String
  /-- Everything sent to the channel so far. -/
  moCh : List MysqlOperation
  deriving DecidableEq, Repr

/-- Why `start` returned. -/
inductive ExtractStop where
  | gtidNext
  | parseInt
  | unknownGtid (parts : List String)
  | parser
  /-- An index out of range, which ends the process. -/
  | panic
  deriving DecidableEq, Repr

namespace BinlogExtract

open Prog Strings

abbrev Extraction (α : Type) : Type := Prog BinlogExtract ExtractStop α

def toMoCh (mo : MysqlOperation) : Extraction Unit :=
  modify fun bext => { bext with moCh := bext.moCh ++ [mo] }

/-- Go on with a value, or panic. -/
def orPanic {α : Type} (value : Option α) : Extraction α :=
  match value with
  | some a => pure a
  | none => stop .panic

/-! ### Row events -/

/-- Column `i` of a row; an index past any of the lists panics. -/
def column (table : TableMapEvent) (row : List Value) (i : ℕ) : Option MysqlOperationDMLColumn := do
  let columnName ← table.columnName[i]?
  let columnType ← table.columnType[i]?
  let columnValue ← row[i]?
  return ⟨columnName, columnType, columnValue, columnValue = .nil⟩

def columns (table : TableMapEvent) (row : List Value) : Option (List MysqlOperationDMLColumn) :=
  (List.range table.columnCount).mapM (column table row)

def handleEventWriteRows (e : RowsEvent) (eh : EventHeader) : Extraction Unit :=
  forEach (fun row => do
    let columns ← orPanic (columns e.table row)
    toMoCh (.dmlInsert ⟨e.table.schema, e.table.table, columns, e.table.primaryKey, eh.timestamp⟩))
    e.rows

def handleEventDeleteRows (e : RowsEvent) (eh : EventHeader) : Extraction Unit :=
  forEach (fun row => do
    let columns ← orPanic (columns e.table row)
    toMoCh (.dmlDelete ⟨e.table.schema, e.table.table, columns, e.table.primaryKey, eh.timestamp⟩))
    e.rows

/-- The rows come in pairs of a before and an after image. -/
def updateRows (table : TableMapEvent) (eh : EventHeader) : List (List Value) → Extraction Unit
  | [] => pure ()
  | [_] => stop .panic
  | beforeValue :: afterValue :: rows => do
    let beforeColumns ← orPanic (columns table beforeValue)
    let afterColumns ← orPanic (columns table afterValue)
    toMoCh (.dmlUpdate ⟨table.schema, table.table, afterColumns, beforeColumns, table.primaryKey,
      eh.timestamp⟩)
    updateRows table eh rows

def handleEventUpdateRows (e : RowsEvent) (eh : EventHeader) : Extraction Unit :=
  updateRows e.table eh e.rows

def handleEventRows (type : RowsEventType) (e : RowsEvent) (eh : EventHeader) : Extraction Unit :=
  match type with
  | .write => handleEventWriteRows e eh
  | .update => handleEventUpdateRows e eh
  | .delete => handleEventDeleteRows e eh
  | .other => pure ()

/-! ### GTID events -/

def handleEventGtid (e : GTIDEvent) (eh : EventHeader) : Extraction Unit :=
  match e.gtidNext with
  | none => stop .gtidNext
  | some gtidNext =>
    match split gtidNext ':' with
    | [serverUUID, trxID] =>
      match parseInt64 trxID with
      | none => stop .parseInt
      | some xid => toMoCh (.gtid ⟨e.lastCommitted, eh.serverID, eh.timestamp, serverUUID, xid⟩)
    | parts => stop (.unknownGtid parts)

/-! ### Query events -/

/-- The database of a name that may be unqualified. -/
def databaseOr (schema schemaContext : String) : String :=
  if schema.length = 0 then schemaContext else schema

def renameQuery (oldDatabase oldTable newDatabase newTable : String) : String :=
  "RENAME TABLE `" ++ oldDatabase ++ "`.`" ++ oldTable ++ "` TO `" ++ newDatabase ++ "`.`" ++
    newTable ++ "`"

def dropQuery (database table : String) : String :=
  "DROP TABLE IF EXISTS `" ++ database ++ "`.`" ++ table ++ "`"

variable (e : QueryEvent) (eh : EventHeader)

/-- A table statement sent as it is. -/
def ddlTable (table : TableName) : MysqlOperation :=
  .ddlTable ⟨e.schema, databaseOr table.schema e.schema, table.name, e.query, eh.timestamp⟩

def ddlDatabase (name : String) : MysqlOperation := .ddlDatabase ⟨name, e.query, eh.timestamp⟩

def dclUser : MysqlOperation := .dclUser ⟨e.schema, e.query, eh.timestamp⟩

def renameTable (tab : TableToTable) : MysqlOperation :=
  let oldDatabase := databaseOr tab.oldTable.schema e.schema
  let newDatabase := databaseOr tab.newTable.schema e.schema
  .ddlTable ⟨e.schema, oldDatabase, tab.oldTable.name,
    renameQuery oldDatabase tab.oldTable.name newDatabase tab.newTable.name, eh.timestamp⟩

def dropTable (tab : TableName) : MysqlOperation :=
  let database := databaseOr tab.schema e.schema
  .ddlTable ⟨e.schema, database, tab.name, dropQuery database tab.name, eh.timestamp⟩

/-- What the case of a statement node sends, in order. -/
def stmtOperations : StmtNode → List MysqlOperation
  | .renameTable tableToTables => tableToTables.map (renameTable e eh)
  -- the tables of the specs are not looked at
  | .alterTable table _ => [ddlTable e eh table]
  | .dropTable tables => tables.map (dropTable e eh)
  | .createTable table => [ddlTable e eh table]
  | .truncateTable table => [ddlTable e eh table]
  | .dropIndex table => [ddlTable e eh table]
  | .createIndex table => [ddlTable e eh table]
  | .createDatabase name => [ddlDatabase e eh name]
  | .alterDatabase name => [ddlDatabase e eh name]
  | .dropDatabase name => [ddlDatabase e eh name]
  | .createUser | .dropUser | .grant | .revoke | .alterUser => [dclUser e eh]
  | .begin => [.begin ⟨0, eh.timestamp⟩]
  -- a `COMMIT` is only logged
  | .commit => []
  | .other => []

def handleQueryEvent (parse : String → Option (List StmtNode)) : Extraction Unit :=
  match parse e.query with
  | none => stop .parser
  | some stmts => forEach (fun stmt => forEach toMoCh (stmtOperations e eh stmt)) stmts

/-! ### The loop -/

/-- One turn of the loop. -/
def start (parse : String → Option (List StmtNode)) (ev : BinlogEvent) : Extraction Unit := do
  let bext ← get
  let moblp : MysqlOperation := .binLogPos
    ⟨ev.header.serverID, ev.header.eventType, bext.binlogFile, ev.header.logPos,
      ev.header.timestamp⟩
  match ev.event with
  | .rows type e =>
    toMoCh moblp
    handleEventRows type e ev.header
  | .gtid e =>
    toMoCh moblp
    handleEventGtid e ev.header
  | .query e =>
    toMoCh moblp
    handleQueryEvent e ev.header parse
  | .xid =>
    toMoCh moblp
    toMoCh (.xid ⟨ev.header.timestamp⟩)
  | .rotate isRotate nextLogName =>
    if isRotate then modify fun bext => { bext with binlogFile := nextLogName }
  | .heartbeat now => toMoCh (.heartbeat ⟨now⟩)
  | .other => pure ()

/-- The loop on the events received so far. -/
def run (parse : String → Option (List StmtNode)) (events : List BinlogEvent) : Extraction Unit :=
  forEach (start parse) events

end BinlogExtract

end MysqlSync

import MysqlSync.Lib.Prog
import MysqlSync.Replicate
import MysqlSync.Checkpoint.Basic
import MysqlSync.Applier.Query

/-!
# The applier

`MysqlApplier.start` consumes one operation, as one turn of the loop of the source's `Start`
does. It runs on the applier's own fields and on a log of what crosses the boundary of the
process: each operation received from the channel and each call to the destination database and
to Consul with its reply. The replies come from `Env`, a function of everything logged so far,
so that quantifying over it covers every pattern of failures.

The log lets a run be cut anywhere: what a crash leaves behind is a function of the log up to the
crash (`MysqlSync.Applier.World`).

Counters that only grow by one per transaction, `pendingCommitCount` and `gtidCount`, are natural
numbers. Timestamps, transaction numbers and commit intervals keep their machine width.
-/

namespace MysqlSync

/-! ### What crosses the boundary -/

/-- A statement sent over the destination connection. -/
inductive Statement where
  | setSession (name value : String)
  | use (schemaContext : String)
  | dml (query : Query)
  | nonDML (query : String)
  deriving DecidableEq, Repr

/-- The statements that change data, as opposed to those that set up the session. -/
def Statement.isData : Statement → Bool
  | .dml _ | .nonDML _ => true
  | _ => false

/-- A call that leaves the process. The value written for the GTID map is its range string; the
map itself is kept here. -/
inductive Call where
  | begin
  | exec (statement : Statement)
  | commit
  | rollback
  | putGtidsets (gtidSetsMap : GtidSetsMap)
  | putBinlogpos (binLogFile : String) (binLogPos : UInt32)
  deriving DecidableEq

/-- The reply to a call: success, an error of the server with its number, or any other error. -/
inductive Reply where
  | ok
  | mysqlError (number : UInt16)
  | otherError
  deriving DecidableEq, Repr

inductive Event where
  | receive (oper : MysqlOperation)
  | call (c : Call) (r : Reply)
  deriving DecidableEq

/-- How the world replies to a call, given everything that happened before it. -/
abbrev Env : Type := List Event → Call → Reply

/-! ### The applier's fields -/

inductive State where
  | null
  | dml
  | ddl
  | dcl
  | begin
  | xid
  | gtid
  deriving DecidableEq, Repr

/-- Why `start` returned. -/
inductive Stop where
  /-- The `last state is ...` errors of the named case. -/
  | lastState (case : String) (state : State)
  /-- The `gtid miss` error of `onGTID`. -/
  | gtidMiss (serverUUID : String) (trxID : UInt64)
  | txAlreadyExists
  | txDoesNotExist
  /-- An error returned by the driver. -/
  | database (r : Reply)
  | gobRepair
  /-- An index out of range, which ends the process. -/
  | panic
  deriving DecidableEq, Repr

/-- The parts of the configuration that the applier and its client keep. -/
structure Settings where
  replicate : Replicate
  dmlModeUpdate : String
  dmlModeInsert : String
  mergeCommitMaxCount : ℕ
  mergeCommitMaxDelay : UInt32
  skipErrors : List UInt16
  sessionParams : List (String × String)
  deriving DecidableEq, Repr

/-- A destination that filters nothing, skips no errors and merges without limits. -/
def Settings.unrestricted : Settings where
  replicate := newReplicateFilter ⟨"", "", "", ""⟩
  dmlModeUpdate := "update"
  dmlModeInsert := "insert"
  mergeCommitMaxCount := 0
  mergeCommitMaxDelay := 0
  skipErrors := []
  sessionParams := []

structure MysqlApplier where
  ckpt : Checkpoint
  /-- Whether the client holds an open transaction. -/
  tx : Bool
  lastCommitted : Int64
  lastCheckpointTimestamp : UInt32
  lastAppliedTimestamp : UInt32
  pendingCommitCount : ℕ
  gtidCount : ℕ
  gtidSkip : Bool
  state : State
  log : List Event

def newMysqlApplier (ckpt : Checkpoint) : MysqlApplier where
  ckpt := ckpt
  tx := false
  lastCommitted := 0
  lastCheckpointTimestamp := 0
  lastAppliedTimestamp := 0
  pendingCommitCount := 0
  gtidCount := 0
  gtidSkip := false
  state := .null
  log := []

/-- Append events to the log. -/
def MysqlApplier.emit (ma : MysqlApplier) (events : List Event) : MysqlApplier :=
  { ma with log := ma.log ++ events }

abbrev Action (α : Type) : Type := Prog MysqlApplier Stop α

open Prog

/-! ### The database client -/

namespace MysqlClient

variable (conf : Settings) (env : Env)

def call (c : Call) : Action Reply := fun ma =>
  let r := env ma.log c
  (.ok r, ma.emit [.call c r])

/-- Whether an error is on the skip list. Only errors of the server carry a number. -/
def skipError : Reply → Bool
  | .mysqlError number => number ∈ conf.skipErrors
  | _ => false

/-- Run a call whose error is returned as it is. -/
def callOrStop (c : Call) : Action Unit := do
  let r ← call env c
  if r ≠ .ok then stop (.database r)

def begin : Action Unit := do
  let ma ← get
  if ma.tx then stop .txAlreadyExists
  callOrStop env .begin
  modify fun ma => { ma with tx := true }
  forEach (fun param => callOrStop env (.exec (.setSession param.1 param.2))) conf.sessionParams

def commit : Action Unit := do
  let ma ← get
  if !ma.tx then stop .txDoesNotExist
  callOrStop env .commit
  modify fun ma => { ma with tx := false }

def rollback : Action Unit := do
  let ma ← get
  if ma.tx then
    callOrStop env .rollback
    modify fun ma => { ma with tx := false }

/-- Roll back and return the error `r`, or the error of the rollback. -/
def rollbackAndStop (r : Reply) : Action Unit := do
  rollback env
  stop (.database r)

/-- Execute a data statement; an error on the skip list is passed over, any other one rolls the
transaction back. -/
def executeData (statement : Statement) : Action Unit := do
  let r ← call env (.exec statement)
  if r ≠ .ok then
    if !skipError conf r then rollbackAndStop env r

def executeOnDML (query : Query) : Action Unit := do
  let ma ← get
  if !ma.tx then stop .txDoesNotExist
  executeData conf env (.dml query)

/-- The `USE` that precedes a statement with a schema context; its errors are never skipped. -/
def useSchema (schemaContext : String) : Action Unit := do
  if schemaContext ≠ "" then
    let r ← call env (.exec (.use schemaContext))
    if r ≠ .ok then rollbackAndStop env r

def executeOnNonDML (schemaContext query : String) : Action Unit := do
  begin conf env
  useSchema env schemaContext
  executeData conf env (.nonDML query)
  commit env

end MysqlClient

/-! ### Checkpointing and merging -/

namespace MysqlApplier

variable (conf : Settings) (env : Env)

/-- Write the GTID map and the binlog position; the errors of both writes are dropped. -/
def checkpoint : Action Unit := do
  let ma ← get
  let _ ← MysqlClient.call env (.putGtidsets ma.ckpt.gtidSetsMap)
  let _ ← MysqlClient.call env (.putBinlogpos ma.ckpt.binLogFile ma.ckpt.binLogPos)

def mergeCommit : Action Unit := do
  let ma ← get
  if ma.pendingCommitCount ≥ 1 then
    MysqlClient.commit env
    modify fun ma => { ma with pendingCommitCount := 0, gtidCount := 0 }
    checkpoint env

def evaluateForceMergeCommit (ma : MysqlApplier) : Bool :=
  let appliedCheckpointLag := ma.lastAppliedTimestamp - ma.lastCheckpointTimestamp
  if conf.mergeCommitMaxCount ≥ 1 && ma.pendingCommitCount ≥ conf.mergeCommitMaxCount then true
  else if conf.mergeCommitMaxDelay ≥ 1 && appliedCheckpointLag ≥ conf.mergeCommitMaxDelay then true
  else false

/-- Record an accepted GTID, after flushing the batch when the commit interval changes. -/
def acceptGTID (op : MysqlOperationGTID) : Action Unit := do
  let ma ← get
  if ma.lastCommitted ≠ op.lastCommitted then
    mergeCommit env
    modify fun ma => { ma with lastCommitted := op.lastCommitted }
  modify fun ma => { ma with
    ckpt := ma.ckpt.setTrxIdOfServerUUID op.serverUUID op.trxID.toUInt64
    gtidCount := ma.gtidCount + 1 }

def onGTID (op : MysqlOperationGTID) : Action Unit := do
  modify fun ma => { ma with gtidSkip := false }
  let ma ← get
  match ma.ckpt.getTrxIdOfServerUUID op.serverUUID with
  | some lastTrxID =>
    if lastTrxID ≥ op.trxID.toUInt64 then
      modify fun ma => { ma with gtidSkip := true }
    else if op.trxID.toUInt64 ≥ lastTrxID + 2 then
      stop (.gtidMiss op.serverUUID (lastTrxID + 1))
    else acceptGTID env op
  | none => acceptGTID env op

/-! ### Row statements -/

/-- The panic of a missing column ends the process. -/
def orPanic (query : Option Query) (f : Query → Action Unit) : Action Unit :=
  match query with
  | some query => f query
  | none => stop .panic

def onDMLInsert1 (op : MysqlOperationDMLInsert) : Action Unit :=
  MysqlClient.executeOnDML conf env (buildDMLInsertQuery op.database op.table op.columns)

def onDMLInsert2 (op : MysqlOperationDMLInsert) : Action Unit :=
  MysqlClient.executeOnDML conf env (buildDMLInsertQueryReplace op.database op.table op.columns)

def onDMLInsert (op : MysqlOperationDMLInsert) : Action Unit :=
  if conf.dmlModeInsert = "replace" then onDMLInsert2 conf env op else onDMLInsert1 conf env op

def onDMLDelete (op : MysqlOperationDMLDelete) : Action Unit :=
  if op.primaryKey.length = 0 then pure ()
  else orPanic (buildDMLDeleteQuery op.database op.table op.columns op.primaryKey)
    (MysqlClient.executeOnDML conf env)

def onDMLUpdate1 (op : MysqlOperationDMLUpdate) : Action Unit :=
  if op.primaryKey.length = 0 then pure ()
  else orPanic
    (buildDMLUpdateQuery op.database op.table op.afterColumns op.beforeColumns op.primaryKey)
    (MysqlClient.executeOnDML conf env)

def onDMLUpdate2 (op : MysqlOperationDMLUpdate) : Action Unit :=
  if op.primaryKey.length = 0 then pure ()
  else MysqlClient.executeOnDML conf env
    (buildDMLInsertQueryReplace op.database op.table op.afterColumns)

def onDMLUpdate (op : MysqlOperationDMLUpdate) : Action Unit :=
  if conf.dmlModeUpdate = "replace" then onDMLUpdate2 conf env op else onDMLUpdate1 conf env op

/-- Repair the columns, or return. -/
def repaired (columns : List MysqlOperationDMLColumn) : Action (List MysqlOperationDMLColumn) :=
  match gobUint8NilRepair columns with
  | some columns => pure columns
  | none => stop .gobRepair

/-! ### Statements with a transaction of their own -/

def onDDLDatabase (op : MysqlOperationDDLDatabase) : Action Unit :=
  MysqlClient.executeOnNonDML conf env "" op.query

def onDDLTable (op : MysqlOperationDDLTable) : Action Unit :=
  MysqlClient.executeOnNonDML conf env op.schemaContext op.query

def onDCLUser (op : MysqlOperationDCLUser) : Action Unit :=
  MysqlClient.executeOnNonDML conf env op.schemaContext op.query

def onBegin : Action Unit := MysqlClient.begin conf env

/-! ### The loop -/

def replicateNotExecute (schemaContext tableName : String) : Bool :=
  !conf.replicate.filter schemaContext tableName

/-- The state check at the head of a case. -/
def expectState (case : String) (allowed : List State) : Action Unit := do
  let ma ← get
  if ma.state ∉ allowed then stop (.lastState case ma.state)

def setState (state : State) : Action Unit := modify fun ma => { ma with state := state }

/-- What the heartbeat and the GTID case do by the state the applier is in: write a checkpoint
after a DDL or DCL group, flush the batch after a row transaction if `force` is set. -/
def settle (case : String) (force : Bool) : Action Unit := do
  let ma ← get
  if ma.state = .ddl ∨ ma.state = .dcl then checkpoint env
  else if ma.state = .xid then
    if force then mergeCommit env
  else if ma.state = .null then pure ()
  else stop (.lastState case ma.state)

def startHeartbeat : Action Unit := do
  modify fun ma => { ma with lastCheckpointTimestamp := ma.lastAppliedTimestamp }
  settle env "heartbeat" true
  setState .null

def startGTID (op : MysqlOperationGTID) : Action Unit := do
  modify fun ma => { ma with lastCheckpointTimestamp := ma.lastAppliedTimestamp }
  let ma ← get
  settle env "gtid" (evaluateForceMergeCommit conf ma)
  onGTID env op
  setState .gtid

def startDDLDatabase (op : MysqlOperationDDLDatabase) : Action Unit := do
  expectState "ddldatabase" [.gtid]
  mergeCommit env
  if replicateNotExecute conf op.database "" then pure ()
  else onDDLDatabase conf env op
  setState .ddl

def startDDLTable (op : MysqlOperationDDLTable) : Action Unit := do
  expectState "ddltable" [.gtid, .ddl]
  mergeCommit env
  if replicateNotExecute conf op.schemaContext "" ||
      replicateNotExecute conf op.database op.table then pure ()
  else onDDLTable conf env op
  setState .ddl

def startDCLUser (op : MysqlOperationDCLUser) : Action Unit := do
  expectState "dcluser" [.gtid, .dcl]
  mergeCommit env
  if replicateNotExecute conf op.schemaContext "" then pure ()
  else onDCLUser conf env op
  setState .dcl

def startBegin : Action Unit := do
  expectState "begin" [.gtid]
  let ma ← get
  if ma.pendingCommitCount = 0 then onBegin conf env
  setState .begin

def startDMLInsert (op : MysqlOperationDMLInsert) : Action Unit := do
  expectState "dmlinsert" [.begin, .dml]
  if replicateNotExecute conf op.database op.table then pure ()
  else
    let columns ← repaired op.columns
    onDMLInsert conf env { op with columns := columns }
  setState .dml

def startDMLDelete (op : MysqlOperationDMLDelete) : Action Unit := do
  expectState "dmldelete" [.begin, .dml]
  if replicateNotExecute conf op.database op.table then pure ()
  else
    let columns ← repaired op.columns
    onDMLDelete conf env { op with columns := columns }
  setState .dml

def startDMLUpdate (op : MysqlOperationDMLUpdate) : Action Unit := do
  expectState "dmlupdate" [.begin, .dml]
  if replicateNotExecute conf op.database op.table then pure ()
  else
    let afterColumns ← repaired op.afterColumns
    let beforeColumns ← repaired op.beforeColumns
    onDMLUpdate conf env { op with afterColumns := afterColumns, beforeColumns := beforeColumns }
  setState .dml

def startXid : Action Unit := do
  expectState "xid" [.dml, .begin]
  modify fun ma => { ma with pendingCommitCount := ma.pendingCommitCount + 1 }
  setState .xid

/-- The type switch over the operation. -/
def dispatch : MysqlOperation → Action Unit
  | .binLogPos op => modify fun ma => { ma with ckpt := ma.ckpt.setBinlogPos op.file op.pos }
  | .heartbeat _ => startHeartbeat env
  | .gtid op => startGTID conf env op
  | .ddlDatabase op => startDDLDatabase conf env op
  | .ddlTable op => startDDLTable conf env op
  | .dclUser op => startDCLUser conf env op
  | .begin _ => startBegin conf env
  | .dmlInsert op => startDMLInsert conf env op
  | .dmlDelete op => startDMLDelete conf env op
  | .dmlUpdate op => startDMLUpdate conf env op
  | .xid _ => startXid

/-- The operations whose case ends in `continue`, before the timestamp is taken over. -/
def continues : MysqlOperation → Bool
  | .binLogPos _ => true
  | _ => false

/-- One turn of the loop. -/
def start (oper : MysqlOperation) : Action Unit := do
  modify fun ma => ma.emit [.receive oper]
  let ma ← get
  if ma.gtidSkip && !oper.isGTID then pure ()
  else
    if ma.gtidSkip then setState .null
    dispatch conf env oper
    if continues oper then pure ()
    else modify fun ma => { ma with lastAppliedTimestamp := oper.getTimestamp }

/-- The loop on the operations received so far. -/
def run (opers : List MysqlOperation) : Action Unit := forEach (start conf env) opers

end MysqlApplier

end MysqlSync

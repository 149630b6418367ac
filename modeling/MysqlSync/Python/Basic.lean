import Mathlib.Data.Finmap
import Mathlib.Data.Rat.Defs
import Mathlib.Algebra.Order.Ring.Rat
import MysqlSync.Lib.Wp
import MysqlSync.Lib.Strings

/-!
# The synchroniser in one process

`main.py` reads the binlog and applies it in one loop. `Sync.run` is that loop with what follows
it, on the fields of the synchroniser and its client and on the local variables of `run`. As with
the applier, what crosses the boundary of the process is logged: the operations received, the
calls on the target connection with their replies, and the files written. A call that is refused
raises an exception; the replies come from `Env`.

An element of the stream carries, besides what `operation_stream` yields, the reading of the clock
that is taken at the end of its turn of the loop. The metrics and the printed messages are left
out. Values of columns are of any type `ν`.
-/

namespace MysqlSync.Python

/-! ### Operations -/

/-- A Python dictionary with string keys, in the order of insertion. -/
abbrev Dict (ν : Type) : Type := AList fun _ : String => ν

inductive PrimaryKey where
  | none
  | name (key : String)
  | names (keys : List String)
  deriving DecidableEq, Repr

structure OperationNonDML where
  schema : Option String
  query : String
  deriving DecidableEq, Repr

inductive OperationDML (ν : Type) where
  | insert (schema table : String) (values : Dict ν) (primaryKey : PrimaryKey)
  | delete (schema table : String) (values : Dict ν) (primaryKey : PrimaryKey)
  | update (schema table : String) (afterValues beforeValues : Dict ν) (primaryKey : PrimaryKey)
  deriving DecidableEq

structure OperationGtid where
  serverUUID : String
  xid : ℤ
  lastCommitted : ℤ
  deriving DecidableEq, Repr

inductive Operation (ν : Type) where
  | nonDML (operation : OperationNonDML)
  | dml (operation : OperationDML ν)
  | begin
  | commit
  | gtid (operation : OperationGtid)
  | heartbeat
  deriving DecidableEq

/-- What one turn of the loop works on. -/
structure Item (ν : Type) where
  logFile : String
  logPos : ℕ
  operation : Operation ν
  /-- The reading of the clock at the end of the turn. -/
  now : ℚ
  deriving DecidableEq

namespace OperationDML

variable {ν : Type}

def schema : OperationDML ν → String
  | .insert schema _ _ _ | .delete schema _ _ _ | .update schema _ _ _ _ => schema

def table : OperationDML ν → String
  | .insert _ table _ _ | .delete _ table _ _ | .update _ table _ _ _ => table

end OperationDML

/-! ### Row statements -/

section

variable {ν : Type}

/-- The columns of the key; an empty key counts as none. -/
def PrimaryKey.columns : PrimaryKey → List String
  | .none => []
  | .name key => if key = "" then [] else [key]
  | .names keys => keys

def Dict.values (d : Dict ν) : List ν := d.entries.map Sigma.snd

def conditionText (keys : List String) : String :=
  Strings.join (keys.map fun k => "`" ++ k ++ "` = %s") " AND "

/-- The condition on the key, or on all columns where there is none. A column of the key that the
row image does not have raises a `KeyError`. -/
def generateConditionAndValues (primaryKey : PrimaryKey) (values : Dict ν) :
    Option (String × List ν) :=
  match primaryKey.columns with
  | [] => some (conditionText values.keys, values.values)
  | keys => (keys.mapM fun k => values.lookup k).map fun primaryValues =>
      (conditionText keys, primaryValues)

def tableText (schema table : String) : String := "`" ++ schema ++ "`.`" ++ table ++ "`"

def dmlOperation2Sql : OperationDML ν → Option (String × List ν)
  | .insert schema table values _ =>
    some ("REPLACE INTO " ++ tableText schema table ++ "(" ++ Strings.join values.keys ", " ++
      ") VALUES(" ++ Strings.join (values.keys.map fun _ => "%s") "," ++ ")", values.values)
  | .delete schema table values primaryKey =>
    (generateConditionAndValues primaryKey values).map fun (condition, primaryValues) =>
      ("DELETE FROM " ++ tableText schema table ++ " WHERE " ++ condition, primaryValues)
  | .update schema table afterValues beforeValues primaryKey =>
    (generateConditionAndValues primaryKey beforeValues).map fun (condition, primaryValues) =>
      ("UPDATE " ++ tableText schema table ++ " SET " ++
        Strings.join (afterValues.keys.map (· ++ " = %s")) ", " ++ " WHERE " ++ condition,
        afterValues.values ++ primaryValues)

end

/-! ### What crosses the boundary -/

inductive Statement (ν : Type) where
  | dml (sqlText : String) (params : List ν)
  | nonDML (sqlText : String)
  deriving DecidableEq

/-- The transactions each server has, by its last one. -/
abbrev Gtidset : Type := Finmap fun _ : String => ℤ

inductive Call (ν : Type) where
  | startTransaction
  | setDatabase (db : String)
  | execute (statement : Statement ν)
  | commit
  | rollback
  | persistCheckpointGtidset (gtidset : Gtidset)
  | persistCheckpointPosition (logFile : String) (logPos : ℕ)
  deriving DecidableEq

inductive Event (ν : Type) where
  | receive (item : Item ν)
  | call (c : Call ν) (ok : Bool)
  deriving DecidableEq

/-- Whether a call succeeds, given everything that happened before it. -/
abbrev Env (ν : Type) : Type := List (Event ν) → Call ν → Bool

/-- What can be raised. -/
inductive Exception (ν : Type) where
  | refused (c : Call ν)
  | keyError
  | indexError

/-! ### The synchroniser's fields -/

structure Settings where
  mergeTrx : Bool
  ckeckpointInterval : ℚ
  excludeTables : Dict (List String)

structure Sync (ν : Type) where
  /-- The connection's `in_transaction`. -/
  inTransaction : Bool
  dmlCnt : ℕ
  lastCommitted : ℤ
  allowCommit : Bool
  allowCkeckpoint : Bool
  latestGtidset : Gtidset
  latestPosition : Option (String × ℕ)
  ts0 : ℚ
  errorExit : Bool
  lastOperation : Option (Operation ν)
  log : List (Event ν)

def Sync.lastIsHeartbeat {ν : Type} (s : Sync ν) : Bool :=
  match s.lastOperation with
  | some .heartbeat => true
  | _ => false

/-- A row change of a table that is on the list. -/
def Operation.isExcluded {ν : Type} (conf : Settings) : Operation ν → Bool
  | .dml operation =>
    match conf.excludeTables.lookup operation.schema with
    | some tables => operation.table ∈ tables
    | none => false
  | _ => false

/-- The fields after `__init__`, and the first reading of the clock. -/
def newSync (ν : Type) (now : ℚ) : Sync ν where
  inTransaction := false
  dmlCnt := 0
  lastCommitted := -1
  allowCommit := false
  allowCkeckpoint := false
  latestGtidset := ∅
  latestPosition := none
  ts0 := now
  errorExit := false
  lastOperation := none
  log := []

abbrev Action (ν α : Type) : Type := Prog (Sync ν) (Exception ν) α

open Prog

variable {ν : Type}

def emit (e : Event ν) : Action ν Unit := modify fun s => { s with log := s.log ++ [e] }

/-! ### The client -/

namespace MysqlClient

variable (env : Env ν)

/-- A call that raises an exception if it is refused. -/
def call (c : Call ν) : Action ν Unit := do
  let s ← get
  emit (.call c (env s.log c))
  if !env s.log c then stop (.refused c)

def pushBegin : Action ν Unit := do
  let s ← get
  if s.inTransaction then pure ()
  else
    call env .startTransaction
    modify fun s => { s with inTransaction := true }

/-- Without autocommit a row statement is always in a transaction. -/
def pushDml (sqlText : String) (params : List ν) : Action ν Unit := do
  call env (.execute (.dml sqlText params))
  modify fun s => { s with inTransaction := true, dmlCnt := s.dmlCnt + 1 }

/-- End the transaction: nothing was executed in it if the count is zero. -/
def pushCommit : Action ν Unit := do
  let s ← get
  if s.inTransaction then
    if s.dmlCnt ≥ 1 then call env .commit
    else call env .rollback
    modify fun s => { s with inTransaction := false }
  modify fun s => { s with dmlCnt := 0 }

def pushNondml (db : Option String) (sqlText : String) : Action ν Unit := do
  pushCommit env
  match db with
  | some db => if db ≠ "" then call env (.setDatabase db)
  | none => pure ()
  call env (.execute (.nonDML sqlText))

end MysqlClient

/-! ### The loop -/

namespace Sync

variable (conf : Settings) (env : Env ν)

def mergeCommit : Action ν Unit := do
  let s ← get
  if s.allowCommit then
    MysqlClient.pushCommit env
    modify fun s => { s with allowCommit := false, allowCkeckpoint := true }

def checkpoint : Action ν Unit := do
  let s ← get
  MysqlClient.call env (.persistCheckpointGtidset s.latestGtidset)
  match s.latestPosition with
  | some (logFile, logPos) => MysqlClient.call env (.persistCheckpointPosition logFile logPos)
  -- the position is the empty tuple until the first GTID
  | none => stop .indexError
  modify fun s => { s with allowCkeckpoint := false }

/-- What the exception handlers of the loop do. -/
def setErrorExit : Action ν Unit := modify fun s => { s with errorExit := true }

/-- The row statement of an operation is built inside the handler too. -/
def executeDml (operation : OperationDML ν) : Action ν Unit :=
  match dmlOperation2Sql operation with
  | some (sqlText, params) => MysqlClient.pushDml env sqlText params
  | none => stop .keyError

/-- The branches on the type of the operation. -/
def handle (item : Item ν) : Action ν Unit :=
  match item.operation with
  | .nonDML operation => do
    mergeCommit env
    catchWith (MysqlClient.pushNondml env operation.schema operation.query) fun _ => setErrorExit
  | .dml operation => catchWith (executeDml env operation) fun _ => setErrorExit
  | .begin => MysqlClient.pushBegin env
  | .commit =>
    if conf.mergeTrx then modify fun s => { s with allowCommit := true }
    else MysqlClient.pushCommit env
  | .gtid operation => do
    let s ← get
    if conf.mergeTrx ∧ s.lastCommitted ≠ operation.lastCommitted then
      mergeCommit env
      modify fun s => { s with lastCommitted := operation.lastCommitted }
    modify fun s => { s with
      latestGtidset := s.latestGtidset.insert operation.serverUUID operation.xid
      latestPosition := some (item.logFile, item.logPos) }
  | .heartbeat => do
    let s ← get
    if s.lastIsHeartbeat then mergeCommit env

/-- The end of a turn: write a checkpoint if the interval has passed and one is allowed. -/
def writeDue (item : Item ν) : Action ν Unit := do
  let s ← get
  if item.now ≥ s.ts0 + conf.ckeckpointInterval then
    modify fun s => { s with ts0 := item.now }
    if s.allowCkeckpoint then checkpoint env

/-- One turn of the loop. The `continue` of an excluded table skips the end of the turn. -/
def turn (item : Item ν) : Action ν Unit := do
  emit (.receive item)
  if item.operation.isExcluded conf then pure ()
  else
    handle conf env item
    writeDue conf env item
    modify fun s => { s with lastOperation := some item.operation }

def loop : List (Item ν) → Action ν Unit
  | [] => pure ()
  | item :: items => do
    turn conf env item
    let s ← get
    if s.errorExit then pure ()
    else loop items

def run (items : List (Item ν)) : Action ν Unit := do
  loop conf env items
  mergeCommit env

end Sync

end MysqlSync.Python

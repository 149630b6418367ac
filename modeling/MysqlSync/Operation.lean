import Mathlib.Tactic.Common

/-!
# Operations

What the extractor sends and the applier consumes: one constructor of `MysqlOperation` for each
implementation of the source's interface, with the fields it carries.
-/

namespace MysqlSync

/-- The dynamic value of a row image's column, by the kinds the binlog row decoder produces.
Floating-point values are kept as their bit patterns; `bytes none` is the nil byte slice, which is
a value of its own and not the nil interface. -/
inductive Value where
  | nil
  | int8 (v : Int8)
  | int16 (v : Int16)
  | int32 (v : Int32)
  | int64 (v : Int64)
  | int (v : Int64)
  | float32 (bits : UInt32)
  | float64 (bits : UInt64)
  | string (v : String)
  | bytes (v : Option (List UInt8))
  deriving DecidableEq, Repr

structure MysqlOperationDMLColumn where
  columnName : String
  columnType : UInt8
  columnValue : Value
  columnValueIsNil : Bool
  deriving DecidableEq, Repr

structure MysqlOperationBinLogPos where
  serverID : UInt32
  event : String
  file : String
  pos : UInt32
  timestamp : UInt32
  deriving DecidableEq, Repr

structure MysqlOperationDDLTable where
  schemaContext : String
  database : String
  table : String
  query : String
  timestamp : UInt32
  deriving DecidableEq, Repr

structure MysqlOperationDDLDatabase where
  database : String
  query : String
  timestamp : UInt32
  deriving DecidableEq, Repr

structure MysqlOperationDCLUser where
  schemaContext : String
  query : String
  timestamp : UInt32
  deriving DecidableEq, Repr

structure MysqlOperationDMLInsert where
  database : String
  table : String
  columns : List MysqlOperationDMLColumn
  primaryKey : List UInt64
  timestamp : UInt32
  deriving DecidableEq, Repr

structure MysqlOperationDMLDelete where
  database : String
  table : String
  columns : List MysqlOperationDMLColumn
  primaryKey : List UInt64
  timestamp : UInt32
  deriving DecidableEq, Repr

structure MysqlOperationDMLUpdate where
  database : String
  table : String
  afterColumns : List MysqlOperationDMLColumn
  beforeColumns : List MysqlOperationDMLColumn
  primaryKey : List UInt64
  timestamp : UInt32
  deriving DecidableEq, Repr

structure MysqlOperationXid where
  timestamp : UInt32
  deriving DecidableEq, Repr

structure MysqlOperationGTID where
  lastCommitted : Int64
  serverID : UInt32
  timestamp : UInt32
  serverUUID : String
  trxID : Int64
  deriving DecidableEq, Repr

structure MysqlOperationBegin where
  serverID : UInt32
  timestamp : UInt32
  deriving DecidableEq, Repr

structure MysqlOperationHeartbeat where
  timestamp : UInt32
  deriving DecidableEq, Repr

/-- The operations that travel on the channels. -/
inductive MysqlOperation where
  | binLogPos (op : MysqlOperationBinLogPos)
  | heartbeat (op : MysqlOperationHeartbeat)
  | gtid (op : MysqlOperationGTID)
  | ddlDatabase (op : MysqlOperationDDLDatabase)
  | ddlTable (op : MysqlOperationDDLTable)
  | dclUser (op : MysqlOperationDCLUser)
  | begin (op : MysqlOperationBegin)
  | dmlInsert (op : MysqlOperationDMLInsert)
  | dmlDelete (op : MysqlOperationDMLDelete)
  | dmlUpdate (op : MysqlOperationDMLUpdate)
  | xid (op : MysqlOperationXid)
  deriving DecidableEq, Repr

namespace MysqlOperation

def getTimestamp : MysqlOperation → UInt32
  | .binLogPos op => op.timestamp
  | .heartbeat op => op.timestamp
  | .gtid op => op.timestamp
  | .ddlDatabase op => op.timestamp
  | .ddlTable op => op.timestamp
  | .dclUser op => op.timestamp
  | .begin op => op.timestamp
  | .dmlInsert op => op.timestamp
  | .dmlDelete op => op.timestamp
  | .dmlUpdate op => op.timestamp
  | .xid op => op.timestamp

/-- The type assertion `oper.(MysqlOperationGTID)`. -/
def isGTID : MysqlOperation → Bool
  | .gtid _ => true
  | _ => false

/-- Row changes, which are executed in the open transaction. -/
def isDML : MysqlOperation → Bool
  | .dmlInsert _ | .dmlDelete _ | .dmlUpdate _ => true
  | _ => false

/-- Statements that are executed in a transaction of their own. -/
def isNonDML : MysqlOperation → Bool
  | .ddlDatabase _ | .ddlTable _ | .dclUser _ => true
  | _ => false

end MysqlOperation

end MysqlSync

import MysqlSync.Lib.Strings
import MysqlSync.Operation

/-!
# Building the row statements

The statements the applier builds for row changes. A statement is kept as the parts its text is
put together from, `Sql`, with the parameters bound to its placeholders in order; `Sql.text` is
the text the source formats from these parts.

`columns[k]` with an index past the row image panics in the source. Here it gives `none`.
-/

namespace MysqlSync

open Strings

/-- The shapes of the row statements. The lists are column names: each column of a `SET` or a
`WHERE` list is compared with or set to one placeholder. -/
inductive Sql where
  | insert (databaseName tableName : String) (keys : List String) (placeholders : ℕ)
  | replace (databaseName tableName : String) (keys : List String) (placeholders : ℕ)
  | delete (databaseName tableName : String) (conditions : List String)
  | update (databaseName tableName : String) (setClauses conditions : List String)
  deriving DecidableEq, Repr

/-- A row statement and its bound parameters. -/
structure Query where
  sql : Sql
  params : List Value
  deriving DecidableEq, Repr

def quoteName (name : String) : String := "`" ++ name ++ "`"

def assignText (name : String) : String := quoteName name ++ " = ?"

def tableText (databaseName tableName : String) : String :=
  quoteName databaseName ++ "." ++ quoteName tableName

def valuesText (keys : List String) (placeholders : ℕ) : String :=
  " (" ++ join (keys.map quoteName) ", " ++ ") VALUES (" ++
    join (List.replicate placeholders "?") ", " ++ ")"

def Sql.text : Sql → String
  | .insert db tab keys n => "INSERT INTO " ++ tableText db tab ++ valuesText keys n
  | .replace db tab keys n => "REPLACE INTO " ++ tableText db tab ++ valuesText keys n
  | .delete db tab conditions =>
    "DELETE FROM " ++ tableText db tab ++ " WHERE " ++ join (conditions.map assignText) " AND "
  | .update db tab setClauses conditions =>
    "UPDATE " ++ tableText db tab ++ " SET " ++ join (setClauses.map assignText) ", " ++
      " WHERE " ++ join (conditions.map assignText) " AND "

/-- The table a statement names. -/
def Sql.name : Sql → String × String
  | .insert db tab _ _ | .replace db tab _ _ | .delete db tab _ | .update db tab _ _ => (db, tab)

def columnNames (columns : List MysqlOperationDMLColumn) : List String :=
  columns.map MysqlOperationDMLColumn.columnName

def columnValues (columns : List MysqlOperationDMLColumn) : List Value :=
  columns.map MysqlOperationDMLColumn.columnValue

def buildDMLInsertQuery (databaseName tableName : String)
    (columns : List MysqlOperationDMLColumn) : Query :=
  ⟨.insert databaseName tableName (columnNames columns) columns.length, columnValues columns⟩

def buildDMLInsertQueryReplace (databaseName tableName : String)
    (columns : List MysqlOperationDMLColumn) : Query :=
  ⟨.replace databaseName tableName (columnNames columns) columns.length, columnValues columns⟩

/-- The columns a condition is built from: those of the primary key, or all of them. -/
def conditionColumns (primaryKeys : List UInt64) (columns : List MysqlOperationDMLColumn) :
    Option (List MysqlOperationDMLColumn) :=
  if primaryKeys.length ≥ 1 then primaryKeys.mapM fun k => columns[k.toNat]?
  else some columns

def generateConditionAndValues (primaryKeys : List UInt64)
    (columns : List MysqlOperationDMLColumn) : Option (List String × List Value) :=
  (conditionColumns primaryKeys columns).map fun cols => (columnNames cols, columnValues cols)

def buildDMLDeleteQuery (databaseName tableName : String)
    (columns : List MysqlOperationDMLColumn) (primaryKey : List UInt64) : Option Query :=
  (generateConditionAndValues primaryKey columns).map fun (wherePlaceholder, whereParams) =>
    ⟨.delete databaseName tableName wherePlaceholder, whereParams⟩

/-- The parameters of the `SET` list come before those of the `WHERE` list. -/
def buildDMLUpdateQuery (databaseName tableName : String)
    (afterColumns beforeColumns : List MysqlOperationDMLColumn) (primaryKey : List UInt64) :
    Option Query :=
  (generateConditionAndValues primaryKey beforeColumns).map
    fun (wherePlaceholder, whereParams) =>
      ⟨.update databaseName tableName (columnNames afterColumns) wherePlaceholder,
        columnValues afterColumns ++ whereParams⟩

example : (buildDMLUpdateQuery "db" "t" [⟨"a", 3, .int32 1, false⟩, ⟨"b", 3, .int32 2, false⟩]
    [⟨"a", 3, .int32 7, false⟩, ⟨"b", 3, .int32 8, false⟩] [0]).map (·.sql.text) =
    some "UPDATE `db`.`t` SET `a` = ?, `b` = ? WHERE `a` = ?" := by decide

/-! ### Repairing byte slices after transport -/

/-- An empty byte slice arrives as a nil slice. In the columns with type code 252 that are not
NULL it is made empty again; a value there that is no byte slice is refused. -/
def repairColumn (col : MysqlOperationDMLColumn) : Option MysqlOperationDMLColumn :=
  if col.columnType == 252 && !col.columnValueIsNil then
    match col.columnValue with
    | .bytes none => some { col with columnValue := .bytes (some []) }
    | .bytes (some _) => some col
    | _ => none
  else some col

def gobUint8NilRepair (columns : List MysqlOperationDMLColumn) :
    Option (List MysqlOperationDMLColumn) :=
  columns.mapM repairColumn

end MysqlSync

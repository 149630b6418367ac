import Mathlib.Data.Finmap
import MysqlSync.Lib.Keyed
import MysqlSync.Applier.Query
import MysqlSync.Extract.Basic

/-!
# Tables, row changes and the meaning of row statements

A database is a finite map from names to tables, a table a finite map from primary keys to rows.
On the source, a rows event is a list of changes of whole rows (`Table.apply`). On the
destination, a statement names columns, and its placeholders are bound to its parameters from left
to right (`Sql.execOn`). Values are compared by equality, and the primary key is the only unique
key.
-/

namespace MysqlSync

/-- A row with one value for each of `n` columns. -/
abbrev Row (n : ℕ) : Type := { row : List Value // row.length = n }

/-- The columns of a table in order, and the positions of those in its primary key. -/
structure Schema where
  columns : List String
  columns_nodup : columns.Nodup
  primaryKey : List UInt64
  primaryKey_ne_nil : primaryKey ≠ []
  primaryKey_lt : ∀ k ∈ primaryKey, k.toNat < columns.length

namespace Schema

def width (s : Schema) : ℕ := s.columns.length

/-- The primary key of a row. -/
def key (s : Schema) (row : Row s.width) : List (Option Value) :=
  (s.primaryKey.map UInt64.toNat).map (row.1[·]?)

/-- A row with some of its columns set. -/
def set (s : Schema) (sets : List (String × Value)) (row : Row s.width) : Row s.width :=
  ⟨Columns.assign s.columns row.1 sets, by rw [Columns.length_assign, row.2]⟩

/-- The row of an insertion; a column that is not named is NULL. -/
def inserted (s : Schema) (sets : List (String × Value)) : Row s.width :=
  s.set sets ⟨List.replicate s.width .nil, List.length_replicate⟩

end Schema

structure Table where
  schema : Schema
  contents : KeyedTable schema.key

/-- The tables by database and name. -/
abbrev Database : Type := Finmap fun _ : String × String => Table

/-- Change the contents of a table, unless that failed. -/
def Table.change (t : Table) (contents : Option (KeyedTable t.schema.key)) : Option Table :=
  contents.map fun contents => ⟨t.schema, contents⟩

/-- Change one table of a database, which has to exist. -/
def Database.modify (db : Database) (name : String × String) (f : Table → Option Table) :
    Option Database :=
  (db.lookup name).bind fun t => (f t).map fun t' => db.insert name t'

/-! ### The source -/

inductive RowChange where
  | insert (row : List Value)
  | update (before after : List Value)
  | delete (row : List Value)
  deriving DecidableEq, Repr

/-- A change on the source: a row with a fresh key is inserted, a row of the table is deleted or
takes new values under its own key or a fresh one. -/
def Table.apply (t : Table) : RowChange → Option Table
  | .insert row =>
    if h : row.length = t.schema.width then t.change (t.contents.insert ⟨row, h⟩) else none
  | .update before after =>
    if h : before.length = t.schema.width ∧ after.length = t.schema.width then
      if ⟨before, h.1⟩ ∈ t.contents then
        t.change (t.contents.move ⟨before, h.1⟩ ⟨after, h.2⟩)
      else none
    else none
  | .delete row =>
    if h : row.length = t.schema.width then
      if ⟨row, h⟩ ∈ t.contents then t.change (some (t.contents.erase ⟨row, h⟩)) else none
    else none

/-- The changes of an update event, whose rows come in pairs. -/
def updateChanges : List (List Value) → Option (List RowChange)
  | [] => some []
  | [_] => none
  | before :: after :: rows => (updateChanges rows).map (.update before after :: ·)

/-- The changes a rows event stands for. -/
def eventChanges (type : RowsEventType) (e : RowsEvent) : Option (List RowChange) :=
  match type with
  | .write => some (e.rows.map .insert)
  | .update => updateChanges e.rows
  | .delete => some (e.rows.map .delete)
  | .other => none

/-- Make changes to one table of a database. -/
def Database.applyAll (db : Database) (name : String × String) (changes : List RowChange) :
    Option Database :=
  changes.foldlM (fun db c => db.modify name (·.apply c)) db

/-- The source after the changes of a rows event. -/
def Database.source (db : Database) (ev : EventHeader × RowsEventType × RowsEvent) :
    Option Database :=
  (eventChanges ev.2.1 ev.2.2).bind
    (db.applyAll (ev.2.2.table.schema, ev.2.2.table.table))

/-! ### The destination -/

/-- Names of columns of the table, each at most once. -/
def Schema.Names (s : Schema) (names : List String) : Prop :=
  names.Nodup ∧ ∀ c ∈ names, c ∈ s.columns

instance (s : Schema) (names : List String) : Decidable (s.Names names) :=
  inferInstanceAs (Decidable (_ ∧ _))

/-- Whether the columns of a condition have the values they are compared with. -/
def Schema.holds (s : Schema) (conditions : List (String × Value)) (row : Row s.width) : Bool :=
  Columns.Holds s.columns row.1 conditions

/-- The meaning of a row statement on the table it names. -/
def Sql.execOn (params : List Value) (t : Table) : Sql → Option Table
  | .insert _ _ keys placeholders =>
    if t.schema.Names keys ∧ keys.length = placeholders ∧ params.length = placeholders then
      t.change (t.contents.insert (t.schema.inserted (keys.zip params)))
    else none
  | .replace _ _ keys placeholders =>
    if t.schema.Names keys ∧ keys.length = placeholders ∧ params.length = placeholders then
      t.change (t.contents.replace (t.schema.inserted (keys.zip params)))
    else none
  | .delete _ _ conditions =>
    if (∀ c ∈ conditions, c ∈ t.schema.columns) ∧ params.length = conditions.length then
      t.change (some (t.contents.deleteWhere (t.schema.holds (conditions.zip params))))
    else none
  | .update _ _ setClauses conditions =>
    if t.schema.Names setClauses ∧ (∀ c ∈ conditions, c ∈ t.schema.columns) ∧
        params.length = setClauses.length + conditions.length then
      t.change (t.contents.updateWhere
        (t.schema.holds (conditions.zip (params.drop setClauses.length)))
        (t.schema.set (setClauses.zip (params.take setClauses.length))))
    else none

/-- The meaning of a row statement with its bound parameters. -/
def Database.exec (db : Database) (query : Query) : Option Database :=
  db.modify query.sql.name fun t => query.sql.execOn query.params t

end MysqlSync

import Mathlib.Logic.Function.Basic
import MysqlSync.Applier.SqlText
import MysqlSync.Extract.Sends

/-!
# Rewritten table statements

A `DROP` or a `RENAME` of several tables is not sent as it was written: the extractor builds one
query for each object from the names alone. The source executes the statement in a session with
temporary tables (`TableStmt.execute`), the destination the queries it reads (`RunsQueries`).

The flags of a `DROP` are not looked at. Without them a dropped view stays, and a base table goes
where the source dropped nothing but a temporary table or looked for a view (`DropTableStmt.KeptAt`).
-/

namespace MysqlSync

open BinlogExtract SqlLexer

/-! ### Catalogs -/

/-- A base table or a view, with what the catalog says of it. -/
inductive CatalogObject (α : Type) where
  | table (definition : α)
  | view (definition : α)
  deriving DecidableEq, Repr

/-- Databases, and the objects in them. The base tables and the views of a database share their
names. -/
structure Catalog (α : Type) where
  databases : String → Bool
  objects : String × String → Option (CatalogObject α)

namespace Catalog

variable {α : Type} (cat : Catalog α)

def isTable (name : String × String) : Bool :=
  match cat.objects name with
  | some (.table _) => true
  | _ => false

def isView (name : String × String) : Bool :=
  match cat.objects name with
  | some (.view _) => true
  | _ => false

def remove (name : String × String) : Catalog α :=
  { cat with objects := Function.update cat.objects name none }

/-- `DROP TABLE IF EXISTS` of one name. A view is no table and stays. -/
def dropTableIfExists (name : String × String) : Catalog α :=
  if cat.isTable name then cat.remove name else cat

/-- `RENAME TABLE` of one name. The new name must be free, and a view stays in its database. -/
def renameObject (oldTable newTable : String × String) : Option (Catalog α) :=
  (cat.objects oldTable).bind fun object =>
    if cat.databases newTable.1 ∧ cat.objects newTable = none ∧
        (cat.isView oldTable → oldTable.1 = newTable.1) then
      some { cat with objects :=
        Function.update (Function.update cat.objects oldTable none) newTable (some object) }
    else none

end Catalog

/-! ### The statements on the source -/

inductive TemporaryKeyword where
  | temporaryNone
  | temporaryGlobal
  | temporaryLocal
  deriving DecidableEq, Repr

structure DropTableStmt where
  ifExists : Bool
  tables : List TableName
  isView : Bool
  /-- Without meaning for a view. -/
  temporaryKeyword : TemporaryKeyword
  deriving DecidableEq, Repr

inductive TableStmt where
  | drop (stmt : DropTableStmt)
  | rename (tableToTables : List TableToTable)
  deriving DecidableEq, Repr

/-- The node the extractor's type switch sees, with the fields its cases read. -/
def TableStmt.node : TableStmt → StmtNode
  | .drop stmt => .dropTable stmt.tables
  | .rename tableToTables => .renameTable tableToTables

/-- The catalog as a session sees it, with its temporary tables. -/
structure Session (α : Type) where
  catalog : Catalog α
  temporary : String × String → Option α

/-- What the drop of one name drops. -/
inductive Dropped where
  | object
  | temporary
  | nothing
  deriving DecidableEq, Repr

section Source

variable {α : Type}

def Session.after (s : Session α) (name : String × String) : Dropped → Session α
  | .object => { s with catalog := s.catalog.remove name }
  | .temporary => { s with temporary := Function.update s.temporary name none }
  | .nothing => s

namespace DropTableStmt

variable (stmt : DropTableStmt)

/-- A name that is not found is an error, unless the statement says `IF EXISTS`. -/
def found (isFound : Bool) (dropped : Dropped) : Option Dropped :=
  if isFound then some dropped else if stmt.ifExists then some .nothing else none

/-- What the statement drops under one name. A temporary table hides the object of its name from
`DROP TABLE`, which finds no view, as `DROP VIEW` finds no table; `GLOBAL TEMPORARY` is not a
keyword of the server's. -/
def dropped (s : Session α) (name : String × String) : Option Dropped :=
  if stmt.isView then stmt.found (s.catalog.isView name) .object
  else match stmt.temporaryKeyword with
    | .temporaryNone =>
      if (s.temporary name).isSome then some .temporary
      else stmt.found (s.catalog.isTable name) .object
    | .temporaryLocal => stmt.found (s.temporary name).isSome .temporary
    | .temporaryGlobal => none

def dropOne (s : Session α) (name : String × String) : Option (Session α) :=
  (stmt.dropped s name).map (s.after name)

/-- The names of the list are different, and each has a database. -/
def execute (schemaContext : String) (s : Session α) : Option (Session α) :=
  let names := stmt.tables.map (TableName.resolve schemaContext)
  if names.Nodup ∧ ∀ name ∈ names, name.1 ≠ "" then names.foldlM stmt.dropOne s else none

end DropTableStmt

/-- The renames from left to right. They do not look at temporary tables. -/
def renameAll (schemaContext : String) (tableToTables : List TableToTable) (cat : Catalog α) :
    Option (Catalog α) :=
  tableToTables.foldlM
    (fun cat tab =>
      cat.renameObject (tab.oldTable.resolve schemaContext) (tab.newTable.resolve schemaContext))
    cat

/-- The session after the statement, `none` if it fails. -/
def TableStmt.execute (schemaContext : String) (s : Session α) : TableStmt → Option (Session α)
  | .drop stmt => stmt.execute schemaContext s
  | .rename tableToTables =>
    if ∀ tab ∈ tableToTables, (tab.oldTable.resolve schemaContext).1 ≠ "" ∧
        (tab.newTable.resolve schemaContext).1 ≠ "" then
      (renameAll schemaContext tableToTables s.catalog).map fun cat => { s with catalog := cat }
    else none

end Source

/-! ### The queries at the destination -/

def MysqlOperation.ddlTableQuery : MysqlOperation → Option String
  | .ddlTable op => some op.query
  | _ => none

/-- The queries `handleQueryEvent` sends for an event whose text the parser reads as the
statement. -/
def emitted (e : QueryEvent) (eh : EventHeader) (stmt : TableStmt) : List String :=
  (handleQueryEvent e eh (fun _ => some [stmt.node]) ⟨"", []⟩).2.moCh.filterMap
    MysqlOperation.ddlTableQuery

/-- The single-object statements the queries stand for. -/
def TableStmt.readings (schemaContext : String) : TableStmt → List Reading
  | .drop stmt => stmt.tables.map fun tab => .drop (tab.resolve schemaContext)
  | .rename tableToTables => tableToTables.map fun tab =>
    .rename (tab.oldTable.resolve schemaContext) (tab.newTable.resolve schemaContext)

section Destination

variable {α : Type}

/-- What a statement does to a catalog in a session without temporary tables. -/
def Reading.execute (cat : Catalog α) : Reading → Option (Catalog α)
  | .drop table => some (cat.dropTableIfExists table)
  | .rename oldTable newTable => cat.renameObject oldTable newTable
  | _ => some cat

variable (reserved : String → Bool)

/-- The destination executes the statement it reads. -/
def RunsQuery (text : String) (cat cat' : Catalog α) : Prop :=
  ∃ reading, ReadsText reserved text reading ∧ reading.execute cat = some cat'

inductive RunsQueries : List String → Catalog α → Catalog α → Prop
  | nil (cat : Catalog α) : RunsQueries [] cat cat
  | cons {text : String} {texts : List String} {cat cat₁ cat' : Catalog α} :
    RunsQuery reserved text cat cat₁ → RunsQueries texts cat₁ cat' →
      RunsQueries (text :: texts) cat cat'

/-- Each query is the statement on its own object, and executing the queries in order on the
catalog the source began with gives the base tables and views the source ended with. -/
def KeepsMeaning (e : QueryEvent) (eh : EventHeader) (stmt : TableStmt) (s result : Session α) :
    Prop :=
  List.Forall₂ (ReadsText reserved) (emitted e eh stmt) (stmt.readings e.schema) ∧
    ∃ cat', RunsQueries reserved (emitted e eh stmt) s.catalog cat' ∧
      cat'.objects = result.catalog.objects

end Destination

/-! ### Dropping name by name -/

section Drops

variable {α : Type} {stmt : DropTableStmt} {s s' : Session α} {cat : Catalog α}

lemma Catalog.objects_remove (name name' : String × String) :
    (cat.remove name).objects name' = if name' = name then none else cat.objects name' := by
  simp [Catalog.remove, Function.update_apply]

lemma Catalog.objects_dropTableIfExists (name name' : String × String) :
    (cat.dropTableIfExists name).objects name' =
      if name' = name ∧ cat.isTable name' then none else cat.objects name' := by
  unfold Catalog.dropTableIfExists
  by_cases hname : name' = name
  · subst hname
    by_cases htable : cat.isTable name' = true <;> simp [htable, objects_remove]
  · by_cases htable : cat.isTable name = true <;> simp [htable, hname, objects_remove]

lemma Catalog.isTable_congr {cat' : Catalog α} {name : String × String}
    (h : cat'.objects name = cat.objects name) : cat'.isTable name = cat.isTable name := by
  rw [Catalog.isTable, h, Catalog.isTable]

/-- Base tables go, views stay. -/
lemma objects_foldl_dropTableIfExists (names : List (String × String)) (cat : Catalog α)
    (name : String × String) :
    (names.foldl Catalog.dropTableIfExists cat).objects name =
      if name ∈ names ∧ cat.isTable name then none else cat.objects name := by
  induction names generalizing cat with
  | nil => simp
  | cons first names ih =>
    rw [List.foldl_cons, ih, Catalog.objects_dropTableIfExists]
    by_cases hfirst : name = first
    · subst hfirst
      by_cases htable : cat.isTable name = true
      · simp [htable]
      · have hsame : (cat.dropTableIfExists name).isTable name = cat.isTable name := by
          rw [Catalog.dropTableIfExists, if_neg htable]
        simp [hsame, htable]
    · have hsame : (cat.dropTableIfExists first).isTable name = cat.isTable name :=
        Catalog.isTable_congr (by simp [Catalog.objects_dropTableIfExists, hfirst])
      simp [hsame, hfirst]

/-- The source drops the object of the name, not a temporary table. -/
def DropTableStmt.Removes (stmt : DropTableStmt) (s : Session α) (name : String × String) : Prop :=
  stmt.dropped s name = some .object

instance (name : String × String) : Decidable (stmt.Removes s name) :=
  inferInstanceAs (Decidable (_ = _))

lemma Session.objects_after {name : String × String} {dropped : Dropped}
    (name' : String × String) :
    (s.after name dropped).catalog.objects name' =
      if name' = name ∧ dropped = .object then none else s.catalog.objects name' := by
  cases dropped with
  | object => simp [Session.after, Catalog.objects_remove]
  | temporary => simp [Session.after]
  | nothing => simp [Session.after]

lemma Session.temporary_after_of_ne {name name' : String × String} (h : name' ≠ name)
    (dropped : Dropped) : (s.after name dropped).temporary name' = s.temporary name' := by
  cases dropped with
  | temporary => exact Function.update_of_ne h none s.temporary
  | object | nothing => rfl

/-- What is dropped under a name depends on nothing else. -/
lemma DropTableStmt.dropped_congr {name : String × String}
    (hobjects : s'.catalog.objects name = s.catalog.objects name)
    (htemporary : s'.temporary name = s.temporary name) :
    stmt.dropped s' name = stmt.dropped s name := by
  unfold DropTableStmt.dropped Catalog.isView Catalog.isTable
  rw [hobjects, htemporary]

/-- The objects the source has left after a list of different names. -/
lemma DropTableStmt.objects_of_foldlM {names : List (String × String)} (hnodup : names.Nodup)
    (h : names.foldlM stmt.dropOne s = some s') (name : String × String) :
    s'.catalog.objects name =
      if name ∈ names ∧ stmt.Removes s name then none else s.catalog.objects name := by
  induction names generalizing s with
  | nil =>
    cases h
    simp
  | cons first names ih =>
    obtain ⟨hfirst, hnodup⟩ := List.nodup_cons.mp hnodup
    rw [List.foldlM_cons] at h
    obtain ⟨s₁, hone, hrest⟩ := Option.bind_eq_some_iff.mp h
    obtain ⟨dropped, hdropped, rfl⟩ := Option.map_eq_some_iff.mp hone
    rw [ih hnodup hrest, Session.objects_after]
    by_cases hname : name = first
    · subst hname
      simp [hfirst, Removes, hdropped]
    · have hobjects : (s.after first dropped).catalog.objects name = s.catalog.objects name := by
        simp [Session.objects_after, hname]
      have hsame : stmt.Removes (s.after first dropped) name ↔ stmt.Removes s name := by
        unfold Removes
        rw [dropped_congr hobjects (Session.temporary_after_of_ne hname dropped)]
      simp [hsame, hname]

end Drops

/-! ### What the destination reads -/

section Reads

variable {reserved : String → Bool} {α : Type}

def Reading.isTableStmt : Reading → Bool
  | .drop _ | .rename _ _ => true
  | _ => false

/-- A text is read as one table statement only. -/
lemma Reading.eq_of_readsAs {cs : List Char} {reading reading' : Reading}
    (htable : reading.isTableStmt = true) (h : ReadsAs reserved cs reading.pieces)
    (h' : ReadsAs reserved cs reading'.pieces) : reading' = reading := by
  obtain ⟨toks, hlex, hmatches⟩ := h
  obtain ⟨toks', hlex', hmatches'⟩ := h'
  cases hlex.symm.trans hlex'
  have hfirst := Reading.firstKeyword_eq hmatches hmatches'
  cases reading with
  | drop table =>
    cases reading' with
    | drop table' =>
      -- the table follows four keywords
      have heq : table' = table :=
        eq_of_tablePieces (List.forall₂_drop 4 hmatches) (List.forall₂_drop 4 hmatches')
      rw [heq]
    | _ => simp [Reading.firstKeyword] at hfirst
  | rename oldTable newTable =>
    cases reading' with
    | rename oldTable' newTable' =>
      have hold : oldTable' = oldTable :=
        eq_of_tablePieces (List.forall₂_drop 2 hmatches) (List.forall₂_drop 2 hmatches')
      have hnew : newTable' = newTable :=
        eq_of_tablePieces (List.forall₂_drop 6 hmatches) (List.forall₂_drop 6 hmatches')
      rw [hold, hnew]
    | _ => simp [Reading.firstKeyword] at hfirst
  | _ => cases htable

/-- Queries that are each read as a table statement run as these statements do. -/
lemma runsQueries_iff {texts : List String} {readings : List Reading}
    (htables : ∀ reading ∈ readings, reading.isTableStmt = true)
    (h : List.Forall₂ (ReadsText reserved) texts readings) (cat cat' : Catalog α) :
    RunsQueries reserved texts cat cat' ↔ readings.foldlM Reading.execute cat = some cat' := by
  induction h generalizing cat with
  | nil =>
    constructor
    · intro hruns
      cases hruns
      rfl
    · intro hfold
      cases hfold
      exact .nil _
  | @cons text reading texts readings hread hreads ih =>
    obtain ⟨htable, htables⟩ := List.forall_mem_cons.mp htables
    rw [List.foldlM_cons]
    constructor
    · intro hruns
      cases hruns with
      | cons hquery hrest =>
        obtain ⟨reading', hread', hexecute⟩ := hquery
        cases Reading.eq_of_readsAs htable hread hread'
        rw [hexecute]
        exact (ih htables _).mp hrest
    · intro hfold
      obtain ⟨cat₁, hexecute, hrest⟩ := Option.bind_eq_some_iff.mp hfold
      exact .cons ⟨reading, hread, hexecute⟩ ((ih htables cat₁).mpr hrest)

end Reads

/-! ### The queries of a statement -/

section Emitted

variable {reserved : String → Bool} (e : QueryEvent) (eh : EventHeader)

lemma emitted_eq (stmt : TableStmt) :
    emitted e eh stmt =
      (stmtOperations e eh stmt.node).filterMap MysqlOperation.ddlTableQuery := by
  have hsends := sends_handleQueryEvent (fun _ => some [stmt.node]) eh e ⟨"", []⟩
  rw [emitted, hsends]
  simp [send]

lemma emitted_drop (stmt : DropTableStmt) :
    emitted e eh (.drop stmt) = stmt.tables.map fun tab =>
      dropQuery (tab.resolve e.schema).1 (tab.resolve e.schema).2 := by
  rw [emitted_eq, TableStmt.node, stmtOperations, List.filterMap_map, ← List.filterMap_eq_map]
  rfl

lemma emitted_rename (tableToTables : List TableToTable) :
    emitted e eh (.rename tableToTables) = tableToTables.map fun tab =>
      renameQuery (tab.oldTable.resolve e.schema).1 (tab.oldTable.resolve e.schema).2
        (tab.newTable.resolve e.schema).1 (tab.newTable.resolve e.schema).2 := by
  rw [emitted_eq, TableStmt.node, stmtOperations, List.filterMap_map, ← List.filterMap_eq_map]
  rfl

/-- The names in the statement, unqualified ones with the database they are resolved in. -/
def TableStmt.names (schemaContext : String) (stmt : TableStmt) : List String :=
  (stmt.readings schemaContext).flatMap Reading.names

/-- Each query is read as the statement on its object unless a name has a backquote in it. -/
lemma forall₂_readsText_iff (stmt : TableStmt) :
    List.Forall₂ (ReadsText reserved) (emitted e eh stmt) (stmt.readings e.schema) ↔
      ∀ name ∈ stmt.names e.schema, NoBackquote name := by
  cases stmt with
  | drop stmt =>
    rw [emitted_drop, TableStmt.names, TableStmt.readings, List.forall₂_map_left_iff,
      List.forall₂_map_right_iff, List.forall₂_same]
    simp only [ReadsText, readsAs_drop, List.forall_mem_flatMap, List.forall_mem_map]
  | rename tableToTables =>
    rw [emitted_rename, TableStmt.names, TableStmt.readings, List.forall₂_map_left_iff,
      List.forall₂_map_right_iff, List.forall₂_same]
    simp only [ReadsText, readsAs_rename, List.forall_mem_flatMap, List.forall_mem_map]

end Emitted

/-! ### When the meaning is kept -/

section Kept

variable {α : Type}

/-- Under the name there is nothing for the statement to leave behind, and nothing for the query to
drop that the statement keeps: no object at all when a view is dropped, no base table when a
temporary table is, not both a temporary and a base table otherwise. -/
def DropTableStmt.KeptAt (stmt : DropTableStmt) (s : Session α) (name : String × String) : Prop :=
  if stmt.isView then s.catalog.objects name = none
  else match stmt.temporaryKeyword with
    | .temporaryNone => ¬ ((s.temporary name).isSome ∧ s.catalog.isTable name)
    | _ => s.catalog.isTable name = false

def TableStmt.Kept (schemaContext : String) (s : Session α) : TableStmt → Prop
  | .drop stmt => ∀ tab ∈ stmt.tables, stmt.KeptAt s (tab.resolve schemaContext)
  | .rename _ => True

lemma DropTableStmt.found_eq_object_iff {stmt : DropTableStmt} {isFound : Bool} :
    stmt.found isFound .object = some .object ↔ isFound = true := by
  unfold DropTableStmt.found
  split_ifs <;> simp_all

lemma DropTableStmt.found_ne_object {stmt : DropTableStmt} {isFound : Bool} :
    stmt.found isFound .temporary ≠ some .object := by
  unfold DropTableStmt.found
  split_ifs <;> simp

lemma DropTableStmt.removes_iff {stmt : DropTableStmt} {s : Session α} {name : String × String} :
    stmt.Removes s name ↔
      if stmt.isView then s.catalog.isView name = true
      else stmt.temporaryKeyword = .temporaryNone ∧ (s.temporary name).isSome = false ∧
        s.catalog.isTable name = true := by
  unfold Removes dropped
  by_cases hview : stmt.isView = true
  · rw [if_pos hview, if_pos hview, found_eq_object_iff]
  · rw [if_neg hview, if_neg hview]
    cases stmt.temporaryKeyword with
    | temporaryNone =>
      by_cases htemporary : (s.temporary name).isSome = true
      · simp [htemporary]
      · simp [htemporary, found_eq_object_iff]
    | temporaryGlobal => simp
    | temporaryLocal => simp [found_ne_object]

/-- The meaning is kept at a name exactly when the source drops its object if it is a base table
and in no other case. -/
lemma DropTableStmt.keptAt_iff {stmt : DropTableStmt} {s : Session α} {name : String × String} :
    stmt.KeptAt s name ↔ (stmt.Removes s name ↔ s.catalog.isTable name = true) := by
  rw [removes_iff, KeptAt]
  by_cases hview : stmt.isView = true
  · rw [if_pos hview, if_pos hview]
    unfold Catalog.isView Catalog.isTable
    rcases s.catalog.objects name with _ | _ | _ <;> simp
  · rw [if_neg hview, if_neg hview]
    cases stmt.temporaryKeyword with
    | temporaryNone =>
      by_cases htemporary : (s.temporary name).isSome = true <;> simp [htemporary]
    | temporaryGlobal => simp
    | temporaryLocal => simp

lemma Catalog.objects_ne_none_of_isTable {cat : Catalog α} {name : String × String}
    (h : cat.isTable name = true) : cat.objects name ≠ none := by
  intro hnone
  simp [Catalog.isTable, hnone] at h

lemma DropTableStmt.Removes.objects_ne_none {stmt : DropTableStmt} {s : Session α}
    {name : String × String} (h : stmt.Removes s name) : s.catalog.objects name ≠ none := by
  intro hnone
  rw [removes_iff] at h
  by_cases hview : stmt.isView = true
  · rw [if_pos hview, Catalog.isView, hnone] at h
    exact Bool.false_ne_true h
  · rw [if_neg hview] at h
    exact Catalog.objects_ne_none_of_isTable h.2.2 hnone

/-- The two sides agree exactly when they remove the same objects. -/
lemma objects_eq_iff {stmt : DropTableStmt} {names : List (String × String)} {s s' : Session α}
    (hnodup : names.Nodup) (h : names.foldlM stmt.dropOne s = some s') :
    (names.foldl Catalog.dropTableIfExists s.catalog).objects = s'.catalog.objects ↔
      ∀ name ∈ names, stmt.KeptAt s name := by
  constructor
  · intro heq name hname
    have hat := congrFun heq name
    rw [objects_foldl_dropTableIfExists, DropTableStmt.objects_of_foldlM hnodup h] at hat
    rw [DropTableStmt.keptAt_iff]
    constructor
    · intro hremoves
      by_contra htable
      rw [if_neg (by simp [htable]), if_pos ⟨hname, hremoves⟩] at hat
      exact hremoves.objects_ne_none hat
    · intro htable
      by_contra hremoves
      rw [if_pos ⟨hname, htable⟩, if_neg fun hmem => hremoves hmem.2] at hat
      exact Catalog.objects_ne_none_of_isTable htable hat.symm
  · intro hkept
    funext name
    rw [objects_foldl_dropTableIfExists, DropTableStmt.objects_of_foldlM hnodup h]
    by_cases hname : name ∈ names
    · simp only [hname, true_and, DropTableStmt.keptAt_iff.mp (hkept name hname)]
    · simp [hname]

lemma foldlM_execute_drop (names : List (String × String)) (cat : Catalog α) :
    (names.map Reading.drop).foldlM Reading.execute cat =
      some (names.foldl Catalog.dropTableIfExists cat) := by
  induction names generalizing cat with
  | nil => rfl
  | cons name names ih =>
    rw [List.map_cons, List.foldlM_cons, List.foldl_cons]
    exact ih (cat.dropTableIfExists name)

lemma foldlM_execute_rename (schemaContext : String) (tableToTables : List TableToTable)
    (cat : Catalog α) :
    ((TableStmt.rename tableToTables).readings schemaContext).foldlM Reading.execute cat =
      renameAll schemaContext tableToTables cat := by
  rw [TableStmt.readings, List.foldlM_map]
  rfl

lemma isTableStmt_of_mem_readings {schemaContext : String} (stmt : TableStmt) :
    ∀ reading ∈ stmt.readings schemaContext, reading.isTableStmt = true := by
  intro reading hreading
  cases stmt with
  | drop stmt =>
    obtain ⟨tab, -, rfl⟩ := List.mem_map.mp hreading
    rfl
  | rename tableToTables =>
    obtain ⟨tab, -, rfl⟩ := List.mem_map.mp hreading
    rfl

/-- The statements meant by the queries lead to the source's objects exactly when the meaning is
kept under every name. -/
lemma foldlM_execute_readings_iff {schemaContext : String} {stmt : TableStmt} {s result : Session α}
    (hsource : stmt.execute schemaContext s = some result) :
    (∃ cat', (stmt.readings schemaContext).foldlM Reading.execute s.catalog = some cat' ∧
        cat'.objects = result.catalog.objects) ↔ stmt.Kept schemaContext s := by
  cases stmt with
  | drop stmt =>
    simp only [TableStmt.execute, DropTableStmt.execute] at hsource
    split_ifs at hsource with hnames
    have hreadings : (TableStmt.drop stmt).readings schemaContext =
        (stmt.tables.map (TableName.resolve schemaContext)).map Reading.drop := by
      rw [List.map_map]
      rfl
    have hobjects := objects_eq_iff hnames.1 hsource
    rw [hreadings, foldlM_execute_drop]
    simpa [TableStmt.Kept] using hobjects
  | rename tableToTables =>
    rw [TableStmt.execute] at hsource
    split_ifs at hsource
    obtain ⟨cat, hcat, rfl⟩ := Option.map_eq_some_iff.mp hsource
    rw [foldlM_execute_rename]
    exact iff_of_true ⟨cat, hcat, rfl⟩ trivial

lemma KeepsMeaning.kept {reserved : String → Bool} {e : QueryEvent} {eh : EventHeader}
    {stmt : TableStmt} {s result : Session α} (h : KeepsMeaning reserved e eh stmt s result)
    (hsource : stmt.execute e.schema s = some result) : stmt.Kept e.schema s := by
  obtain ⟨hreads, cat', hruns, heq⟩ := h
  rw [runsQueries_iff (isTableStmt_of_mem_readings stmt) hreads] at hruns
  exact (foldlM_execute_readings_iff hsource).mp ⟨cat', hruns, heq⟩

/-- The queries sent for a statement that succeeds on the source keep its meaning exactly when no
name in it has a backquote, and every name it drops is one under which the flags it loses make no
difference. A `RENAME` loses nothing. -/
theorem keepsMeaning_iff (reserved : String → Bool) (e : QueryEvent) (eh : EventHeader)
    (stmt : TableStmt) (s result : Session α)
    (hsource : stmt.execute e.schema s = some result) :
    KeepsMeaning reserved e eh stmt s result ↔
      (∀ name ∈ stmt.names e.schema, NoBackquote name) ∧ stmt.Kept e.schema s := by
  constructor
  · intro h
    exact ⟨(forall₂_readsText_iff e eh stmt).mp h.1, h.kept hsource⟩
  · rintro ⟨hnames, hkept⟩
    have hreads : List.Forall₂ (ReadsText reserved) _ _ :=
      (forall₂_readsText_iff e eh stmt).mpr hnames
    obtain ⟨cat', hfold, heq⟩ := (foldlM_execute_readings_iff hsource).mpr hkept
    have hruns := (runsQueries_iff (isTableStmt_of_mem_readings stmt) hreads _ _).mpr hfold
    exact ⟨hreads, cat', hruns, heq⟩

/-- A session with a base table `t` that a temporary table hides, a base table `u` and a view
`v`. -/
def hidingSession : Session ℕ where
  catalog :=
    { databases := fun database => database = "db"
      objects := fun name =>
        if name = ("db", "t") then some (.table 1)
        else if name = ("db", "u") then some (.table 2)
        else if name = ("db", "v") then some (.view 3)
        else none }
  temporary := fun name => if name = ("db", "t") then some 4 else none

def queryHeader : EventHeader := ⟨7, "QueryEvent", 1, 200⟩

/-- Two tables swapped through a third name, qualified and not. -/
def swapTables : TableStmt :=
  .rename [⟨⟨"", "t"⟩, ⟨"db", "w"⟩⟩, ⟨⟨"db", "u"⟩, ⟨"", "t"⟩⟩, ⟨⟨"", "w"⟩, ⟨"", "u"⟩⟩]

def dropTemporaryTable : TableStmt := .drop ⟨true, [⟨"", "t"⟩], false, .temporaryLocal⟩

def dropView : TableStmt := .drop ⟨false, [⟨"", "v"⟩], true, .temporaryNone⟩

theorem keepsMeaning_swapTables :
    ∃ result, swapTables.execute "db" hidingSession = some result ∧
      result.catalog.objects ("db", "t") = some (.table 2) ∧
      KeepsMeaning (fun _ => false) ⟨"db", "RENAME TABLE t TO db.w, db.u TO t, w TO u"⟩ queryHeader
        swapTables hidingSession result := by
  obtain ⟨result, hsource⟩ : ∃ result, swapTables.execute "db" hidingSession = some result :=
    Option.isSome_iff_exists.mp (by decide)
  have hobject : (swapTables.execute "db" hidingSession).bind
      (fun result => result.catalog.objects ("db", "t")) = some (.table 2) := by decide
  rw [hsource] at hobject
  refine ⟨result, hsource, hobject, ?_⟩
  refine (keepsMeaning_iff _ _ _ _ _ _ hsource).mpr ⟨?_, trivial⟩
  decide

/-- Dropping the temporary table destroys the base table it hid, and the dropped view stays. -/
theorem not_keepsMeaning_temporaryAndView :
    (∃ result, dropTemporaryTable.execute "db" hidingSession = some result ∧
      ¬ KeepsMeaning (fun _ => false) ⟨"db", "DROP TEMPORARY TABLE IF EXISTS t"⟩ queryHeader
        dropTemporaryTable hidingSession result) ∧
    ∃ result, dropView.execute "db" hidingSession = some result ∧
      ¬ KeepsMeaning (fun _ => false) ⟨"db", "DROP VIEW v"⟩ queryHeader dropView hidingSession
        result := by
  constructor
  · obtain ⟨result, hsource⟩ : ∃ result, dropTemporaryTable.execute "db" hidingSession =
        some result := Option.isSome_iff_exists.mp (by decide)
    refine ⟨result, hsource, fun h => ?_⟩
    have hkept : hidingSession.catalog.isTable ("db", "t") = false :=
      h.kept hsource ⟨"", "t"⟩ List.mem_cons_self
    exact absurd hkept (by decide)
  · obtain ⟨result, hsource⟩ : ∃ result, dropView.execute "db" hidingSession = some result :=
      Option.isSome_iff_exists.mp (by decide)
    refine ⟨result, hsource, fun h => ?_⟩
    have hkept : hidingSession.catalog.objects ("db", "v") = none :=
      h.kept hsource ⟨"", "v"⟩ List.mem_cons_self
    exact absurd hkept (by decide)

end Kept

end MysqlSync

import MysqlSync.Applier.Query
import MysqlSync.Extract.Basic
import MysqlSync.Lib.SqlLexer

/-!
# The text of the generated statements

A statement is generated as text, and a server reads the text token by token. `Reading` says which
statement a text is read as, by the names in it; each placeholder goes with the column it stands
for. The names are put between backquotes as they are, and the one of a `USE` without any: the text
is read as the statement that was meant exactly when the names are harmless (`Generated.Safe`).
-/

namespace MysqlSync

open Strings SqlLexer BinlogExtract

/-- The database and the table of a name, in a schema context. -/
def TableName.resolve (schemaContext : String) (tab : TableName) : String × String :=
  (databaseOr tab.schema schemaContext, tab.name)

/-! ### The statements a server reads -/

/-- Statements by the names in them. A table goes with its database; a `SET` or a `WHERE` list
names the columns that are set to or compared with a placeholder. -/
inductive Reading where
  | insert (table : String × String) (columns : List String)
  | replace (table : String × String) (columns : List String)
  | delete (table : String × String) (conditions : List String)
  | update (table : String × String) (assignments conditions : List String)
  | rename (oldTable newTable : String × String)
  | drop (table : String × String)
  | use (database : String)
  deriving DecidableEq, Repr

def tablePieces (table : String × String) : List Piece :=
  [.name table.1, .punct '.', .name table.2]

def assignPieces (column : String) : List Piece := [.name column, .punct '=', .placeholder column]

def commaSeparated (parts : List (List Piece)) : List Piece := [Piece.punct ','].intercalate parts

def conditionPieces (conditions : List String) : List Piece :=
  [Piece.keyword "AND"].intercalate (conditions.map assignPieces)

def valuesPieces (columns : List String) : List Piece :=
  [.punct '('] ++ commaSeparated (columns.map fun column => [.name column]) ++
    [.punct ')', .keyword "VALUES", .punct '('] ++
    commaSeparated (columns.map fun column => [.placeholder column]) ++ [.punct ')']

/-- The pieces of a statement in the order of the grammar. -/
def Reading.pieces : Reading → List Piece
  | .insert table columns =>
    [.keyword "INSERT", .keyword "INTO"] ++ tablePieces table ++ valuesPieces columns
  | .replace table columns =>
    [.keyword "REPLACE", .keyword "INTO"] ++ tablePieces table ++ valuesPieces columns
  | .delete table conditions =>
    [.keyword "DELETE", .keyword "FROM"] ++ tablePieces table ++ [.keyword "WHERE"] ++
      conditionPieces conditions
  | .update table assignments conditions =>
    [.keyword "UPDATE"] ++ tablePieces table ++ [.keyword "SET"] ++
      commaSeparated (assignments.map assignPieces) ++ [.keyword "WHERE"] ++
      conditionPieces conditions
  | .rename oldTable newTable =>
    [.keyword "RENAME", .keyword "TABLE"] ++ tablePieces oldTable ++ [.keyword "TO"] ++
      tablePieces newTable
  | .drop table =>
    [.keyword "DROP", .keyword "TABLE", .keyword "IF", .keyword "EXISTS"] ++ tablePieces table
  | .use database => [.keyword "USE", .name database]

/-- The names in a statement, in order. -/
def Reading.names : Reading → List String
  | .insert table columns | .replace table columns => table.1 :: table.2 :: columns
  | .delete table conditions => table.1 :: table.2 :: conditions
  | .update table assignments conditions => table.1 :: table.2 :: (assignments ++ conditions)
  | .rename oldTable newTable => [oldTable.1, oldTable.2, newTable.1, newTable.2]
  | .drop table => [table.1, table.2]
  | .use database => [database]

/-- The tables a statement creates, renames, drops or writes. -/
def Reading.tables : Reading → List (String × String)
  | .insert table _ | .replace table _ | .delete table _ | .update table _ _ | .drop table => [table]
  | .rename oldTable newTable => [oldTable, newTable]
  | .use _ => []

/-- A `SET` or a `WHERE` list is not empty. -/
def Reading.WellFormed : Reading → Prop
  | .delete _ conditions => conditions ≠ []
  | .update _ assignments conditions => assignments ≠ [] ∧ conditions ≠ []
  | _ => True

/-- The server reads the text as the statement. -/
def ReadsText (reserved : String → Bool) (text : String) (reading : Reading) : Prop :=
  ReadsAs reserved text.toList reading.pieces

/-! ### The statements the program generates -/

/-- A call of a function that generates a statement. -/
inductive Generated where
  | insert (databaseName tableName : String) (columns : List MysqlOperationDMLColumn)
  | insertReplace (databaseName tableName : String) (columns : List MysqlOperationDMLColumn)
  | delete (databaseName tableName : String) (columns : List MysqlOperationDMLColumn)
    (primaryKey : List UInt64)
  | update (databaseName tableName : String)
    (afterColumns beforeColumns : List MysqlOperationDMLColumn) (primaryKey : List UInt64)
  | rename (schemaContext : String) (tab : TableToTable)
  | drop (schemaContext : String) (tab : TableName)
  | use (schemaContext : String)
  deriving DecidableEq, Repr

namespace Generated

/-- The text and the parameters of the statement; `none` if a key column is not in the row, and
for the `USE` of an empty schema context, which is not sent. -/
def query : Generated → Option (String × List Value)
  | .insert db tab columns =>
    let q := buildDMLInsertQuery db tab columns
    some (q.sql.text, q.params)
  | .insertReplace db tab columns =>
    let q := buildDMLInsertQueryReplace db tab columns
    some (q.sql.text, q.params)
  | .delete db tab columns primaryKey =>
    (buildDMLDeleteQuery db tab columns primaryKey).map fun q => (q.sql.text, q.params)
  | .update db tab afterColumns beforeColumns primaryKey =>
    (buildDMLUpdateQuery db tab afterColumns beforeColumns primaryKey).map
      fun q => (q.sql.text, q.params)
  | .rename schemaContext tab =>
    some (renameQuery (databaseOr tab.oldTable.schema schemaContext) tab.oldTable.name
      (databaseOr tab.newTable.schema schemaContext) tab.newTable.name, [])
  | .drop schemaContext tab =>
    some (dropQuery (databaseOr tab.schema schemaContext) tab.name, [])
  | .use schemaContext => if schemaContext ≠ "" then some ("USE " ++ schemaContext, []) else none

/-- The statement that is meant, and the columns whose values it is given, in order. -/
def meant : Generated → Option (Reading × List MysqlOperationDMLColumn)
  | .insert db tab columns => some (.insert (db, tab) (columnNames columns), columns)
  | .insertReplace db tab columns => some (.replace (db, tab) (columnNames columns), columns)
  | .delete db tab columns primaryKey =>
    (conditionColumns primaryKey columns).map fun used =>
      (.delete (db, tab) (columnNames used), used)
  | .update db tab afterColumns beforeColumns primaryKey =>
    (conditionColumns primaryKey beforeColumns).map fun used =>
      (.update (db, tab) (columnNames afterColumns) (columnNames used), afterColumns ++ used)
  | .rename schemaContext tab =>
    some (.rename (tab.oldTable.resolve schemaContext) (tab.newTable.resolve schemaContext), [])
  | .drop schemaContext tab => some (.drop (tab.resolve schemaContext), [])
  | .use schemaContext => some (.use schemaContext, [])

/-- The text is read as the statement that is meant and as nothing else, and the parameters are the
values of the columns its placeholders stand for. -/
def Faithful (reserved : String → Bool) (g : Generated) (text : String) (params : List Value) :
    Prop :=
  ∃ reading bound, g.meant = some (reading, bound) ∧ reading.WellFormed ∧
    ReadsAs reserved text.toList reading.pieces ∧
    placeholders reading.pieces = columnNames bound ∧ params = columnValues bound

end Generated

/-! ### What a text determines -/

section Determined

variable {reserved : String → Bool}

def Reading.firstKeyword : Reading → String
  | .insert _ _ => "INSERT"
  | .replace _ _ => "REPLACE"
  | .delete _ _ => "DELETE"
  | .update _ _ _ => "UPDATE"
  | .rename _ _ => "RENAME"
  | .drop _ => "DROP"
  | .use _ => "USE"

lemma Reading.firstKeyword_eq {toks : List Token} {reading reading' : Reading}
    (h : List.Forall₂ (Matches reserved) toks reading.pieces)
    (h' : List.Forall₂ (Matches reserved) toks reading'.pieces) :
    reading'.firstKeyword = reading.firstKeyword := by
  have hpieces (r : Reading) : ∃ more, r.pieces = .keyword r.firstKeyword :: more := by
    cases r <;> exact ⟨_, rfl⟩
  obtain ⟨more, hmore⟩ := hpieces reading
  obtain ⟨more', hmore'⟩ := hpieces reading'
  rw [hmore] at h
  rw [hmore'] at h'
  cases h with
  | cons hfirst _ =>
    cases h' with
    | cons hfirst' _ => exact hfirst'.keyword_eq hfirst

lemma eq_of_forall₂_name {toks : List Token} {n n' : String} {more more' : List Piece}
    (h : List.Forall₂ (Matches reserved) toks (.name n :: more))
    (h' : List.Forall₂ (Matches reserved) toks (.name n' :: more')) : n' = n := by
  cases h with
  | cons hname _ =>
    cases h' with
    | cons hname' _ => exact hname'.name_eq hname

lemma eq_of_tablePieces {toks : List Token} {table table' : String × String}
    {more more' : List Piece}
    (h : List.Forall₂ (Matches reserved) toks (tablePieces table ++ more))
    (h' : List.Forall₂ (Matches reserved) toks (tablePieces table' ++ more')) :
    table' = table :=
  Prod.ext (eq_of_forall₂_name h h')
    (eq_of_forall₂_name (List.forall₂_drop 2 h) (List.forall₂_drop 2 h'))

lemma Reading.tables_eq_of_forall₂ {toks : List Token} {reading reading' : Reading}
    (h : List.Forall₂ (Matches reserved) toks reading.pieces)
    (h' : List.Forall₂ (Matches reserved) toks reading'.pieces) :
    reading'.tables = reading.tables := by
  have hfirst := Reading.firstKeyword_eq h h'
  have hafter (n : ℕ) {table table' : String × String} {more more' : List Piece}
      (hdrop : reading.pieces.drop n = tablePieces table ++ more)
      (hdrop' : reading'.pieces.drop n = tablePieces table' ++ more') : table' = table :=
    eq_of_tablePieces (hdrop ▸ List.forall₂_drop n h) (hdrop' ▸ List.forall₂_drop n h')
  cases reading <;> cases reading' <;> simp only [Reading.firstKeyword] at hfirst <;>
    first
      | exact absurd hfirst (by decide)
      | rfl
      | exact congrArg ([·]) (hafter 1 rfl rfl)
      | exact congrArg ([·]) (hafter 2 rfl rfl)
      | exact congrArg ([·]) (hafter 4 rfl rfl)
      | exact congrArg₂ ([·, ·]) (hafter 2 rfl rfl) (hafter 6 rfl rfl)

/-- However a text is read, the tables are the same. -/
lemma ReadsText.tables_eq {text : String} {reading reading' : Reading}
    (h : ReadsText reserved text reading) (h' : ReadsText reserved text reading') :
    reading'.tables = reading.tables := by
  obtain ⟨toks, hlex, hmatches⟩ := h
  obtain ⟨toks', hlex', hmatches'⟩ := h'
  cases hlex.symm.trans hlex'
  exact Reading.tables_eq_of_forall₂ hmatches hmatches'

end Determined

/-! ### Reading the parts of a text -/

def NoBackquote (name : String) : Prop := '\x60' ∉ name.toList

instance (name : String) : Decidable (NoBackquote name) := inferInstanceAs (Decidable (¬ _))

section Parts

variable {reserved : String → Bool}

lemma part_quoteName (name : String) :
    Part reserved (quoteName name).toList [.name name] (NoBackquote name) := by
  have hpart : Part reserved _ _ (NoBackquote name) := part_quoted name
  simpa [quoteName] using hpart

lemma part_tableText (databaseName tableName : String) :
    Part reserved (tableText databaseName tableName).toList
      (tablePieces (databaseName, tableName)) (NoBackquote databaseName ∧ NoBackquote tableName) := by
  have hdot : Fixed reserved ['.'] [.punct '.'] := fixed_punct fun _ => rfl
  have hdatabase : Part reserved _ _ _ := part_quoteName databaseName
  have hpart := hdatabase.append (hdot.part (part_quoteName tableName)) (by simp)
    (by simp [StartsQuoted])
  simpa [tableText, tablePieces] using hpart

lemma part_assignText (column : String) :
    Part reserved (assignText column).toList (assignPieces column) (NoBackquote column) := by
  have heq : Fixed reserved ['='] [.punct '='] := fixed_punct fun _ => rfl
  have hfixed := fixed_blank.append (heq.append (fixed_blank.append (fixed_placeholder column)))
  have hcolumn : Part reserved _ _ _ := part_quoteName column
  have hpart := hcolumn.fixed hfixed (by simp) (by simp [StartsQuoted])
  simpa [assignText, assignPieces] using hpart

lemma fixed_comma : Fixed reserved ", ".toList [.punct ','] := by
  have hcomma : Fixed reserved [','] [.punct ','] := fixed_punct fun _ => rfl
  simpa using hcomma.append fixed_blank

lemma fixed_of_keywords (ks : List String) {text : String}
    (htext : text.toList = ks.flatMap fun k => k.toList ++ [' '])
    (hks : ∀ k ∈ ks, IsKeyword k) : Fixed reserved text.toList (ks.map .keyword) := by
  rw [htext]
  exact fixed_keywords hks

lemma fixed_between (k : String) {text : String} (htext : text.toList = ' ' :: k.toList ++ [' '])
    (hk : IsKeyword k) : Fixed reserved text.toList [.keyword k] := by
  rw [htext]
  exact fixed_blank.append (fixed_keyword hk)

/-- Names, or columns with their placeholders, with commas between them. -/
lemma part_join {text : String → String} {pieces : String → List Piece}
    (h : ∀ name, Part reserved (text name).toList (pieces name) (NoBackquote name))
    {sep : String} {sepPieces : List Piece} (hsep : Fixed reserved sep.toList sepPieces)
    (hne : sep.toList ≠ []) (hquoted : ¬ StartsQuoted sep.toList) (names : List String) :
    Part reserved (join (names.map text) sep).toList (sepPieces.intercalate (names.map pieces))
      (∀ name ∈ names, NoBackquote name) := by
  have hpart := Part.intercalate h hsep hne hquoted names
  rw [join, String.toList_intercalate, List.map_map]
  exact hpart

lemma part_conditions (conditions : List String) :
    Part reserved (join (conditions.map assignText) " AND ").toList (conditionPieces conditions)
      (∀ name ∈ conditions, NoBackquote name) := by
  have hand : Fixed reserved " AND ".toList [.keyword "AND"] :=
    fixed_between "AND" (by decide) (by decide)
  exact part_join part_assignText hand (by decide) (by decide) conditions

lemma part_assignments (assignments : List String) :
    Part reserved (join (assignments.map assignText) ", ").toList
      (commaSeparated (assignments.map assignPieces)) (∀ name ∈ assignments, NoBackquote name) :=
  part_join part_assignText fixed_comma (by decide) (by decide) assignments

/-- One placeholder for each column. -/
lemma fixed_placeholders (columns : List String) :
    Fixed reserved (join (List.replicate columns.length "?") ", ").toList
      (commaSeparated (columns.map fun column => [.placeholder column])) := by
  have hfixed : Fixed reserved _ _ := Fixed.intercalate fixed_placeholder fixed_comma columns
  simpa [join, String.toList_intercalate, commaSeparated] using hfixed

lemma part_valuesText (columns : List String) :
    Part reserved (valuesText columns columns.length).toList (valuesPieces columns)
      (∀ name ∈ columns, NoBackquote name) := by
  have hopen : Fixed reserved ['('] [.punct '('] := fixed_punct fun _ => rfl
  have hclose : Fixed reserved [')'] [.punct ')'] := fixed_punct fun _ => rfl
  have hvalues : Fixed reserved " VALUES ".toList [.keyword "VALUES"] :=
    fixed_between "VALUES" (by decide) (by decide)
  have hnames : Part reserved _ _ _ :=
    part_join part_quoteName fixed_comma (by decide) (by decide) columns
  have hvaluesList := (hvalues.append (hopen.append (fixed_placeholders columns))).append hclose
  have hrest := hnames.fixed (hclose.append hvaluesList) (by simp) (by simp [StartsQuoted])
  have hpart := (fixed_blank.append hopen).part hrest
  simpa [valuesText, valuesPieces, commaSeparated] using hpart

/-- An `INSERT` or a `REPLACE`, from the table on. -/
lemma readsAs_insertInto {intro : String} {pieces : List Piece} (h : Fixed reserved intro.toList pieces)
    (databaseName tableName : String) (columns : List String) :
    ReadsAs reserved (intro ++ tableText databaseName tableName ++
        valuesText columns columns.length).toList
        (pieces ++ tablePieces (databaseName, tableName) ++ valuesPieces columns) ↔
      ∀ name ∈ databaseName :: tableName :: columns, NoBackquote name := by
  have hpart := (h.part (part_tableText databaseName tableName)).append (part_valuesText columns)
    (by simp [valuesText]) (by simp [valuesText, StartsQuoted])
  rw [String.toList_append, String.toList_append, hpart.readsAs_iff]
  simp [and_assoc]

lemma readsAs_insert (databaseName tableName : String) (columns : List String) :
    ReadsAs reserved (Sql.insert databaseName tableName columns columns.length).text.toList
        (Reading.insert (databaseName, tableName) columns).pieces ↔
      ∀ name ∈ (Reading.insert (databaseName, tableName) columns).names, NoBackquote name :=
  readsAs_insertInto (fixed_of_keywords ["INSERT", "INTO"] (by decide) (by decide)) _ _ _

lemma readsAs_replace (databaseName tableName : String) (columns : List String) :
    ReadsAs reserved (Sql.replace databaseName tableName columns columns.length).text.toList
        (Reading.replace (databaseName, tableName) columns).pieces ↔
      ∀ name ∈ (Reading.replace (databaseName, tableName) columns).names, NoBackquote name :=
  readsAs_insertInto (fixed_of_keywords ["REPLACE", "INTO"] (by decide) (by decide)) _ _ _

/-- A `WHERE` list after the part of a statement before it. -/
lemma part_where {text : List Char} {pieces : List Piece} {ok : Prop}
    (h : Part reserved text pieces ok) (conditions : List String) :
    Part reserved (text ++ (" WHERE ".toList ++ (join (conditions.map assignText) " AND ").toList))
      (pieces ++ ([.keyword "WHERE"] ++ conditionPieces conditions))
      (ok ∧ ∀ name ∈ conditions, NoBackquote name) := by
  have hwhere : Fixed reserved " WHERE ".toList [.keyword "WHERE"] :=
    fixed_between "WHERE" (by decide) (by decide)
  exact h.append (hwhere.part (part_conditions conditions)) (by simp) (by simp [StartsQuoted])

lemma readsAs_delete (databaseName tableName : String) (conditions : List String) :
    ReadsAs reserved (Sql.delete databaseName tableName conditions).text.toList
        (Reading.delete (databaseName, tableName) conditions).pieces ↔
      ∀ name ∈ (Reading.delete (databaseName, tableName) conditions).names, NoBackquote name := by
  have hintro : Fixed reserved "DELETE FROM ".toList [.keyword "DELETE", .keyword "FROM"] :=
    fixed_of_keywords ["DELETE", "FROM"] (by decide) (by decide)
  have hpart := part_where (hintro.part (part_tableText databaseName tableName)) conditions
  simp only [Sql.text, String.toList_append, List.append_assoc, Reading.pieces, Reading.names,
    List.forall_mem_cons] at hpart ⊢
  rw [hpart.readsAs_iff, and_assoc]

lemma readsAs_update (databaseName tableName : String) (assignments conditions : List String) :
    ReadsAs reserved (Sql.update databaseName tableName assignments conditions).text.toList
        (Reading.update (databaseName, tableName) assignments conditions).pieces ↔
      ∀ name ∈ (Reading.update (databaseName, tableName) assignments conditions).names,
        NoBackquote name := by
  have hintro : Fixed reserved "UPDATE ".toList [.keyword "UPDATE"] :=
    fixed_of_keywords ["UPDATE"] (by decide) (by decide)
  have hset : Fixed reserved " SET ".toList [.keyword "SET"] :=
    fixed_between "SET" (by decide) (by decide)
  have hassigned := (hintro.part (part_tableText databaseName tableName)).append
    (hset.part (part_assignments assignments)) (by simp) (by simp [StartsQuoted])
  have hpart := part_where hassigned conditions
  simp only [Sql.text, String.toList_append, List.append_assoc, Reading.pieces, Reading.names,
    List.forall_mem_cons, List.forall_mem_append] at hpart ⊢
  rw [hpart.readsAs_iff, and_assoc, and_assoc]

lemma renameQuery_eq_join (oldDatabase oldTable newDatabase newTable : String) :
    renameQuery oldDatabase oldTable newDatabase newTable = join
      ["RENAME TABLE ", oldDatabase, ".", oldTable, " TO ", newDatabase, ".", newTable, ""] "`" := by
  have hrename : "RENAME TABLE `" = "RENAME TABLE " ++ "`" := by decide
  have hdot : "`.`" = "`" ++ "." ++ "`" := by decide
  have hinto : "` TO `" = "`" ++ " TO " ++ "`" := by decide
  -- the literals are named, or they would be put together again
  unfold renameQuery
  generalize "RENAME TABLE `" = text₁, "`.`" = text₂, "` TO `" = text₃ at *
  subst hrename hdot hinto
  generalize "RENAME TABLE " = rename, "`" = quote, "." = dot, " TO " = into
  simp only [join, String.intercalate_cons_cons, String.intercalate_singleton,
    String.append_assoc, String.append_empty]

lemma dropQuery_eq_join (database table : String) :
    dropQuery database table = join ["DROP TABLE IF EXISTS ", database, ".", table, ""] "`" := by
  have hdrop : "DROP TABLE IF EXISTS `" = "DROP TABLE IF EXISTS " ++ "`" := by decide
  have hdot : "`.`" = "`" ++ "." ++ "`" := by decide
  unfold dropQuery
  generalize "DROP TABLE IF EXISTS `" = text₁, "`.`" = text₂ at *
  subst hdrop hdot
  generalize "DROP TABLE IF EXISTS " = drop, "`" = quote, "." = dot
  simp only [join, String.intercalate_cons_cons, String.intercalate_singleton,
    String.append_assoc, String.append_empty]

lemma renameQuery_eq (oldDatabase oldTable newDatabase newTable : String) :
    renameQuery oldDatabase oldTable newDatabase newTable =
      "RENAME TABLE " ++ tableText oldDatabase oldTable ++ " TO " ++
        tableText newDatabase newTable := by
  rw [renameQuery_eq_join, tableText, tableText, quoteName, quoteName, quoteName, quoteName]
  generalize "RENAME TABLE " = rename, "`" = quote, "." = dot, " TO " = into
  simp only [join, String.intercalate_cons_cons, String.intercalate_singleton,
    String.append_assoc, String.append_empty]

lemma dropQuery_eq (database table : String) :
    dropQuery database table = "DROP TABLE IF EXISTS " ++ tableText database table := by
  rw [dropQuery_eq_join, tableText, quoteName, quoteName]
  generalize "DROP TABLE IF EXISTS " = drop, "`" = quote, "." = dot
  simp only [join, String.intercalate_cons_cons, String.intercalate_singleton,
    String.append_assoc, String.append_empty]

lemma readsAs_rename (oldTable newTable : String × String) :
    ReadsAs reserved (renameQuery oldTable.1 oldTable.2 newTable.1 newTable.2).toList
        (Reading.rename oldTable newTable).pieces ↔
      ∀ name ∈ (Reading.rename oldTable newTable).names, NoBackquote name := by
  have hintro : Fixed reserved "RENAME TABLE ".toList [.keyword "RENAME", .keyword "TABLE"] :=
    fixed_of_keywords ["RENAME", "TABLE"] (by decide) (by decide)
  have hto : Fixed reserved " TO ".toList [.keyword "TO"] :=
    fixed_between "TO" (by decide) (by decide)
  have hpart := (hintro.part (part_tableText oldTable.1 oldTable.2)).append
    (hto.part (part_tableText newTable.1 newTable.2)) (by simp) (by simp [StartsQuoted])
  rw [renameQuery_eq]
  simp only [String.toList_append, List.append_assoc, Reading.pieces, Reading.names,
    List.forall_mem_cons] at hpart ⊢
  rw [hpart.readsAs_iff]
  simp [and_assoc]

lemma readsAs_drop (table : String × String) :
    ReadsAs reserved (dropQuery table.1 table.2).toList (Reading.drop table).pieces ↔
      ∀ name ∈ (Reading.drop table).names, NoBackquote name := by
  have hintro : Fixed reserved "DROP TABLE IF EXISTS ".toList
      [.keyword "DROP", .keyword "TABLE", .keyword "IF", .keyword "EXISTS"] :=
    fixed_of_keywords ["DROP", "TABLE", "IF", "EXISTS"] (by decide) (by decide)
  have hpart := hintro.part (part_tableText table.1 table.2)
  rw [dropQuery_eq, String.toList_append, Reading.pieces, hpart.readsAs_iff]
  simp [Reading.names]

/-- The name of a `USE` stands in the text as it is. -/
lemma readsAs_use {database : String} (hne : database ≠ "") :
    ReadsAs reserved ("USE " ++ database).toList (Reading.use database).pieces ↔
      database.toList.all isWordChar = true ∧ reserved database = false := by
  have hintro : Fixed reserved "USE ".toList [.keyword "USE"] :=
    fixed_of_keywords ["USE"] (by decide) (by decide)
  rw [String.toList_append, ← readsAs_name_iff hne]
  exact hintro database.toList [.name database]

end Parts

/-! ### The columns of a condition and their placeholders -/

lemma mem_of_mapM_eq_some {α β : Type} {f : α → Option β} {xs : List α} {ys : List β}
    (h : xs.mapM f = some ys) (y : β) : y ∈ ys ↔ ∃ x ∈ xs, f x = some y := by
  induction xs generalizing ys with
  | nil =>
    cases h
    simp
  | cons x xs ih =>
    simp only [List.mapM_cons, Option.bind_eq_bind, Option.bind_eq_some_iff] at h
    obtain ⟨first, hfirst, rest, hrest, heq⟩ := h
    cases heq
    simp [hfirst, ih hrest, eq_comm]

/-- A column the condition on a row compares: one of the primary key, or any if there is none. -/
def Compared (primaryKey : List UInt64) (columns : List MysqlOperationDMLColumn)
    (col : MysqlOperationDMLColumn) : Prop :=
  if primaryKey = [] then col ∈ columns else ∃ k ∈ primaryKey, columns[k.toNat]? = some col

lemma mem_conditionColumns_iff {primaryKey : List UInt64}
    {columns used : List MysqlOperationDMLColumn}
    (h : conditionColumns primaryKey columns = some used) (col : MysqlOperationDMLColumn) :
    col ∈ used ↔ Compared primaryKey columns col := by
  unfold conditionColumns at h
  unfold Compared
  cases primaryKey with
  | nil =>
    cases h
    simp
  | cons k primaryKey =>
    rw [if_pos (by simp)] at h
    rw [if_neg (List.cons_ne_nil k primaryKey)]
    exact mem_of_mapM_eq_some h col

lemma conditionColumns_ne_nil_iff {primaryKey : List UInt64}
    {columns used : List MysqlOperationDMLColumn}
    (h : conditionColumns primaryKey columns = some used) : used ≠ [] ↔ columns ≠ [] := by
  cases primaryKey with
  | nil =>
    cases h
    exact Iff.rfl
  | cons k primaryKey =>
    -- the first key column is in the row
    rw [conditionColumns, if_pos (by simp), List.mapM_cons] at h
    simp only [Option.bind_eq_bind, Option.bind_eq_some_iff] at h
    obtain ⟨first, hfirst, rest, -, heq⟩ := h
    cases heq
    have hcolumns : columns ≠ [] := by
      rintro rfl
      simp at hfirst
    exact iff_of_true (List.cons_ne_nil first rest) hcolumns

lemma placeholders_commaSeparated (parts : List (List Piece)) :
    placeholders (commaSeparated parts) = parts.flatMap placeholders :=
  placeholders_intercalate rfl parts

lemma flatMap_placeholders_assign (columns : List String) :
    (columns.map assignPieces).flatMap placeholders = columns := by
  rw [List.flatMap_map]
  exact List.flatMap_singleton' columns

lemma placeholders_valuesPieces (columns : List String) :
    placeholders (valuesPieces columns) = columns := by
  have hnames : (columns.map fun column => [Piece.name column]).flatMap placeholders = [] := by
    rw [List.flatMap_map]
    simp [placeholders]
  have hvalues : (columns.map fun column => [Piece.placeholder column]).flatMap placeholders =
      columns := by
    rw [List.flatMap_map]
    exact List.flatMap_singleton' columns
  simp only [valuesPieces, placeholders_append, placeholders_commaSeparated, hnames, hvalues]
  simp [placeholders]

lemma placeholders_conditionPieces (conditions : List String) :
    placeholders (conditionPieces conditions) = conditions := by
  rw [conditionPieces, placeholders_intercalate rfl, flatMap_placeholders_assign]

lemma placeholders_insert (table : String × String) (columns : List String) :
    placeholders (Reading.insert table columns).pieces = columns := by
  simp only [Reading.pieces, placeholders_append, placeholders_valuesPieces]
  rfl

lemma placeholders_replace (table : String × String) (columns : List String) :
    placeholders (Reading.replace table columns).pieces = columns := by
  simp only [Reading.pieces, placeholders_append, placeholders_valuesPieces]
  rfl

lemma placeholders_delete (table : String × String) (conditions : List String) :
    placeholders (Reading.delete table conditions).pieces = conditions := by
  simp only [Reading.pieces, placeholders_append, placeholders_conditionPieces]
  rfl

/-- The placeholders of the `SET` list come first. -/
lemma placeholders_update (table : String × String) (assignments conditions : List String) :
    placeholders (Reading.update table assignments conditions).pieces =
      assignments ++ conditions := by
  simp only [Reading.pieces, placeholders_append, placeholders_conditionPieces,
    placeholders_commaSeparated, flatMap_placeholders_assign]
  simp [placeholders, tablePieces]

/-! ### Harmless names -/

/-- The columns compared exist and have no backquote in their names. -/
def SafeConditions (primaryKey : List UInt64) (columns : List MysqlOperationDMLColumn) : Prop :=
  columns ≠ [] ∧ ∀ col, Compared primaryKey columns col → NoBackquote col.columnName

lemma safeConditions_iff {primaryKey : List UInt64} {columns used : List MysqlOperationDMLColumn}
    (h : conditionColumns primaryKey columns = some used) :
    columnNames used ≠ [] ∧ (∀ name ∈ columnNames used, NoBackquote name) ↔
      SafeConditions primaryKey columns := by
  have hne : columnNames used ≠ [] ↔ columns ≠ [] := by
    rw [← conditionColumns_ne_nil_iff h, columnNames, Ne, List.map_eq_nil_iff]
  unfold SafeConditions
  rw [hne]
  simp [columnNames, mem_conditionColumns_iff h]

namespace Generated

/-- No name in the text has a backquote in it, and no list that must not be empty is. The name of
a `USE` needs no quotes: it has only the characters of a word and is none the server reserves. -/
def Safe (reserved : String → Bool) : Generated → Prop
  | .insert db tab columns | .insertReplace db tab columns =>
    NoBackquote db ∧ NoBackquote tab ∧ ∀ col ∈ columns, NoBackquote col.columnName
  | .delete db tab columns primaryKey =>
    NoBackquote db ∧ NoBackquote tab ∧ SafeConditions primaryKey columns
  | .update db tab afterColumns beforeColumns primaryKey =>
    NoBackquote db ∧ NoBackquote tab ∧ afterColumns ≠ [] ∧
      (∀ col ∈ afterColumns, NoBackquote col.columnName) ∧ SafeConditions primaryKey beforeColumns
  | .rename schemaContext tab =>
    NoBackquote (tab.oldTable.resolve schemaContext).1 ∧ NoBackquote tab.oldTable.name ∧
      NoBackquote (tab.newTable.resolve schemaContext).1 ∧ NoBackquote tab.newTable.name
  | .drop schemaContext tab =>
    NoBackquote (tab.resolve schemaContext).1 ∧ NoBackquote tab.name
  | .use schemaContext =>
    schemaContext.toList.all isWordChar = true ∧ reserved schemaContext = false

section

variable {reserved : String → Bool} {text : String} {params : List Value}

lemma faithful_iff_of_meant {g : Generated} {reading : Reading}
    {bound : List MysqlOperationDMLColumn} (hmeant : g.meant = some (reading, bound))
    (hplaceholders : placeholders reading.pieces = columnNames bound) :
    g.Faithful reserved text (columnValues bound) ↔
      reading.WellFormed ∧ ReadsAs reserved text.toList reading.pieces := by
  constructor
  · rintro ⟨reading', bound', hmeant', hwell, hreads, -, -⟩
    cases hmeant.symm.trans hmeant'
    exact ⟨hwell, hreads⟩
  · rintro ⟨hwell, hreads⟩
    exact ⟨reading, bound, hmeant, hwell, hreads, hplaceholders, rfl⟩

lemma faithful_insert_iff (db tab : String) (columns : List MysqlOperationDMLColumn) :
    (insert db tab columns).Faithful reserved
        (Sql.insert db tab (columnNames columns) columns.length).text (columnValues columns) ↔
      (insert db tab columns).Safe reserved := by
  have hlength : columns.length = (columnNames columns).length := by simp [columnNames]
  rw [faithful_iff_of_meant rfl (placeholders_insert _ _), hlength, readsAs_insert]
  simp [Reading.WellFormed, Reading.names, Safe, columnNames]

lemma faithful_insertReplace_iff (db tab : String) (columns : List MysqlOperationDMLColumn) :
    (insertReplace db tab columns).Faithful reserved
        (Sql.replace db tab (columnNames columns) columns.length).text (columnValues columns) ↔
      (insertReplace db tab columns).Safe reserved := by
  have hlength : columns.length = (columnNames columns).length := by simp [columnNames]
  rw [faithful_iff_of_meant rfl (placeholders_replace _ _), hlength, readsAs_replace]
  simp [Reading.WellFormed, Reading.names, Safe, columnNames]

lemma faithful_delete_iff {db tab : String} {columns used : List MysqlOperationDMLColumn}
    {primaryKey : List UInt64} (hused : conditionColumns primaryKey columns = some used) :
    (delete db tab columns primaryKey).Faithful reserved
        (Sql.delete db tab (columnNames used)).text (columnValues used) ↔
      (delete db tab columns primaryKey).Safe reserved := by
  have hmeant : (delete db tab columns primaryKey).meant =
      some (.delete (db, tab) (columnNames used), used) := by
    rw [meant, hused]
    rfl
  rw [faithful_iff_of_meant hmeant (placeholders_delete _ _), readsAs_delete, Safe,
    ← safeConditions_iff hused]
  simp only [Reading.WellFormed, Reading.names, List.forall_mem_cons]
  tauto

lemma faithful_update_iff {db tab : String}
    {afterColumns beforeColumns used : List MysqlOperationDMLColumn} {primaryKey : List UInt64}
    (hused : conditionColumns primaryKey beforeColumns = some used) :
    (update db tab afterColumns beforeColumns primaryKey).Faithful reserved
        (Sql.update db tab (columnNames afterColumns) (columnNames used)).text
        (columnValues afterColumns ++ columnValues used) ↔
      (update db tab afterColumns beforeColumns primaryKey).Safe reserved := by
  have hmeant : (update db tab afterColumns beforeColumns primaryKey).meant =
      some (.update (db, tab) (columnNames afterColumns) (columnNames used),
        afterColumns ++ used) := by
    rw [meant, hused]
    rfl
  have hplaceholders : placeholders
      (Reading.update (db, tab) (columnNames afterColumns) (columnNames used)).pieces =
      columnNames (afterColumns ++ used) := by
    rw [placeholders_update, columnNames, columnNames, columnNames, List.map_append]
  have hvalues : columnValues afterColumns ++ columnValues used =
      columnValues (afterColumns ++ used) := by simp [columnValues]
  have hafter : columnNames afterColumns ≠ [] ↔ afterColumns ≠ [] := by simp [columnNames]
  rw [hvalues, faithful_iff_of_meant hmeant hplaceholders, readsAs_update, Safe,
    ← safeConditions_iff hused]
  simp only [Reading.WellFormed, Reading.names, List.forall_mem_cons, List.forall_mem_append,
    hafter]
  have hnames : (∀ name ∈ columnNames afterColumns, NoBackquote name) ↔
      ∀ col ∈ afterColumns, NoBackquote col.columnName := by simp [columnNames]
  rw [hnames]
  tauto

lemma faithful_rename_iff (schemaContext : String) (tab : TableToTable) :
    (rename schemaContext tab).Faithful reserved
        (renameQuery (databaseOr tab.oldTable.schema schemaContext) tab.oldTable.name
          (databaseOr tab.newTable.schema schemaContext) tab.newTable.name) [] ↔
      (rename schemaContext tab).Safe reserved := by
  have hmeant : (rename schemaContext tab).meant = some (.rename
    (tab.oldTable.resolve schemaContext) (tab.newTable.resolve schemaContext), []) := rfl
  have hread : ReadsAs reserved _ _ ↔ _ :=
    readsAs_rename (tab.oldTable.resolve schemaContext) (tab.newTable.resolve schemaContext)
  refine (faithful_iff_of_meant hmeant rfl).trans ?_
  refine (and_iff_right trivial).trans (hread.trans ?_)
  simp [Reading.names, Safe, TableName.resolve]

lemma faithful_drop_iff (schemaContext : String) (tab : TableName) :
    (drop schemaContext tab).Faithful reserved
        (dropQuery (databaseOr tab.schema schemaContext) tab.name) [] ↔
      (drop schemaContext tab).Safe reserved := by
  have hmeant : (drop schemaContext tab).meant =
    some (.drop (tab.resolve schemaContext), []) := rfl
  have hread : ReadsAs reserved _ _ ↔ _ := readsAs_drop (tab.resolve schemaContext)
  refine (faithful_iff_of_meant hmeant rfl).trans ?_
  refine (and_iff_right trivial).trans (hread.trans ?_)
  simp [Reading.names, Safe, TableName.resolve]

lemma faithful_use_iff {schemaContext : String} (hne : schemaContext ≠ "") :
    (use schemaContext).Faithful reserved ("USE " ++ schemaContext) [] ↔
      (use schemaContext).Safe reserved := by
  have hmeant : (use schemaContext).meant = some (.use schemaContext, []) := rfl
  refine (faithful_iff_of_meant hmeant rfl).trans ?_
  exact (and_iff_right trivial).trans (readsAs_use hne)

/-- The text is read as the statement that is meant, with each parameter at the placeholder of its
column, exactly when the names in it are harmless. -/
theorem faithful_iff_safe (reserved : String → Bool) (g : Generated) (text : String)
    (params : List Value) (hquery : g.query = some (text, params)) :
    g.Faithful reserved text params ↔ g.Safe reserved := by
  cases g with
  | insert db tab columns =>
    cases hquery
    exact faithful_insert_iff db tab columns
  | insertReplace db tab columns =>
    cases hquery
    exact faithful_insertReplace_iff db tab columns
  | delete db tab columns primaryKey =>
    simp only [query, buildDMLDeleteQuery, generateConditionAndValues, Option.map_map,
      Option.map_eq_some_iff] at hquery
    obtain ⟨used, hused, heq⟩ := hquery
    cases heq
    exact faithful_delete_iff hused
  | update db tab afterColumns beforeColumns primaryKey =>
    simp only [query, buildDMLUpdateQuery, generateConditionAndValues, Option.map_map,
      Option.map_eq_some_iff] at hquery
    obtain ⟨used, hused, heq⟩ := hquery
    cases heq
    exact faithful_update_iff hused
  | rename schemaContext tab =>
    cases hquery
    exact faithful_rename_iff schemaContext tab
  | drop schemaContext tab =>
    cases hquery
    exact faithful_drop_iff schemaContext tab
  | use schemaContext =>
    rw [query] at hquery
    split_ifs at hquery with hne
    cases hquery
    exact faithful_use_iff hne

/-- Blanks, dots, hyphens, quotes and question marks in quoted names are harmless. -/
theorem faithful_deleteOddNames :
    (delete "my-db" "a ? 'b" [⟨"x.y", 3, .int32 1, false⟩] [0]).Faithful (fun _ => false)
      "DELETE FROM `my-db`.`a ? 'b` WHERE `x.y` = ?" [.int32 1] := by
  have hquery : (delete "my-db" "a ? 'b" [⟨"x.y", 3, .int32 1, false⟩] [0]).query =
      some ("DELETE FROM `my-db`.`a ? 'b` WHERE `x.y` = ?", [.int32 1]) := by decide
  refine (faithful_iff_safe _ _ _ _ hquery).mpr ⟨by decide, by decide, by decide, ?_⟩
  rintro col ⟨k, hk, hcol⟩
  rw [List.mem_singleton.mp hk] at hcol
  cases hcol
  decide

/-- A backquote in a table's name ends the name in the text, and the hyphen in a schema context
ends the name of the `USE`. -/
theorem not_faithful_backquoteAndHyphen :
    ((insert "db" "a`b" [⟨"x", 3, .int32 1, false⟩]).query =
        some ("INSERT INTO `db`.`a`b` (`x`) VALUES (?)", [.int32 1]) ∧
      ¬ (insert "db" "a`b" [⟨"x", 3, .int32 1, false⟩]).Faithful (fun _ => false)
        "INSERT INTO `db`.`a`b` (`x`) VALUES (?)" [.int32 1]) ∧
    (use "my-db").query = some ("USE my-db", []) ∧
      ¬ (use "my-db").Faithful (fun _ => false) "USE my-db" [] := by
  have htext : "INSERT INTO `db`.`a`b` (`x`) VALUES (?)" =
      (Sql.insert "db" "a`b" ["x"] 1).text := by decide
  refine ⟨⟨by decide, ?_⟩, by decide, ?_⟩
  · rw [htext]
    intro hfaithful
    have hsafe := (faithful_insert_iff "db" "a`b" [⟨"x", 3, .int32 1, false⟩]).mp hfaithful
    exact absurd hsafe.2.1 (by decide)
  · intro hfaithful
    have hsafe := (faithful_use_iff (by decide)).mp hfaithful
    exact absurd hsafe.1 (by decide)

end

end Generated

end MysqlSync

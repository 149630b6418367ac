import MysqlSync.Lib.GenKill
import MysqlSync.Rows.Replay
import MysqlSync.Applier.Turn

/-!
# Replaying in replace mode

In replace mode an insertion and an update both become a `REPLACE` of the new row, and a deletion
is a `DELETE` by key. Such a statement writes one row and deletes rows by a condition that looks at
nothing but the row, so every sequence of them is a `GenKill` transformation of the database:
executing it again changes nothing. But an update that moves a row to another key is not what its
`REPLACE` does: the row under the old key stays (`update_eq_replace_iff`).
-/

namespace MysqlSync

open MysqlApplier

/-- Execute the statement the applier builds for a row change: nothing, if the change is
suppressed, and no result if the applier cannot build the statement. -/
def Database.perform (conf : Settings) (db : Database) (op : MysqlOperation) : Option Database :=
  match dmlQuery conf op with
  | .error _ => none
  | .ok none => some db
  | .ok (some query) => db.exec query

/-- What the applier does with a row change in replace mode. -/
def onDMLReplace (conf : Settings) (env : Env) : MysqlOperation → Action Unit
  | .dmlInsert op => onDMLInsert2 conf env op
  | .dmlDelete op => onDMLDelete conf env op
  | .dmlUpdate op => onDMLUpdate2 conf env op
  | _ => pure ()

/-- The database after what the applier executes for a row change in replace mode, read from its
log. -/
def Database.performReplace (conf : Settings) (db : Database) (op : MysqlOperation) :
    Option Database :=
  afterAction Database.exec db (onDMLReplace conf (fun _ _ => .ok) op)

/-- The statements that replace a row or delete rows. -/
def Sql.isReplay : Sql → Bool
  | .replace _ _ _ _ | .delete _ _ _ => true
  | _ => false

/-! ### What a database holds -/

/-- The row is in the table. -/
def Table.Has (t : Table) (row : List Value) : Prop :=
  ∃ h : row.length = t.schema.width, ⟨row, h⟩ ∈ t.contents

/-- The row is in the table of that name. -/
def Database.Has (db : Database) (a : (String × String) × List Value) : Prop :=
  ∃ t, db.lookup a.1 = some t ∧ t.Has a.2

/-- The database has tables of these schemas. -/
def Database.Shaped (schemas : String × String → Option Schema) (db : Database) : Prop :=
  ∀ name, Database.schema db name = schemas name

section

variable {schemas : String × String → Option Schema} {db db' : Database} {t t' : Table}
  {name : String × String}

lemma Table.eq_of_has (hs : t.schema = t'.schema) (h : ∀ row, t.Has row ↔ t'.Has row) :
    t = t' := by
  obtain ⟨s, c⟩ := t
  obtain ⟨s', c'⟩ := t'
  obtain rfl : s = s' := hs
  have hc : c = c' := by
    ext row
    have hrow := h row.1
    constructor
    · intro hmem
      obtain ⟨_, hmem'⟩ := hrow.mp ⟨row.2, hmem⟩
      exact hmem'
    · intro hmem
      obtain ⟨_, hmem'⟩ := hrow.mpr ⟨row.2, hmem⟩
      exact hmem'
  rw [hc]

/-- A database is determined by its schemas and its rows. -/
lemma Database.eq_of_has (hdb : db.Shaped schemas) (hdb' : db'.Shaped schemas)
    (h : ∀ a, db.Has a ↔ db'.Has a) : db = db' := by
  apply Finmap.ext_lookup
  intro name
  have hschema : (db.lookup name).map Table.schema = (db'.lookup name).map Table.schema :=
    (hdb name).trans (hdb' name).symm
  rcases ht : db.lookup name with _ | t <;> rcases ht' : db'.lookup name with _ | t'
  · rfl
  · simp [ht, ht'] at hschema
  · simp [ht, ht'] at hschema
  · have hs : t.schema = t'.schema := by simpa [ht, ht'] using hschema
    rw [Table.eq_of_has hs fun row => ?_]
    have hrow := h (name, row)
    simpa [Database.Has, ht, ht'] using hrow

/-! ### Statements -/

/-- A change of one table is a change of the database. -/
lemma Database.genKill_modify (name : String × String) {f : Table → Option Table}
    (hf : ∀ s, GenKill (fun t => t.schema = s) Table.Has f) :
    GenKill (Database.Shaped schemas) Database.Has fun db => db.modify name f := by
  have hlookup {db : Database} (hdb : db.Shaped schemas) :
      (db.lookup name).map Table.schema = schemas name := hdb name
  cases hs : schemas name with
  | none =>
    refine .inl fun db hdb => ?_
    have hnone : db.lookup name = none := Option.map_eq_none_iff.mp ((hlookup hdb).trans hs)
    show db.modify name f = none
    rw [Database.modify, hnone]
    rfl
  | some s =>
    have hsome {db : Database} (hdb : db.Shaped schemas) :
        ∃ t, db.lookup name = some t ∧ t.schema = s :=
      Option.map_eq_some_iff.mp ((hlookup hdb).trans hs)
    rcases hf s with hnone | ⟨gen, keep, hgk⟩
    · refine .inl fun db hdb => ?_
      obtain ⟨t, ht, hts⟩ := hsome hdb
      show db.modify name f = none
      rw [Database.modify, ht, Option.bind_some, hnone t hts]
      rfl
    · refine .inr ⟨fun a => a.1 = name ∧ gen a.2, fun a => a.1 = name → keep a.2,
        fun db hdb => ?_⟩
      obtain ⟨t, ht, hts⟩ := hsome hdb
      obtain ⟨t', ht', hts', hmem⟩ := hgk t hts
      refine ⟨db.insert name t', ?_, fun name' => ?_, fun a => ?_⟩
      · show db.modify name f = _
        rw [Database.modify, ht, Option.bind_some, ht']
        rfl
      · rw [Database.schema_insert ht (hts'.trans hts.symm)]
        exact hdb name'
      · obtain ⟨name', row⟩ := a
        by_cases hname : name' = name
        · subst hname
          simp [Database.Has, ht, hmem]
        · simp [Database.Has, Finmap.lookup_insert_of_ne _ hname, hname]

/-- A `REPLACE` writes its row in the place of the row with the same key. -/
lemma genKill_replace (s : Schema) (databaseName tableName : String) (keys : List String)
    (placeholders : ℕ) (params : List Value) :
    GenKill (fun t => t.schema = s) Table.Has
      fun t => (Sql.replace databaseName tableName keys placeholders).execOn params t := by
  by_cases hvalid : s.Names keys ∧ keys.length = placeholders ∧ params.length = placeholders
  swap
  · refine .inl ?_
    rintro t rfl
    exact if_neg hvalid
  · let row := s.inserted (keys.zip params)
    refine .inr ⟨fun r => r = row.1, fun r => ∀ h : r.length = s.width, s.key ⟨r, h⟩ ≠ s.key row, ?_⟩
    rintro t rfl
    obtain ⟨contents, hreplace, hmem⟩ := t.contents.exists_replace row
    refine ⟨⟨t.schema, contents⟩, ?_, rfl, fun r => ?_⟩
    · simp only [Sql.execOn]
      rw [if_pos hvalid, hreplace]
      rfl
    · constructor
      · rintro ⟨hlen, hr⟩
        rcases (hmem _).mp hr with heq | ⟨hr, hkey⟩
        · exact .inl (congrArg Subtype.val heq)
        · exact .inr ⟨⟨hlen, hr⟩, fun _ => hkey⟩
      · rintro (rfl | ⟨⟨hlen, hr⟩, hkey⟩)
        · exact ⟨row.2, (hmem _).mpr (.inl rfl)⟩
        · exact ⟨hlen, (hmem _).mpr (.inr ⟨hr, hkey hlen⟩)⟩

/-- A `DELETE` keeps the rows that do not meet its condition. -/
lemma genKill_delete (s : Schema) (databaseName tableName : String) (conditions : List String)
    (params : List Value) :
    GenKill (fun t => t.schema = s) Table.Has
      fun t => (Sql.delete databaseName tableName conditions).execOn params t := by
  by_cases hvalid : (∀ c ∈ conditions, c ∈ s.columns) ∧ params.length = conditions.length
  swap
  · refine .inl ?_
    rintro t rfl
    exact if_neg hvalid
  · refine .inr ⟨fun _ => False, fun r => ∀ h : r.length = s.width,
      ¬ s.holds (conditions.zip params) ⟨r, h⟩ = true, ?_⟩
    rintro t rfl
    refine ⟨⟨t.schema, t.contents.deleteWhere (t.schema.holds (conditions.zip params))⟩, ?_, rfl,
      fun r => ?_⟩
    · simp only [Sql.execOn]
      rw [if_pos hvalid]
      rfl
    · rw [false_or]
      constructor
      · rintro ⟨hlen, hr⟩
        obtain ⟨hr, hholds⟩ := KeyedTable.mem_deleteWhere.mp hr
        exact ⟨⟨hlen, hr⟩, fun _ => hholds⟩
      · rintro ⟨⟨hlen, hr⟩, hholds⟩
        exact ⟨hlen, KeyedTable.mem_deleteWhere.mpr ⟨hr, hholds hlen⟩⟩

lemma Query.genKill_exec {query : Query} (hsql : query.sql.isReplay = true) :
    GenKill (Database.Shaped schemas) Database.Has fun db => db.exec query := by
  obtain ⟨sql, params⟩ := query
  refine Database.genKill_modify _ fun s => ?_
  cases sql with
  | replace databaseName tableName keys placeholders =>
    exact genKill_replace s databaseName tableName keys placeholders params
  | delete databaseName tableName conditions =>
    exact genKill_delete s databaseName tableName conditions params
  | insert databaseName tableName keys placeholders => simp [Sql.isReplay] at hsql
  | update databaseName tableName setClauses conditions => simp [Sql.isReplay] at hsql

/-- In replace mode the applier builds no other row statements. -/
lemma isReplay_of_dmlQuery {conf : Settings} (hinsert : conf.dmlModeInsert = "replace")
    (hupdate : conf.dmlModeUpdate = "replace") {op : MysqlOperation} {query : Query}
    (h : dmlQuery conf op = .ok (some query)) : query.sql.isReplay = true := by
  cases RowQuery.of_dmlQuery h with
  | insert op columns hpass hmode => exact absurd hinsert hmode
  | insertReplace op columns hpass => rfl
  | delete op columns hpass query hq =>
    obtain ⟨_, -, rfl⟩ := Option.map_eq_some_iff.mp hq
    rfl
  | update op afterColumns beforeColumns hpass hmode query hq => exact absurd hupdate hmode
  | updateReplace op afterColumns hpass => rfl

lemma genKill_perform {conf : Settings} (hinsert : conf.dmlModeInsert = "replace")
    (hupdate : conf.dmlModeUpdate = "replace") (op : MysqlOperation) :
    GenKill (Database.Shaped schemas) Database.Has fun db => db.perform conf op := by
  simp only [Database.perform]
  rcases hq : dmlQuery conf op with e | _ | query
  · exact .inl fun db _ => rfl
  · exact .some_self
  · exact Query.genKill_exec (isReplay_of_dmlQuery hinsert hupdate hq)

lemma genKill_performReplace (conf : Settings) (op : MysqlOperation) :
    GenKill (Database.Shaped schemas) Database.Has fun db => db.performReplace conf op := by
  cases op with
  | dmlInsert op =>
    simp only [Database.performReplace, onDMLReplace, onDMLInsert2, afterAction_executeOnDML]
    exact Query.genKill_exec rfl
  | dmlDelete op =>
    simp only [Database.performReplace, onDMLReplace, onDMLDelete]
    split_ifs
    · exact .some_self
    · cases hq : buildDMLDeleteQuery op.database op.table op.columns op.primaryKey with
      | none => exact .inl fun db _ => rfl
      | some query =>
        simp only [orPanic, afterAction_executeOnDML]
        obtain ⟨_, -, rfl⟩ := Option.map_eq_some_iff.mp hq
        exact Query.genKill_exec rfl
  | dmlUpdate op =>
    simp only [Database.performReplace, onDMLReplace, onDMLUpdate2]
    split_ifs
    · exact .some_self
    · simp only [afterAction_executeOnDML]
      exact Query.genKill_exec rfl
  | _ => exact .some_self

/-- Steps that write rows and delete rows by a condition on the row, taken twice. -/
lemma foldlM_twice_eq_once {step : Database → MysqlOperation → Option Database}
    (hstep : ∀ schemas op, GenKill (Database.Shaped schemas) Database.Has fun db => step db op)
    (db : Database) (ops : List MysqlOperation) :
    (ops.foldlM step db).bind (fun db' => ops.foldlM step db') = ops.foldlM step db := by
  have hgk : GenKill (Database.Shaped (Database.schema db)) Database.Has
      fun db => ops.foldlM step db :=
    GenKill.foldlM fun op _ => hstep _ op
  exact hgk.bind_self (fun _ _ => Database.eq_of_has) fun _ => rfl

end

/-- Replaying converges in replace mode: for every database and every sequence of row changes,
executing the statements of the sequence and then executing them again leaves the database as
executing them once; so for the statements in the log of the handlers, and for those of the row
cases, which filter and repair first. -/
theorem perform_twice_eq_once (conf : Settings) (hinsert : conf.dmlModeInsert = "replace")
    (hupdate : conf.dmlModeUpdate = "replace") (db : Database) (ops : List MysqlOperation) :
    (ops.foldlM (Database.performReplace conf) db).bind
        (fun db' => ops.foldlM (Database.performReplace conf) db') =
      ops.foldlM (Database.performReplace conf) db ∧
    (ops.foldlM (Database.perform conf) db).bind
        (fun db' => ops.foldlM (Database.perform conf) db') =
      ops.foldlM (Database.perform conf) db :=
  ⟨foldlM_twice_eq_once (fun _ op => genKill_performReplace conf op) db ops,
    foldlM_twice_eq_once (fun _ op => genKill_perform hinsert hupdate op) db ops⟩

/-- A destination in replace mode. -/
def Settings.replacing : Settings :=
  { Settings.unrestricted with dmlModeUpdate := "replace", dmlModeInsert := "replace" }

/-- The columns of a row of `pairs`. -/
def pairColumns (id v : Int32) : List MysqlOperationDMLColumn :=
  [⟨"id", 3, .int32 id, false⟩, ⟨"v", 3, .int32 v, false⟩]

/-- A row is inserted, deleted, inserted again and moved to another key. -/
def insertDeleteMove : List MysqlOperation :=
  [.dmlInsert ⟨"db", "t", pairColumns 1 10, [0], 1⟩,
   .dmlDelete ⟨"db", "t", pairColumns 1 10, [0], 1⟩,
   .dmlInsert ⟨"db", "t", pairColumns 1 20, [0], 2⟩,
   .dmlUpdate ⟨"db", "t", pairColumns 2 30, pairColumns 1 20, [0], 3⟩]

theorem perform_twice_insertDeleteMove :
    (∃ db', insertDeleteMove.foldlM (Database.performReplace Settings.replacing)
        (Finmap.singleton ("db", "t") ⟨pairs, ⟨∅, by simp⟩⟩) = some db' ∧
      insertDeleteMove.foldlM (Database.performReplace Settings.replacing) db' = some db') ∧
    ∃ db', insertDeleteMove.foldlM (Database.perform Settings.replacing)
        (Finmap.singleton ("db", "t") ⟨pairs, ⟨∅, by simp⟩⟩) = some db' ∧
      insertDeleteMove.foldlM (Database.perform Settings.replacing) db' = some db' := by
  have hlog : ∃ db', insertDeleteMove.foldlM (Database.performReplace Settings.replacing)
      (Finmap.singleton ("db", "t") ⟨pairs, ⟨∅, by simp⟩⟩) = some db' := ⟨_, rfl⟩
  have honce : ∃ db', insertDeleteMove.foldlM (Database.perform Settings.replacing)
      (Finmap.singleton ("db", "t") ⟨pairs, ⟨∅, by simp⟩⟩) = some db' := ⟨_, rfl⟩
  obtain ⟨db₁, hdb₁⟩ := hlog
  obtain ⟨db₂, hdb₂⟩ := honce
  obtain ⟨hlogged, hbuilt⟩ := perform_twice_eq_once Settings.replacing rfl rfl
    (Finmap.singleton ("db", "t") ⟨pairs, ⟨∅, by simp⟩⟩) insertDeleteMove
  rw [hdb₁, Option.bind_some] at hlogged
  rw [hdb₂, Option.bind_some] at hbuilt
  exact ⟨⟨db₁, hdb₁, hlogged⟩, db₂, hdb₂, hbuilt⟩

/-! ### Replace mode and update mode -/

/-- The table after the row statements that an action of the applier executes in an open
transaction. -/
def Table.afterAction (t : Table) (act : Action Unit) : Option Table :=
  MysqlSync.afterAction (fun t query => query.sql.execOn query.params t) t act

lemma Table.afterAction_executeOnDML (t : Table) (conf : Settings) (query : Query) :
    t.afterAction (MysqlClient.executeOnDML conf (fun _ _ => .ok) query) =
      query.sql.execOn query.params t :=
  MysqlSync.afterAction_executeOnDML _ t conf query

/-- The row images and the key of an update operation are those of the table, the before image is
a row of the table, and the after image keeps its key or takes a fresh one. -/
structure Table.Admits (t : Table) (op : MysqlOperationDMLUpdate)
    (before after : Row t.schema.width) : Prop where
  beforeNames : columnNames op.beforeColumns = t.schema.columns
  beforeValues : columnValues op.beforeColumns = before.1
  afterNames : columnNames op.afterColumns = t.schema.columns
  afterValues : columnValues op.afterColumns = after.1
  primaryKey : op.primaryKey = t.schema.primaryKey
  mem : before ∈ t.contents
  fresh : t.schema.key after = t.schema.key before ∨ t.contents.Fresh (t.schema.key after)

section

variable {t : Table} {op : MysqlOperationDMLUpdate} {before after : Row t.schema.width}
  {conf : Settings}

lemma Table.Admits.primaryKey_length (h : t.Admits op before after) :
    op.primaryKey.length ≠ 0 := by
  rw [h.primaryKey, Ne, List.length_eq_zero_iff]
  exact t.schema.primaryKey_ne_nil

/-- In update mode the after image takes the place of the before image. -/
lemma Table.Admits.afterAction_update (h : t.Admits op before after)
    (hmode : conf.dmlModeUpdate ≠ "replace") :
    ∃ contents, t.afterAction (onDMLUpdate conf (fun _ _ => .ok) op) = some ⟨t.schema, contents⟩ ∧
      ∀ row, row ∈ contents ↔ row = after ∨ row ≠ before ∧ row ∈ t.contents := by
  have hfresh : (t.contents.erase before).Fresh (t.schema.key after) := by
    intro row hrow hkey
    obtain ⟨hne, hmem⟩ := KeyedTable.mem_erase.mp hrow
    rcases h.fresh with hsame | hfresh
    · exact hne (KeyedTable.eq_of_key_eq hmem h.mem (hkey.trans hsame))
    · exact hfresh row hmem hkey
  obtain ⟨contents, hmove, hcontents⟩ := KeyedTable.insert_of_fresh hfresh
  refine ⟨contents, ?_, fun row => by rw [hcontents, KeyedTable.mem_erase]⟩
  have happly : t.apply (.update before.1 after.1) = some ⟨t.schema, contents⟩ := by
    rw [Table.apply, dif_pos ⟨before.2, after.2⟩, if_pos h.mem, KeyedTable.move, hmove]
    rfl
  obtain ⟨query, hquery, -, hexec⟩ := execOn_update op.database op.table h.beforeNames
    h.beforeValues h.afterNames h.afterValues happly
  rw [← h.primaryKey] at hquery
  rw [onDMLUpdate, if_neg hmode, onDMLUpdate1, if_neg h.primaryKey_length, hquery, orPanic,
    Table.afterAction_executeOnDML, hexec]

/-- In replace mode the after image takes the place of the row with its own key. -/
lemma Table.Admits.afterAction_replace (h : t.Admits op before after)
    (hmode : conf.dmlModeUpdate = "replace") :
    ∃ contents, t.afterAction (onDMLUpdate conf (fun _ _ => .ok) op) = some ⟨t.schema, contents⟩ ∧
      ∀ row, row ∈ contents ↔
        row = after ∨ row ∈ t.contents ∧ t.schema.key row ≠ t.schema.key after := by
  obtain ⟨contents, hreplace, hcontents⟩ := t.contents.exists_replace after
  refine ⟨contents, ?_, hcontents⟩
  have hlen : t.schema.columns.length = op.afterColumns.length := by
    rw [← h.afterNames, columnNames, List.length_map]
  rw [onDMLUpdate, if_pos hmode, onDMLUpdate2, if_neg h.primaryKey_length,
    Table.afterAction_executeOnDML, buildDMLInsertQueryReplace, h.afterNames, h.afterValues]
  simp only [Sql.execOn]
  rw [if_pos ⟨t.schema.names_columns, hlen, after.2.trans hlen⟩, Schema.inserted,
    Schema.set_zip after.2, hreplace]
  rfl

end

/-- Replace mode and update mode leave the same table exactly when the update does not move the
row to another key: replace mode leaves the row under the old key where it is. -/
theorem update_eq_replace_iff (t : Table) (op : MysqlOperationDMLUpdate)
    (before after : Row t.schema.width) (h : t.Admits op before after) (conf conf' : Settings)
    (hmode : conf.dmlModeUpdate = "replace") (hmode' : conf'.dmlModeUpdate ≠ "replace") :
    (∃ t', t.afterAction (onDMLUpdate conf (fun _ _ => .ok) op) = some t' ∧
      t.afterAction (onDMLUpdate conf' (fun _ _ => .ok) op) = some t') ↔
      t.schema.key after = t.schema.key before := by
  obtain ⟨contents, hreplace, hcontents⟩ := h.afterAction_replace hmode
  obtain ⟨contents', hupdate, hcontents'⟩ := h.afterAction_update hmode'
  rw [hreplace, hupdate]
  constructor
  · rintro ⟨t', ht', ht''⟩
    have hsame : contents = contents' := by
      have htable := ht'.trans ht''.symm
      simpa using htable
    by_contra hne
    -- the row under the old key is left in one of the tables only
    have hmem : before ∈ contents' := hsame ▸ (hcontents before).mpr (.inr ⟨h.mem, Ne.symm hne⟩)
    rcases (hcontents' before).mp hmem with heq | ⟨hneq, -⟩
    · exact hne (by rw [heq])
    · exact hneq rfl
  · intro hkey
    have hsame : contents = contents' := by
      ext row
      rw [hcontents, hcontents', hkey]
      refine or_congr_right ⟨fun ⟨hrow, hne⟩ => ⟨?_, hrow⟩, fun ⟨hne, hrow⟩ => ⟨hrow, ?_⟩⟩
      · rintro rfl
        exact hne rfl
      · intro heq
        exact hne (KeyedTable.eq_of_key_eq hrow h.mem heq)
    exact ⟨_, rfl, by rw [hsame]⟩

/-- A table of one row. -/
def onePair : Table where
  schema := pairs
  contents := ⟨{⟨[.int32 1, .int32 10], rfl⟩}, by
    intro r hr r' hr' _
    rw [Finset.mem_singleton.mp hr, Finset.mem_singleton.mp hr']⟩

/-- An update of a column that is not in the key. -/
theorem update_eq_replace_sameKey :
    ∃ t', onePair.afterAction (onDMLUpdate Settings.replacing (fun _ _ => .ok)
        ⟨"db", "t", pairColumns 1 20, pairColumns 1 10, [0], 1⟩) = some t' ∧
      onePair.afterAction (onDMLUpdate Settings.unrestricted (fun _ _ => .ok)
        ⟨"db", "t", pairColumns 1 20, pairColumns 1 10, [0], 1⟩) = some t' :=
  (update_eq_replace_iff onePair ⟨"db", "t", pairColumns 1 20, pairColumns 1 10, [0], 1⟩
    ⟨[.int32 1, .int32 10], rfl⟩ ⟨[.int32 1, .int32 20], rfl⟩
    ⟨rfl, rfl, rfl, rfl, rfl, by decide, .inl (by decide)⟩ Settings.replacing
    Settings.unrestricted rfl (by decide)).mpr (by decide)

/-- The row with the key 1 moves to the key 2: in replace mode both rows are there afterwards. -/
theorem update_ne_replace_movedKey :
    onePair.Admits ⟨"db", "t", pairColumns 2 10, pairColumns 1 10, [0], 1⟩
      ⟨[.int32 1, .int32 10], rfl⟩ ⟨[.int32 2, .int32 10], rfl⟩ ∧
    onePair.afterAction (onDMLUpdate Settings.replacing (fun _ _ => .ok)
        ⟨"db", "t", pairColumns 2 10, pairColumns 1 10, [0], 1⟩) ≠
      onePair.afterAction (onDMLUpdate Settings.unrestricted (fun _ _ => .ok)
        ⟨"db", "t", pairColumns 2 10, pairColumns 1 10, [0], 1⟩) := by
  have hadmits : onePair.Admits ⟨"db", "t", pairColumns 2 10, pairColumns 1 10, [0], 1⟩
      ⟨[.int32 1, .int32 10], rfl⟩ ⟨[.int32 2, .int32 10], rfl⟩ :=
    ⟨rfl, rfl, rfl, rfl, rfl, by decide, .inr (by decide)⟩
  refine ⟨hadmits, fun heq => ?_⟩
  obtain ⟨contents, hreplace, hcontents⟩ := hadmits.afterAction_replace
    (rfl : Settings.replacing.dmlModeUpdate = "replace")
  obtain ⟨contents', hupdate, hcontents'⟩ := hadmits.afterAction_update
    (by decide : Settings.unrestricted.dmlModeUpdate ≠ "replace")
  rw [hreplace, hupdate] at heq
  have hsame : contents = contents' := by simpa using heq
  have hmem := (hcontents ⟨[.int32 1, .int32 10], rfl⟩).mpr (.inr ⟨by decide, by decide⟩)
  rw [hsame, hcontents'] at hmem
  exact absurd hmem (by decide)

end MysqlSync

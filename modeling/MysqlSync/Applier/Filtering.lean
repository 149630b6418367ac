import MysqlSync.Applier.Tracking

/-!
# Filtering of table statements and row changes

A row change is decided by one call of the filter, on its table. A table statement is decided by
two, on its table and on its schema context with the empty table name. The second call looks up
the name `ctx.` in the table lists and, when the statement was qualified and there is no context,
the empty name in the database lists.
-/

namespace MysqlSync

open MysqlApplier

section

variable (conf : Settings) (env : Env) (ckpt : Checkpoint) (as : List MysqlOperation)
  (op : MysqlOperation)

/-- The run gets past `op` after the operations `as`, with no group being skipped. -/
def Consumes : Prop :=
  ∃ ma ma', run conf env as (newMysqlApplier ckpt) = (.ok (), ma) ∧ ma.gtidSkip = false ∧
    run conf env (as ++ [op]) (newMysqlApplier ckpt) = (.ok (), ma')

/-- The destination has executed a statement for `op`, which comes after the operations `as`. -/
def Executes : Prop :=
  ∃ st, (as.length, st) ∈
    (run conf env (as ++ [op]) (newMysqlApplier ckpt)).2.world.executed.map Entry.key

end

section

variable {conf : Settings} {env : Env} {ckpt : Checkpoint} {as : List MysqlOperation}
  {op : MysqlOperation}

lemma Consumes.built (h : Consumes conf env ckpt as op) :
    ∃ st, MysqlApplier.statement conf op = .ok st := by
  obtain ⟨ma, ma', hrun, hskip, hrun'⟩ := h
  have hpre : as <+: as ++ [op] := List.prefix_append as [op]
  refine (tracks_run (List.prefix_refl _) hrun').built as.length op (by simp) (by simp) ?_
  rw [(tracks_run hpre hrun).skip, hskip]

/-- An operation that is consumed is executed exactly when it stands for a statement. -/
lemma Consumes.executes_iff (h : Consumes conf env ckpt as op) :
    Executes conf env ckpt as op ↔ ∃ st, MysqlApplier.statement conf op = .ok (some st) := by
  obtain ⟨ma, ma', hrun, hskip, hrun'⟩ := h
  have hpre : as <+: as ++ [op] := List.prefix_append as [op]
  have hplain : (plain conf ckpt.gtidSetsMap ((as ++ [op]).take as.length)).skip = false := by
    rw [(tracks_run hpre hrun).skip, hskip]
  have happlied : ma'.world.executed.map Entry.key =
      (plain conf ckpt.gtidSetsMap (as ++ [op])).applied := by
    have hfollows := (tracks_run (List.prefix_refl _) hrun').follows.applied
    rwa [List.take_length] at hfollows
  have hget : (as ++ [op])[as.length]? = some op := by simp
  rw [Executes, hrun']
  refine exists_congr fun st => ?_
  rw [happlied, mem_plain_applied]
  constructor
  · rintro ⟨op', hop', -, hst⟩
    cases hget.symm.trans hop'
    exact hst
  · intro hst
    exact ⟨op, hget, hplain, hst⟩

end

/-! ### The statements of table statements and row changes -/

/-- The table of a row change. -/
def MysqlOperation.rowTable : MysqlOperation → Option (String × String)
  | .dmlInsert op => some (op.database, op.table)
  | .dmlDelete op => some (op.database, op.table)
  | .dmlUpdate op => some (op.database, op.table)
  | _ => none

/-- The row changes that the missing-primary-key rule leaves alone. -/
def MysqlOperation.hasKey : MysqlOperation → Bool
  | .dmlDelete op => op.primaryKey.length ≠ 0
  | .dmlUpdate op => op.primaryKey.length ≠ 0
  | _ => true

section

variable {conf : Settings} {op : MysqlOperation} {db tab : String}

lemma exists_statement_ddlTable (op : MysqlOperationDDLTable) :
    (∃ st, MysqlApplier.statement conf (.ddlTable op) = .ok (some st)) ↔
      conf.replicate.filter op.schemaContext "" = true ∧
        conf.replicate.filter op.database op.table = true := by
  cases hctx : conf.replicate.filter op.schemaContext "" with
  | false =>
    have hnone : MysqlApplier.statement conf (.ddlTable op) = .ok none :=
      statement_of_isNonDML conf rfl (by simp [nonDMLQuery, replicateNotExecute, hctx])
    simp [hnone]
  | true =>
    cases htab : conf.replicate.filter op.database op.table with
    | false =>
      have hnone : MysqlApplier.statement conf (.ddlTable op) = .ok none :=
        statement_of_isNonDML conf rfl (by simp [nonDMLQuery, replicateNotExecute, htab])
      simp [hnone]
    | true =>
      have hquery : nonDMLQuery conf (.ddlTable op) = some (op.schemaContext, op.query) := by
        simp [nonDMLQuery, replicateNotExecute, hctx, htab]
      rw [statement_of_nonDMLQuery conf hquery]
      simp

lemma dmlQuery_of_filter_eq_false (htab : op.rowTable = some (db, tab))
    (h : conf.replicate.filter db tab = false) : dmlQuery conf op = .ok none := by
  cases op <;> simp_all [MysqlOperation.rowTable, dmlQuery, replicateNotExecute]

lemma dmlQuery_ne_none (htab : op.rowTable = some (db, tab)) (hkey : op.hasKey = true)
    (h : conf.replicate.filter db tab = true) : dmlQuery conf op ≠ .ok none := by
  cases op with
  | dmlInsert op =>
    obtain ⟨rfl, rfl⟩ := Prod.mk.inj (Option.some.inj htab)
    simp only [dmlQuery, replicateNotExecute, h]
    cases gobUint8NilRepair op.columns <;> simp
  | dmlDelete op =>
    obtain ⟨rfl, rfl⟩ := Prod.mk.inj (Option.some.inj htab)
    have hlen : op.primaryKey.length ≠ 0 := by simpa [MysqlOperation.hasKey] using hkey
    simp only [dmlQuery, replicateNotExecute, h, hlen, ↓reduceIte]
    cases gobUint8NilRepair op.columns with
    | none => simp
    | some columns =>
      cases hquery : buildDMLDeleteQuery op.database op.table columns op.primaryKey <;>
        simp [hquery]
  | dmlUpdate op =>
    obtain ⟨rfl, rfl⟩ := Prod.mk.inj (Option.some.inj htab)
    have hlen : op.primaryKey.length ≠ 0 := by simpa [MysqlOperation.hasKey] using hkey
    simp only [dmlQuery, replicateNotExecute, h, hlen, ↓reduceIte]
    cases gobUint8NilRepair op.afterColumns with
    | none => simp
    | some afterColumns =>
      cases gobUint8NilRepair op.beforeColumns with
      | none => simp
      | some beforeColumns =>
        cases hquery : buildDMLUpdateQuery op.database op.table afterColumns beforeColumns
          op.primaryKey <;> by_cases hmode : conf.dmlModeUpdate = "replace" <;>
            simp [hquery, hmode]
  | _ => simp [MysqlOperation.rowTable] at htab

/-- A row change with a key that can be built is decided by the filter on its table. -/
lemma exists_statement_of_rowTable (htab : op.rowTable = some (db, tab)) (hkey : op.hasKey = true)
    (hst : ∃ st, MysqlApplier.statement conf op = .ok st) :
    (∃ st, MysqlApplier.statement conf op = .ok (some st)) ↔
      conf.replicate.filter db tab = true := by
  have hop : op.isDML = true := by
    cases op <;> simp_all [MysqlOperation.rowTable, MysqlOperation.isDML]
  rw [statement_of_isDML conf hop] at hst ⊢
  cases hfilter : conf.replicate.filter db tab with
  | false => simp [dmlQuery_of_filter_eq_false htab hfilter]
  | true =>
    have hne := dmlQuery_ne_none htab hkey hfilter
    rcases hquery : dmlQuery conf op with e | _ | query
    · simp [hquery] at hst
    · exact absurd hquery hne
    · simp

end

/-! ### When the two agree -/

/-- The empty table name of a schema context passes the table lists and, without a context, there
is no list of databases to be on. -/
def Replicate.ContextPasses (rf : Replicate) (schemaContext : String) : Prop :=
  contains (schemaContext ++ ".") rf.ignoreTabs = false ∧
  (rf.doTabs = [] ∨ contains (schemaContext ++ ".") rf.doTabs = true) ∧
  (schemaContext = "" → rf.doDBs = [])

lemma filter_context_iff {config : DestinationReplicateConfig} {db tab schemaContext : String}
    (hctx : schemaContext = db ∨ schemaContext = "")
    (h : (newReplicateFilter config).filter db tab = true) :
    (newReplicateFilter config).filter schemaContext "" = true ↔
      (newReplicateFilter config).ContextPasses schemaContext := by
  rw [Replicate.filter_eq_true_iff] at h ⊢
  obtain ⟨-, hignore, hdo, -⟩ := h
  have hempty : contains "" (newReplicateFilter config).ignoreDBs = false := by
    have hclean := contains_empty_splitAndClean config.ignoreDB
    rw [contains] at hclean
    simp only [newReplicateFilter, contains, List.any_append, hclean, Bool.false_or]
    decide
  have hemptyDo : contains "" (newReplicateFilter config).doDBs = false :=
    contains_empty_splitAndClean config.doDB
  have hname : schemaContext ++ "." ++ "" = schemaContext ++ "." := String.append_empty
  rw [hname, Replicate.ContextPasses]
  constructor
  · rintro ⟨htabs, -, hdbs, hdoTabs⟩
    refine ⟨htabs, hdoTabs, ?_⟩
    rintro rfl
    rcases hdbs with hnil | hmem
    · exact hnil
    · exact absurd (hemptyDo.symm.trans hmem) (by simp)
  · rintro ⟨htabs, hdoTabs, hdbs⟩
    rcases hctx with rfl | rfl
    · exact ⟨htabs, hignore, hdo, hdoTabs⟩
    · exact ⟨htabs, hempty, .inl (hdbs rfl), hdoTabs⟩

/-- A table statement and a row change on the same table are treated alike exactly when the table
is filtered out or the schema context passes with the empty table name. -/
theorem ddlTable_executes_iff_dml_executes {config : DestinationReplicateConfig} {conf : Settings}
    (hconf : conf.replicate = newReplicateFilter config) {ddl : MysqlOperationDDLTable}
    (hctx : ddl.schemaContext = ddl.database ∨ ddl.schemaContext = "") {dml : MysqlOperation}
    (htab : dml.rowTable = some (ddl.database, ddl.table)) (hkey : dml.hasKey = true)
    {env env' : Env} {ckpt ckpt' : Checkpoint} {as bs : List MysqlOperation}
    (hddl : Consumes conf env ckpt as (.ddlTable ddl)) (hdml : Consumes conf env' ckpt' bs dml) :
    (Executes conf env ckpt as (.ddlTable ddl) ↔ Executes conf env' ckpt' bs dml) ↔
      ((newReplicateFilter config).filter ddl.database ddl.table = false ∨
        (newReplicateFilter config).ContextPasses ddl.schemaContext) := by
  rw [hddl.executes_iff, hdml.executes_iff, exists_statement_ddlTable,
    exists_statement_of_rowTable htab hkey hdml.built, hconf]
  cases hfilter : (newReplicateFilter config).filter ddl.database ddl.table with
  | false => simp
  | true =>
    rw [← filter_context_iff hctx hfilter]
    simp

/-- A destination with the given replicate configuration, and nothing else set. -/
def Settings.replicating (config : DestinationReplicateConfig) : Settings :=
  { Settings.unrestricted with replicate := newReplicateFilter config }

/-- A change of the definition of `db.t` made with `db` as the current database. -/
def alterT : MysqlOperationDDLTable := ⟨"db", "db", "t", "ALTER TABLE t ADD c INT", 7⟩

/-- A row inserted into `db.t`. -/
def insertT : MysqlOperation := .dmlInsert ⟨"db", "t", [⟨"id", 3, .int32 1, false⟩], [0], 7⟩

theorem ddlTable_executes_iff_dml_executes_do_db :
    Executes (Settings.replicating ⟨"db", "", "", ""⟩) (fun _ _ => .ok) ⟨∅, "", 0⟩
        [.gtid ⟨1, 1, 7, "u", 1⟩] (.ddlTable alterT) ↔
      Executes (Settings.replicating ⟨"db", "", "", ""⟩) (fun _ _ => .ok) ⟨∅, "", 0⟩
        [.gtid ⟨1, 1, 7, "u", 1⟩, .begin ⟨1, 7⟩] insertT := by
  have hconf : (Settings.replicating ⟨"db", "", "", ""⟩).replicate =
      newReplicateFilter ⟨"db", "", "", ""⟩ := rfl
  refine (ddlTable_executes_iff_dml_executes hconf (.inl rfl) rfl rfl
    ⟨_, _, rfl, rfl, rfl⟩ ⟨_, _, rfl, rfl, rfl⟩).mpr (.inr ?_)
  refine ⟨?_, .inl ?_, ?_⟩
  · decide
  · decide
  · decide

/-- A destination that replicates only `db.t` inserts the row and does not change the definition:
the context is looked up as `db.` in the list of tables. -/
theorem ddlTable_not_executes_do_table :
    ¬ (Executes (Settings.replicating ⟨"", "", "db.t", ""⟩) (fun _ _ => .ok) ⟨∅, "", 0⟩
        [.gtid ⟨1, 1, 7, "u", 1⟩] (.ddlTable alterT) ↔
      Executes (Settings.replicating ⟨"", "", "db.t", ""⟩) (fun _ _ => .ok) ⟨∅, "", 0⟩
        [.gtid ⟨1, 1, 7, "u", 1⟩, .begin ⟨1, 7⟩] insertT) := by
  intro hiff
  have hdml : Executes (Settings.replicating ⟨"", "", "db.t", ""⟩) (fun _ _ => .ok) ⟨∅, "", 0⟩
      [.gtid ⟨1, 1, 7, "u", 1⟩, .begin ⟨1, 7⟩] insertT :=
    (Consumes.executes_iff ⟨_, _, rfl, rfl, rfl⟩).mpr ⟨_, rfl⟩
  obtain ⟨st, hst⟩ := (Consumes.executes_iff ⟨_, _, rfl, rfl, rfl⟩).mp (hiff.mpr hdml)
  have hnone : MysqlApplier.statement (Settings.replicating ⟨"", "", "db.t", ""⟩)
      (.ddlTable alterT) = .ok none := rfl
  simp [hnone] at hst

end MysqlSync

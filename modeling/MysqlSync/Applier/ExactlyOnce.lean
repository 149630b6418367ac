import MysqlSync.Applier.Tracking

/-!
# Exactly-once, in order, atomically

As long as the database calls succeed or fail with errors on the skip list, the destination holds
at every point of a run exactly the statements of the plain run, in stream order: those committed
followed by those executed in the open transaction. A group of row changes is never cut by a
commit.
-/

namespace MysqlSync

open MysqlApplier

/-- Every database call succeeds or fails with an error on the skip list. -/
def Env.Tolerates (conf : Settings) (env : Env) : Prop :=
  ∀ log c, c.onDatabase = true → (env log c).Tolerated conf

section

variable {conf : Settings} {env : Env} {m : GtidSetsMap} {opers : List MysqlOperation} {k : ℕ}
  {ma ma₁ : MysqlApplier} {op : MysqlOperation} {e : Stop}

lemma Env.Tolerates.of_gives (h : env.Tolerates conf) {c : Call} {r : Reply}
    (hc : c.onDatabase = true) (hgives : env.Gives c r) : r.Tolerated conf := by
  obtain ⟨log, rfl⟩ := hgives
  exact h log c hc

/-! ### The turn that stops -/

lemma Between.synced_of_merged_error (h : Between conf m opers k ma)
    (hm : Merged env ma (.error e, ma₁)) : Throughout (Synced conf m opers) ma₁.log := by
  cases hm with
  | missing hp htx result =>
    obtain ⟨-, rfl⟩ := Prod.mk.inj result
    exact h.synced
  | refused hp htx r hr henv result =>
    obtain ⟨-, rfl⟩ := Prod.mk.inj result
    refine throughout_concat.mpr ⟨h.synced, ?_⟩
    rw [World.replay_append, List.foldl_cons, World.after_commit_of_ne _ hr]
    exact h.synced.last
  | idle hp result => simp at result
  | flushed hp htx r₁ r₂ result => simp at result

lemma Between.synced_of_settled_error {force : Bool} (h : Between conf m opers k ma)
    (hset : Settled env force ma (.error e, ma₁)) : Throughout (Synced conf m opers) ma₁.log := by
  cases hset with
  | merged hs hforce hm => exact h.synced_of_merged_error hm
  | idle hs result => simp at result
  | checkpointed hs r₁ r₂ result => simp at result

lemma Between.synced_of_decided_error {o : MysqlOperationGTID} (h : Between conf m opers k ma)
    (hd : Decided env o ma (.error e, ma₁)) : Throughout (Synced conf m opers) ma₁.log := by
  cases hd with
  | miss last hlast hlt hgap result =>
    obtain ⟨-, rfl⟩ := Prod.mk.inj result
    exact h.synced
  | stopped hc e ma₁ hm result =>
    obtain ⟨-, rfl⟩ := Prod.mk.inj result
    have hb : Between conf m opers k { ma with gtidSkip := false } := { h with }
    exact hb.synced_of_merged_error hm
  | skip hcov result => simp at result
  | accept hc ma₁ hm result => simp at result

lemma Between.synced_of_began_error (h : Between conf m opers k ma)
    (hb : MysqlClient.Began conf env ma (.error e, ma₁)) :
    Throughout (Synced conf m opers) ma₁.log := by
  cases hb with
  | already htx result =>
    obtain ⟨-, rfl⟩ := Prod.mk.inj result
    exact h.synced
  | refused htx r hr henv result =>
    obtain ⟨-, rfl⟩ := Prod.mk.inj result
    refine throughout_concat.mpr ⟨h.synced, ?_⟩
    rw [World.replay_append, List.foldl_cons, World.after_begin_of_ne _ hr]
    exact h.synced.last
  | session htx l param r hr henv hl result =>
    obtain ⟨-, rfl⟩ := Prod.mk.inj result
    exact h.synced_begin htx hl
  | ok htx result => simp at result

/-- A statement with a transaction of its own that stops the applier: nothing was executed, or
the statement is left in the open transaction by a commit that failed. -/
lemma Between.synced_of_executedNonDML_error {schemaContext query : String}
    (h : Between conf m opers k ma) (henv : env.Tolerates conf) (hk : opers[k]? = some op)
    (hskip : (plain conf m (opers.take k)).skip = false)
    (hst : statement conf op = .ok (some (.nonDML query)))
    (hx : MysqlClient.ExecutedNonDML conf env schemaContext query ma (.error e, ma₁)) :
    Throughout (Synced conf m opers) ma₁.log := by
  cases hx with
  | began e ma' hb result =>
    obtain ⟨-, rfl⟩ := Prod.mk.inj result
    exact h.synced_of_began_error hb
  | use htx r hr hgives e r' result =>
    obtain ⟨-, rfl⟩ := Prod.mk.inj result
    have hses := MysqlClient.allSession_sessionEvents conf.sessionParams
    have hopen := h.synced_begin htx hses
    show Throughout _ (ma.log ++ (Event.call .begin .ok :: _ ++ _))
    rw [← List.append_assoc]
    refine throughout_append.mpr ⟨hopen, ?_⟩
    rw [World.replay_append, MysqlClient.foldl_begin hses, Trace.always_cons, World.after_use,
      Trace.always_cons, World.after_rollback, Trace.always_nil]
    have hsynced : ∀ tx, tx = none ∨ tx = some [] →
        Synced conf m opers { ma.world with tx := tx } := by
      rintro tx (rfl | rfl) <;> exact ⟨k, .inr h.received.symm, h.follows_nil htx⟩
    refine ⟨hsynced _ (.inr rfl), hsynced _ (.inr rfl), hsynced _ ?_⟩
    split_ifs
    · exact .inl rfl
    · exact .inr rfl
  | failed htx r hr hgives e r' result => exact absurd (henv.of_gives rfl hgives) hr
  | commit htx r hr r' hr' hgives result =>
    obtain ⟨-, rfl⟩ := Prod.mk.inj result
    obtain ⟨-, hsynced⟩ := h.exec schemaContext hk hskip hst hr htx
    show Throughout _ (ma.log ++ _)
    rw [List.append_cons, ← List.append_assoc]
    refine throughout_concat.mpr ⟨hsynced, ?_⟩
    rw [World.replay_append, List.foldl_cons, World.after_commit_of_ne _ hr']
    exact hsynced.last
  | ok htx r hr result => simp at result

lemma Tracks.synced_of_dispatched_error (h : Tracks conf m opers k ma)
    (henv : env.Tolerates conf) (hk : opers[k]? = some op)
    (hnot : op.isGTID = false → ma.gtidSkip = false)
    (hd : Dispatched conf env op (takes op ma) (.error e, ma₁)) :
    Throughout (Synced conf m opers) ma₁.log := by
  cases hd with
  | refused _ _ result | dmlStop _ _ _ _ result | dmlMissing _ _ _ _ _ result =>
    obtain ⟨-, rfl⟩ := Prod.mk.inj result
    exact h.synced_receive op
  | heartbeat o hop hs x₁ hset result =>
    have hx₁ := thenState_eq_error result
    subst hx₁
    exact (h.between_stamped hs).synced_of_settled_error hset
  | gtidSettle o hop hs force e ma₁ hset result =>
    obtain ⟨-, rfl⟩ := Prod.mk.inj result
    exact (h.between_stamped hs).synced_of_settled_error hset
  | gtid o hop hs force ma₁ hset x₂ h₂ result =>
    have hx₂ := thenState_eq_error result
    subst hx₂
    exact ((h.between_stamped hs).settled hset).synced_of_decided_error h₂
  | nonDMLMerge hop hs e ma₁ hm result =>
    obtain ⟨-, rfl⟩ := Prod.mk.inj result
    exact (h.between_nonDML hop hs).synced_of_merged_error hm
  | nonDMLExec hop hs schemaContext query hq ma₁ hm x₂ h₂ result =>
    have hx₂ := thenState_eq_error result
    subst hx₂
    have hskip := h.skip.trans (hnot (isGTID_of_isNonDML hop))
    exact ((h.between_nonDML hop hs).merged hm).synced_of_executedNonDML_error henv hk hskip
      (statement_of_nonDMLQuery conf hq) h₂
  | begin o hop hs hp x₁ hb result =>
    have hx₁ := thenState_eq_error result
    subst hx₁
    exact (h.between_begin hs).synced_of_began_error hb
  | dmlExec hop hs query hq htx x₁ hexec result =>
    have hx₁ := thenState_eq_error result
    subst hx₁
    cases hexec with
    | failed r hr hgives e r' result => exact absurd (henv.of_gives rfl hgives) hr
    | ok r hr result => simp at result
  | _ => simp_all

/-- The turn that stops the applier leaves the destination in step as well. -/
lemma Tracks.synced_of_start_error (h : Tracks conf m opers k ma) (henv : env.Tolerates conf)
    (hk : opers[k]? = some op) (hstart : MysqlApplier.start conf env op ma = (.error e, ma₁)) :
    Throughout (Synced conf m opers) ma₁.log := by
  have hturn := Turn.of_start conf env op ma
  rw [hstart] at hturn
  cases hturn with
  | skipped hskip hop result => simp at result
  | taken hnot x₁ hd result =>
    rw [finish_eq_error result] at hd
    exact h.synced_of_dispatched_error henv hk hnot hd

lemma synced_run (henv : env.Tolerates conf) (ckpt : Checkpoint) (opers : List MysqlOperation) :
    Throughout (Synced conf ckpt.gtidSetsMap opers)
      (run conf env opers (newMysqlApplier ckpt)).2.log := by
  refine Prog.forEach_along (P := fun _ (ma : MysqlApplier) =>
    Throughout (Synced conf ckpt.gtidSetsMap opers) ma.log) opers ?_ ?_ ?_
  · exact (tracks_newMysqlApplier ckpt).synced
  · intro as op ma has hrun _
    have htracks := tracks_run ((List.prefix_append as [op]).trans has) hrun
    have hk := Prog.getElem?_of_concat_isPrefix has
    rcases hstart : MysqlApplier.start conf env op ma with ⟨e | ⟨⟩, ma₁⟩
    · exact htracks.synced_of_start_error henv hk hstart
    · exact (htracks.start hk hstart).synced
  · intro as op e ma _ ih
    exact ih

end

/-! ### Atomicity -/

/-- Two row changes of one group: no GTID, `BEGIN` or `XID` stands between them. -/
structure SameGroup (opers : List MysqlOperation) (i j : ℕ) : Prop where
  left : ∃ op, opers[i]? = some op ∧ op.isDML = true
  right : ∃ op, opers[j]? = some op ∧ op.isDML = true
  between : ∀ l op, min i j < l → l < max i j → opers[l]? = some op → op.isDelimiter = false

/-- When a row change of a group is committed, every statement of the group is. -/
def GroupsWhole (conf : Settings) (opers : List MysqlOperation) (w : World) : Prop :=
  ∀ i j, SameGroup opers i j → (∃ e ∈ w.committed, e.pos = i) →
    ∀ op st, opers[j]? = some op → statement conf op = .ok (some st) →
      ∃ e ∈ w.committed, e.pos = j ∧ e.statement = st

section

variable {conf : Settings} {m : GtidSetsMap} {opers : List MysqlOperation} {i j k : ℕ}

lemma SameGroup.not_delimited (h : SameGroup opers i j) :
    ¬ Delimited opers i j ∧ ¬ Delimited opers j i := by
  constructor
  · rintro ⟨l, op, hil, hlj, hop, hd⟩
    have hf := h.between l op ((min_le_left i j).trans_lt hil) (hlj.trans_le (le_max_right i j)) hop
    exact Bool.false_ne_true (hf.symm.trans hd)
  · rintro ⟨l, op, hjl, hli, hop, hd⟩
    have hf := h.between l op ((min_le_right i j).trans_lt hjl) (hli.trans_le (le_max_left i j)) hop
    exact Bool.false_ne_true (hf.symm.trans hd)

lemma isDelimiter_of_isDML {op : MysqlOperation} (h : op.isDML = true) :
    op.isDelimiter = false := by
  cases op <;> simp_all [MysqlOperation.isDML, MysqlOperation.isDelimiter]

lemma isDelimiter_of_isGTID {op : MysqlOperation} (h : op.isDelimiter = false) :
    op.isGTID = false := by
  cases op <;> simp_all [MysqlOperation.isGTID, MysqlOperation.isDelimiter]

/-- The row changes of a group are all skipped or none is. -/
lemma SameGroup.skip_eq (h : SameGroup opers i j) :
    (plain conf m (opers.take i)).skip = (plain conf m (opers.take j)).skip := by
  have hgtid : ∀ l op, min i j ≤ l → l < max i j → opers[l]? = some op → op.isGTID = false := by
    intro l op hl hl' hop
    refine isDelimiter_of_isGTID ?_
    rcases hl.lt_or_eq with hl | rfl
    · exact h.between l op hl hl' hop
    · obtain ⟨op', hop', hdml⟩ : ∃ op, opers[min i j]? = some op ∧ op.isDML = true := by
        rcases min_choice i j with hmin | hmin <;> rw [hmin]
        · exact h.left
        · exact h.right
      obtain rfl : op = op' := Option.some.inj (hop.symm.trans hop')
      exact isDelimiter_of_isDML hdml
  rcases le_total i j with hij | hij
  · rw [min_eq_left hij, max_eq_right hij] at hgtid
    exact (plain_skip_eq hij hgtid).symm
  · rw [min_eq_right hij, max_eq_left hij] at hgtid
    exact plain_skip_eq hij hgtid

/-- A statement of a row change is a row statement. -/
lemma isDML_of_statement {op : MysqlOperation} (hop : op.isDML = true) {st : Statement}
    (h : statement conf op = .ok (some st)) : st.isDML = true := by
  rw [statement_of_isDML conf hop] at h
  rcases hq : dmlQuery conf op with e | _ | query
  · simp [hq] at h
  · simp [hq] at h
  · obtain rfl : Statement.dml query = st := by simpa [hq] using h
    rfl

lemma Follows.groupsWhole {w : World} (h : Follows conf m opers k w.committed w.opened) :
    GroupsWhole conf opers w := by
  rintro i j hgroup ⟨e, he, rfl⟩ op st hop hst
  obtain ⟨opᵢ, hopᵢ, hdml⟩ := hgroup.left
  -- the operation behind the committed statement was taken from the stream and not skipped
  have hmem : e.key ∈ (plain conf m (opers.take k)).applied :=
    h.applied ▸ List.mem_map_of_mem (List.mem_append_left _ he)
  obtain ⟨op', hop', hskip, hst'⟩ := mem_plain_applied.mp hmem
  have hposk : e.pos < k := h.pos_lt (List.mem_append_left _ he)
  rw [List.getElem?_take_of_lt hposk] at hop'
  obtain rfl : opᵢ = op' := Option.some.inj (hopᵢ.symm.trans hop')
  have hedml : e.statement.isDML = true := isDML_of_statement hdml hst'
  -- so the other operation of the group was consumed too
  have hjk : j < k := by
    obtain ⟨l, opₗ, hil, hlk, hopₗ, hd⟩ := h.closed e he hedml
    by_contra hkj
    refine hgroup.not_delimited.1 ⟨l, opₗ, hil, ?_, hopₗ, hd⟩
    omega
  have hskipj : (plain conf m (opers.take j)).skip = false := by
    rw [← hgroup.skip_eq, ← hskip, List.take_take, min_eq_left hposk.le]
  have hmemj : (j, st) ∈ (plain conf m (opers.take k)).applied := by
    refine mem_plain_applied.mpr ⟨op, ?_, ?_, hst⟩
    · rw [List.getElem?_take_of_lt hjk]
      exact hop
    · rw [List.take_take, min_eq_left hjk.le]
      exact hskipj
  rw [← h.applied] at hmemj
  obtain ⟨e', he', hkey⟩ := List.mem_map.mp hmemj
  obtain ⟨rfl, rfl⟩ := Prod.mk.inj hkey
  rcases List.mem_append.mp he' with he' | he'
  · exact ⟨e', he', rfl, rfl⟩
  · exact absurd (h.separated e he hedml e' he') hgroup.not_delimited.1

end

/-- Exactly-once apply. However the run is cut, the statements committed followed by those
executed in the open transaction are the statements of the plain run over the operations processed
so far, and no group of row changes is cut by a commit. When no operation was refused, that is all
of them, and the run skipped the groups the plain run skips. -/
theorem run_exactly_once (conf : Settings) (env : Env) (henv : env.Tolerates conf)
    (ckpt : Checkpoint) (opers : List MysqlOperation) :
    (∀ p, p <+: (run conf env opers (newMysqlApplier ckpt)).2.log →
      (∃ k, (k = (World.replay p).received ∨ k + 1 = (World.replay p).received) ∧
        ((World.replay p).committed ++ (World.replay p).opened).map Entry.key =
          (plain conf ckpt.gtidSetsMap (opers.take k)).applied) ∧
      GroupsWhole conf opers (World.replay p)) ∧
    (∀ ma, run conf env opers (newMysqlApplier ckpt) = (.ok (), ma) →
      (ma.world.committed ++ ma.world.opened).map Entry.key =
        (plain conf ckpt.gtidSetsMap opers).applied ∧
      (plain conf ckpt.gtidSetsMap opers).skip = ma.gtidSkip ∧
      (plain conf ckpt.gtidSetsMap opers).gtidSetsMap = ma.ckpt.gtidSetsMap) := by
  constructor
  · intro p hp
    obtain ⟨k, hk, hfollows⟩ :=
      throughout_iff_forall_isPrefix.mp (synced_run henv ckpt opers) p hp
    exact ⟨⟨k, hk, hfollows.applied⟩, hfollows.groupsWhole⟩
  · intro ma hrun
    have h := tracks_run (List.prefix_refl opers) hrun
    have happlied := h.follows.applied
    have hskip := h.skip
    have hmap := h.gtidSetsMap
    rw [List.take_length] at happlied hskip hmap
    exact ⟨happlied, hskip, hmap⟩

/-- Two source transactions merged into one destination transaction, on a connection whose calls
all succeed. -/
def mergedPair : List MysqlOperation :=
  [.gtid ⟨1, 1, 10, "u", 1⟩, .begin ⟨1, 10⟩,
   .dmlInsert ⟨"db", "t", [⟨"id", 3, .int32 1, false⟩], [0], 10⟩, .xid ⟨10⟩,
   .gtid ⟨1, 1, 11, "u", 2⟩, .begin ⟨1, 11⟩,
   .dmlDelete ⟨"db", "t", [⟨"id", 3, .int32 1, false⟩], [0], 11⟩, .xid ⟨11⟩, .heartbeat ⟨12⟩]

theorem run_exactly_once_mergedPair :
    ((run Settings.unrestricted (fun _ _ => .ok) mergedPair
      (newMysqlApplier ⟨∅, "", 0⟩)).2.world.committed.map Entry.pos = [2, 6]) ∧
    GroupsWhole Settings.unrestricted mergedPair
      (run Settings.unrestricted (fun _ _ => .ok) mergedPair (newMysqlApplier ⟨∅, "", 0⟩)).2.world := by
  refine ⟨by decide, ?_⟩
  exact ((run_exactly_once Settings.unrestricted (fun _ _ => .ok) (fun _ _ _ => .inl rfl)
    ⟨∅, "", 0⟩ mergedPair).1 _ (List.prefix_refl _)).2

end MysqlSync

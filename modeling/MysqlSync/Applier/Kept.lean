import MysqlSync.Applier.ExactlyOnce
import MysqlSync.Applier.Abandon

/-!
# What is committed, whatever fails

Once a statement fails with an error that is not on the skip list, the transaction it was executed
in is rolled back and the destination is no longer in step with the plain run. What it has committed
still is: the statements of a part of the stream, with no group of row changes cut (`kept_run`).
Nothing is assumed of the environment.
-/

namespace MysqlSync

open MysqlApplier

section

variable {conf : Settings} {env : Env} {m : GtidSetsMap} {opers : List MysqlOperation} {k : ℕ}
  {ma ma₁ : MysqlApplier} {op : MysqlOperation} {e : Stop} {log l : List Event}

variable (conf m opers) in
/-- What is committed and what else was executed are the statements of the first operations. -/
def Kept (w : World) : Prop := ∃ k opened, Follows conf m opers k w.committed opened

lemma Synced.kept {w : World} (h : Synced conf m opers w) : Kept conf m opers w := by
  obtain ⟨k, -, hfollows⟩ := h
  exact ⟨k, w.opened, hfollows⟩

lemma throughout_kept (h : Throughout (Synced conf m opers) log) :
    Throughout (Kept conf m opers) log :=
  throughout_iff_forall_isPrefix.mpr fun p hp =>
    (throughout_iff_forall_isPrefix.mp h p hp).kept

/-- Only a successful commit changes what is committed. -/
lemma kept_append (h : Throughout (Kept conf m opers) log) (hl : .call .commit .ok ∉ l) :
    Throughout (Kept conf m opers) (log ++ l) := by
  refine throughout_iff_forall_isPrefix.mpr fun p hp => ?_
  rcases List.prefix_or_prefix_of_prefix hp (List.prefix_append log l) with hp' | ⟨l', rfl⟩
  · exact throughout_iff_forall_isPrefix.mp h p hp'
  · have hl' : .call .commit .ok ∉ l' := fun hmem =>
      hl (((List.prefix_append_right_inj log).mp hp).subset hmem)
    rw [Kept, committed_append log hl']
    exact h.last

/-- A statement with a transaction of its own that stops the applier commits nothing. -/
lemma notMem_of_executedNonDML_error {schemaContext query : String}
    (hx : MysqlClient.ExecutedNonDML conf env schemaContext query ma (.error e, ma₁)) :
    ∃ l, ma₁.log = ma.log ++ l ∧ .call .commit .ok ∉ l := by
  have hsetup {l : List Event} (hl : ∀ e ∈ l, e.isSetup = true) : .call .commit .ok ∉ l :=
    fun hmem => (Event.isSetup_frame conf (hl _ hmem)).2.2.2 rfl
  cases hx with
  | began e ma' hb result =>
    obtain ⟨-, rfl⟩ := Prod.mk.inj result
    obtain ⟨l, hl, hl'⟩ := exists_appends_of_began hb
    exact ⟨l, hl.log, hsetup hl'⟩
  | use htx r hr hgives e r' result =>
    obtain ⟨-, rfl⟩ := Prod.mk.inj result
    refine ⟨_, rfl, hsetup (List.forall_mem_append.mpr
      ⟨?_, by simp [Event.isSetup, Statement.isDML]⟩)⟩
    exact isSetup_begin .ok (MysqlClient.allSession_sessionEvents _)
  | failed htx r hr hgives e r' result =>
    obtain ⟨-, rfl⟩ := Prod.mk.inj result
    exact ⟨_, rfl, hsetup (List.forall_mem_append.mpr
      ⟨isSetup_openEvents schemaContext, by simp [Event.isSetup, Statement.isDML]⟩)⟩
  | commit htx r hr r' hr' hgives result =>
    obtain ⟨-, rfl⟩ := Prod.mk.inj result
    refine ⟨_, rfl, fun hmem => ?_⟩
    rcases List.mem_append.mp hmem with hmem | hmem
    · exact hsetup (isSetup_openEvents schemaContext) hmem
    · simp [hr'.symm] at hmem
  | ok htx r hr result => cases result

/-- The turn that stops the applier, by what it was doing. -/
lemma Tracks.kept_of_dispatched_error (h : Tracks conf m opers k ma)
    (hd : Dispatched conf env op (takes op ma) (.error e, ma₁)) :
    Throughout (Kept conf m opers) ma₁.log := by
  cases hd with
  | refused _ _ result | dmlStop _ _ _ _ result | dmlMissing _ _ _ _ _ result =>
    obtain ⟨-, rfl⟩ := Prod.mk.inj result
    exact throughout_kept (h.synced_receive op)
  | heartbeat o hop hs x₁ hset result =>
    have hx₁ := thenState_eq_error result
    subst hx₁
    exact throughout_kept ((h.between_stamped hs).synced_of_settled_error hset)
  | gtidSettle o hop hs force e ma₁ hset result =>
    obtain ⟨-, rfl⟩ := Prod.mk.inj result
    exact throughout_kept ((h.between_stamped hs).synced_of_settled_error hset)
  | gtid o hop hs force ma₁ hset x₂ h₂ result =>
    have hx₂ := thenState_eq_error result
    subst hx₂
    exact throughout_kept (((h.between_stamped hs).settled hset).synced_of_decided_error h₂)
  | nonDMLMerge hop hs e ma₁ hm result =>
    obtain ⟨-, rfl⟩ := Prod.mk.inj result
    exact throughout_kept ((h.between_nonDML hop hs).synced_of_merged_error hm)
  | nonDMLExec hop hs schemaContext query hq ma₁ hm x₂ h₂ result =>
    have hx₂ := thenState_eq_error result
    subst hx₂
    obtain ⟨l, hlog, hl⟩ := notMem_of_executedNonDML_error h₂
    rw [hlog]
    exact kept_append (throughout_kept ((h.between_nonDML hop hs).merged hm).synced) hl
  | begin o hop hs hp x₁ hb result =>
    have hx₁ := thenState_eq_error result
    subst hx₁
    exact throughout_kept ((h.between_begin hs).synced_of_began_error hb)
  | dmlExec hop hs query hq htx x₁ hexec result =>
    have hx₁ := thenState_eq_error result
    subst hx₁
    cases hexec with
    | failed r hr hgives e r' result =>
      obtain ⟨-, rfl⟩ := Prod.mk.inj result
      exact kept_append (throughout_kept (h.synced_receive op)) (by simp)
    | ok r hr result => cases result
  | _ => simp_all

lemma Tracks.kept_of_start_error (h : Tracks conf m opers k ma)
    (hstart : MysqlApplier.start conf env op ma = (.error e, ma₁)) :
    Throughout (Kept conf m opers) ma₁.log := by
  have hturn := Turn.of_start conf env op ma
  rw [hstart] at hturn
  cases hturn with
  | skipped hskip hop result => cases result
  | taken hnot x₁ hd result =>
    rw [finish_eq_error result] at hd
    exact h.kept_of_dispatched_error hd

end

/-- However the environment replies and however the run is cut, what is committed are the
statements of whole groups of a part of the stream. -/
theorem kept_run (conf : Settings) (env : Env) (ckpt : Checkpoint)
    (opers : List MysqlOperation) :
    Throughout (Kept conf ckpt.gtidSetsMap opers)
      (run conf env opers (newMysqlApplier ckpt)).2.log := by
  refine Prog.forEach_along (P := fun _ (ma : MysqlApplier) =>
    Throughout (Kept conf ckpt.gtidSetsMap opers) ma.log) opers ?_ ?_ ?_
  · exact throughout_kept (tracks_newMysqlApplier ckpt).synced
  · intro as op ma has hrun _
    have htracks := tracks_run ((List.prefix_append as [op]).trans has) hrun
    have hk := Prog.getElem?_of_concat_isPrefix has
    rcases hstart : MysqlApplier.start conf env op ma with ⟨e | ⟨⟩, ma₁⟩
    · exact htracks.kept_of_start_error hstart
    · exact throughout_kept (htracks.start hk hstart).synced
  · intro as op e ma _ ih
    exact ih

end MysqlSync

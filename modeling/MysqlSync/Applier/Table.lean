import MysqlSync.Applier.Tracking

/-!
# The state table

The state checks of the type switch as a table of their own: `allowed` says in which states a
case goes on, `target` to which state it leads. `Stated` is the account of one turn in these
terms: only the table makes the applier stop with a `last state is ...` error. With a
destination whose calls all succeed, only a statement that cannot be built or a missing GTID can
stop it besides (`Tracks.start_returns`). `Regular` is what the table accepts of a whole stream.
-/

namespace MysqlSync

open MysqlApplier

/-- The state the case of an operation leads to. -/
def MysqlApplier.target (op : MysqlOperation) (s : State) : State :=
  match op with
  | .binLogPos _ => s
  | .heartbeat _ => .null
  | .gtid _ => .gtid
  | .ddlDatabase _ | .ddlTable _ => .ddl
  | .dclUser _ => .dcl
  | .begin _ => .begin
  | .dmlInsert _ | .dmlDelete _ | .dmlUpdate _ => .dml
  | .xid _ => .xid

/-- The `last state is ...` errors. -/
def Stop.isLastState : Stop → Bool
  | .lastState _ _ => true
  | _ => false

section

variable {conf : Settings} {env : Env} {op : MysqlOperation} {ma ma₁ : MysqlApplier} {e : Stop}
  {x : Ending}

lemma isLastState_of_isClient (h : e.isClient = true) : e.isLastState = false := by
  cases e <;> simp_all [Stop.isClient, Stop.isLastState]

lemma target_of_isNonDML (h : op.isNonDML = true) (s : State) : target op s = nonDMLState op := by
  cases op <;> simp_all [MysqlOperation.isNonDML, target, nonDMLState]

lemma target_of_isDML (h : op.isDML = true) (s : State) : target op s = .dml := by
  cases op <;> simp_all [MysqlOperation.isDML, target]

/-- The end of a case that was allowed. -/
inductive Went (op : MysqlOperation) (ma : MysqlApplier) (x : Ending) : Prop where
  | ok (hok : x.1 = .ok ()) (hstate : x.2.state = target op ma.state)
      (hskip : op.isGTID = false → x.2.gtidSkip = ma.gtidSkip)
  | stopped (e : Stop) (herr : x.1 = .error e) (hne : e.isLastState = false)

lemma Went.thenState {s : State} (hs : target op ma.state = s) (h : Keeps ma x) :
    Went op ma (thenState x s) := by
  rcases x with ⟨e | ⟨⟩, ma₁⟩
  · exact .stopped e rfl (isLastState_of_isClient (h.error e rfl))
  · exact .ok rfl hs.symm fun _ => h.gtidSkip

lemma went_of_decided {o : MysqlOperationGTID} (h : Decided env o ma₁ x) :
    Went (.gtid o) ma (MysqlApplier.thenState x .gtid) := by
  cases h with
  | skip hcov result =>
    rw [result]
    exact .ok rfl rfl (by simp [MysqlOperation.isGTID])
  | miss last hlast hlt hgap result =>
    rw [result]
    exact .stopped _ rfl rfl
  | accept hcont ma₂ hm result =>
    rw [result]
    exact .ok rfl rfl (by simp [MysqlOperation.isGTID])
  | stopped hcont e ma₂ hm result =>
    rw [result]
    exact .stopped e rfl (isLastState_of_isClient (hm.keeps.error e rfl))

lemma went_of_dispatched (hs : ma.state ∈ allowed op) (h : Dispatched conf env op ma x) :
    Went op ma x := by
  cases h with
  | refused hs' => exact absurd hs hs'
  | binLogPos _ hop result | beginMerged _ hop _ _ result | xid _ hop _ result =>
    subst hop
    rw [result]
    exact .ok rfl rfl fun _ => rfl
  | heartbeat o hop hs x₁ h result =>
    subst hop
    rw [result]
    have hk := h.keeps
    exact Went.thenState rfl ⟨hk.ckpt, hk.state, hk.gtidSkip, hk.error⟩
  | gtidSettle _ _ _ _ e _ h result | nonDMLMerge _ _ e _ h result =>
    rw [result]
    exact .stopped e rfl (isLastState_of_isClient (h.keeps.error e rfl))
  | gtid o hop hs force ma₁ h x₂ h₂ result =>
    subst hop
    rw [result]
    exact went_of_decided h₂
  | nonDML hop hs hq ma₁ h result =>
    rw [result]
    exact .ok rfl (target_of_isNonDML hop _).symm fun _ => h.keeps.gtidSkip
  | nonDMLExec hop hs schemaContext query hq ma₁ h x₂ h₂ result =>
    rw [result]
    exact Went.thenState (target_of_isNonDML hop _) (h.keeps.trans h₂.keeps)
  | begin o hop hs hp x₁ h result =>
    subst hop
    rw [result]
    exact Went.thenState rfl h.keeps
  | dmlStop hop hs e hq result =>
    rw [result]
    rcases dmlQuery_error hq with rfl | rfl
    · exact .stopped _ rfl rfl
    · exact .stopped _ rfl rfl
  | dml hop hs hq result =>
    rw [result]
    exact .ok rfl (target_of_isDML hop _).symm fun _ => rfl
  | dmlMissing hop hs query hq htx result =>
    rw [result]
    exact .stopped _ rfl rfl
  | dmlExec hop hs query hq htx x₁ h result =>
    rw [result]
    exact Went.thenState (target_of_isDML hop _) h.keeps

/-- The account of one turn by the state table. -/
inductive Stated (op : MysqlOperation) (ma : MysqlApplier) (x : Ending) : Prop where
  | skipped (hskip : ma.gtidSkip = true) (hop : op.isGTID = false) (hok : x.1 = .ok ())
      (hskip' : x.2.gtidSkip = true)
  | refused (hskip : ma.gtidSkip = false) (hs : ma.state ∉ allowed op)
      (herr : x.1 = .error (.lastState (caseName op) ma.state))
  | went (hs : ma.gtidSkip = false → ma.state ∈ allowed op)
      (hnot : op.isGTID = false → ma.gtidSkip = false) (hok : x.1 = .ok ())
      (hstate : x.2.state = target op ma.state)
      (hskip : op.isGTID = false → x.2.gtidSkip = false)
  | stopped (hs : ma.gtidSkip = false → ma.state ∈ allowed op) (e : Stop) (herr : x.1 = .error e)
      (hne : e.isLastState = false)

/-- A GTID after a skipped group is always allowed. -/
lemma takes_mem_allowed (hnot : op.isGTID = false → ma.gtidSkip = false)
    (hs : ma.gtidSkip = false → ma.state ∈ allowed op) : (takes op ma).state ∈ allowed op := by
  cases hskip : ma.gtidSkip with
  | false =>
    rw [takes_state hskip]
    exact hs hskip
  | true =>
    cases op with
    | gtid o => simp [takes, emit, hskip, allowed, resting]
    | _ => simp_all [MysqlOperation.isGTID]

lemma target_takes (hnot : op.isGTID = false → ma.gtidSkip = false) :
    target op (takes op ma).state = target op ma.state := by
  cases hskip : ma.gtidSkip with
  | false => rw [takes_state hskip]
  | true =>
    cases op with
    | gtid o => rfl
    | _ => simp_all [MysqlOperation.isGTID]

/-- Only the state table makes the applier stop with a `last state is ...` error. -/
theorem stated_start (conf : Settings) (env : Env) (op : MysqlOperation) (ma : MysqlApplier) :
    Stated op ma (MysqlApplier.start conf env op ma) := by
  cases Turn.of_start conf env op ma with
  | skipped hskip hop result =>
    rw [result]
    exact .skipped hskip hop rfl hskip
  | taken hnot x₁ h result =>
    obtain ⟨-, hskip', hres⟩ := finish_frame op x₁
    rw [result]
    by_cases hs : (takes op ma).state ∈ allowed op
    · have hs' : ma.gtidSkip = false → ma.state ∈ allowed op := by
        intro hskip
        rwa [takes_state hskip] at hs
      cases went_of_dispatched hs h with
      | ok hok hstate hsk =>
        refine .went hs' hnot (hres.trans hok) ?_ fun hop => ?_
        · rw [finish_state, hstate, target_takes hnot]
        · rw [hskip', hsk hop]
          exact hnot hop
      | stopped e herr hne => exact .stopped hs' e (hres.trans herr) hne
    · have hskip : ma.gtidSkip = false := by
        by_contra htrue
        exact hs (takes_mem_allowed hnot fun hfalse => absurd hfalse htrue)
      rw [takes_state hskip] at hs
      refine .refused hskip hs (hres.trans ?_)
      cases h with
      | refused hs' ts result =>
        rw [result, takes_state hskip]
      | binLogPos o hop result =>
        subst hop
        cases hstate : ma.state <;> simp [allowed, hstate] at hs
      | heartbeat o hop hs' | gtidSettle o hop hs' | gtid o hop hs' =>
        subst hop
        rw [takes_state hskip] at hs'
        exact absurd hs' hs
      | beginMerged o hop hs' | begin o hop hs' =>
        subst hop
        rw [takes_state hskip] at hs'
        exact absurd (by simp [allowed, hs']) hs
      | nonDMLMerge hop hs' | nonDML hop hs' | nonDMLExec hop hs' | dmlStop hop hs' | dml hop hs'
      | dmlMissing hop hs' | dmlExec hop hs' | xid o hop hs' =>
        rw [takes_state hskip] at hs'
        exact absurd hs' hs

end

/-! ### A destination whose calls succeed -/

/-- Every database call succeeds. -/
def Env.Succeeds (env : Env) : Prop := ∀ log c, c.onDatabase = true → env log c = .ok

/-- The action returned. -/
def Returned (x : Ending) : Prop := ∃ ma, x = (.ok (), ma)

section

variable {conf : Settings} {env : Env} {op : MysqlOperation} {ma ma₁ : MysqlApplier} {x : Ending}

lemma Env.Succeeds.eq_ok (h : env.Succeeds) {c : Call} {r : Reply} (hc : c.onDatabase = true)
    (hgives : env.Gives c r) : r = .ok := by
  obtain ⟨log, rfl⟩ := hgives
  exact h log c hc

lemma Returned.thenState (h : Returned x) (s : State) : Returned (thenState x s) := by
  obtain ⟨ma, rfl⟩ := h
  exact ⟨_, rfl⟩

lemma returned_of_merged (henv : env.Succeeds) (htx : 1 ≤ ma.pendingCommitCount → ma.tx = true)
    (h : Merged env ma x) : Returned x := by
  cases h with
  | idle h result => exact ⟨_, result⟩
  | flushed h htx r₁ r₂ result => exact ⟨_, result⟩
  | missing h htx' result => exact absurd ((htx h).symm.trans htx') (by simp)
  | refused h htx r hr hgives result => exact absurd (henv.eq_ok rfl hgives) hr

lemma returned_of_settled {force : Bool} (henv : env.Succeeds)
    (htx : 1 ≤ ma.pendingCommitCount → ma.tx = true) (h : Settled env force ma x) :
    Returned x := by
  cases h with
  | idle hs result => exact ⟨_, result⟩
  | checkpointed hs r₁ r₂ result => exact ⟨_, result⟩
  | merged hs hforce h => exact returned_of_merged henv htx h

lemma returned_of_decided {o : MysqlOperationGTID} (henv : env.Succeeds)
    (htx : 1 ≤ ma.pendingCommitCount → ma.tx = true) (hmiss : ¬ Misses ma.ckpt.gtidSetsMap o)
    (h : Decided env o ma x) : Returned x := by
  cases h with
  | skip hcov result => exact ⟨_, result⟩
  | miss last hlast hlt hgap result => exact absurd ⟨last, hlast, hlt, hgap⟩ hmiss
  | accept hcont ma₁ hm result => exact ⟨_, result⟩
  | stopped hcont e ma₁ hm result =>
    obtain ⟨ma₂, heq⟩ : Returned (.error e, ma₁) := by
      refine returned_of_merged henv ?_ hm
      exact htx
    simp at heq

lemma returned_of_began (henv : env.Succeeds) (htx : ma.tx = false)
    (h : MysqlClient.Began conf env ma x) : Returned x := by
  cases h with
  | ok htx result => exact ⟨_, result⟩
  | already htx' result => exact absurd (htx.symm.trans htx') (by simp)
  | refused htx r hr hgives result => exact absurd (henv.eq_ok rfl hgives) hr
  | session htx l param r hr hgives hl result => exact absurd (henv.eq_ok rfl hgives) hr

lemma returned_of_executedData {st : Statement} (henv : env.Succeeds)
    (h : MysqlClient.ExecutedData conf env st ma x) : Returned x := by
  cases h with
  | ok r hr result => exact ⟨_, result⟩
  | failed r hr hgives r'' r' result => exact absurd (.inl (henv.eq_ok rfl hgives)) hr

lemma returned_of_executedNonDML {schemaContext query : String} (henv : env.Succeeds)
    (htx : ma.tx = false) (h : MysqlClient.ExecutedNonDML conf env schemaContext query ma x) :
    Returned x := by
  cases h with
  | ok htx r hr result => exact ⟨_, result⟩
  | began e ma' hb result =>
    obtain ⟨ma₂, heq⟩ := returned_of_began henv htx hb
    simp at heq
  | use htx r hr hgives r'' r' result => exact absurd (henv.eq_ok rfl hgives) hr
  | failed htx r hr hgives r'' r' result => exact absurd (.inl (henv.eq_ok rfl hgives)) hr
  | commit htx r hr r' hr' hgives result => exact absurd (henv.eq_ok rfl hgives) hr'

variable {m : GtidSetsMap} {opers : List MysqlOperation} {k : ℕ}

lemma Between.tx_of_pending (h : Between conf m opers k ma) :
    1 ≤ ma.pendingCommitCount → ma.tx = true :=
  h.tx_iff.mpr

/-- With a destination whose calls succeed, an allowed operation is consumed unless its statement
cannot be built or it is a GTID that leaves a gap. -/
lemma Tracks.dispatched_returns (h : Tracks conf m opers k ma) (henv : env.Succeeds)
    (hs : (takes op ma).state ∈ allowed op) (hnot : op.isGTID = false → ma.gtidSkip = false)
    (hst : ∃ st, statement conf op = .ok st)
    (hmiss : ∀ o, op = .gtid o → ¬ Misses ma.ckpt.gtidSetsMap o)
    (hd : Dispatched conf env op (takes op ma) x) : Returned x := by
  cases hd with
  | refused hs' => exact absurd hs hs'
  | heartbeat o hop hs x₁ hset result =>
    rw [result]
    exact (returned_of_settled henv (h.between_stamped hs).tx_of_pending hset).thenState _
  | gtidSettle o hop hs force e ma₁ hset result =>
    obtain ⟨ma₂, heq⟩ := returned_of_settled henv (h.between_stamped hs).tx_of_pending hset
    simp at heq
  | gtid o hop hs force ma₁ hset x₂ h₂ result =>
    rw [result]
    have hb := (h.between_stamped hs).settled hset
    refine (returned_of_decided henv hb.tx_of_pending ?_ h₂).thenState _
    rw [hset.keeps.ckpt]
    exact hmiss o hop
  | nonDMLMerge hop hs e ma₁ hm result =>
    have hb := h.between_nonDML hop hs
    obtain ⟨ma₂, heq⟩ := returned_of_merged henv hb.tx_of_pending hm
    simp at heq
  | nonDMLExec hop hs schemaContext query hq ma₁ hm x₂ h₂ result =>
    rw [result]
    have hb := (h.between_nonDML hop hs).merged hm
    exact (returned_of_executedNonDML henv (hb.tx_eq_false hm.pending_eq_zero) h₂).thenState _
  | begin o hop hs hp x₁ hbegan result =>
    rw [result]
    have hb := h.between_begin hs
    exact (returned_of_began henv (hb.tx_eq_false hp) hbegan).thenState _
  | dmlStop hop hs e hq result =>
    obtain ⟨st, hst⟩ := hst
    rw [statement_of_isDML conf hop, hq] at hst
    simp at hst
  | dmlMissing hop hs query hq htx result =>
    have hskip := hnot (isGTID_of_isDML hop)
    rw [takes_state hskip] at hs
    have htrue : ma.tx = true := by
      refine h.tx_iff.mpr (.inr ?_)
      cases op <;> simp_all [MysqlOperation.isDML, allowed]
    exact absurd (htrue.symm.trans htx) (by simp)
  | dmlExec hop hs query hq htx x₁ hexec result =>
    rw [result]
    exact (returned_of_executedData henv hexec).thenState _
  | binLogPos _ _ result | nonDML _ _ _ _ _ result | beginMerged _ _ _ _ result
  | dml _ _ _ result | xid _ _ _ result => exact ⟨_, result⟩

theorem Tracks.start_returns (h : Tracks conf m opers k ma) (henv : env.Succeeds)
    (hs : ma.gtidSkip = false → ma.state ∈ allowed op) (hst : ∃ st, statement conf op = .ok st)
    (hmiss : ∀ o, op = .gtid o → ¬ Misses ma.ckpt.gtidSetsMap o) :
    Returned (MysqlApplier.start conf env op ma) := by
  cases Turn.of_start conf env op ma with
  | skipped hskip hop result => exact ⟨_, result⟩
  | taken hnot x₁ hd result =>
    obtain ⟨ma₁, rfl⟩ :=
      h.dispatched_returns henv (takes_mem_allowed hnot hs) hnot hst hmiss hd
    exact ⟨_, result⟩

end

/-! ### Streams the table accepts -/

/-- The table as a partial function. -/
def tableNext (s : State) (op : MysqlOperation) : Option State :=
  if s ∈ allowed op then some (target op s) else none

def tableAfter (s : State) (opers : List MysqlOperation) : Option State :=
  opers.foldlM tableNext s

/-- A stream the table accepts from the beginning. -/
def Regular (opers : List MysqlOperation) : Prop := (tableAfter .null opers).isSome = true

instance (opers : List MysqlOperation) : Decidable (Regular opers) :=
  inferInstanceAs (Decidable (_ = true))

section

variable {conf : Settings} {env : Env} {op : MysqlOperation} {ma : MysqlApplier}
  {as opers : List MysqlOperation} {s : State}

lemma tableAfter_concat (s : State) (as : List MysqlOperation) (op : MysqlOperation) :
    tableAfter s (as ++ [op]) = (tableAfter s as).bind (tableNext · op) := by
  simp [tableAfter, List.foldlM_append]

lemma Regular.of_isPrefix (h : Regular opers) (has : as <+: opers) : Regular as := by
  obtain ⟨rest, rfl⟩ := has
  induction rest using List.reverseRecOn with
  | nil => simpa using h
  | append_singleton rest op ih =>
    refine ih ?_
    rw [← List.append_assoc, Regular, tableAfter_concat] at h
    cases hs : tableAfter .null (as ++ rest) <;> simp_all [Regular]

lemma tableNext_eq_some {s' : State} (h : tableNext s op = some s') :
    s ∈ allowed op ∧ s' = target op s := by
  rw [tableNext] at h
  split_ifs at h with hs
  exact ⟨hs, (Option.some.inj h).symm⟩

/-- The last operation of a regular stream is allowed where the table stands. -/
lemma Regular.concat (h : Regular (as ++ [op])) :
    ∃ s, tableAfter .null as = some s ∧ s ∈ allowed op ∧
      tableAfter .null (as ++ [op]) = some (target op s) := by
  obtain ⟨s', hs'⟩ := Option.isSome_iff_exists.mp h
  have hbind := hs'
  rw [tableAfter_concat] at hbind
  obtain ⟨s, hs, hnext⟩ := Option.bind_eq_some_iff.mp hbind
  obtain ⟨hmem, rfl⟩ := tableNext_eq_some hnext
  exact ⟨s, hs, hmem, hs'⟩

/-- While no group is skipped, the applier is in the state the table says. -/
lemma Regular.state_eq {ckpt : Checkpoint} (h : Regular as)
    (hrun : run conf env as (newMysqlApplier ckpt) = (.ok (), ma)) (hskip : ma.gtidSkip = false) :
    tableAfter .null as = some ma.state := by
  induction as using List.reverseRecOn generalizing ma with
  | nil =>
    obtain ⟨-, rfl⟩ := Prod.mk.inj hrun
    rfl
  | append_singleton as op ih =>
    rcases has : run conf env as (newMysqlApplier ckpt) with ⟨e | ⟨⟩, ma'⟩
    · rw [run, Prog.forEach_append_of_error has] at hrun
      simp at hrun
    rw [run, Prog.forEach_concat_of_ok has] at hrun
    obtain ⟨s, hs, hmem, hnext⟩ := h.concat
    have hstated := stated_start conf env op ma'
    rw [hrun] at hstated
    cases hstated with
    | skipped hskip' hop hok hskip'' => exact absurd (hskip.symm.trans hskip'') (by simp)
    | refused hskip' hs' herr => simp at herr
    | stopped hs' e herr hne => simp at herr
    | went hs' hnot hok hstate hsk =>
      rw [hnext, hstate]
      cases hskip' : ma'.gtidSkip with
      | false =>
        have hsome := ih (h.of_isPrefix (List.prefix_append as [op])) has hskip'
        obtain rfl : s = ma'.state := Option.some.inj (hs.symm.trans hsome)
        rfl
      | true =>
        -- only a GTID ends a skipped group, and it leads to the same state from anywhere
        cases hop : op.isGTID with
        | false => exact absurd (hskip'.symm.trans (hnot hop)) (by simp)
        | true => cases op <;> simp_all [MysqlOperation.isGTID, target]

/-- An operation of a regular stream is allowed where the applier stands, unless it is skipped. -/
lemma Regular.state_mem_allowed {ckpt : Checkpoint} (h : Regular (as ++ [op]))
    (hrun : run conf env as (newMysqlApplier ckpt) = (.ok (), ma)) (hskip : ma.gtidSkip = false) :
    ma.state ∈ allowed op := by
  obtain ⟨s, hs, hmem, -⟩ := h.concat
  have hsome := (h.of_isPrefix (List.prefix_append as [op])).state_eq hrun hskip
  obtain rfl : s = ma.state := Option.some.inj (hs.symm.trans hsome)
  exact hmem

/-- A regular stream of operations whose statements can be built is consumed to its end by a
destination whose calls succeed, if no GTID leaves a gap. -/
theorem Regular.run_returns {ckpt : Checkpoint} (h : Regular opers) (henv : env.Succeeds)
    (hst : ∀ op ∈ opers, ∃ st, statement conf op = .ok st)
    (hmiss : ∀ as o ma, as ++ [.gtid o] <+: opers →
      run conf env as (newMysqlApplier ckpt) = (.ok (), ma) → ¬ Misses ma.ckpt.gtidSetsMap o) :
    Returned (run conf env opers (newMysqlApplier ckpt)) := by
  have hall : ∀ as, as <+: opers → Returned (run conf env as (newMysqlApplier ckpt)) := by
    intro as
    induction as using List.reverseRecOn with
    | nil => exact fun _ => ⟨_, rfl⟩
    | append_singleton as op ih =>
      intro has
      have hpre : as <+: opers := (List.prefix_append as [op]).trans has
      obtain ⟨ma, hrun⟩ := ih hpre
      have hmem : op ∈ opers := has.subset (by simp)
      rw [run, Prog.forEach_concat_of_ok hrun]
      refine (tracks_run hpre hrun).start_returns henv ?_ (hst op hmem) ?_
      · exact fun hskip => (h.of_isPrefix has).state_mem_allowed hrun hskip
      · rintro o rfl
        exact hmiss as o ma has hrun
  exact hall opers (List.prefix_refl opers)

variable (conf env) in
/-- Where the table goes on, the applier does, or stops for another reason. -/
lemma run_of_tableAfter {s' : State} (hops : ∀ op ∈ as, op.isGTID = false)
    (hskip : ma.gtidSkip = false) (h : tableAfter ma.state as = some s') :
    (∀ e ma', run conf env as ma = (.error e, ma') → e.isLastState = false) ∧
    (∀ ma', run conf env as ma = (.ok (), ma') → ma'.state = s' ∧ ma'.gtidSkip = false) := by
  induction as generalizing ma with
  | nil =>
    cases h
    refine ⟨fun e ma' hrun => ?_, fun ma' hrun => ?_⟩
    · simp [run] at hrun
    · obtain ⟨-, rfl⟩ := Prod.mk.inj hrun
      exact ⟨rfl, hskip⟩
  | cons op as ih =>
    have hop : op.isGTID = false := hops op List.mem_cons_self
    simp only [tableAfter, List.foldlM_cons, Option.bind_eq_bind] at h
    obtain ⟨s, hnext, hrest⟩ := Option.bind_eq_some_iff.mp h
    obtain ⟨hmem, rfl⟩ := tableNext_eq_some hnext
    rw [run, Prog.forEach_cons]
    have hstated := stated_start conf env op ma
    rcases hstart : MysqlApplier.start conf env op ma with ⟨e | ⟨⟩, ma₁⟩
    · rw [Prog.bind_of_error hstart]
      rw [hstart] at hstated
      refine ⟨fun e' ma' hrun => ?_, fun ma' hrun => by simp at hrun⟩
      cases hrun
      cases hstated with
      | skipped hskip' hop hok hskip'' => simp at hok
      | refused hskip' hs herr => exact absurd hmem hs
      | went hs hnot hok hstate hsk => simp at hok
      | stopped hs e' herr hne =>
        cases herr
        exact hne
    · rw [Prog.bind_of_ok hstart]
      rw [hstart] at hstated
      refine ih (fun op hop => hops op (List.mem_cons_of_mem _ hop)) ?_ ?_
      · cases hstated with
        | skipped hskip' => exact absurd (hskip.symm.trans hskip') (by simp)
        | refused hskip' hs herr => simp at herr
        | went hs hnot hok hstate hsk => exact hsk hop
        | stopped hs e herr hne => simp at herr
      · cases hstated with
        | skipped hskip' => exact absurd (hskip.symm.trans hskip') (by simp)
        | refused hskip' hs herr => simp at herr
        | went hs hnot hok hstate hsk =>
          rw [hstate]
          exact hrest
        | stopped hs e herr hne => simp at herr

variable (conf env) in
/-- Where the table does not go on, neither does the applier, if nothing else stops it and it
skips nothing. -/
lemma exists_lastState_of_not_regular (ckpt : Checkpoint) (h : ¬ Regular opers)
    (henv : env.Succeeds) (hst : ∀ op ∈ opers, ∃ st, statement conf op = .ok st)
    (hmiss : ∀ as o ma, as ++ [.gtid o] <+: opers →
      run conf env as (newMysqlApplier ckpt) = (.ok (), ma) → ¬ Misses ma.ckpt.gtidSetsMap o)
    (hskip : ∀ as ma, as <+: opers →
      run conf env as (newMysqlApplier ckpt) = (.ok (), ma) → ma.gtidSkip = false) :
    ∃ e ma, run conf env opers (newMysqlApplier ckpt) = (.error e, ma) ∧ e.isLastState = true := by
  induction opers using List.reverseRecOn with
  | nil => exact absurd rfl h
  | append_singleton as op ih =>
    have hpre : as <+: as ++ [op] := List.prefix_append as [op]
    have hst' : ∀ op ∈ as, ∃ st, statement conf op = .ok st :=
      fun op hop => hst op (List.mem_append_left _ hop)
    by_cases has : Regular as
    · -- the table accepts everything before `op`, so the applier gets there
      obtain ⟨ma, hrun⟩ := has.run_returns henv hst' fun bs o ma hbs =>
        hmiss bs o ma (hbs.trans hpre)
      have hfalse := hskip as ma hpre hrun
      have hstate := has.state_eq hrun hfalse
      have hnot : ma.state ∉ allowed op := by
        intro hmem
        refine h ?_
        rw [Regular, tableAfter_concat, hstate]
        simp [tableNext, hmem]
      rw [run, Prog.forEach_concat_of_ok hrun]
      cases stated_start conf env op ma with
      | skipped hskip' => exact absurd (hfalse.symm.trans hskip') (by simp)
      | refused hskip' hs herr => exact ⟨_, _, Prod.ext herr rfl, rfl⟩
      | went hs hnot' hok hstate' hsk => exact absurd (hs hfalse) hnot
      | stopped hs e herr hne => exact absurd (hs hfalse) hnot
    · obtain ⟨e, ma, hrun, he⟩ := ih has hst'
        (fun bs o ma hbs => hmiss bs o ma (hbs.trans hpre))
        (fun bs ma hbs => hskip bs ma (hbs.trans hpre))
      refine ⟨e, ma, ?_, he⟩
      rw [run, Prog.forEach_append_of_error hrun]

end

end MysqlSync

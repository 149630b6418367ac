import MysqlSync.Applier.Durability

/-!
# The limits of a merged batch

A batch of row transactions is forced out by a GTID that finds it full or overdue. The limit on the
count holds in every reachable state, whatever the order of the operations
(`pendingCommitCount_le`): the count is raised by `XID` alone, in a state that only a GTID or a
heartbeat leads out of. So no commit carries statements of more transactions of the source than the
limit allows. The limit on the delay is never reached, since the GTID case resets the clock it is
measured by before it looks at it (`evaluateForceMergeCommit_stamped`): a batch that is overdue is
flushed only if it is full or the commit interval changes (`delayEnforced_iff`).
-/

namespace MysqlSync

open MysqlApplier

/-! ### The pending count in one turn -/

section

variable {conf : Settings} {env : Env} {ma ma₁ : MysqlApplier} {op : MysqlOperation} {x : Ending}

@[simp] lemma thenState_pending (x : Ending) (s : State) :
    (thenState x s).2.pendingCommitCount = x.2.pendingCommitCount := by
  rcases x with ⟨_ | ⟨⟩, _⟩ <;> rfl

@[simp] lemma finish_pending (op : MysqlOperation) (x : Ending) :
    (MysqlApplier.finish op x).2.pendingCommitCount = x.2.pendingCommitCount := by
  obtain ⟨ts, heq⟩ := exists_finish_eq op x
  rw [heq]

/-- The count is left as it is or set to zero. -/
def KeepsOrClears (ma : MysqlApplier) (x : Ending) : Prop :=
  x.2.pendingCommitCount = ma.pendingCommitCount ∨ x.2.pendingCommitCount = 0

lemma KeepsOrClears.trans {y : Ending} (h : KeepsOrClears ma x) (h' : KeepsOrClears x.2 y) :
    KeepsOrClears ma y := by
  rcases h' with h' | h'
  · rcases h with h | h
    · exact .inl (h'.trans h)
    · exact .inr (h'.trans h)
  · exact .inr h'

lemma keepsOrClears_of_merged (h : Merged env ma x) : KeepsOrClears ma x := by
  cases h with
  | idle h result => rw [result]; exact .inl rfl
  | flushed h htx r₁ r₂ result => rw [result]; exact .inr rfl
  | missing h htx result => rw [result]; exact .inl rfl
  | refused h htx r hr henv result => rw [result]; exact .inl rfl

lemma keepsOrClears_of_settled {force : Bool} (h : Settled env force ma x) :
    KeepsOrClears ma x := by
  cases h with
  | idle hs result => rw [result]; exact .inl rfl
  | checkpointed hs r₁ r₂ result => rw [result]; exact .inl rfl
  | merged hs hforce h => exact keepsOrClears_of_merged h

lemma keepsOrClears_of_decided {o : MysqlOperationGTID} (h : Decided env o ma x) :
    KeepsOrClears ma x := by
  cases h with
  | skip h result => rw [result]; exact .inl rfl
  | miss last hlast hlt hgap result => rw [result]; exact .inl rfl
  | accept h ma₁ hm result =>
    rw [result]
    rcases hm with rfl | hm
    · exact .inl rfl
    · have hmerged := keepsOrClears_of_merged hm
      exact hmerged
  | stopped h e ma₁ hm result =>
    rw [result]
    have hmerged := keepsOrClears_of_merged hm
    exact hmerged

lemma pending_of_began (h : MysqlClient.Began conf env ma x) :
    x.2.pendingCommitCount = ma.pendingCommitCount := by
  cases h <;> subst x <;> rfl

lemma pending_of_executedNonDML {schemaContext query : String}
    (h : MysqlClient.ExecutedNonDML conf env schemaContext query ma x) :
    x.2.pendingCommitCount = ma.pendingCommitCount := by
  cases h with
  | began e ma' hb result =>
    subst result
    exact pending_of_began hb
  | _ => subst x; rfl

/-- Only `XID` raises the count. -/
lemma keepsOrClears_of_dispatched (h : Dispatched conf env op ma x)
    (hop : ∀ o, op ≠ .xid o) : KeepsOrClears ma x := by
  cases h with
  | heartbeat o hop hs x₁ h result =>
    rw [result, KeepsOrClears, thenState_pending]
    have hsettled := keepsOrClears_of_settled h
    exact hsettled
  | gtidSettle o hop hs force e ma₁ h result =>
    rw [result]
    have hsettled := keepsOrClears_of_settled h
    exact hsettled
  | gtid o hop hs force ma₁ h x₂ h₂ result =>
    rw [result, KeepsOrClears, thenState_pending]
    have hsettled : KeepsOrClears (stamped ma) (.ok (), ma₁) := keepsOrClears_of_settled h
    exact hsettled.trans (keepsOrClears_of_decided h₂)
  | nonDMLMerge hop hs e ma₁ h result =>
    rw [result]
    exact keepsOrClears_of_merged h
  | nonDML hop hs hq ma₁ h result =>
    rw [result]
    have hmerged := keepsOrClears_of_merged h
    exact hmerged
  | nonDMLExec hop hs schemaContext query hq ma₁ h x₂ h₂ result =>
    rw [result, KeepsOrClears, thenState_pending, pending_of_executedNonDML h₂]
    exact keepsOrClears_of_merged h
  | begin o hop hs hp x₁ h result =>
    rw [result, KeepsOrClears, thenState_pending, pending_of_began h]
    exact .inl rfl
  | dmlExec hop hs query hq htx x₁ h result =>
    rw [result, KeepsOrClears, thenState_pending]
    cases h <;> subst x₁ <;> exact .inl rfl
  | xid o heq => exact absurd heq (hop o)
  | _ => subst x; exact .inl rfl

lemma notMem_allowed_of_isNonDML (hop : op.isNonDML = true) : State.xid ∉ allowed op := by
  cases op <;> simp_all [allowed, MysqlOperation.isNonDML]

lemma notMem_allowed_of_isDML (hop : op.isDML = true) : State.xid ∉ allowed op := by
  cases op <;> simp_all [allowed, MysqlOperation.isDML]

/-- Out of the state `xid` a heartbeat leads with the batch flushed, and nothing else but a GTID
leads. -/
lemma state_or_pending_of_dispatched (hs : ma.state = .xid) (hop : op.isGTID = false)
    (h : Dispatched conf env op ma x) : x.2.state = .xid ∨ x.2.pendingCommitCount = 0 := by
  cases h with
  | refused hs' ts result | binLogPos o hop result => rw [result]; exact .inl hs
  | heartbeat o hop hs' x₁ h result =>
    rw [result, thenState_pending]
    rcases x₁ with ⟨e | ⟨⟩, ma₁⟩
    · have hkeeps := h.keeps.state
      exact .inl (hkeeps.trans hs)
    · refine .inr (h.pending_eq_zero fun hmem => ?_)
      simp [stamped, hs] at hmem
  | gtidSettle o heq | gtid o heq => simp [heq, MysqlOperation.isGTID] at hop
  | nonDMLMerge hop' hs' | nonDML hop' hs' | nonDMLExec hop' hs' =>
    exact absurd (hs ▸ hs') (notMem_allowed_of_isNonDML hop')
  | beginMerged o hop' hs' | begin o hop' hs' => simp [hs] at hs'
  | dmlStop hop' hs' | dml hop' hs' | dmlMissing hop' hs' | dmlExec hop' hs' =>
    exact absurd (hs ▸ hs') (notMem_allowed_of_isDML hop')
  | xid o hop' hs' => simp [hop', hs, allowed] at hs'

/-- In the state `xid` the GTID case flushes a full batch before it leaves the state. -/
lemma state_or_pending_of_turnGTID {o : MysqlOperationGTID} (hskip : ma.gtidSkip = false)
    (hs : ma.state = .xid)
    (hfull : 1 ≤ conf.mergeCommitMaxCount ∧ conf.mergeCommitMaxCount ≤ ma.pendingCommitCount)
    (h : TurnGTID conf env o ma x) : x.2.state = .xid ∨ x.2.pendingCommitCount = 0 := by
  have hstate : (takes (.gtid o) ma).state = .xid := (takes_state hskip).trans hs
  have hforce := (evaluateForceMergeCommit_stamped conf (takes (.gtid o) ma)).mpr hfull
  cases h with
  | refused hs' e result => rw [result]; exact .inl hstate
  | settle hs' e ma₁ h result =>
    rw [result]
    exact .inl (h.keeps.state.trans hstate)
  | decided hs' ma₁ h x₂ h₂ result =>
    rw [hforce] at h
    have hzero : ma₁.pendingCommitCount = 0 := h.pending_eq_zero fun hmem => by
      simp [stamped, hstate] at hmem
    have hdecided : Decided env o ma₁ x₂ := h₂ ▸ Decided.of_onGTID o ma₁
    rw [result, finish_pending, thenState_pending]
    rcases keepsOrClears_of_decided hdecided with hkeep | hclear
    · exact .inr (hkeep.trans hzero)
    · exact .inr hclear

end

/-! ### The limit on the count -/

/-- The transaction of the source that the operation at `pos` belongs to: the number of GTIDs
before it. -/
def sourceOf (opers : List MysqlOperation) (pos : ℕ) : ℕ :=
  (opers.take pos).countP MysqlOperation.isGTID

/-- The transactions of the source that have a statement among the entries. -/
def sources (opers : List MysqlOperation) (entries : List Entry) : Finset ℕ :=
  (entries.map fun e => sourceOf opers e.pos).toFinset

/-- The limit, in a state reached and in what the log says of the destination. -/
structure WithinLimit (opers : List MysqlOperation) (limit : ℕ) (ma : MysqlApplier) : Prop where
  throughout : Throughout (fun w => (sources opers w.opened).card ≤ limit) ma.log
  pending_le : ma.pendingCommitCount ≤ limit
  pending_lt : ma.state ≠ .xid → ma.pendingCommitCount < limit

/-- The invariant between turns, after `k` operations: the count covers the transactions in the
open one of the destination, up to a row transaction that is under way. -/
structure Limited (opers : List MysqlOperation) (limit k : ℕ) (ma : MysqlApplier) : Prop
    extends WithinLimit opers limit ma where
  sources_le : ma.state ∉ [State.begin, .dml] →
    (sources opers ma.world.opened).card ≤ ma.pendingCommitCount
  erase_le : ((sources opers ma.world.opened).erase (sourceOf opers k)).card ≤
    ma.pendingCommitCount

section

variable {conf : Settings} {env : Env} {m : GtidSetsMap} {opers : List MysqlOperation}
  {limit k : ℕ} {ma ma₁ : MysqlApplier} {op : MysqlOperation} {x : Ending}

lemma sourceOf_succ (hk : opers[k]? = some op) (hop : op.isGTID = false) :
    sourceOf opers (k + 1) = sourceOf opers k := by
  rw [sourceOf, List.take_add_one, hk, List.countP_append]
  simp [sourceOf, hop]

lemma sources_mono {l l' : List Entry} (h : l ⊆ l') : sources opers l ⊆ sources opers l' := by
  intro n hn
  simp only [sources, List.mem_toFinset, List.mem_map] at hn ⊢
  obtain ⟨e, he, rfl⟩ := hn
  exact ⟨e, h he, rfl⟩

/-- What the open transaction holds in a turn: what it held before, and statements of the
operation of the turn if it has one. -/
def Adds (conf : Settings) (op : MysqlOperation) (k : ℕ) (held : List Entry) (w : World) : Prop :=
  ∀ e ∈ w.opened, e ∈ held ∨ e.pos = k ∧ MysqlApplier.statement conf op ≠ .ok none

lemma Adds.subset {held : List Entry} {w : World} (h : Adds conf op k held w)
    (hop : MysqlApplier.statement conf op = .ok none) : w.opened ⊆ held := by
  intro e he
  exact (h e he).resolve_right fun hnew => hnew.2 hop

lemma Adds.sources_subset {held : List Entry} {w : World} (h : Adds conf op k held w) :
    sources opers w.opened ⊆ insert (sourceOf opers k) (sources opers held) := by
  intro n hn
  simp only [sources, List.mem_toFinset, List.mem_map, Finset.mem_insert] at hn ⊢
  obtain ⟨e, he, rfl⟩ := hn
  rcases h e he with he | ⟨hpos, -⟩
  · exact .inr ⟨e, he, rfl⟩
  · exact .inl (by rw [hpos])

lemma always_adds {ckpt : Checkpoint} {w : World} {l : List Event} (hpos : w.received = k + 1)
    (hl : ∀ e ∈ l, Emitted conf op ckpt e) :
    Trace.Always World.after (Adds conf op k w.opened) w l := by
  have hstart : w.received = k + 1 ∧ Adds conf op k w.opened w := ⟨hpos, fun e he => .inl he⟩
  refine (Trace.always_of_forall (P := fun w' => w'.received = k + 1 ∧ Adds conf op k w.opened w')
    hstart ?_).mono fun _ h => h.2
  rintro w' ⟨hpos', hadds⟩ e he
  refine ⟨(World.received_after (hl e he).ne_receive).trans hpos', fun entry hentry => ?_⟩
  rcases World.mem_opened_after hentry with hold | ⟨st, r, rfl, hst, rfl⟩
  · exact hadds entry hold
  · refine .inr ⟨by simp [hpos'], ?_⟩
    cases hl _ he with
    | frame hframe => simp [Event.isFrame, hst] at hframe
    | exec r hstatement => simp [hstatement]

variable (conf env op) in
/-- The open transaction in one turn. -/
lemma exists_adds_start (hk : ma.world.received = k) :
    ∃ l, (MysqlApplier.start conf env op ma).2.log = ma.log ++ l ∧
      Trace.Always World.after (Adds conf op k ma.world.opened) ma.world l := by
  obtain ⟨l, hlog, hl⟩ := emits_start conf env op ma
  refine ⟨.receive op :: l, by rw [hlog, emit_log, List.append_assoc]; rfl, ?_⟩
  refine Trace.always_cons.mpr ⟨fun e he => .inl he, ?_⟩
  rw [World.after_receive]
  have hpos : { ma.world with received := ma.world.received + 1 }.received = k + 1 :=
    congrArg (· + 1) hk
  have hadds := always_adds hpos hl
  exact hadds

/-- In the state `xid` no statement is executed. -/
lemma exists_subset_start (hk : ma.world.received = k) (hskip : ma.gtidSkip = false)
    (hs : ma.state = .xid) :
    ∃ l, (MysqlApplier.start conf env op ma).2.log = ma.log ++ l ∧
      Trace.Always World.after (fun w => w.opened ⊆ ma.world.opened) ma.world l := by
  by_cases hop : MysqlApplier.statement conf op = .ok none
  · obtain ⟨l, hlog, hl⟩ := exists_adds_start conf env op hk
    exact ⟨l, hlog, hl.mono fun w hw => hw.subset hop⟩
  have hallowed : (takes op ma).state ∉ allowed op := by
    rw [takes_state hskip, hs]
    cases op <;> simp_all [allowed, MysqlApplier.statement, nonDMLQuery, dmlQuery]
  refine ⟨[.receive op], ?_, fun e he => he, fun e he => he⟩
  cases Turn.of_start conf env op ma with
  | skipped hskip' => exact absurd (hskip.symm.trans hskip') (by simp)
  | taken hnot x₁ hd result =>
    rw [result, finish_log]
    cases hd with
    | refused hs' ts result => rw [result]; rfl
    | binLogPos o hop' | heartbeat o hop' | gtidSettle o hop' | gtid o hop' | beginMerged o hop'
    | begin o hop' | xid o hop' => subst hop'; exact absurd rfl hop
    | nonDMLMerge hop' hs' | nonDML hop' hs' | nonDMLExec hop' hs' | dmlStop hop' hs'
    | dml hop' hs' | dmlMissing hop' hs' | dmlExec hop' hs' => exact absurd hs' hallowed

/-- An `XID` adds to a batch that is not full. -/
lemma WithinLimit.pending_xid {o : MysqlOperationXid}
    (h : WithinLimit opers conf.mergeCommitMaxCount ma) (hskip : ma.gtidSkip = false)
    (hd : Dispatched conf env (.xid o) (takes (.xid o) ma) x) :
    x.2.pendingCommitCount ≤ conf.mergeCommitMaxCount ∧
      (x.2.state ≠ .xid → x.2.pendingCommitCount < conf.mergeCommitMaxCount) := by
  have hstate : (takes (.xid o) ma).state = ma.state := takes_state hskip
  cases hd with
  | refused hs ts result =>
    rw [result]
    exact ⟨h.pending_le, fun hne => h.pending_lt (hstate ▸ hne)⟩
  | xid o' hop hs result =>
    have hne : ma.state ≠ .xid := by
      intro heq
      simp [hstate, heq, allowed] at hs
    rw [result]
    exact ⟨h.pending_lt hne, fun hne => absurd rfl hne⟩
  | nonDMLMerge hop | nonDML hop | nonDMLExec hop => simp [MysqlOperation.isNonDML] at hop
  | dmlStop hop | dml hop | dmlMissing hop | dmlExec hop => simp [MysqlOperation.isDML] at hop
  | binLogPos o' hop | heartbeat o' hop | gtidSettle o' hop | gtid o' hop | beginMerged o' hop
  | begin o' hop => cases hop

/-- A turn that leads out of the state `xid` leaves no full batch pending. -/
lemma state_or_pending_of_start (hskip : ma.gtidSkip = false) (hs : ma.state = .xid)
    (hfull : 1 ≤ conf.mergeCommitMaxCount ∧ conf.mergeCommitMaxCount ≤ ma.pendingCommitCount)
    (hstart : MysqlApplier.start conf env op ma = x) :
    x.2.state = .xid ∨ x.2.pendingCommitCount = 0 := by
  cases hgtid : op.isGTID with
  | true =>
    obtain ⟨o, rfl⟩ : ∃ o, op = .gtid o := by cases op <;> simp_all [MysqlOperation.isGTID]
    exact state_or_pending_of_turnGTID hskip hs hfull (hstart ▸ TurnGTID.of_start conf env o ma)
  | false =>
    have hturn := Turn.of_start conf env op ma
    rw [hstart] at hturn
    cases hturn with
    | skipped hskip' => simp [hskip] at hskip'
    | taken hnot x₁ hd result =>
      rw [result, finish_state, finish_pending]
      exact state_or_pending_of_dispatched ((takes_state hskip).trans hs) hgtid hd

/-- The pending count and the state at the end of a turn, however it ends. -/
lemma WithinLimit.pending_start (h : WithinLimit opers conf.mergeCommitMaxCount ma)
    (hlimit : 1 ≤ conf.mergeCommitMaxCount) (hskipping : ma.gtidSkip = true → ma.state = .gtid)
    (hstart : MysqlApplier.start conf env op ma = x) :
    x.2.pendingCommitCount ≤ conf.mergeCommitMaxCount ∧
      (x.2.state ≠ .xid → x.2.pendingCommitCount < conf.mergeCommitMaxCount) := by
  have hturn := Turn.of_start conf env op ma
  rw [hstart] at hturn
  cases hturn with
  | skipped hskip hop result =>
    rw [result]
    exact ⟨h.pending_le, h.pending_lt⟩
  | taken hnot x₁ hd result =>
    by_cases hxid : ∃ o, op = .xid o
    · obtain ⟨o, rfl⟩ := hxid
      rw [result, finish_pending, finish_state]
      exact h.pending_xid (hnot rfl) hd
    have hkeeps : KeepsOrClears ma x := by
      have hd' := keepsOrClears_of_dispatched hd fun o heq => hxid ⟨o, heq⟩
      rw [result, KeepsOrClears, finish_pending]
      exact hd'
    rcases hkeeps with hkeep | hclear
    · refine ⟨hkeep ▸ h.pending_le, fun hne => ?_⟩
      by_contra hnlt
      have hfull : conf.mergeCommitMaxCount ≤ ma.pendingCommitCount :=
        hkeep ▸ Nat.le_of_not_lt hnlt
      -- a full batch is pending in the state `xid` only, and the turn leads out of it
      have hs : ma.state = .xid := by
        by_contra hne'
        exact absurd (h.pending_lt hne') (Nat.not_lt.mpr hfull)
      have hskip : ma.gtidSkip = false := by
        rw [Bool.eq_false_iff]
        intro hskip
        simp [hskipping hskip] at hs
      have hout := (state_or_pending_of_start hskip hs ⟨hlimit, hfull⟩ hstart).resolve_left hne
      omega
    · omega

/-- One turn keeps to the limit, however it ends. -/
lemma Limited.withinLimit_start (h : Limited opers conf.mergeCommitMaxCount k ma)
    (hlimit : 1 ≤ conf.mergeCommitMaxCount) (htracks : Tracks conf m opers k ma) :
    WithinLimit opers conf.mergeCommitMaxCount (MysqlApplier.start conf env op ma).2 := by
  obtain ⟨hle, hlt⟩ := h.toWithinLimit.pending_start hlimit htracks.skipping
    (rfl : MysqlApplier.start conf env op ma = _)
  refine ⟨?_, hle, hlt⟩
  by_cases hfull : ma.pendingCommitCount < conf.mergeCommitMaxCount
  · obtain ⟨l, hlog, hl⟩ := exists_adds_start conf env op htracks.received
    rw [hlog]
    refine throughout_append.mpr ⟨h.throughout, hl.mono fun w hw => ?_⟩
    have herase := h.erase_le
    calc (sources opers w.opened).card
        ≤ (insert (sourceOf opers k)
            ((sources opers ma.world.opened).erase (sourceOf opers k))).card :=
          Finset.card_le_card (hw.sources_subset.trans
            (Finset.insert_subset (Finset.mem_insert_self _ _) (Finset.insert_erase_subset _ _)))
      _ ≤ ((sources opers ma.world.opened).erase (sourceOf opers k)).card + 1 :=
          Finset.card_insert_le _ _
      _ ≤ conf.mergeCommitMaxCount := by omega
  · have hs : ma.state = .xid := by
      by_contra hne
      exact hfull (h.pending_lt hne)
    have hskip : ma.gtidSkip = false := by
      rw [Bool.eq_false_iff]
      intro hskip
      simp [htracks.skipping hskip] at hs
    obtain ⟨l, hlog, hl⟩ := exists_subset_start htracks.received hskip hs
    rw [hlog]
    refine throughout_append.mpr ⟨h.throughout, hl.mono fun w hw => ?_⟩
    have hsources := h.sources_le (by simp [hs])
    exact (Finset.card_le_card (sources_mono hw)).trans (hsources.trans h.pending_le)

/-- Outside a row transaction without a batch, no transaction is open. -/
lemma Tracks.opened_eq_nil (h : Tracks conf m opers k ma) (hp : ma.pendingCommitCount = 0)
    (hs : ma.state ∉ [State.begin, .dml]) : ma.world.opened = [] := by
  have htx : ma.tx = false := by
    rw [Bool.eq_false_iff, Ne, h.tx_iff, hp]
    simpa using hs
  have hnone : ma.world.tx = none :=
    Option.isNone_iff_eq_none.mp (Option.isSome_eq_false_iff.mp (h.tx.symm.trans htx))
  rw [World.opened, hnone]
  rfl

variable (conf) in
/-- What a turn that does not stop does to the count: it stays in or enters a row transaction, ends
one, leaves no batch, or executes nothing outside a row transaction. -/
inductive Counted (op : MysqlOperation) (ma ma₁ : MysqlApplier) : Prop where
  | row (hop : op.isGTID = false) (hs : ma₁.state ∈ [State.begin, .dml])
      (hp : ma₁.pendingCommitCount = ma.pendingCommitCount)
  | xid (hst : MysqlApplier.statement conf op = .ok none)
      (hp : ma₁.pendingCommitCount = ma.pendingCommitCount + 1)
  | cleared (hs : ma₁.state ∉ [State.begin, .dml]) (hp : ma₁.pendingCommitCount = 0)
  | rest (hst : MysqlApplier.statement conf op = .ok none) (hs₁ : ma₁.state ∉ [State.begin, .dml])
      (hs : ma.state ∉ [State.begin, .dml]) (hp : ma₁.pendingCommitCount = ma.pendingCommitCount)

lemma notMem_of_resting {s : State} (hs : s ∈ resting) : s ∉ [State.begin, .dml] := by
  cases s <;> simp_all [resting]

/-- The heartbeat and the GTID case. -/
lemma Counted.of_keepsOrClears (hst : MysqlApplier.statement conf op = .ok none)
    (hs : ma.state ∈ resting) (hs₁ : ma₁.state ∉ [State.begin, .dml])
    (h : KeepsOrClears ma (.ok (), ma₁)) : Counted conf op ma ma₁ := by
  rcases h with h | h
  · exact .rest hst hs₁ (notMem_of_resting hs) h
  · exact .cleared hs₁ h

lemma Counted.of_dispatched (h : Dispatched conf env op ma (.ok (), ma₁)) :
    Counted conf op ma ma₁ := by
  cases h with
  | binLogPos o hop result =>
    obtain ⟨-, rfl⟩ := Prod.mk.inj result
    subst hop
    by_cases hs : ma.state ∈ [State.begin, .dml]
    · exact .row rfl hs rfl
    · exact .rest rfl hs hs rfl
  | heartbeat o hop hs x₁ hset result =>
    obtain ⟨ma₂, rfl, rfl⟩ := thenState_eq_ok result
    subst hop
    have hkeeps := keepsOrClears_of_settled hset
    exact .of_keepsOrClears rfl hs (by simp) hkeeps
  | gtid o hop hs force ma₂ hset x₂ h₂ result =>
    obtain ⟨ma₃, rfl, rfl⟩ := thenState_eq_ok result
    subst hop
    have hkeeps := (keepsOrClears_of_settled hset).trans (keepsOrClears_of_decided h₂)
    exact .of_keepsOrClears rfl hs (by simp) hkeeps
  | nonDML hop hs hq ma₂ hm result =>
    obtain ⟨-, rfl⟩ := Prod.mk.inj result
    exact .cleared (nonDMLState_mem op).1 hm.pending_eq_zero
  | nonDMLExec hop hs schemaContext query hq ma₂ hm x₂ h₂ result =>
    obtain ⟨ma₃, rfl, rfl⟩ := thenState_eq_ok result
    exact .cleared (nonDMLState_mem op).1 ((pending_of_executedNonDML h₂).trans hm.pending_eq_zero)
  | beginMerged o hop hs hp result =>
    obtain ⟨-, rfl⟩ := Prod.mk.inj result
    subst hop
    exact .row rfl (by simp) rfl
  | begin o hop hs hp x₁ hb result =>
    obtain ⟨ma₂, rfl, rfl⟩ := thenState_eq_ok result
    subst hop
    exact .row rfl (by simp) (pending_of_began hb)
  | dml hop hs hq result =>
    obtain ⟨-, rfl⟩ := Prod.mk.inj result
    exact .row (isGTID_of_isDML hop) (by simp) rfl
  | dmlExec hop hs query hq htx x₁ hexec result =>
    obtain ⟨ma₂, rfl, rfl⟩ := thenState_eq_ok result
    refine .row (isGTID_of_isDML hop) (by simp) ?_
    cases hexec with
    | ok r hr result => rw [(Prod.mk.inj result).2]; rfl
    | failed r hr henv r'' r' result => simp at result
  | xid o hop hs result =>
    obtain ⟨-, rfl⟩ := Prod.mk.inj result
    subst hop
    exact .xid rfl rfl
  | _ => simp_all

lemma Counted.of_start (hskipping : ma.gtidSkip = true → ma.state = .gtid)
    (hstart : MysqlApplier.start conf env op ma = (.ok (), ma₁)) :
    op.isGTID = false ∧ ma.gtidSkip = true ∧ ma₁ = ma.emit [.receive op] ∨
      Counted conf op ma ma₁ := by
  have hturn := Turn.of_start conf env op ma
  rw [hstart] at hturn
  cases hturn with
  | skipped hskip hop result => exact .inl ⟨hop, hskip, (Prod.mk.inj result).2⟩
  | taken hnot x₁ hd result =>
    obtain ⟨ma₂, rfl, rfl⟩ := finish_eq_ok result
    have hs₁ : (MysqlApplier.finish op (.ok (), ma₂)).2.state = ma₂.state := finish_state op _
    have hp₁ : (MysqlApplier.finish op (.ok (), ma₂)).2.pendingCommitCount =
      ma₂.pendingCommitCount := finish_pending op _
    refine .inr ?_
    cases Counted.of_dispatched hd with
    | row hop hs hp => exact .row hop (hs₁ ▸ hs) (hp₁.trans hp)
    | xid hst hp => exact .xid hst (hp₁.trans hp)
    | cleared hs hp => exact .cleared (hs₁ ▸ hs) (hp₁.trans hp)
    | rest hst hs' hs hp =>
      refine .rest hst (hs₁ ▸ hs') ?_ (hp₁.trans hp)
      cases hskip : ma.gtidSkip with
      | true => simp [hskipping hskip]
      | false => rwa [takes_state hskip] at hs

/-- One turn keeps the invariant. -/
lemma Limited.start (h : Limited opers conf.mergeCommitMaxCount k ma)
    (hlimit : 1 ≤ conf.mergeCommitMaxCount) (htracks : Tracks conf m opers k ma)
    (hk : opers[k]? = some op) (hstart : MysqlApplier.start conf env op ma = (.ok (), ma₁)) :
    Limited opers conf.mergeCommitMaxCount (k + 1) ma₁ := by
  have hwithin : WithinLimit opers conf.mergeCommitMaxCount
      (MysqlApplier.start conf env op ma).2 := h.withinLimit_start hlimit htracks
  rw [hstart] at hwithin
  have htracks₁ := htracks.start hk hstart
  obtain ⟨l, hlog, hl⟩ := exists_adds_start conf env op htracks.received
  have hadds : Adds conf op k ma.world.opened ma₁.world := by
    rw [hstart] at hlog
    have hworld : ma₁.world = l.foldl World.after ma.world :=
      (congrArg World.replay hlog).trans (World.replay_append ma.log l)
    rw [hworld]
    exact hl.last
  -- outside a row transaction nothing is under way
  have hrest (hs : ma₁.state ∉ [State.begin, .dml])
      (hle : (sources opers ma₁.world.opened).card ≤ ma₁.pendingCommitCount) :
      Limited opers conf.mergeCommitMaxCount (k + 1) ma₁ :=
    ⟨hwithin, fun _ => hle, (Finset.card_le_card (Finset.erase_subset _ _)).trans hle⟩
  rcases Counted.of_start htracks.skipping hstart with ⟨hop, hskip, rfl⟩ | hcounted
  · have hs : ma.state ∉ [State.begin, .dml] := by simp [htracks.skipping hskip]
    refine hrest hs ?_
    rw [world_emit]
    exact h.sources_le hs
  cases hcounted with
  | row hop hs hp =>
    refine ⟨hwithin, fun hs' => absurd hs hs', ?_⟩
    rw [sourceOf_succ hk hop, hp]
    refine (Finset.card_le_card ?_).trans h.erase_le
    exact (Finset.erase_subset_erase _ hadds.sources_subset).trans
      (by rw [Finset.erase_insert_eq_erase])
  | xid hst hp =>
    have hle : (sources opers ma₁.world.opened).card ≤ ma₁.pendingCommitCount := by
      rw [hp]
      refine (Finset.card_le_card (sources_mono (hadds.subset hst))).trans ?_
      have herase := h.erase_le
      have hpred := Finset.pred_card_le_card_erase (s := sources opers ma.world.opened)
        (a := sourceOf opers k)
      omega
    exact ⟨hwithin, fun _ => hle, (Finset.card_le_card (Finset.erase_subset _ _)).trans hle⟩
  | cleared hs hp =>
    refine hrest hs ?_
    rw [htracks₁.opened_eq_nil hp hs]
    exact Nat.zero_le _
  | rest hst hs₁ hs hp =>
    refine hrest hs₁ ?_
    rw [hp]
    exact (Finset.card_le_card (sources_mono (hadds.subset hst))).trans (h.sources_le hs)

lemma limited_newMysqlApplier (ckpt : Checkpoint) (hlimit : 1 ≤ limit) :
    Limited opers limit 0 (newMysqlApplier ckpt) where
  throughout := Nat.zero_le _
  pending_le := Nat.zero_le _
  pending_lt := fun _ => hlimit
  sources_le := fun _ => Nat.le_refl _
  erase_le := Nat.le_refl _

/-- Every run that has not stopped keeps the invariant. -/
lemma limited_run {ckpt : Checkpoint} (hlimit : 1 ≤ conf.mergeCommitMaxCount)
    {as : List MysqlOperation} (has : as <+: opers)
    (hrun : run conf env as (newMysqlApplier ckpt) = (.ok (), ma)) :
    Limited opers conf.mergeCommitMaxCount as.length ma := by
  induction as using List.reverseRecOn generalizing ma with
  | nil =>
    obtain ⟨-, rfl⟩ := Prod.mk.inj hrun
    exact limited_newMysqlApplier ckpt hlimit
  | append_singleton as op ih =>
    rcases has' : run conf env as (newMysqlApplier ckpt) with ⟨e | ⟨⟩, ma'⟩
    · rw [run, Prog.forEach_append_of_error has'] at hrun
      simp at hrun
    · rw [run, Prog.forEach_concat_of_ok has'] at hrun
      rw [List.length_append, List.length_singleton]
      have hpre : as <+: opers := (List.prefix_append as [op]).trans has
      exact (ih hpre has').start hlimit (tracks_run hpre has')
        (Prog.getElem?_of_concat_isPrefix has) hrun

end

/-- The limit on the count holds in every state reached, also in one that a stopped run ends in:
no more than `m` transactions are pending, fewer in any state but `xid`, and no commit of the
destination carries statements of more than `m` transactions of the source. -/
theorem pendingCommitCount_le (conf : Settings) (env : Env) (ckpt : Checkpoint)
    (opers : List MysqlOperation) (hlimit : 1 ≤ conf.mergeCommitMaxCount) :
    (run conf env opers (newMysqlApplier ckpt)).2.pendingCommitCount ≤ conf.mergeCommitMaxCount ∧
    ((run conf env opers (newMysqlApplier ckpt)).2.state ≠ .xid →
      (run conf env opers (newMysqlApplier ckpt)).2.pendingCommitCount <
        conf.mergeCommitMaxCount) ∧
    ∀ before after, (run conf env opers (newMysqlApplier ckpt)).2.log =
        before ++ .call .commit .ok :: after →
      (sources opers (World.replay before).opened).card ≤ conf.mergeCommitMaxCount := by
  have hwithin : WithinLimit opers conf.mergeCommitMaxCount
      (run conf env opers (newMysqlApplier ckpt)).2 := by
    refine Prog.forEach_along (P := fun _ ma => WithinLimit opers conf.mergeCommitMaxCount ma)
      opers ?_ ?_ ?_
    · exact (limited_newMysqlApplier ckpt hlimit).toWithinLimit
    · intro as op ma hpre hrun _
      have has : as <+: opers := (List.prefix_append as [op]).trans hpre
      exact (limited_run hlimit has hrun).withinLimit_start hlimit (tracks_run has hrun)
    · intro as op e ma _ ih
      exact ih
  refine ⟨hwithin.pending_le, hwithin.pending_lt, fun before after hlog => ?_⟩
  have hthroughout := hwithin.throughout
  rw [hlog, throughout_iff_forall_isPrefix] at hthroughout
  exact hthroughout before (List.prefix_append _ _)

/-- Three row transactions of one commit interval, the second of them twenty seconds later. -/
def slowRows : List MysqlOperation :=
  [.gtid ⟨1, 1, 10, "u", 1⟩, .begin ⟨1, 10⟩,
   .dmlInsert ⟨"db", "t", [⟨"id", 3, .int32 1, false⟩], [0], 10⟩, .xid ⟨10⟩,
   .gtid ⟨1, 1, 30, "u", 2⟩, .begin ⟨1, 30⟩,
   .dmlInsert ⟨"db", "t", [⟨"id", 3, .int32 2, false⟩], [0], 30⟩, .xid ⟨30⟩,
   .gtid ⟨1, 1, 30, "u", 3⟩]

/-- With a limit of one, each transaction is committed alone. -/
theorem pendingCommitCount_le_slowRows :
    (run { Settings.unrestricted with mergeCommitMaxCount := 1 } (fun _ _ => .ok) slowRows
      (newMysqlApplier ⟨∅, "", 0⟩)).2.pendingCommitCount ≤ 1 :=
  (pendingCommitCount_le { Settings.unrestricted with mergeCommitMaxCount := 1 } (fun _ _ => .ok)
    ⟨∅, "", 0⟩ slowRows (by decide)).1

/-! ### The limit on the delay -/

/-- What the delay of a batch is measured by: the timestamp of the last operation applied, and the
one that was the last when something was committed or written, or a heartbeat came. -/
structure Clock where
  last : Option UInt32
  since : Option UInt32
  deriving DecidableEq, Repr

/-- A commit, or a write of a checkpoint. -/
def Event.isSettling : Event → Bool
  | .call .commit .ok | .call (.putGtidsets _) _ => true
  | _ => false

def MysqlOperation.isHeartbeat : MysqlOperation → Bool
  | .heartbeat _ => true
  | _ => false

/-- The clock after the turn of `op` that led from `ma` to `ma₁`. The first operation applied
starts it. -/
def Clock.after (clock : Clock) (op : MysqlOperation) (ma ma₁ : MysqlApplier) : Clock :=
  if ma.gtidSkip && !op.isGTID then clock
  else
    let settles := op.isHeartbeat || (ma₁.log.drop ma.log.length).any Event.isSettling
    let since := if settles then clock.last <|> clock.since else clock.since
    if continues op then { clock with since := since }
    else { last := some op.getTimestamp, since := since <|> some op.getTimestamp }

/-- A turn of the applier with the clock at its side. -/
def Clock.start (conf : Settings) (env : Env) (s : MysqlApplier × Clock) (op : MysqlOperation) :
    MysqlApplier × Clock :=
  let ma₁ := (MysqlApplier.start conf env op s.1).2
  (ma₁, s.2.after op s.1 ma₁)

/-- The clock after the operations `opers`. -/
def clock (conf : Settings) (env : Env) (ckpt : Checkpoint) (opers : List MysqlOperation) : Clock :=
  (opers.foldl (Clock.start conf env) (newMysqlApplier ckpt, ⟨none, none⟩)).2

def Clock.Overdue (clock : Clock) (delay : UInt32) : Prop :=
  ∃ last since, clock.last = some last ∧ clock.since = some since ∧
    since.toNat + delay.toNat ≤ last.toNat

/-- A GTID arrives in the state `xid`, the applier being `ma`, and the delay is over. -/
structure ArrivesLate (conf : Settings) (env : Env) (ckpt : Checkpoint)
    (opers : List MysqlOperation) (n : ℕ) (o : MysqlOperationGTID) (ma : MysqlApplier) : Prop where
  gtid : opers[n]? = some (.gtid o)
  run : run conf env (opers.take n) (newMysqlApplier ckpt) = (.ok (), ma)
  state : ma.state = .xid
  overdue : (clock conf env ckpt (opers.take n)).Overdue conf.mergeCommitMaxDelay

/-- The batch is committed, and the map it belongs to is written, before the GTID is recorded. -/
def FlushedFirst (conf : Settings) (env : Env) (ma : MysqlApplier) (o : MysqlOperationGTID) :
    Prop :=
  (MysqlApplier.start conf env (.gtid o) ma).2.ckpt.gtidSetsMap ≠ ma.ckpt.gtidSetsMap →
    ∃ r₁ r₂, (MysqlApplier.start conf env (.gtid o) ma).2.log =
      ma.log ++ .receive (.gtid o) :: .call .commit .ok :: checkpointEvents ma r₁ r₂

/-- The limit on the delay is enforced in the run on `opers`. -/
def DelayEnforced (conf : Settings) (env : Env) (ckpt : Checkpoint)
    (opers : List MysqlOperation) : Prop :=
  ∀ n o ma, ArrivesLate conf env ckpt opers n o ma → FlushedFirst conf env ma o

/-- The GTID flushes the batch for another reason: it is full, or the commit interval changes. -/
def FlushesAnyway (conf : Settings) (ma : MysqlApplier) (o : MysqlOperationGTID) : Prop :=
  1 ≤ conf.mergeCommitMaxCount ∧ conf.mergeCommitMaxCount ≤ ma.pendingCommitCount ∨
    ma.lastCommitted ≠ o.lastCommitted

instance (conf : Settings) (ma : MysqlApplier) (o : MysqlOperationGTID) :
    Decidable (FlushesAnyway conf ma o) :=
  inferInstanceAs (Decidable (_ ∨ _))

section

variable {conf : Settings} {env : Env} {ckpt : Checkpoint} {opers : List MysqlOperation}
  {ma ma₁ : MysqlApplier} {op : MysqlOperation} {o : MysqlOperationGTID}

lemma onGTID_of_continues (h : Continues ma.ckpt.gtidSetsMap o) :
    onGTID env o ma = acceptGTID env o { ma with gtidSkip := false } := by
  simp only [onGTID, Prog.bind_apply, Prog.modify_apply, Prog.get_apply,
    Checkpoint.getTrxIdOfServerUUID]
  rcases h with h | ⟨last, hlast, hlt, hgap⟩
  · simp [h]
  · have hle : ¬ last ≥ o.trxID.toUInt64 := UInt64.not_le.mpr hlt
    have hgap' : ¬ o.trxID.toUInt64 ≥ last + 2 := UInt64.not_le.mpr hgap
    simp only [hlast, hle, hgap', if_false]

lemma acceptGTID_of_eq (h : ma.lastCommitted = o.lastCommitted) :
    acceptGTID env o ma = (.ok (), { ma with
      ckpt := ma.ckpt.setTrxIdOfServerUUID o.serverUUID o.trxID.toUInt64
      gtidCount := ma.gtidCount + 1 }) := by
  simp [acceptGTID, Prog.bind_apply, h]

lemma acceptGTID_of_ne (h : ma.lastCommitted ≠ o.lastCommitted)
    (hm : mergeCommit env ma = (.ok (), ma₁)) :
    (acceptGTID env o ma).2.log = ma₁.log := by
  simp [acceptGTID, Prog.bind_apply, h, hm]

/-- A GTID that is accepted changes the map. -/
lemma MysqlApplier.Continues.set_ne (h : Continues ma.ckpt.gtidSetsMap o) :
    (ma.ckpt.setTrxIdOfServerUUID o.serverUUID o.trxID.toUInt64).gtidSetsMap ≠
      ma.ckpt.gtidSetsMap := by
  intro heq
  have hlook : ma.ckpt.gtidSetsMap.lookup o.serverUUID = some o.trxID.toUInt64 := by
    rw [← heq]
    exact Finmap.lookup_insert _
  exact h.not_covers ⟨_, hlook, UInt64.le_refl _⟩

/-- The GTID leaves the batch alone. -/
lemma not_flushedFirst (hskip : ma.gtidSkip = false) (hs : ma.state = .xid)
    (hcont : Continues ma.ckpt.gtidSetsMap o) (hany : ¬ FlushesAnyway conf ma o) :
    ¬ FlushedFirst conf env ma o := by
  rw [FlushesAnyway, not_or, not_not] at hany
  obtain ⟨hfull, hlc⟩ := hany
  have hstate : (takes (.gtid o) ma).state = .xid := (takes_state hskip).trans hs
  have hforce : evaluateForceMergeCommit conf (stamped (takes (.gtid o) ma)) = false :=
    Bool.eq_false_iff.mpr ((evaluateForceMergeCommit_stamped conf _).not.mpr hfull)
  have hsettle : settle env "gtid" false (stamped (takes (.gtid o) ma)) =
      (.ok (), stamped (takes (.gtid o) ma)) := by
    have hstate' : (stamped (takes (.gtid o) ma)).state = .xid := hstate
    simp [settle, Prog.bind_apply, hstate']
  have hcont' : Continues (stamped (takes (.gtid o) ma)).ckpt.gtidSetsMap o := hcont
  have hlc' : { stamped (takes (.gtid o) ma) with gtidSkip := false }.lastCommitted =
    o.lastCommitted := hlc
  have hstart : MysqlApplier.start conf env (.gtid o) ma = _ := start_gtid_eq conf o ma
  rw [hforce, Prog.bind_of_ok hsettle, bind_setState_apply, onGTID_of_continues hcont',
    acceptGTID_of_eq hlc'] at hstart
  intro h
  rw [FlushedFirst, hstart] at h
  obtain ⟨r₁, r₂, hlog⟩ := h hcont.set_ne
  have hlen := congrArg List.length hlog
  simp [MysqlApplier.finish, thenState, continues, stamped, takes, emit, checkpointEvents] at hlen

/-- Without a batch a GTID makes no call. -/
lemma onGTID_log_of_pending (hp : ma.pendingCommitCount = 0) :
    (onGTID env o ma).2.log = ma.log := by
  have hdecided : Decided env o ma (onGTID env o ma) := Decided.of_onGTID o ma
  cases hdecided with
  | skip hcov result | miss last hlast hlt hgap result => rw [result]
  | accept hcont ma₁ hm result =>
    rw [result]
    rcases hm with rfl | hm
    · rfl
    · have hlog := hm.log_eq hp
      exact hlog
  | stopped hcont e ma₁ hm result =>
    rw [result]
    have hlog := hm.log_eq hp
    exact hlog

/-- A GTID of another commit interval flushes the batch, or is not recorded. -/
lemma onGTID_log_of_ne (hcont : Continues ma.ckpt.gtidSetsMap o)
    (hset : (onGTID env o ma).2.ckpt.gtidSetsMap ≠ ma.ckpt.gtidSetsMap)
    (hp : 1 ≤ ma.pendingCommitCount) (hlc : ma.lastCommitted ≠ o.lastCommitted) :
    ∃ r₁ r₂, (onGTID env o ma).2.log =
      ma.log ++ .call .commit .ok :: checkpointEvents ma r₁ r₂ := by
  rw [onGTID_of_continues hcont] at hset ⊢
  have hlc' : { ma with gtidSkip := false }.lastCommitted ≠ o.lastCommitted := hlc
  have hmerged := Merged.of_mergeCommit env { ma with gtidSkip := false }
  rcases hm : mergeCommit env { ma with gtidSkip := false } with ⟨e | ⟨⟩, ma₁⟩
  · -- the flush fails, and the GTID is not recorded
    have hstop : acceptGTID env o { ma with gtidSkip := false } = (.error e, ma₁) := by
      simp [acceptGTID, Prog.bind_apply, hlc, hm]
    rw [hstop] at hset
    rw [hm] at hmerged
    exact absurd (congrArg Checkpoint.gtidSetsMap hmerged.keeps.ckpt) hset
  · rw [acceptGTID_of_ne hlc' hm]
    rw [hm] at hmerged
    exact hmerged.exists_log_eq hp

/-- A GTID that is full or of another commit interval flushes the batch before it is recorded. -/
lemma flushedFirst_of_flushesAnyway (hskip : ma.gtidSkip = false) (hs : ma.state = .xid)
    (hp : 1 ≤ ma.pendingCommitCount)
    (hany : Continues ma.ckpt.gtidSetsMap o → FlushesAnyway conf ma o) :
    FlushedFirst conf env ma o := by
  have hstate : (takes (.gtid o) ma).state = .xid := (takes_state hskip).trans hs
  intro hset
  have hturn := TurnGTID.of_start conf env o ma
  cases hturn with
  | refused hs' e result => simp [hstate, resting] at hs'
  | settle hs' e ma₁ h result =>
    rw [result] at hset
    exact absurd (congrArg Checkpoint.gtidSetsMap h.keeps.ckpt) hset
  | decided hs' ma₁ h x₂ h₂ result =>
    have hckpt : ma₁.ckpt = ma.ckpt := h.keeps.ckpt
    rw [result] at hset ⊢
    rw [(finish_frame _ _).1, thenState_ckpt, ← hckpt, ← h₂] at hset
    rw [finish_log, thenState_log, ← h₂]
    have hcont : Continues ma₁.ckpt.gtidSetsMap o := by
      have hdecided : Decided env o ma₁ (onGTID env o ma₁) := Decided.of_onGTID o ma₁
      cases hdecided with
      | skip hcov result | miss last hlast hlt hgap result =>
        rw [result] at hset
        exact absurd rfl hset
      | accept hcont ma₂ hm result => exact hcont
      | stopped hcont e ma₂ hm result => exact hcont
    have hflushes : FlushesAnyway conf ma o := hany (hckpt ▸ hcont)
    have htakes : ma.log ++ [.receive (.gtid o)] = (stamped (takes (.gtid o) ma)).log := rfl
    cases h with
    | idle hs result =>
      obtain ⟨-, rfl⟩ := Prod.mk.inj result
      have hforce := hs.resolve_left (by simp [stamped, hstate])
      have hfull := (evaluateForceMergeCommit_stamped conf _).not.mp
        (Bool.eq_false_iff.mp hforce.2)
      obtain ⟨r₁, r₂, hlog⟩ := onGTID_log_of_ne hcont hset hp (hflushes.resolve_left hfull)
      exact ⟨r₁, r₂, by rw [hlog, ← htakes, List.append_assoc]; rfl⟩
    | checkpointed hs r₁ r₂ result => simp [stamped, hstate] at hs
    | merged hs hforce hm =>
      obtain ⟨r₁, r₂, hlog⟩ := hm.exists_log_eq hp
      refine ⟨r₁, r₂, ?_⟩
      rw [onGTID_log_of_pending hm.pending_eq_zero, hlog, ← htakes, List.append_assoc]
      rfl

/-- In the state `xid` there is a batch. -/
lemma pending_of_start (hxid : ma.state = .xid → 1 ≤ ma.pendingCommitCount)
    (hstart : MysqlApplier.start conf env op ma = (.ok (), ma₁)) (hs : ma₁.state = .xid) :
    1 ≤ ma₁.pendingCommitCount := by
  have hturn := Turn.of_start conf env op ma
  rw [hstart] at hturn
  cases hturn with
  | skipped hskip hop result =>
    obtain ⟨-, rfl⟩ := Prod.mk.inj result
    exact hxid hs
  | taken hnot x₁ hd result =>
    obtain ⟨ma₂, rfl, rfl⟩ := finish_eq_ok result
    rw [finish_pending]
    rw [finish_state] at hs
    cases hd with
    | binLogPos o hop result =>
      obtain ⟨-, rfl⟩ := Prod.mk.inj result
      subst hop
      have hstate : (takes (.binLogPos o) ma).state = ma.state := takes_state (hnot rfl)
      exact hxid (hstate.symm.trans hs)
    | heartbeat o hop hs' x₁ hset result | begin o hop hs' hp x₁ hset result
    | dmlExec hop hs' query hq htx x₁ hset result =>
      obtain ⟨ma₃, rfl, rfl⟩ := thenState_eq_ok result
      simp at hs
    | gtid o hop hs' force ma₃ hset x₂ h₂ result =>
      obtain ⟨ma₄, rfl, rfl⟩ := thenState_eq_ok result
      simp at hs
    | nonDML hop hs' hq ma₃ hm result =>
      obtain ⟨-, rfl⟩ := Prod.mk.inj result
      cases op <;> simp [nonDMLState] at hs
    | nonDMLExec hop hs' schemaContext query hq ma₃ hm x₂ h₂ result =>
      obtain ⟨ma₄, rfl, rfl⟩ := thenState_eq_ok result
      cases op <;> simp [nonDMLState] at hs
    | beginMerged o hop hs' hp result | dml hop hs' hp result =>
      obtain ⟨-, rfl⟩ := Prod.mk.inj result
      simp at hs
    | xid o hop hs' result =>
      obtain ⟨-, rfl⟩ := Prod.mk.inj result
      exact Nat.succ_pos _
    | _ => simp_all

lemma pending_of_run {as : List MysqlOperation}
    (hrun : run conf env as (newMysqlApplier ckpt) = (.ok (), ma)) (hs : ma.state = .xid) :
    1 ≤ ma.pendingCommitCount := by
  induction as using List.reverseRecOn generalizing ma with
  | nil =>
    obtain ⟨-, rfl⟩ := Prod.mk.inj hrun
    simp [newMysqlApplier] at hs
  | append_singleton as op ih =>
    rcases has' : run conf env as (newMysqlApplier ckpt) with ⟨e | ⟨⟩, ma'⟩
    · rw [run, Prog.forEach_append_of_error has'] at hrun
      simp at hrun
    · rw [run, Prog.forEach_concat_of_ok has'] at hrun
      exact pending_of_start (ih has') hrun hs

end

/-- The limit on the delay is enforced in a run exactly when every GTID that finds an overdue batch
and is to be recorded flushes the batch for another reason. -/
theorem delayEnforced_iff (conf : Settings) (env : Env) (ckpt : Checkpoint)
    (opers : List MysqlOperation) :
    DelayEnforced conf env ckpt opers ↔ ∀ n o ma, ArrivesLate conf env ckpt opers n o ma →
      Continues ma.ckpt.gtidSetsMap o → FlushesAnyway conf ma o := by
  have hskip {n : ℕ} {o : MysqlOperationGTID} {ma : MysqlApplier}
      (h : ArrivesLate conf env ckpt opers n o ma) : ma.gtidSkip = false := by
    rw [Bool.eq_false_iff]
    intro hskip
    have hgtid := (tracks_run (List.take_prefix n opers) h.run).skipping hskip
    simp [h.state] at hgtid
  constructor
  · intro h n o ma hlate hcont
    by_contra hany
    exact not_flushedFirst (hskip hlate) hlate.state hcont hany (h n o ma hlate)
  · intro h n o ma hlate
    exact flushedFirst_of_flushesAnyway (hskip hlate) hlate.state
      (pending_of_run hlate.run hlate.state) (h n o ma hlate)

/-- The third GTID of `slowRows` finds two transactions pending that are twenty seconds late, and
with a limit of five seconds it is recorded all the same while the batch stays open. -/
theorem not_delayEnforced_slowRows :
    ¬ ∀ (conf : Settings) (env : Env) (ckpt : Checkpoint) (opers : List MysqlOperation),
      WellFormed opers → (opers.map MysqlOperation.getTimestamp).Pairwise (· ≤ ·) →
      1 ≤ conf.mergeCommitMaxDelay → DelayEnforced conf env ckpt opers := by
  intro h
  have hdelay := h { Settings.unrestricted with mergeCommitMaxDelay := 5 } (fun _ _ => .ok)
    ⟨∅, "", 0⟩ slowRows (by decide) (by decide) (by decide)
  exact not_flushedFirst (by decide) (by decide) (.inr ⟨2, by decide, by decide, by decide⟩)
    (by decide) (hdelay 8 ⟨1, 1, 30, "u", 3⟩ _
      ⟨rfl, rfl, by decide, 30, 10, by decide, by decide, by decide⟩)

end MysqlSync

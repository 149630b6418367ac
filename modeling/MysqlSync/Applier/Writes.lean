import MysqlSync.Applier.Turn

/-!
# What a turn emits

The events a turn appends to the log are frames of transactions, the statement of its operation
and writes of the checkpoint the turn begins with (`emits_start`). So a turn writes no other map
than the one the applier holds when it begins (`writesOnly_start`), and every map ever written is
one the applier held between two turns (`exists_run_of_mem_log`).
-/

namespace MysqlSync

open MysqlApplier

/-- The events that write the map to Consul. -/
def Event.isWrite : Event → Bool
  | .call (.putGtidsets _) _ => true
  | _ => false

lemma World.after_of_not_isWrite {e : Event} (he : e.isWrite = false) (w : World) :
    (w.after e).gtidsets = w.gtidsets ∧ ∀ e' ∈ w.committed, e' ∈ (w.after e).committed := by
  cases e with
  | receive oper => exact ⟨rfl, fun _ h => h⟩
  | call c r =>
    cases c with
    | commit => cases r <;> simp +contextual [World.after]
    | exec st =>
      simp only [World.after]
      split_ifs <;> exact ⟨rfl, fun _ h => h⟩
    | putGtidsets m => simp [Event.isWrite] at he
    | begin => cases r <;> exact ⟨rfl, fun _ h => h⟩
    | rollback => cases r <;> exact ⟨rfl, fun _ h => h⟩
    | putBinlogpos f p => cases r <;> exact ⟨rfl, fun _ h => h⟩

/-- An event adds its own statement to the open transaction and nothing else. -/
lemma World.mem_opened_after {w : World} {e : Event} {entry : Entry}
    (h : entry ∈ (w.after e).opened) :
    entry ∈ w.opened ∨ ∃ st r, e = .call (.exec st) r ∧ st.isData = true ∧
      entry = ⟨w.received - 1, st, r⟩ := by
  simp only [World.opened] at h ⊢
  cases e with
  | receive oper => exact .inl h
  | call c r =>
    cases c with
    | exec st =>
      simp only [World.after] at h
      split_ifs at h with hst
      · cases htx : w.tx with
        | none => simp [htx] at h
        | some l =>
          simp only [htx, Option.map_some, Option.getD_some, List.mem_append,
            List.mem_singleton] at h
          rcases h with h | h
          · exact .inl h
          · exact .inr ⟨st, r, rfl, hst, h⟩
      · exact .inl h
    | _ => cases r <;> simp_all [World.after]

lemma World.received_after {w : World} {e : Event} (he : ∀ oper, e ≠ .receive oper) :
    (w.after e).received = w.received := by
  cases e with
  | receive oper => exact absurd rfl (he oper)
  | call c r =>
    cases c with
    | exec st =>
      simp only [World.after]
      split_ifs <;> rfl
    | _ => cases r <;> rfl

section

variable {conf : Settings} {env : Env} {ma ma₁ : MysqlApplier} {op : MysqlOperation} {x : Ending}

@[simp] lemma thenState_log (x : Ending) (s : State) : (thenState x s).2.log = x.2.log := by
  rcases x with ⟨_ | ⟨⟩, _⟩ <;> rfl

lemma thenState_ckpt (x : Ending) (s : State) : (thenState x s).2.ckpt = x.2.ckpt := by
  rcases x with ⟨_ | ⟨⟩, _⟩ <;> rfl

@[simp] lemma finish_log (x : Ending) : (MysqlApplier.finish op x).2.log = x.2.log := by
  obtain ⟨ts, heq⟩ := MysqlApplier.exists_finish_eq op x
  rw [heq]

/-! ### What an action emits -/

/-- All events appended to the log of `ma` satisfy `P`. -/
def Emits (P : Event → Prop) (ma : MysqlApplier) (x : Ending) : Prop :=
  ∃ l, x.2.log = ma.log ++ l ∧ ∀ e ∈ l, P e

/-- The calls that open and end a transaction and set up its session. -/
def Event.isFrame : Event → Bool
  | .call .begin _ | .call .commit _ | .call .rollback _ => true
  | .call (.exec st) _ => !st.isData
  | _ => false

/-- The events of a turn that begins with the checkpoint `ckpt`, after its operation is received:
frames of transactions, the statement of the operation, and writes of that checkpoint. -/
inductive Emitted (conf : Settings) (op : MysqlOperation) (ckpt : Checkpoint) : Event → Prop where
  | frame {e : Event} (h : e.isFrame = true) : Emitted conf op ckpt e
  | exec {st : Statement} (r : Reply) (h : MysqlApplier.statement conf op = .ok (some st)) :
      Emitted conf op ckpt (.call (.exec st) r)
  | putGtidsets (r : Reply) : Emitted conf op ckpt (.call (.putGtidsets ckpt.gtidSetsMap) r)
  | putBinlogpos (r : Reply) :
      Emitted conf op ckpt (.call (.putBinlogpos ckpt.binLogFile ckpt.binLogPos) r)

lemma Emitted.ne_receive {ckpt : Checkpoint} {e : Event} (h : Emitted conf op ckpt e)
    (oper : MysqlOperation) : e ≠ .receive oper := by
  rintro rfl
  cases h with
  | frame h => simp [Event.isFrame] at h

variable {P Q : Event → Prop}

lemma Emits.refl (h : x.2.log = ma.log) : Emits P ma x :=
  ⟨[], by rw [h, List.append_nil], by simp⟩

lemma Emits.trans {y : Ending} (h : Emits P ma x) (h' : Emits P x.2 y) : Emits P ma y := by
  obtain ⟨l, hl, hev⟩ := h
  obtain ⟨l', hl', hev'⟩ := h'
  refine ⟨l ++ l', by rw [hl', hl, List.append_assoc], fun e he => ?_⟩
  rcases List.mem_append.mp he with he | he
  · exact hev e he
  · exact hev' e he

lemma Emits.mono (h : Emits P ma x) (hPQ : ∀ e, P e → Q e) : Emits Q ma x := by
  obtain ⟨l, hl, hev⟩ := h
  exact ⟨l, hl, fun e he => hPQ e (hev e he)⟩

lemma isFrame_begin {l : List Event} (hl : MysqlClient.AllSession l) :
    ∀ e ∈ Event.call .begin .ok :: l, e.isFrame = true := by
  intro e he
  rcases List.mem_cons.mp he with rfl | he
  · rfl
  · obtain ⟨n, v, r, rfl⟩ := hl e he
    rfl

lemma isFrame_openEvents (schemaContext : String) :
    ∀ e ∈ MysqlClient.openEvents conf schemaContext, e.isFrame = true := by
  intro e he
  rw [MysqlClient.openEvents, List.mem_append] at he
  rcases he with he | he
  · exact isFrame_begin (MysqlClient.allSession_sessionEvents _) e he
  · rw [MysqlClient.useEvents] at he
    split_ifs at he
    · exact absurd he List.not_mem_nil
    · rw [List.mem_singleton.mp he]
      rfl

lemma emits_of_began (h : MysqlClient.Began conf env ma x) :
    Emits (fun e => e.isFrame = true) ma x := by
  cases h with
  | ok htx result =>
    subst result
    exact ⟨_, rfl, isFrame_begin (MysqlClient.allSession_sessionEvents _)⟩
  | already htx result =>
    subst result
    exact .refl rfl
  | refused htx r hr henv result =>
    subst result
    exact ⟨_, rfl, by simp [Event.isFrame]⟩
  | session htx l param r hr henv hl result =>
    subst result
    exact ⟨_, rfl, isFrame_begin hl⟩

/-- The frames and the statement itself. -/
def Event.Executes (st : Statement) (e : Event) : Prop :=
  e.isFrame = true ∨ ∃ r, e = .call (.exec st) r

lemma emits_of_executedData {st : Statement} (h : MysqlClient.ExecutedData conf env st ma x) :
    Emits (Event.Executes st) ma x := by
  cases h with
  | ok r hr result =>
    subst result
    exact ⟨_, rfl, by simp [Event.Executes]⟩
  | failed r hr henv e r' result =>
    subst result
    exact ⟨_, rfl, by simp [Event.Executes, Event.isFrame]⟩

lemma emits_of_executedNonDML {schemaContext query : String}
    (h : MysqlClient.ExecutedNonDML conf env schemaContext query ma x) :
    Emits (Event.Executes (.nonDML query)) ma x := by
  have hopen {l : List Event} (hl : ∀ e ∈ l, e.Executes (.nonDML query)) :
      ∀ e ∈ MysqlClient.openEvents conf schemaContext ++ l, e.Executes (.nonDML query) := by
    intro e he
    rcases List.mem_append.mp he with he | he
    · exact .inl (isFrame_openEvents schemaContext e he)
    · exact hl e he
  cases h with
  | ok htx r hr result =>
    subst result
    exact ⟨_, rfl, hopen (by simp [Event.Executes, Event.isFrame])⟩
  | began e ma' hb result =>
    subst result
    exact (emits_of_began hb).mono fun e he => .inl he
  | use htx r hr henv e r' result =>
    subst result
    refine ⟨_, rfl, fun e he => .inl ?_⟩
    rcases List.mem_append.mp he with he | he
    · exact isFrame_begin (MysqlClient.allSession_sessionEvents _) e he
    · simp only [List.mem_cons, List.not_mem_nil, or_false] at he
      rcases he with rfl | rfl <;> rfl
  | failed htx r hr henv e r' result =>
    subst result
    exact ⟨_, rfl, hopen (by simp [Event.Executes, Event.isFrame])⟩
  | commit htx r hr r' hr' henv result =>
    subst result
    exact ⟨_, rfl, hopen (by simp [Event.Executes, Event.isFrame])⟩

variable (conf op) in
lemma emits_of_merged (h : Merged env ma x) : Emits (Emitted conf op ma.ckpt) ma x := by
  cases h with
  | idle h result =>
    subst result
    exact .refl rfl
  | flushed h htx r₁ r₂ result =>
    subst result
    refine ⟨_, rfl, fun e he => ?_⟩
    simp only [checkpointEvents, List.mem_cons, List.not_mem_nil, or_false] at he
    rcases he with rfl | rfl | rfl
    · exact .frame rfl
    · exact .putGtidsets r₁
    · exact .putBinlogpos r₂
  | missing h htx result =>
    subst result
    exact .refl rfl
  | refused h htx r hr henv result =>
    subst result
    refine ⟨_, rfl, fun e he => ?_⟩
    rw [List.mem_singleton.mp he]
    exact .frame rfl

variable (conf op) in
lemma emits_of_settled {force : Bool} (h : Settled env force ma x) :
    Emits (Emitted conf op ma.ckpt) ma x := by
  cases h with
  | idle hs result =>
    subst result
    exact .refl rfl
  | checkpointed hs r₁ r₂ result =>
    subst result
    refine ⟨_, rfl, fun e he => ?_⟩
    simp only [checkpointEvents, List.mem_cons, List.not_mem_nil, or_false] at he
    rcases he with rfl | rfl
    · exact .putGtidsets r₁
    · exact .putBinlogpos r₂
  | merged hs hforce h => exact emits_of_merged conf op h

variable (conf op) in
lemma emits_of_decided {o : MysqlOperationGTID} (h : Decided env o ma x) :
    Emits (Emitted conf op ma.ckpt) ma x := by
  cases h with
  | skip h result =>
    subst result
    exact .refl rfl
  | miss last hlast hlt hgap result =>
    subst result
    exact .refl rfl
  | accept h ma₁ hm result =>
    subst result
    rcases hm with rfl | hm
    · exact .refl rfl
    · have hw := emits_of_merged conf op hm
      exact hw
  | stopped h e ma₁ hm result =>
    subst result
    have hw := emits_of_merged conf op hm
    exact hw

lemma Emits.thenState (h : Emits P ma x) (s : State) : Emits P ma (thenState x s) := by
  rwa [Emits, thenState_log]

lemma Event.Executes.emitted {st : Statement} (hst : MysqlApplier.statement conf op = .ok (some st))
    (ckpt : Checkpoint) (e : Event) (he : e.Executes st) : Emitted conf op ckpt e := by
  rcases he with he | ⟨r, rfl⟩
  · exact .frame he
  · exact .exec r hst

lemma emits_of_dispatched (h : Dispatched conf env op ma x) :
    Emits (Emitted conf op ma.ckpt) ma x := by
  cases h with
  | heartbeat o hop hs x₁ h result =>
    subst result
    have hw := emits_of_settled conf op h
    exact hw.thenState .null
  | gtidSettle o hop hs force e ma₁ h result =>
    subst result
    have hw := emits_of_settled conf op h
    exact hw
  | gtid o hop hs force ma₁ h x₂ h₂ result =>
    subst result
    have hw₁ := emits_of_settled conf op h
    have hw₂ := emits_of_decided conf op h₂
    rw [h.keeps.ckpt] at hw₂
    exact (Emits.trans hw₁ hw₂).thenState .gtid
  | nonDMLMerge hop hs e ma₁ h result =>
    subst result
    exact emits_of_merged conf op h
  | nonDML hop hs hq ma₁ h result =>
    subst result
    have hw := emits_of_merged conf op h
    exact hw
  | nonDMLExec hop hs schemaContext query hq ma₁ h x₂ h₂ result =>
    subst result
    have hst := statement_of_nonDMLQuery conf hq
    exact ((emits_of_merged conf op h).trans
      ((emits_of_executedNonDML h₂).mono (Event.Executes.emitted hst ma.ckpt))).thenState _
  | begin o hop hs hp x₁ h result =>
    subst result
    exact ((emits_of_began h).mono fun e he => .frame he).thenState .begin
  | dmlExec hop hs query hq htx x₁ h result =>
    subst result
    have hst : MysqlApplier.statement conf op = .ok (some (.dml query)) := by
      rw [statement_of_isDML conf hop, hq]
      rfl
    exact ((emits_of_executedData h).mono (Event.Executes.emitted hst ma.ckpt)).thenState .dml
  | _ =>
    subst x
    exact .refl rfl

variable (conf env) in
/-- What a turn appends to the log. -/
theorem emits_start (op : MysqlOperation) (ma : MysqlApplier) :
    Emits (Emitted conf op ma.ckpt) (ma.emit [.receive op])
      (MysqlApplier.start conf env op ma) := by
  cases Turn.of_start conf env op ma with
  | skipped hskip hop result =>
    rw [result]
    exact .refl rfl
  | taken hnot x₁ h result =>
    rw [result, Emits, finish_log]
    have hw := emits_of_dispatched h
    exact hw

/-! ### Writes of the map -/

lemma isWrite_of_isFrame {e : Event} (he : e.isFrame = true) : e.isWrite = false := by
  cases e with
  | receive oper => rfl
  | call c r => cases c <;> first | rfl | simp [Event.isFrame] at he

/-- The events appended to the log of `ma` do not write the map. -/
def WritesNothing (ma : MysqlApplier) (x : Ending) : Prop :=
  ∃ l, x.2.log = ma.log ++ l ∧ ∀ e ∈ l, e.isWrite = false

lemma writesNothing_of_began (h : MysqlClient.Began conf env ma x) : WritesNothing ma x :=
  (emits_of_began h).mono fun _ he => isWrite_of_isFrame he

lemma isWrite_of_executes {st : Statement} (e : Event) (he : e.Executes st) :
    e.isWrite = false := by
  rcases he with he | ⟨r, rfl⟩
  · exact isWrite_of_isFrame he
  · rfl

lemma writesNothing_of_executedData {st : Statement}
    (h : MysqlClient.ExecutedData conf env st ma x) : WritesNothing ma x :=
  (emits_of_executedData h).mono isWrite_of_executes

lemma writesNothing_of_executedNonDML {schemaContext query : String}
    (h : MysqlClient.ExecutedNonDML conf env schemaContext query ma x) : WritesNothing ma x :=
  (emits_of_executedNonDML h).mono isWrite_of_executes

variable {written : GtidSetsMap}

/-- Every map written by the events appended to the log of `ma` is `written`. -/
def WritesOnly (written : GtidSetsMap) (ma : MysqlApplier) (x : Ending) : Prop :=
  ∃ l, x.2.log = ma.log ++ l ∧
    ∀ e ∈ l, e.isWrite = true → ∃ r, e = .call (.putGtidsets written) r

variable (conf env) in
/-- A turn writes no other map than the one the applier holds when it begins. -/
lemma writesOnly_start (op : MysqlOperation) (ma : MysqlApplier) :
    WritesOnly ma.ckpt.gtidSetsMap ma (MysqlApplier.start conf env op ma) := by
  have hreceive : Emits (fun e => e.isWrite = true →
      ∃ r, e = .call (.putGtidsets ma.ckpt.gtidSetsMap) r) ma (.ok (), ma.emit [.receive op]) :=
    ⟨_, rfl, by simp [Event.isWrite]⟩
  refine hreceive.trans ((emits_start conf env op ma).mono fun e he hw => ?_)
  cases he with
  | frame h => simp [isWrite_of_isFrame h] at hw
  | exec r h => simp [Event.isWrite] at hw
  | putGtidsets r => exact ⟨r, rfl⟩
  | putBinlogpos r => simp [Event.isWrite] at hw

/-- Every map ever written is one the applier held between two turns. -/
theorem exists_run_of_mem_log {ckpt : Checkpoint} {opers : List MysqlOperation} {r : Reply}
    (h : .call (.putGtidsets written) r ∈ (run conf env opers (newMysqlApplier ckpt)).2.log) :
    ∃ as ma, as <+: opers ∧ run conf env as (newMysqlApplier ckpt) = (.ok (), ma) ∧
      ma.ckpt.gtidSetsMap = written := by
  revert h
  refine Prog.forEach_induction (P := fun as _ (ma : MysqlApplier) =>
    .call (.putGtidsets written) r ∈ ma.log → ∃ as' ma', as' <+: as ∧
      run conf env as' (newMysqlApplier ckpt) = (.ok (), ma') ∧
      ma'.ckpt.gtidSetsMap = written) ?_ ?_ ?_ opers
  · intro h
    exact absurd h List.not_mem_nil
  · intro as op ma hrun ih h
    obtain ⟨l, hl, hev⟩ := writesOnly_start conf env op ma
    rw [hl] at h
    rcases List.mem_append.mp h with h | h
    · obtain ⟨as', ma', hpre, hrun', hmap⟩ := ih h
      exact ⟨as', ma', hpre.trans (List.prefix_append as [op]), hrun', hmap⟩
    · obtain ⟨r', heq⟩ := hev _ h rfl
      have hmap : ma.ckpt.gtidSetsMap = written ∧ r' = r := by simpa using heq.symm
      exact ⟨as, ma, List.prefix_append as [op], hrun, hmap.1⟩
  · intro as op e ma hrun ih h
    obtain ⟨as', ma', hpre, hrun', hmap⟩ := ih h
    exact ⟨as', ma', hpre.trans (List.prefix_append as [op]), hrun', hmap⟩

end

end MysqlSync

import MysqlSync.Applier.Durability

/-!
# Abandoned batches

When a row statement fails with an error that is not on the skip list, or a commit fails, the
applier stops and the batch is lost to the destination. What must not have happened by then is
that the checkpoint claims it: `Withheld` says that the map last written covers no row transaction
begun since the last commit. It is carried through a run by `Appends`, the account of the calls of
one action as far as the batch is concerned.
-/

namespace MysqlSync

open MysqlApplier

/-! ### Calls that fail -/

/-- The failures that abandon the batch: a row statement with an error that is not on the skip
list, and a commit. -/
def Event.Fails (conf : Settings) : Event → Prop
  | .call (.exec (.dml _)) r => ¬ r.Tolerated conf
  | .call .commit r => r ≠ .ok
  | _ => False

def Event.isCall : Event → Bool
  | .call _ _ => true
  | .receive _ => false

/-- The calls that open a transaction, roll one back or execute a statement that is no row change:
no failure of theirs abandons a batch. -/
def Event.isSetup : Event → Bool
  | .call .begin _ | .call .rollback _ => true
  | .call (.exec st) _ => !st.isDML
  | _ => false

/-- How the calls `l` of an action that ended as `x` fail: not at all, with a commit as the last
call, or with a row statement that is followed by its rollback. -/
inductive Failing (conf : Settings) (x : Ending) (l : List Event) : Prop where
  | none (h : ∀ e ∈ l, ¬ e.Fails conf)
  | commit (l' : List Event) (h : ∀ e ∈ l', ¬ e.Fails conf) (r : Reply)
      (hl : l = l' ++ [.call .commit r]) (hx : x.1 = .error (.database r))
  | dml (l' : List Event) (h : ∀ e ∈ l', ¬ e.Fails conf) (query : Query) (r r' r'' : Reply)
      (hl : l = l' ++ [.call (.exec (.dml query)) r, .call .rollback r'])
      (htx : x.2.tx = r'.isError) (hx : x.1 = .error (.database r''))

/-- What the calls `l` do to the batch: commit it, or leave it as it is. A checkpoint without a
commit is written only while no transaction is open. -/
inductive Batched (ma : MysqlApplier) (x : Ending) (l : List Event) : Prop where
  | committed (h : .call .commit .ok ∈ l)
  | kept (h : .call .commit .ok ∉ l) (hw : (∀ e ∈ l, e.isWrite = false) ∨ ma.tx = false)
      (htx : x.1 = .ok () → x.2.tx = false → ma.tx = false)

/-- The calls of an action that begins with `ma` and ends as `x`. -/
structure Appends (conf : Settings) (ma : MysqlApplier) (x : Ending) (l : List Event) : Prop where
  log : x.2.log = ma.log ++ l
  calls : ∀ e ∈ l, e.isCall = true
  failing : Failing conf x l
  batched : Batched ma x l

section

variable {conf : Settings} {env : Env} {ma ma₁ : MysqlApplier} {x : Ending} {l l₁ l₂ : List Event}

/-! ### Putting actions together -/

lemma Failing.of_ok (h : Failing conf (.ok (), ma) l) : ∀ e ∈ l, ¬ e.Fails conf := by
  cases h with
  | none h => exact h
  | commit l' h r hl hx => cases hx
  | dml l' h query r r' r'' hl htx hx => cases hx

lemma Failing.append_left (h₁ : ∀ e ∈ l₁, ¬ e.Fails conf) (h : Failing conf x l₂) :
    Failing conf x (l₁ ++ l₂) := by
  have happend {l' : List Event} (h' : ∀ e ∈ l', ¬ e.Fails conf) :
      ∀ e ∈ l₁ ++ l', ¬ e.Fails conf := by
    intro e he
    rcases List.mem_append.mp he with he | he
    · exact h₁ e he
    · exact h' e he
  cases h with
  | none h => exact .none (happend h)
  | commit l' h r hl hx => exact .commit _ (happend h) r (by rw [hl, List.append_assoc]) hx
  | dml l' h query r r' r'' hl htx hx =>
    exact .dml _ (happend h) query r r' r'' (by rw [hl, List.append_assoc]) htx hx

lemma Batched.append (h₁ : Batched ma (.ok (), ma₁) l₁) (h₂ : Batched ma₁ x l₂) :
    Batched ma x (l₁ ++ l₂) := by
  cases h₁ with
  | committed h => exact .committed (List.mem_append_left _ h)
  | kept h₁ hw₁ htx₁ =>
    cases h₂ with
    | committed h => exact .committed (List.mem_append_right _ h)
    | kept h₂ hw₂ htx₂ =>
      refine .kept (fun h => (List.mem_append.mp h).elim h₁ h₂) ?_ fun hx htx =>
        htx₁ rfl (htx₂ hx htx)
      rcases hw₁ with hw₁ | hclosed
      · rcases hw₂ with hw₂ | hclosed
        · exact .inl fun e he => (List.mem_append.mp he).elim (hw₁ e) (hw₂ e)
        · exact .inr (htx₁ rfl hclosed)
      · exact .inr hclosed

lemma Appends.trans (h₁ : Appends conf ma (.ok (), ma₁) l₁) (h₂ : Appends conf ma₁ x l₂) :
    Appends conf ma x (l₁ ++ l₂) where
  log := by rw [h₂.log, h₁.log, List.append_assoc]
  calls := fun e he => (List.mem_append.mp he).elim (h₁.calls e) (h₂.calls e)
  failing := h₂.failing.append_left h₁.failing.of_ok
  batched := h₁.batched.append h₂.batched

lemma Appends.refl (hlog : x.2.log = ma.log) (htx : x.2.tx = ma.tx) : Appends conf ma x [] where
  log := by rw [hlog, List.append_nil]
  calls := by simp
  failing := .none (by simp)
  batched := .kept (by simp) (.inl (by simp)) fun _ h => htx ▸ h

/-- Only the result, the logs and the handles matter. -/
lemma Appends.congr {ma' : MysqlApplier} {y : Ending} (h : Appends conf ma x l)
    (hlog₀ : ma'.log = ma.log) (htx₀ : ma'.tx = ma.tx) (hresult : y.1 = x.1)
    (hlog : y.2.log = x.2.log) (htx : y.2.tx = x.2.tx) : Appends conf ma' y l where
  log := by rw [hlog, h.log, hlog₀]
  calls := h.calls
  failing := by
    cases h.failing with
    | none h => exact .none h
    | commit l' h r hl hx => exact .commit l' h r hl (hresult.trans hx)
    | dml l' h query r r' r'' hl htx' hx =>
      exact .dml l' h query r r' r'' hl (htx.trans htx') (hresult.trans hx)
  batched := by
    cases h.batched with
    | committed h => exact .committed h
    | kept h hw htx' =>
      rw [← htx₀] at hw htx'
      exact .kept h hw fun hx hy => htx' (hresult ▸ hx) (htx ▸ hy)

lemma Appends.thenState (h : Appends conf ma x l) (s : State) :
    Appends conf ma (MysqlApplier.thenState x s) l := by
  refine h.congr rfl rfl ?_ (thenState_log x s) ?_
  · rcases x with ⟨_ | ⟨⟩, _⟩ <;> rfl
  · rcases x with ⟨_ | ⟨⟩, _⟩ <;> rfl

lemma Appends.finish (h : Appends conf ma x l) (op : MysqlOperation) :
    Appends conf ma (MysqlApplier.finish op x) l := by
  obtain ⟨ts, heq⟩ := exists_finish_eq op x
  rw [heq]
  exact h.congr rfl rfl rfl rfl rfl

/-! ### The actions -/

variable (conf) in
lemma Event.isSetup_frame {e : Event} (he : e.isSetup = true) :
    e.isCall = true ∧ e.isWrite = false ∧ ¬ e.Fails conf ∧ e ≠ .call .commit .ok := by
  cases e with
  | receive oper => simp [Event.isSetup] at he
  | call c r =>
    cases c with
    | exec st => cases st <;> simp_all [Event.isSetup, Event.isCall, Event.isWrite, Event.Fails,
        Statement.isDML]
    | _ => simp_all [Event.isSetup, Event.isCall, Event.isWrite, Event.Fails]

lemma appends_of_setup (hlog : x.2.log = ma.log ++ l) (hl : ∀ e ∈ l, e.isSetup = true)
    (htx : x.1 = .ok () → x.2.tx = false → ma.tx = false) : Appends conf ma x l where
  log := hlog
  calls := fun e he => (Event.isSetup_frame conf (hl e he)).1
  failing := .none fun e he => (Event.isSetup_frame conf (hl e he)).2.2.1
  batched := .kept (fun h => (Event.isSetup_frame conf (hl _ h)).2.2.2 rfl)
    (.inl fun e he => (Event.isSetup_frame conf (hl e he)).2.1) htx

lemma isSetup_of_allSession (hl : MysqlClient.AllSession l) : ∀ e ∈ l, e.isSetup = true := by
  intro e he
  obtain ⟨n, v, r, rfl⟩ := hl e he
  rfl

lemma isSetup_begin (r : Reply) (hl : MysqlClient.AllSession l) :
    ∀ e ∈ Event.call .begin r :: l, e.isSetup = true := by
  intro e he
  rcases List.mem_cons.mp he with rfl | he
  · rfl
  · exact isSetup_of_allSession hl e he

/-- What precedes the statement of a transaction of its own. -/
lemma isSetup_openEvents (schemaContext : String) :
    ∀ e ∈ MysqlClient.openEvents conf schemaContext, e.isSetup = true := by
  intro e he
  rw [MysqlClient.openEvents, List.mem_append] at he
  rcases he with he | he
  · exact isSetup_begin .ok (MysqlClient.allSession_sessionEvents _) e he
  · rw [MysqlClient.useEvents] at he
    split_ifs at he
    · exact absurd he List.not_mem_nil
    · rw [List.mem_singleton.mp he]
      rfl

lemma exists_appends_of_began (h : MysqlClient.Began conf env ma x) :
    ∃ l, Appends conf ma x l ∧ ∀ e ∈ l, e.isSetup = true := by
  cases h with
  | ok htx result =>
    subst result
    have hl := isSetup_begin .ok (MysqlClient.allSession_sessionEvents conf.sessionParams)
    exact ⟨_, appends_of_setup rfl hl (by simp [emit]), hl⟩
  | already htx result =>
    subst result
    exact ⟨[], .refl rfl rfl, by simp⟩
  | refused htx r hr henv result =>
    subst result
    have hl : ∀ e ∈ [Event.call .begin r], e.isSetup = true := by simp [Event.isSetup]
    exact ⟨_, appends_of_setup rfl hl (by simp), hl⟩
  | session htx l param r hr henv hses result =>
    subst result
    have hl := isSetup_begin .ok hses
    exact ⟨_, appends_of_setup rfl hl (by simp), hl⟩

lemma exists_appends_of_executedData {query : Query}
    (h : MysqlClient.ExecutedData conf env (.dml query) ma x) : ∃ l, Appends conf ma x l := by
  cases h with
  | ok r hr result =>
    subst result
    refine ⟨_, rfl, by simp [Event.isCall], .none ?_, ?_⟩
    · simpa [Event.Fails] using hr
    · exact .kept (by simp) (.inl (by simp [Event.isWrite])) fun _ h => h
  | failed r hr henv r'' r' result =>
    subst result
    refine ⟨_, rfl, by simp [Event.isCall], ?_, ?_⟩
    · exact .dml [] (by simp) query r r' r'' rfl rfl rfl
    · exact .kept (by simp) (.inl (by simp [Event.isWrite])) fun h => by cases h

/-- A transaction of its own that is committed. -/
lemma appends_of_setup_commit (hlog : x.2.log = ma.log ++ (l ++ [.call .commit .ok]))
    (hl : ∀ e ∈ l, e.isSetup = true) : Appends conf ma x (l ++ [.call .commit .ok]) where
  log := hlog
  calls := List.forall_mem_append.mpr
    ⟨fun e he => (Event.isSetup_frame conf (hl e he)).1, by simp [Event.isCall]⟩
  failing := .none (List.forall_mem_append.mpr
    ⟨fun e he => (Event.isSetup_frame conf (hl e he)).2.2.1, by simp [Event.Fails]⟩)
  batched := .committed (by simp)

/-- A transaction of its own whose commit fails. -/
lemma appends_of_setup_refused {r : Reply} (hlog : x.2.log = ma.log ++ (l ++ [.call .commit r]))
    (hl : ∀ e ∈ l, e.isSetup = true) (hr : r ≠ .ok) (hx : x.1 = .error (.database r)) :
    Appends conf ma x (l ++ [.call .commit r]) where
  log := hlog
  calls := List.forall_mem_append.mpr
    ⟨fun e he => (Event.isSetup_frame conf (hl e he)).1, by simp [Event.isCall]⟩
  failing := .commit l (fun e he => (Event.isSetup_frame conf (hl e he)).2.2.1) r rfl hx
  batched := by
    refine .kept (fun hmem => ?_) (.inl ?_) fun hok => by rw [hx] at hok; cases hok
    · rcases List.mem_append.mp hmem with hmem | hmem
      · exact (Event.isSetup_frame conf (hl _ hmem)).2.2.2 rfl
      · simp [hr.symm] at hmem
    · exact List.forall_mem_append.mpr
        ⟨fun e he => (Event.isSetup_frame conf (hl e he)).2.1, by simp [Event.isWrite]⟩

/-- A statement in a transaction of its own: its setup, the statement and its last call. -/
lemma exists_appends_of_executedNonDML {schemaContext query : String}
    (h : MysqlClient.ExecutedNonDML conf env schemaContext query ma x) :
    ∃ l, Appends conf ma x l := by
  have hsetup (r : Reply) : ∀ e ∈ MysqlClient.openEvents conf schemaContext ++
      [Event.call (.exec (.nonDML query)) r], e.isSetup = true :=
    List.forall_mem_append.mpr ⟨isSetup_openEvents schemaContext, by simp [Event.isSetup, Statement.isDML]⟩
  cases h with
  | ok htx r hr result =>
    subst result
    exact ⟨_, appends_of_setup_commit (congrArg _ (List.append_cons ..)) (hsetup r)⟩
  | began e ma' hb result =>
    subst result
    obtain ⟨l, hl, -⟩ := exists_appends_of_began hb
    exact ⟨l, hl⟩
  | use htx r hr henv r'' r' result =>
    subst result
    refine ⟨_, appends_of_setup rfl (List.forall_mem_append.mpr ⟨?_, ?_⟩) fun h => by cases h⟩
    · exact isSetup_begin .ok (MysqlClient.allSession_sessionEvents _)
    · simp [Event.isSetup, Statement.isDML]
  | failed htx r hr henv r'' r' result =>
    subst result
    refine ⟨_, appends_of_setup (congrArg _ (List.append_cons ..))
      (List.forall_mem_append.mpr ⟨hsetup r, ?_⟩) fun h => by cases h⟩
    simp [Event.isSetup]
  | commit htx r hr r' hr' henv result =>
    subst result
    exact ⟨_, appends_of_setup_refused (congrArg _ (List.append_cons ..)) (hsetup r) hr' rfl⟩

variable (conf) in
lemma checkpointEvents_frame (ma : MysqlApplier) (r₁ r₂ : Reply) :
    ∀ e ∈ checkpointEvents ma r₁ r₂,
      e.isCall = true ∧ ¬ e.Fails conf ∧ e ≠ .call .commit .ok := by
  simp [checkpointEvents, Event.isCall, Event.Fails]

variable (conf) in
lemma exists_appends_of_merged (h : Merged env ma x) : ∃ l, Appends conf ma x l := by
  cases h with
  | idle hp result =>
    subst result
    exact ⟨[], .refl rfl rfl⟩
  | flushed hp htx r₁ r₂ result =>
    subst result
    refine ⟨_, rfl, ?_, .none ?_, .committed List.mem_cons_self⟩
    · intro e he
      rcases List.mem_cons.mp he with rfl | he
      · rfl
      · exact (checkpointEvents_frame conf ma r₁ r₂ e he).1
    · intro e he
      rcases List.mem_cons.mp he with rfl | he
      · simp [Event.Fails]
      · exact (checkpointEvents_frame conf ma r₁ r₂ e he).2.1
  | missing hp htx result =>
    subst result
    exact ⟨[], .refl rfl rfl⟩
  | refused hp htx r hr henv result =>
    subst result
    refine ⟨_, rfl, by simp [Event.isCall], .commit [] (by simp) r rfl rfl, ?_⟩
    exact .kept (by simp [hr.symm]) (.inl (by simp [Event.isWrite])) (by simp)

variable (conf) in
lemma exists_appends_of_settled {force : Bool}
    (hclosed : ma.state = .ddl ∨ ma.state = .dcl → ma.tx = false)
    (h : Settled env force ma x) : ∃ l, Appends conf ma x l := by
  cases h with
  | idle hs result =>
    subst result
    exact ⟨[], .refl rfl rfl⟩
  | checkpointed hs r₁ r₂ result =>
    subst result
    have hframe := checkpointEvents_frame conf ma r₁ r₂
    refine ⟨_, rfl, fun e he => (hframe e he).1, .none fun e he => (hframe e he).2.1, ?_⟩
    exact .kept (fun h => (hframe _ h).2.2 rfl) (.inr (hclosed hs)) fun _ h => h
  | merged hs hforce hm => exact exists_appends_of_merged conf hm

variable (conf) in
lemma exists_appends_of_decided {o : MysqlOperationGTID} (h : Decided env o ma x) :
    ∃ l, Appends conf ma x l := by
  cases h with
  | skip hcov result =>
    subst result
    exact ⟨[], .refl rfl rfl⟩
  | miss last hlast hlt hgap result =>
    subst result
    exact ⟨[], .refl rfl rfl⟩
  | accept hc ma₁ hm result =>
    subst result
    rcases hm with rfl | hm
    · exact ⟨[], .refl rfl rfl⟩
    · obtain ⟨l, hl⟩ := exists_appends_of_merged conf hm
      exact ⟨l, hl.congr rfl rfl rfl rfl rfl⟩
  | stopped hc e ma₁ hm result =>
    subst result
    obtain ⟨l, hl⟩ := exists_appends_of_merged conf hm
    exact ⟨l, hl.congr rfl rfl rfl rfl rfl⟩

/-! ### Turns -/

variable {m : GtidSetsMap} {opers : List MysqlOperation} {n : ℕ} {op : MysqlOperation}

lemma Tracks.exists_appends_of_dispatched (h : Tracks conf m opers n ma)
    (hd : Dispatched conf env op (takes op ma) x) : ∃ l, Appends conf (takes op ma) x l := by
  have hclosed (hs : (takes op ma).state ∈ resting) :
      (stamped (takes op ma)).state = .ddl ∨ (stamped (takes op ma)).state = .dcl →
        (stamped (takes op ma)).tx = false := by
    intro hddl
    have hpending := h.pending_of_stamped (List.mem_pair.mpr hddl)
    exact (h.between_stamped hs).tx_eq_false hpending
  cases hd with
  | heartbeat o hop hs x₁ hset result =>
    subst result
    obtain ⟨l, hl⟩ := exists_appends_of_settled conf (hclosed hs) hset
    exact ⟨l, (hl.thenState _).congr rfl rfl rfl rfl rfl⟩
  | gtidSettle o hop hs force e ma₁ hset result =>
    subst result
    obtain ⟨l, hl⟩ := exists_appends_of_settled conf (hclosed hs) hset
    exact ⟨l, hl.congr rfl rfl rfl rfl rfl⟩
  | gtid o hop hs force ma₁ hset x₂ h₂ result =>
    subst result
    obtain ⟨l₁, hl₁⟩ := exists_appends_of_settled conf (hclosed hs) hset
    obtain ⟨l₂, hl₂⟩ := exists_appends_of_decided conf h₂
    exact ⟨l₁ ++ l₂, ((hl₁.trans hl₂).thenState _).congr rfl rfl rfl rfl rfl⟩
  | nonDMLMerge hop hs e ma₁ hm result =>
    subst result
    exact exists_appends_of_merged conf hm
  | nonDML hop hs hq ma₁ hm result =>
    subst result
    obtain ⟨l, hl⟩ := exists_appends_of_merged conf hm
    exact ⟨l, hl.congr rfl rfl rfl rfl rfl⟩
  | nonDMLExec hop hs schemaContext query hq ma₁ hm x₂ h₂ result =>
    subst result
    obtain ⟨l₁, hl₁⟩ := exists_appends_of_merged conf hm
    obtain ⟨l₂, hl₂⟩ := exists_appends_of_executedNonDML h₂
    exact ⟨l₁ ++ l₂, (hl₁.trans hl₂).thenState _⟩
  | begin o hop hs hp x₁ hb result =>
    subst result
    obtain ⟨l, hl, -⟩ := exists_appends_of_began hb
    exact ⟨l, hl.thenState _⟩
  | dmlExec hop hs query hq htx x₁ hexec result =>
    subst result
    obtain ⟨l, hl⟩ := exists_appends_of_executedData hexec
    exact ⟨l, hl.thenState _⟩
  | _ =>
    subst x
    exact ⟨[], .refl rfl rfl⟩

variable (env) in
/-- The calls of a turn come after the operation it receives. -/
lemma Tracks.exists_appends_of_start (h : Tracks conf m opers n ma) (op : MysqlOperation) :
    ∃ l, Appends conf (ma.emit [.receive op]) (MysqlApplier.start conf env op ma) l := by
  cases Turn.of_start conf env op ma with
  | skipped hskip hop result =>
    rw [result]
    exact ⟨[], .refl rfl rfl⟩
  | taken hnot x₁ hd result =>
    rw [result]
    obtain ⟨l, hl⟩ := h.exists_appends_of_dispatched hd
    exact ⟨l, (hl.finish op).congr rfl rfl rfl rfl rfl⟩

/-- A turn that begins a row transaction. -/
lemma setup_of_begin {o : MysqlOperationBegin} (hskip : ma.gtidSkip = false)
    (hx : MysqlApplier.start conf env (.begin o) ma = x) :
    (∃ l, x.2.log = ma.log ++ .receive (.begin o) :: l ∧ ∀ e ∈ l, e.isSetup = true) ∧
    (x.1 = .ok () → ma.state = .gtid ∧ x.2.state = .begin) := by
  have hturn := Turn.of_start conf env (.begin o) ma
  rw [hx] at hturn
  cases hturn with
  | skipped hskip' hop result => exact absurd (hskip.symm.trans hskip') (by simp)
  | taken hnot x₁ hd result =>
    subst result
    rw [finish_log, (finish_frame _ x₁).2.2]
    cases hd with
    | refused hs ts result =>
      subst result
      exact ⟨⟨[], rfl, by simp⟩, by simp⟩
    | beginMerged o' hop hs hp result =>
      subst result
      exact ⟨⟨[], rfl, by simp⟩, fun _ => ⟨(takes_state hskip).symm.trans hs, rfl⟩⟩
    | begin o' hop hs hp x₁ hb result =>
      subst result
      obtain ⟨l, hl, hsetup⟩ := exists_appends_of_began hb
      refine ⟨⟨l, ?_, hsetup⟩, fun hok => ⟨(takes_state hskip).symm.trans hs, ?_⟩⟩
      · rw [thenState_log, hl.log]
        simp [takes, emit]
      · rcases x₁ with ⟨e | ⟨⟩, ma'⟩
        · simp [MysqlApplier.thenState] at hok
        · rfl
    | _ => simp_all [MysqlOperation.isNonDML, MysqlOperation.isDML]

end

/-! ### The batch and the written map -/

/-- The row transaction of the GTID at position `k` has begun, and no commit has succeeded
since. -/
def InBatch (opers : List MysqlOperation) (log : List Event) (k : ℕ) : Prop :=
  ∃ o p q, log = p ++ .receive (.begin o) :: q ∧ InGroup opers k (World.replay p).received ∧
    .call .commit .ok ∉ q

/-- The map last written does not cover the transaction. -/
def Uncovered (w : World) (o : MysqlOperationGTID) : Prop :=
  ∀ written, w.gtidsets = some written → ¬ written.Covers o.serverUUID o.trxID.toUInt64

section

variable (conf : Settings) (m : GtidSetsMap) (opers : List MysqlOperation)

/-- The GTID at position `k` was not skipped when it arrived. -/
def Accepted (k : ℕ) (o : MysqlOperationGTID) : Prop :=
  opers[k]? = some (.gtid o) ∧
    ¬ (plain conf m (opers.take k)).gtidSetsMap.Covers o.serverUUID o.trxID.toUInt64

/-- After `n` operations the map last written covers no transaction of the batch, nor the one whose
GTID was the last thing received. -/
structure Withheld (n : ℕ) (ma : MysqlApplier) : Prop where
  fresh : ma.state = .gtid → ma.gtidSkip = false → ∀ k o, k < n → opers[k]? = some (.gtid o) →
    (∀ l op, k < l → l < n → opers[l]? = some op → op.isGTID = false) → Uncovered ma.world o
  batch : ∀ k o, Accepted conf m opers k o → InBatch opers ma.log k → Uncovered ma.world o
  closed : ma.tx = false → ∀ k o, Accepted conf m opers k o → ¬ InBatch opers ma.log k
  written : ∀ written, ma.world.gtidsets = some written → ∀ u n', written.Covers u n' →
    (plain conf m (opers.take n)).gtidSetsMap.Covers u n'

end

section

variable {conf : Settings} {env : Env} {m : GtidSetsMap} {opers : List MysqlOperation} {n k : ℕ}
  {ma ma₁ : MysqlApplier} {op : MysqlOperation} {x : Ending} {l : List Event}

/-- What one turn adds to the batch. -/
lemma InBatch.of_turn (hcalls : ∀ e ∈ l, e.isCall = true)
    (h : InBatch opers (ma.log ++ .receive op :: l) k) :
    .call .commit .ok ∉ l ∧ (InBatch opers ma.log k ∨
      (∃ o, op = .begin o) ∧ InGroup opers k ma.world.received) := by
  obtain ⟨o, p, q, heq, hgroup, hq⟩ := h
  rcases List.append_eq_append_iff.mp heq with ⟨a, rfl, ha⟩ | ⟨a, hlog, ha⟩
  · cases a with
    | nil =>
      obtain ⟨hop, rfl⟩ := List.cons.inj ha
      rw [List.append_nil] at hgroup
      exact ⟨hq, .inr ⟨⟨o, Event.receive.inj hop⟩, hgroup⟩⟩
    | cons e a =>
      obtain ⟨-, rfl⟩ := List.cons.inj ha
      have hmem := hcalls (.receive (.begin o)) (by simp)
      simp [Event.isCall] at hmem
  · cases a with
    | nil =>
      obtain ⟨hop, rfl⟩ := List.cons.inj ha
      rw [List.append_nil] at hlog
      rw [← hlog] at hgroup
      exact ⟨hq, .inr ⟨⟨o, (Event.receive.inj hop).symm⟩, hgroup⟩⟩
    | cons e a =>
      rw [List.cons_append] at ha
      obtain ⟨rfl, rfl⟩ := List.cons.inj ha
      rw [List.mem_append, List.mem_cons, not_or, not_or] at hq
      exact ⟨hq.2.2, .inl ⟨o, p, a, hlog, hgroup, hq.1⟩⟩

/-- Calls that write no map leave the written one. -/
lemma gtidsets_append (log : List Event) (h : ∀ e ∈ l, e.isWrite = false) :
    (World.replay (log ++ l)).gtidsets = (World.replay log).gtidsets := by
  rw [World.replay_append]
  generalize World.replay log = w
  induction l generalizing w with
  | nil => rfl
  | cons e l ih =>
    rw [List.foldl_cons, ih (fun e' he' => h e' (List.mem_cons_of_mem _ he'))]
    exact (World.after_of_not_isWrite (h e List.mem_cons_self) w).1

/-- After calls that write only one map, that map or the one before is written. -/
lemma gtidsets_of_writesOnly {written : GtidSetsMap} (h : WritesOnly written ma x) :
    x.2.world.gtidsets = ma.world.gtidsets ∨ x.2.world.gtidsets = some written := by
  obtain ⟨l, hl, hev⟩ := h
  rw [world, hl, World.replay_append, world]
  generalize World.replay ma.log = w
  clear hl
  induction l generalizing w with
  | nil => exact .inl rfl
  | cons e l ih =>
    rw [List.foldl_cons]
    have ih' := ih (fun e' he' => hev e' (List.mem_cons_of_mem _ he')) (w.after e)
    cases hw : e.isWrite with
    | false => rwa [(World.after_of_not_isWrite hw w).1] at ih'
    | true =>
      obtain ⟨r, rfl⟩ := hev e List.mem_cons_self hw
      rw [World.after_putGtidsets] at ih' ⊢
      rcases ih' with ih' | ih'
      · rw [ih']
        split_ifs
        · exact .inr rfl
        · exact .inl rfl
      · exact .inr ih'

lemma Accepted.skip_eq_false {o : MysqlOperationGTID} (h : Accepted conf m opers k o)
    (hgroup : InGroup opers k n) : (plain conf m (opers.take n)).skip = false := by
  rw [plain_skip_eq (Nat.succ_le_of_lt hgroup.1), plain_take_succ h.1,
    Plain.step_of_not_covers _ h.2]
  exact fun l op hkl hln => hgroup.2 l op hkl hln.le

/-- The cases after which the applier waits for the body of a group it does not skip. -/
lemma exists_gtid_of_dispatched (hd : Dispatched conf env op (takes op ma) (.ok (), ma₁))
    (hnot : op.isGTID = false → ma.gtidSkip = false) (hs : ma₁.state = .gtid)
    (hskip : ma₁.gtidSkip = false) :
    (∃ o, op = .gtid o ∧ ¬ ma.ckpt.gtidSetsMap.Covers o.serverUUID o.trxID.toUInt64) ∨
    (∃ o, op = .binLogPos o ∧ ma.state = .gtid ∧ ma.gtidSkip = false ∧
      ma₁.log = ma.log ++ [.receive op]) := by
  cases hd with
  | binLogPos o hop result =>
    obtain ⟨-, rfl⟩ := Prod.mk.inj result
    subst hop
    have hstate : (takes (.binLogPos o) ma).state = ma.state := takes_state (hnot rfl)
    exact .inr ⟨o, rfl, hstate.symm.trans hs, hnot rfl, rfl⟩
  | gtid o hop hst force ma₂ hset x₂ h₂ result =>
    obtain ⟨ma₃, rfl, rfl⟩ := thenState_eq_ok result
    have hckpt : ma₂.ckpt = ma.ckpt := hset.keeps.ckpt
    refine .inl ⟨o, hop, ?_⟩
    rw [← hckpt]
    cases h₂ with
    | accept hc ma' hm result => exact hc.not_covers
    | skip hcov result =>
      obtain ⟨-, rfl⟩ := Prod.mk.inj result
      simp at hskip
    | miss last hlast hlt hgap result => simp at result
    | stopped hc e ma' hm result => simp at result
  | nonDML hop hst hq ma₂ hm result =>
    obtain ⟨-, rfl⟩ := Prod.mk.inj result
    exact absurd hs (nonDMLState_mem op).2
  | nonDMLExec hop hst schemaContext query hq ma₂ hm x₂ h₂ result =>
    obtain ⟨ma₃, rfl, rfl⟩ := thenState_eq_ok result
    exact absurd hs (nonDMLState_mem op).2
  | heartbeat _ _ _ _ _ result | begin _ _ _ _ _ _ result | dmlExec _ _ _ _ _ _ _ result =>
    obtain ⟨ma₂, rfl, rfl⟩ := thenState_eq_ok result
    simp at hs
  | beginMerged _ _ _ _ result | dml _ _ _ result | xid _ _ _ result =>
    obtain ⟨-, rfl⟩ := Prod.mk.inj result
    simp at hs
  | refused _ _ result | gtidSettle _ _ _ _ _ _ _ result | nonDMLMerge _ _ _ _ _ result
  | dmlStop _ _ _ _ result | dmlMissing _ _ _ _ _ result => simp at result

lemma exists_gtid_of_start (hstart : MysqlApplier.start conf env op ma = (.ok (), ma₁))
    (hs : ma₁.state = .gtid) (hskip : ma₁.gtidSkip = false) :
    (∃ o, op = .gtid o ∧ ¬ ma.ckpt.gtidSetsMap.Covers o.serverUUID o.trxID.toUInt64) ∨
    (∃ o, op = .binLogPos o ∧ ma.state = .gtid ∧ ma.gtidSkip = false ∧
      ma₁.log = ma.log ++ [.receive op]) := by
  have hturn := Turn.of_start conf env op ma
  rw [hstart] at hturn
  cases hturn with
  | skipped hskip' hop result =>
    obtain ⟨-, rfl⟩ := Prod.mk.inj result
    exact absurd (hskip.symm.trans hskip') (by simp)
  | taken hnot x₁ hd result =>
    obtain ⟨ma', rfl, rfl⟩ := finish_eq_ok result
    have hs' : ma'.state = .gtid := by
      rw [← hs, MysqlApplier.finish]
      split_ifs <;> rfl
    have hskip' : ma'.gtidSkip = false := (finish_frame op (.ok (), ma')).2.1.symm.trans hskip
    rw [finish_log]
    exact exists_gtid_of_dispatched hd hnot hs' hskip'

lemma Uncovered.of_gtidsets_eq {w w' : World} {o : MysqlOperationGTID} (h : Uncovered w o)
    (heq : w'.gtidsets = w.gtidsets) : Uncovered w' o :=
  fun written hw => h written (heq ▸ hw)

/-- A transaction of the batch after a turn was in the batch before it, and the turn has neither
written a map nor closed the transaction; or the turn begins it. -/
lemma Withheld.inBatch_of_appends {o : MysqlOperationGTID} (hw : Withheld conf m opers n ma)
    (h : Tracks conf m opers n ma) (hl : Appends conf (ma.emit [.receive op]) x l)
    (hacc : Accepted conf m opers k o) (hin : InBatch opers x.2.log k) :
    (InBatch opers ma.log k ∧ x.2.world.gtidsets = ma.world.gtidsets ∧
      (x.1 = .ok () → x.2.tx = true)) ∨
    (∃ o', op = .begin o') ∧ InGroup opers k n := by
  have hlog : x.2.log = ma.log ++ .receive op :: l := by
    rw [hl.log, emit_log, List.append_assoc, List.singleton_append]
  rw [hlog] at hin
  obtain ⟨hcommit, hin | hbegin⟩ := hin.of_turn hl.calls
  · have hopen : ma.tx = true := by
      rw [← Bool.not_eq_false]
      exact fun hclosed => hw.closed hclosed k o hacc hin
    cases hl.batched with
    | committed hmem => exact absurd hmem hcommit
    | kept _ hwrites htx =>
      refine .inl ⟨hin, ?_, fun hok => ?_⟩
      · have hnone : ∀ e ∈ Event.receive op :: l, e.isWrite = false := by
          rcases hwrites with hwrites | hclosed
          · exact List.forall_mem_cons.mpr ⟨rfl, hwrites⟩
          · exact absurd (hopen.symm.trans hclosed) (by simp)
        rw [world, hlog, gtidsets_append _ hnone]
      · rw [← Bool.not_eq_false]
        exact fun hclosed => absurd (hopen.symm.trans (htx hok hclosed)) (by simp)
  · rw [h.received] at hbegin
    exact .inr hbegin

/-- Whatever the map written after a turn covers, the applier's map covered when it began. -/
lemma Withheld.covers_of_written (hw : Withheld conf m opers n ma) (h : Tracks conf m opers n ma)
    (hstart : MysqlApplier.start conf env op ma = (.ok (), ma₁)) {written : GtidSetsMap}
    (hsome : ma₁.world.gtidsets = some written) {u : String} {n' : UInt64}
    (hcov : written.Covers u n') : (plain conf m (opers.take n)).gtidSetsMap.Covers u n' := by
  have hwritten := gtidsets_of_writesOnly (writesOnly_start conf env op ma)
  rw [hstart] at hwritten
  rcases hwritten with heq | heq
  · exact hw.written written (heq.symm.trans hsome) u n' hcov
  · rw [h.gtidSetsMap, Option.some.inj (heq.symm.trans hsome)]
    exact hcov

/-- The `BEGIN` of a transaction that was not skipped opens the handle and writes nothing. -/
lemma Tracks.start_begin {o : MysqlOperationBegin} {o' : MysqlOperationGTID}
    (h : Tracks conf m opers n ma) (hn : opers[n]? = some (.begin o))
    (hstart : MysqlApplier.start conf env (.begin o) ma = (.ok (), ma₁))
    (hgroup : InGroup opers k n) (hacc : Accepted conf m opers k o') :
    ma.state = .gtid ∧ ma.gtidSkip = false ∧ ma₁.tx = true ∧
      ma₁.world.gtidsets = ma.world.gtidsets := by
  have hskip : ma.gtidSkip = false := h.skip.symm.trans (hacc.skip_eq_false hgroup)
  obtain ⟨⟨l, hl, hsetup⟩, hstate⟩ := setup_of_begin hskip hstart
  obtain ⟨hs, hs₁⟩ := hstate rfl
  refine ⟨hs, hskip, (h.start hn hstart).tx_iff.mpr (.inr (.inl hs₁)), ?_⟩
  rw [world, hl, gtidsets_append]
  exact List.forall_mem_cons.mpr ⟨rfl, fun e he => (Event.isSetup_frame conf (hsetup e he)).2.1⟩

/-- A GTID that was accepted last is not covered by what is written when it is. -/
lemma Withheld.fresh_start (hw : Withheld conf m opers n ma) (h : Tracks conf m opers n ma)
    (hn : opers[n]? = some op) (hstart : MysqlApplier.start conf env op ma = (.ok (), ma₁))
    (hs : ma₁.state = .gtid) (hskip : ma₁.gtidSkip = false) {o : MysqlOperationGTID}
    (hk : k < n + 1) (hgtid : opers[k]? = some (.gtid o))
    (hlast : ∀ l op, k < l → l < n + 1 → opers[l]? = some op → op.isGTID = false) :
    Uncovered ma₁.world o := by
  rcases exists_gtid_of_start hstart hs hskip with ⟨o', rfl, hnot⟩ | ⟨o', rfl, hs', hskip', hlog⟩
  · have hkn : k = n := by
      rcases Nat.lt_succ_iff_lt_or_eq.mp hk with hk | hk
      · exact absurd (hlast n _ hk (Nat.lt_succ_self n) hn) (by simp [MysqlOperation.isGTID])
      · exact hk
    subst hkn
    obtain rfl : o' = o := by simpa using hn.symm.trans hgtid
    intro written hsome hcov
    rw [← h.gtidSetsMap] at hnot
    exact hnot (hw.covers_of_written h hstart hsome hcov)
  · have hkn : k < n := by
      rcases Nat.lt_succ_iff_lt_or_eq.mp hk with hk | rfl
      · exact hk
      · simp [hn] at hgtid
    refine (hw.fresh hs' hskip' k o hkn hgtid fun l op hkl hln =>
      hlast l op hkl (hln.trans (Nat.lt_succ_self n))).of_gtidsets_eq ?_
    rw [world, hlog, gtidsets_append _ (by simp [Event.isWrite])]

/-- One turn keeps the written map away from the batch. -/
lemma Withheld.start (hw : Withheld conf m opers n ma) (h : Tracks conf m opers n ma)
    (hn : opers[n]? = some op) (hstart : MysqlApplier.start conf env op ma = (.ok (), ma₁)) :
    Withheld conf m opers (n + 1) ma₁ := by
  obtain ⟨l, hl⟩ := h.exists_appends_of_start env op
  rw [hstart] at hl
  constructor
  · intro hs hskip k o hk hgtid hlast
    exact hw.fresh_start h hn hstart hs hskip hk hgtid hlast
  · intro k o hacc hin
    rcases hw.inBatch_of_appends h hl hacc hin with ⟨hin, heq, -⟩ | ⟨⟨o', rfl⟩, hgroup⟩
    · exact (hw.batch k o hacc hin).of_gtidsets_eq heq
    · obtain ⟨hs, hskip, -, heq⟩ := h.start_begin hn hstart hgroup hacc
      refine (hw.fresh hs hskip k o hgroup.1 hacc.1 fun l op hkl hln =>
        hgroup.2 l op hkl hln.le).of_gtidsets_eq heq
  · intro hclosed k o hacc hin
    rcases hw.inBatch_of_appends h hl hacc hin with ⟨-, -, hopen⟩ | ⟨⟨o', rfl⟩, hgroup⟩
    · exact absurd (hclosed.symm.trans (hopen rfl)) (by simp)
    · obtain ⟨-, -, hopen, -⟩ := h.start_begin hn hstart hgroup hacc
      exact absurd (hclosed.symm.trans hopen) (by simp)
  · intro written hsome u n' hcov
    rw [plain_take_succ hn]
    exact Plain.step_covers (hw.covers_of_written h hstart hsome hcov) op

lemma withheld_run {ckpt : Checkpoint} {as : List MysqlOperation} (has : as <+: opers)
    (hrun : run conf env as (newMysqlApplier ckpt) = (.ok (), ma)) :
    Withheld conf ckpt.gtidSetsMap opers as.length ma ∧ ∀ e ∈ ma.log, ¬ e.Fails conf := by
  induction as using List.reverseRecOn generalizing ma with
  | nil =>
    obtain ⟨-, rfl⟩ := Prod.mk.inj hrun
    refine ⟨⟨fun _ _ k _ hk => absurd hk (Nat.not_lt_zero k), ?_, ?_, ?_⟩, by
      simp [newMysqlApplier]⟩
    · intro k o _ hin
      obtain ⟨o', p, q, heq, -⟩ := hin
      simp [newMysqlApplier] at heq
    · intro _ k o _ hin
      obtain ⟨o', p, q, heq, -⟩ := hin
      simp [newMysqlApplier] at heq
    · intro written hsome
      simp [newMysqlApplier, World.replay, World.initial] at hsome
  | append_singleton as op ih =>
    rcases has' : run conf env as (newMysqlApplier ckpt) with ⟨e | ⟨⟩, ma'⟩
    · rw [run, Prog.forEach_append_of_error has'] at hrun
      simp at hrun
    rw [run, Prog.forEach_concat_of_ok has'] at hrun
    have hpre : as <+: opers := (List.prefix_append as [op]).trans has
    have htracks := tracks_run hpre has'
    obtain ⟨hw, hfails⟩ := ih hpre has'
    obtain ⟨l, hl⟩ := htracks.exists_appends_of_start env op
    rw [hrun] at hl
    rw [List.length_append, List.length_singleton]
    refine ⟨hw.start htracks (Prog.getElem?_of_concat_isPrefix has) hrun, fun e he => ?_⟩
    rw [hl.log, emit_log, List.mem_append, List.mem_append, List.mem_singleton] at he
    rcases he with (he | rfl) | he
    · exact hfails e he
    · exact id
    · exact hl.failing.of_ok e he

/-- What is committed changes by a successful commit only. -/
lemma committed_append (log : List Event) (h : .call .commit .ok ∉ l) :
    (World.replay (log ++ l)).committed = (World.replay log).committed := by
  rw [World.replay_append]
  generalize World.replay log = w
  induction l generalizing w with
  | nil => rfl
  | cons e l ih =>
    rw [List.mem_cons, not_or] at h
    rw [List.foldl_cons, ih h.2]
    cases e with
    | receive oper => rfl
    | call c r =>
      cases c with
      | commit =>
        rw [World.after_commit_of_ne]
        rintro rfl
        exact h.1 rfl
      | exec st =>
        simp only [World.after]
        split_ifs <;> rfl
      | begin | rollback | putGtidsets | putBinlogpos => cases r <;> rfl

end

/-! ### The abandoned batch -/

/-- How a run ends in which the call `ev` failed. -/
structure Abandoned (conf : Settings) (env : Env) (ckpt : Checkpoint)
    (opers : List MysqlOperation) (ev : Event) : Prop where
  /-- The applier stops. -/
  stopped : ∃ r, (run conf env opers (newMysqlApplier ckpt)).1 = .error (.database r)
  /-- A failed row statement is followed by a rollback and nothing else. If the rollback succeeds,
  no transaction is open, and the destination holds what it held after the last successful
  commit. -/
  undone : ∀ query r, ev = .call (.exec (.dml query)) r →
    ∃ p r', (run conf env opers (newMysqlApplier ckpt)).2.log = p ++ [ev, .call .rollback r'] ∧
      (r' = .ok → (run conf env opers (newMysqlApplier ckpt)).2.tx = false ∧
        (run conf env opers (newMysqlApplier ckpt)).2.world.tx = none ∧
        ∀ p' q', (run conf env opers (newMysqlApplier ckpt)).2.log = p' ++ q' →
          .call .commit .ok ∉ q' →
          (run conf env opers (newMysqlApplier ckpt)).2.world.committed =
            (World.replay p').committed)
  /-- The map last written, or the one the applier started from, covers no row transaction begun
  since the last successful commit. -/
  withheld : ∀ k o ma, opers[k]? = some (.gtid o) →
    run conf env (opers.take k) (newMysqlApplier ckpt) = (.ok (), ma) →
    ¬ ma.ckpt.gtidSetsMap.Covers o.serverUUID o.trxID.toUInt64 →
    InBatch opers (run conf env opers (newMysqlApplier ckpt)).2.log k →
    ¬ ((run conf env opers (newMysqlApplier ckpt)).2.world.gtidsets.getD
      ckpt.gtidSetsMap).Covers o.serverUUID o.trxID.toUInt64

section

variable {conf : Settings} {env : Env} {opers : List MysqlOperation} {m : GtidSetsMap} {n : ℕ}
  {ma ma₁ : MysqlApplier} {op : MysqlOperation} {ev : Event} {e : Stop} {l : List Event}

/-- The turn of a failure does not begin a row transaction. -/
lemma ne_begin_of_fails (hstart : MysqlApplier.start conf env op ma = (.error e, ma₁))
    (hl : Appends conf (ma.emit [.receive op]) (.error e, ma₁) l) (hev : ev ∈ l)
    (hfails : ev.Fails conf) (o : MysqlOperationBegin) : op ≠ .begin o := by
  rintro rfl
  cases hskip : ma.gtidSkip with
  | true =>
    have hok : MysqlApplier.start conf env (.begin o) ma = _ := start_of_skip conf hskip rfl
    rw [hok] at hstart
    cases hstart
  | false =>
    obtain ⟨⟨l', hl', hsetup⟩, -⟩ := setup_of_begin hskip hstart
    have heq : ma.log ++ .receive (.begin o) :: l' = ma.log ++ .receive (.begin o) :: l := by
      rw [← hl', hl.log, emit_log, List.append_assoc, List.singleton_append]
    obtain rfl : l' = l := (List.cons.inj (List.append_cancel_left heq)).2
    exact (Event.isSetup_frame conf (hsetup ev hev)).2.2.1 hfails

/-- A row statement that failed is the last call but one, and the rollback the last. -/
lemma Failing.exists_of_dml {x : Ending} {query : Query} {r : Reply} (h : Failing conf x l)
    (hev : .call (.exec (.dml query)) r ∈ l)
    (hfails : (Event.call (.exec (.dml query)) r).Fails conf) :
    ∃ l' r', l = l' ++ [.call (.exec (.dml query)) r, .call .rollback r'] ∧
      x.2.tx = r'.isError := by
  cases h with
  | none h => exact absurd hfails (h _ hev)
  | commit l' h r' hl hx =>
    rw [hl, List.mem_append, List.mem_singleton] at hev
    rcases hev with hev | hev
    · exact absurd hfails (h _ hev)
    · simp at hev
  | dml l' h query' r₁ r' r'' hl htx hx =>
    have hlast := hev
    rw [hl, List.mem_append, List.mem_cons, List.mem_singleton] at hlast
    rcases hlast with hmem | heq | heq
    · exact absurd hfails (h _ hmem)
    · rw [← heq] at hl
      exact ⟨l', r', hl, htx⟩
    · simp at heq

lemma Failing.exists_error {x : Ending} (h : Failing conf x l) (hev : ev ∈ l)
    (hfails : ev.Fails conf) : ∃ r, x.1 = .error (.database r) := by
  cases h with
  | none h => exact absurd hfails (h ev hev)
  | commit l' h r hl hx => exact ⟨r, hx⟩
  | dml l' h query r r' r'' hl htx hx => exact ⟨r'', hx⟩

/-- The turn of a failure leaves the written map as it was, and the batch out of it. -/
lemma Withheld.uncovered_of_fails {k : ℕ} {o : MysqlOperationGTID}
    (hw : Withheld conf m opers n ma) (h : Tracks conf m opers n ma)
    (hstart : MysqlApplier.start conf env op ma = (.error e, ma₁))
    (hl : Appends conf (ma.emit [.receive op]) (.error e, ma₁) l) (hev : ev ∈ l)
    (hfails : ev.Fails conf) (hacc : Accepted conf m opers k o) (hin : InBatch opers ma₁.log k) :
    ¬ (ma₁.world.gtidsets.getD m).Covers o.serverUUID o.trxID.toUInt64 := by
  rcases hw.inBatch_of_appends h hl hacc hin with ⟨hin, heq, -⟩ | ⟨⟨o', hop⟩, -⟩
  · rw [heq]
    cases hsome : ma.world.gtidsets with
    | none =>
      intro hcov
      have hstart₀ : (plain conf m (opers.take 0)).gtidSetsMap.Covers
          o.serverUUID o.trxID.toUInt64 := hcov
      exact hacc.2 (plain_covers_mono (Nat.zero_le k) hstart₀)
    | some written => exact hw.batch k o hacc hin written hsome
  · exact absurd hop (ne_begin_of_fails hstart hl hev hfails o')

end

/-- A failed row statement or a failed commit abandons the batch: the applier stops; after a failed
row statement whose rollback succeeds, nothing executed since the last successful commit is at
the destination; and the map last written covers no row transaction begun since then. -/
theorem abandoned_of_fails (conf : Settings) (env : Env) (ckpt : Checkpoint)
    (opers : List MysqlOperation) (ev : Event)
    (hmem : ev ∈ (run conf env opers (newMysqlApplier ckpt)).2.log) (hfails : ev.Fails conf) :
    Abandoned conf env ckpt opers ev := by
  rcases hrun : run conf env opers (newMysqlApplier ckpt) with ⟨e | ⟨⟩, ma₁⟩
  swap
  · rw [hrun] at hmem
    exact absurd hfails ((withheld_run (List.prefix_refl opers) hrun).2 ev hmem)
  obtain ⟨as, op, ma, hpre, has, hstart⟩ := Prog.exists_of_forEach_error hrun
  have hprefix : as <+: opers := (List.prefix_append as [op]).trans hpre
  have htracks := tracks_run hprefix has
  obtain ⟨hw, hnone⟩ := withheld_run hprefix has
  obtain ⟨l, hl⟩ := htracks.exists_appends_of_start env op
  rw [hstart] at hl
  have hev : ev ∈ l := by
    rw [hrun, hl.log, emit_log, List.mem_append, List.mem_append, List.mem_singleton] at hmem
    rcases hmem with (hmem | rfl) | hmem
    · exact absurd hfails (hnone ev hmem)
    · exact absurd hfails id
    · exact hmem
  constructor
  · rw [hrun]
    exact hl.failing.exists_error hev hfails
  · rintro query r rfl
    obtain ⟨l', r', rfl, htx⟩ := hl.failing.exists_of_dml hev hfails
    have hlog : ma₁.log = (ma.log ++ .receive op :: l') ++
        [.call (.exec (.dml query)) r, .call .rollback r'] := by
      rw [hl.log, emit_log, List.append_assoc, List.append_assoc, List.singleton_append,
        List.cons_append]
    rw [hrun]
    refine ⟨_, r', hlog, ?_⟩
    rintro rfl
    refine ⟨htx, ?_, fun p' q' heq hq' => ?_⟩
    · rw [world, hlog, World.replay_append, List.foldl_cons, List.foldl_cons, List.foldl_nil,
        World.after_rollback]
      rfl
    · rw [world, heq, committed_append p' hq']
  · intro k o ma' hk hrun' hnot hin
    rw [hrun] at hin ⊢
    have hlt := (List.getElem?_eq_some_iff.mp hk).1
    have htracks' := tracks_run (List.take_prefix k opers) hrun'
    rw [List.length_take, min_eq_left hlt.le] at htracks'
    have hacc : Accepted conf ckpt.gtidSetsMap opers k o := ⟨hk, by rwa [htracks'.gtidSetsMap]⟩
    exact hw.uncovered_of_fails htracks hstart hl hev hfails hacc hin

/-- Two row transactions that are merged into one batch. -/
def mergedInserts : List MysqlOperation :=
  [.gtid ⟨1, 1, 10, "u", 1⟩, .begin ⟨1, 10⟩,
   .dmlInsert ⟨"db", "t", [⟨"id", 3, .int32 1, false⟩], [0], 10⟩, .xid ⟨10⟩,
   .gtid ⟨1, 1, 11, "u", 2⟩, .begin ⟨1, 11⟩,
   .dmlInsert ⟨"db", "t", [⟨"id", 3, .int32 2, false⟩], [0], 11⟩, .xid ⟨11⟩]

/-- The query of the second transaction. -/
def secondInsert : Query :=
  buildDMLInsertQuery "db" "t" [⟨"id", 3, .int32 2, false⟩]

/-- A destination that refuses one query with a duplicate key. -/
def refuses (query : Query) : Env :=
  fun _ c => if c = .exec (.dml query) then .mysqlError 1062 else .ok

/-- The first transaction has reached its `XID` and is abandoned with the second one. -/
theorem abandoned_mergedInserts :
    InBatch mergedInserts (run Settings.unrestricted (refuses secondInsert) mergedInserts
      (newMysqlApplier ⟨∅, "", 0⟩)).2.log 0 ∧
    Abandoned Settings.unrestricted (refuses secondInsert) ⟨∅, "", 0⟩ mergedInserts
      (.call (.exec (.dml secondInsert)) (.mysqlError 1062)) := by
  refine ⟨⟨⟨1, 10⟩, [.receive (.gtid ⟨1, 1, 10, "u", 1⟩)], _, rfl, ?_, by decide⟩, ?_⟩
  · refine ⟨Nat.one_pos, fun l op hl hl' hop => ?_⟩
    obtain rfl : l = 1 := le_antisymm hl' hl
    cases hop
    rfl
  · refine abandoned_of_fails _ _ _ _ _ (by decide) ?_
    simp [Event.Fails, Reply.Tolerated, MysqlClient.skipError, Settings.unrestricted]

end MysqlSync

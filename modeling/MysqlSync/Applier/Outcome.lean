import MysqlSync.Applier.World

/-!
# What the client's and the applier's actions can do

One inductive family for each action, with a constructor for each way it can end: the result, the
fields it changes and the events it appends to the log. The lemmas `of_…` say that the code does
nothing else, so that everything about runs is proved by cases on these families and the code is
unfolded here only.

A failing constructor records that the environment gave the reply it stopped on, so that a
failure can be ruled out under an assumption on the environment.
-/

namespace MysqlSync

open Prog

variable (conf : Settings) (env : Env)

/-- The environment gives the reply `r` to the call `c` at some point. -/
def Env.Gives (c : Call) (r : Reply) : Prop := ∃ log, env log c = r

/-- The calls that go to the destination database, as opposed to Consul. -/
def Call.onDatabase : Call → Bool
  | .putGtidsets _ | .putBinlogpos _ _ => false
  | _ => true

/-- The replies after which the client goes on. -/
def Reply.Tolerated (r : Reply) : Prop := r = .ok ∨ MysqlClient.skipError conf r = true

def Reply.isError : Reply → Bool
  | .ok => false
  | _ => true

lemma Reply.isError_of_ne {r : Reply} (hr : r ≠ .ok) : r.isError = true := by
  cases r <;> first | exact absurd rfl hr | rfl

/-- How an action ends: its result and the state it leaves. -/
abbrev Ending : Type := Except Stop Unit × MysqlApplier

namespace MysqlApplier

@[simp] lemma emit_log (ma : MysqlApplier) (l : List Event) : (ma.emit l).log = ma.log ++ l := rfl

@[simp] lemma emit_nil (ma : MysqlApplier) : ma.emit [] = ma := by simp [emit]

@[simp] lemma emit_emit (ma : MysqlApplier) (l₁ l₂ : List Event) :
    (ma.emit l₁).emit l₂ = ma.emit (l₁ ++ l₂) := by simp [emit]

end MysqlApplier

/-- The errors that the client returns. -/
def Stop.isClient : Stop → Bool
  | .txAlreadyExists | .txDoesNotExist | .database _ => true
  | _ => false

/-- The action has no part in the checkpoint, the state and the skipping of groups, and stops for
no other reason than an error of the client. -/
structure Keeps (ma : MysqlApplier) (x : Ending) : Prop where
  ckpt : x.2.ckpt = ma.ckpt
  state : x.2.state = ma.state
  gtidSkip : x.2.gtidSkip = ma.gtidSkip
  error : ∀ e, x.1 = .error e → e.isClient = true

section

variable {ma ma₁ : MysqlApplier} {x : Ending} {e : Stop}

lemma Keeps.of_ok (hckpt : ma₁.ckpt = ma.ckpt) (hstate : ma₁.state = ma.state)
    (hskip : ma₁.gtidSkip = ma.gtidSkip) : Keeps ma (.ok (), ma₁) :=
  ⟨hckpt, hstate, hskip, by simp⟩

lemma Keeps.of_error (he : e.isClient = true) (hckpt : ma₁.ckpt = ma.ckpt)
    (hstate : ma₁.state = ma.state) (hskip : ma₁.gtidSkip = ma.gtidSkip) :
    Keeps ma (.error e, ma₁) :=
  ⟨hckpt, hstate, hskip, fun _ h => by cases h; exact he⟩

lemma Keeps.trans (h : Keeps ma (.ok (), ma₁)) (h' : Keeps ma₁ x) : Keeps ma x :=
  ⟨h'.ckpt.trans h.ckpt, h'.state.trans h.state, h'.gtidSkip.trans h.gtidSkip, h'.error⟩

end

/-! ### The client -/

namespace MysqlClient

variable {env}

@[simp] lemma call_apply (c : Call) (ma : MysqlApplier) :
    call env c ma = (.ok (env ma.log c), ma.emit [.call c (env ma.log c)]) := rfl

lemma callOrStop_of_ok {c : Call} {ma : MysqlApplier} (h : env ma.log c = .ok) :
    callOrStop env c ma = (.ok (), ma.emit [.call c .ok]) := by
  simp [callOrStop, bind_apply, h]

lemma callOrStop_of_ne {c : Call} {ma : MysqlApplier} (h : env ma.log c ≠ .ok) :
    callOrStop env c ma =
      (.error (.database (env ma.log c)), ma.emit [.call c (env ma.log c)]) := by
  simp [callOrStop, bind_apply, h]

/-- The events of a session set up without errors. -/
def sessionEvents (params : List (String × String)) : List Event :=
  params.map fun param => .call (.exec (.setSession param.1 param.2)) .ok

/-- Events that only set up a session. -/
def AllSession (l : List Event) : Prop :=
  ∀ e ∈ l, ∃ n v r, e = .call (.exec (.setSession n v)) r

lemma AllSession.stays {l : List Event} (h : AllSession l) (w : World) :
    ∀ e ∈ l, w.after e = w := by
  intro e he
  obtain ⟨n, v, r, rfl⟩ := h e he
  exact w.after_setSession n v r

lemma allSession_sessionEvents (params : List (String × String)) :
    AllSession (sessionEvents params) := by
  intro e he
  obtain ⟨param, -, rfl⟩ := List.mem_map.mp he
  exact ⟨param.1, param.2, .ok, rfl⟩

/-- A transaction that was opened, whether or not its session was set up to the end. -/
lemma foldl_begin {l : List Event} (hl : AllSession l) (w : World) :
    (Event.call .begin .ok :: l).foldl World.after w = { w with tx := some [] } := by
  rw [List.foldl_cons, World.after_begin, Trace.foldl_of_stays (hl.stays _)]

lemma always_begin {G : World → Prop} {l : List Event} (hl : AllSession l) {w : World} (h : G w)
    (h' : G { w with tx := some [] }) :
    Trace.Always World.after G w (Event.call .begin .ok :: l) := by
  rw [Trace.always_cons, World.after_begin]
  exact ⟨h, Trace.always_of_stays (hl.stays _) h'⟩

variable (env) in
/-- Setting the session parameters. -/
inductive Sessions (params : List (String × String)) (ma : MysqlApplier) (x : Ending) : Prop where
  | ok (result : x = (.ok (), ma.emit (sessionEvents params)))
  | refused (l : List Event) (param : String × String) (r : Reply) (hr : r ≠ .ok)
      (henv : env.Gives (.exec (.setSession param.1 param.2)) r) (hl : AllSession l)
      (result : x = (.error (.database r), ma.emit l))

variable (env) in
lemma Sessions.of_forEach (params : List (String × String)) (ma : MysqlApplier) :
    Sessions env params ma
      (forEach (fun param => callOrStop env (.exec (.setSession param.1 param.2))) params ma) := by
  induction params generalizing ma with
  | nil => exact .ok (by simp [sessionEvents])
  | cons param params ih =>
    rw [forEach_cons]
    by_cases h : env ma.log (.exec (.setSession param.1 param.2)) = .ok
    · rw [bind_of_ok (callOrStop_of_ok h)]
      cases ih (ma.emit [.call (.exec (.setSession param.1 param.2)) .ok]) with
      | ok result =>
        rw [MysqlApplier.emit_emit] at result
        exact .ok result
      | refused l param' r hr henv hl result =>
        rw [MysqlApplier.emit_emit] at result
        refine .refused _ param' r hr henv (fun e he => ?_) result
        rcases List.mem_append.mp he with he | he
        · exact ⟨param.1, param.2, .ok, by simpa using he⟩
        · exact hl e he
    · refine .refused _ _ _ h ⟨_, rfl⟩ (fun e he => ?_) (bind_of_error (callOrStop_of_ne h))
      exact ⟨param.1, param.2, _, by simpa using he⟩

variable (env) in
/-- Opening a transaction. -/
inductive Began (ma : MysqlApplier) (x : Ending) : Prop where
  | ok (htx : ma.tx = false)
      (result : x = (.ok (), { ma with tx := true }.emit
        (.call .begin .ok :: sessionEvents conf.sessionParams)))
  | already (htx : ma.tx = true) (result : x = (.error .txAlreadyExists, ma))
  | refused (htx : ma.tx = false) (r : Reply) (hr : r ≠ .ok) (henv : env.Gives .begin r)
      (result : x = (.error (.database r), ma.emit [.call .begin r]))
  | session (htx : ma.tx = false) (l : List Event) (param : String × String) (r : Reply)
      (hr : r ≠ .ok) (henv : env.Gives (.exec (.setSession param.1 param.2)) r)
      (hl : AllSession l)
      (result : x = (.error (.database r), { ma with tx := true }.emit (.call .begin .ok :: l)))

variable (env) in
lemma Began.of_begin (ma : MysqlApplier) : Began conf env ma (begin conf env ma) := by
  cases htx : ma.tx with
  | true => exact .already htx (by simp [begin, bind_apply, htx])
  | false =>
    by_cases hr : env ma.log .begin = .ok
    · have h : begin conf env ma =
          forEach (fun param => callOrStop env (.exec (.setSession param.1 param.2)))
            conf.sessionParams ({ ma with tx := true }.emit [.call .begin .ok]) := by
        simp only [begin, bind_apply, get_apply, htx, Bool.false_eq_true, ↓reduceIte,
          callOrStop_of_ok hr, modify_apply]
        rfl
      rw [h]
      cases Sessions.of_forEach env conf.sessionParams
          ({ ma with tx := true }.emit [.call .begin .ok]) with
      | ok result =>
        rw [MysqlApplier.emit_emit] at result
        exact .ok htx result
      | refused l param' r hr henv hl result =>
        rw [MysqlApplier.emit_emit] at result
        exact .session htx l param' r hr henv hl result
    · exact .refused htx _ hr ⟨_, rfl⟩ (by simp [begin, bind_apply, htx, callOrStop_of_ne hr])

variable {conf} in
lemma Began.keeps {ma : MysqlApplier} {x : Ending} (h : Began conf env ma x) : Keeps ma x := by
  cases h with
  | ok htx result => rw [result]; exact .of_ok rfl rfl rfl
  | already htx result => rw [result]; exact .of_error rfl rfl rfl rfl
  | refused htx r hr henv result => rw [result]; exact .of_error rfl rfl rfl rfl
  | session htx l param r hr henv hl result => rw [result]; exact .of_error rfl rfl rfl rfl

variable (env) in
/-- Committing the open transaction. -/
inductive Committed (ma : MysqlApplier) (x : Ending) : Prop where
  | ok (htx : ma.tx = true)
      (result : x = (.ok (), { ma with tx := false }.emit [.call .commit .ok]))
  | missing (htx : ma.tx = false) (result : x = (.error .txDoesNotExist, ma))
  | refused (htx : ma.tx = true) (r : Reply) (hr : r ≠ .ok) (henv : env.Gives .commit r)
      (result : x = (.error (.database r), ma.emit [.call .commit r]))

variable (env) in
lemma Committed.of_commit (ma : MysqlApplier) : Committed env ma (commit env ma) := by
  cases htx : ma.tx with
  | false => exact .missing htx (by simp [commit, bind_apply, htx])
  | true =>
    by_cases hr : env ma.log .commit = .ok
    · refine .ok htx ?_
      simp only [commit, bind_apply, get_apply, htx, Bool.not_true, Bool.false_eq_true, ↓reduceIte,
        callOrStop_of_ok hr, modify_apply]
      rfl
    · exact .refused htx _ hr ⟨_, rfl⟩ (by simp [commit, bind_apply, htx, callOrStop_of_ne hr])

variable (env) in
/-- `rollbackAndStop` stops, and closes the transaction unless the rollback fails. -/
lemma rollbackAndStop_eq (ma : MysqlApplier) (htx : ma.tx = true) (r : Reply) :
    ∃ r'' r' : Reply, rollbackAndStop env r ma =
      (.error (.database r''), { ma with tx := r'.isError }.emit [.call .rollback r']) := by
  by_cases hr : env ma.log .rollback = .ok
  · refine ⟨r, .ok, ?_⟩
    simp only [rollbackAndStop, rollback, bind_apply, get_apply, htx, ↓reduceIte,
      callOrStop_of_ok hr, modify_apply, stop_apply]
    rfl
  · refine ⟨env ma.log .rollback, env ma.log .rollback, ?_⟩
    simp [rollbackAndStop, rollback, bind_apply, htx, callOrStop_of_ne hr, MysqlApplier.emit,
      Reply.isError_of_ne hr]

variable (env) in
/-- Executing a data statement in the open transaction. -/
inductive ExecutedData (statement : Statement) (ma : MysqlApplier) (x : Ending) : Prop where
  | ok (r : Reply) (hr : r.Tolerated conf)
      (result : x = (.ok (), ma.emit [.call (.exec statement) r]))
  | failed (r : Reply) (hr : ¬ r.Tolerated conf) (henv : env.Gives (.exec statement) r)
      (r'' r' : Reply)
      (result : x = (.error (.database r''), { ma with tx := r'.isError }.emit
        [.call (.exec statement) r, .call .rollback r']))

variable (env) in
lemma ExecutedData.of_executeData (statement : Statement) (ma : MysqlApplier)
    (htx : ma.tx = true) :
    ExecutedData conf env statement ma (executeData conf env statement ma) := by
  by_cases hr : (env ma.log (.exec statement)).Tolerated conf
  · refine .ok _ hr ?_
    rcases hr with hr | hr
    · simp [executeData, bind_apply, hr]
    · by_cases hok : env ma.log (.exec statement) = .ok
      · simp [executeData, bind_apply, hok]
      · simp [executeData, bind_apply, hr, hok]
  · obtain ⟨e, r', hstop⟩ := rollbackAndStop_eq env
      (ma.emit [.call (.exec statement) (env ma.log (.exec statement))]) htx
      (env ma.log (.exec statement))
    refine .failed _ hr ⟨_, rfl⟩ e r' ?_
    rw [Reply.Tolerated, not_or, Bool.not_eq_true] at hr
    have h : executeData conf env statement ma = rollbackAndStop env (env ma.log (.exec statement))
        (ma.emit [.call (.exec statement) (env ma.log (.exec statement))]) := by
      simp [executeData, bind_apply, hr]
    rw [h, hstop]
    simp [MysqlApplier.emit]

variable {conf} in
lemma ExecutedData.keeps {st : Statement} {ma : MysqlApplier} {x : Ending}
    (h : ExecutedData conf env st ma x) : Keeps ma x := by
  cases h with
  | ok r hr result => rw [result]; exact .of_ok rfl rfl rfl
  | failed r hr henv r'' r' result => rw [result]; exact .of_error rfl rfl rfl rfl

variable (env) in
/-- A row statement needs the open transaction. -/
lemma executeOnDML_apply (query : Query) (ma : MysqlApplier) :
    executeOnDML conf env query ma =
      if ma.tx = true then executeData conf env (.dml query) ma
      else (.error .txDoesNotExist, ma) := by
  cases htx : ma.tx <;> simp [executeOnDML, bind_apply, htx]

/-- The event of a `USE` that succeeds, if there is one. -/
def useEvents (schemaContext : String) : List Event :=
  if schemaContext = "" then [] else [.call (.exec (.use schemaContext)) .ok]

/-- A transaction opened for one statement: what comes before the statement. -/
def openEvents (schemaContext : String) : List Event :=
  .call .begin .ok :: sessionEvents conf.sessionParams ++ useEvents schemaContext

lemma useEvents_stays (schemaContext : String) (w : World) :
    ∀ e ∈ useEvents schemaContext, w.after e = w := by
  intro e he
  rw [useEvents] at he
  split_ifs at he
  · exact absurd he List.not_mem_nil
  · rw [List.mem_singleton.mp he, World.after_use]

lemma foldl_openEvents (w : World) (schemaContext : String) :
    (openEvents conf schemaContext).foldl World.after w = { w with tx := some [] } := by
  rw [openEvents, List.foldl_append, foldl_begin (allSession_sessionEvents _),
    Trace.foldl_of_stays (useEvents_stays schemaContext _)]

lemma always_openEvents {G : World → Prop} {w : World} (h : G w) (h' : G { w with tx := some [] })
    (schemaContext : String) : Trace.Always World.after G w (openEvents conf schemaContext) := by
  have hses := allSession_sessionEvents conf.sessionParams
  rw [openEvents, Trace.always_append, foldl_begin hses]
  exact ⟨always_begin hses h h', Trace.always_of_stays (useEvents_stays _ _) h'⟩

variable (env) in
/-- Switching to the schema context. -/
inductive UsedSchema (schemaContext : String) (ma : MysqlApplier) (x : Ending) : Prop where
  | ok (result : x = (.ok (), ma.emit (useEvents schemaContext)))
  | failed (r : Reply) (hr : r ≠ .ok) (henv : env.Gives (.exec (.use schemaContext)) r)
      (r'' r' : Reply)
      (result : x = (.error (.database r''), { ma with tx := r'.isError }.emit
        [.call (.exec (.use schemaContext)) r, .call .rollback r']))

variable (env) in
lemma UsedSchema.of_useSchema (schemaContext : String) {ma : MysqlApplier} (htx : ma.tx = true) :
    UsedSchema env schemaContext ma (useSchema env schemaContext ma) := by
  by_cases hctx : schemaContext = ""
  · exact .ok (by simp [useSchema, useEvents, hctx])
  · by_cases hr : env ma.log (.exec (.use schemaContext)) = .ok
    · exact .ok (by simp [useSchema, useEvents, bind_apply, hctx, hr])
    · obtain ⟨e, r', hstop⟩ := rollbackAndStop_eq env
        (ma.emit [.call (.exec (.use schemaContext))
          (env ma.log (.exec (.use schemaContext)))]) htx
        (env ma.log (.exec (.use schemaContext)))
      refine .failed _ hr ⟨_, rfl⟩ e r' ?_
      have h : useSchema env schemaContext ma =
          rollbackAndStop env (env ma.log (.exec (.use schemaContext)))
            (ma.emit [.call (.exec (.use schemaContext))
              (env ma.log (.exec (.use schemaContext)))]) := by
        simp [useSchema, bind_apply, hctx, hr]
      rw [h, hstop]
      simp [MysqlApplier.emit]

variable (env) in
/-- Executing a statement in a transaction of its own. -/
inductive ExecutedNonDML (schemaContext query : String) (ma : MysqlApplier) (x : Ending) :
    Prop where
  | ok (htx : ma.tx = false) (r : Reply) (hr : r.Tolerated conf)
      (result : x = (.ok (), { ma with tx := false }.emit (openEvents conf schemaContext ++
        [Event.call (.exec (.nonDML query)) r, .call .commit .ok])))
  | began (e : Stop) (ma' : MysqlApplier) (h : Began conf env ma (.error e, ma'))
      (result : x = (.error e, ma'))
  | use (htx : ma.tx = false) (r : Reply) (hr : r ≠ .ok)
      (henv : env.Gives (.exec (.use schemaContext)) r) (r'' r' : Reply)
      (result : x = (.error (.database r''), { ma with tx := r'.isError }.emit
        (Event.call .begin .ok :: sessionEvents conf.sessionParams ++
          [Event.call (.exec (.use schemaContext)) r, .call .rollback r'])))
  | failed (htx : ma.tx = false) (r : Reply) (hr : ¬ r.Tolerated conf)
      (henv : env.Gives (.exec (.nonDML query)) r) (r'' r' : Reply)
      (result : x = (.error (.database r''), { ma with tx := r'.isError }.emit
        (openEvents conf schemaContext ++
          [Event.call (.exec (.nonDML query)) r, .call .rollback r'])))
  | commit (htx : ma.tx = false) (r : Reply) (hr : r.Tolerated conf) (r' : Reply)
      (hr' : r' ≠ .ok) (henv : env.Gives .commit r')
      (result : x = (.error (.database r'), { ma with tx := true }.emit
        (openEvents conf schemaContext ++ [Event.call (.exec (.nonDML query)) r, .call .commit r'])))

lemma ExecutedNonDML.of_executeOnNonDML (schemaContext query : String) (ma : MysqlApplier) :
    ExecutedNonDML conf env schemaContext query ma
      (executeOnNonDML conf env schemaContext query ma) := by
  rcases hb : begin conf env ma with ⟨e | ⟨⟩, ma₁⟩
  · exact .began e ma₁ (hb ▸ Began.of_begin conf env ma) (bind_of_error hb)
  have hbegan := hb ▸ Began.of_begin conf env ma
  obtain ⟨htx, hma₁⟩ : ma.tx = false ∧ ma₁ = { ma with tx := true }.emit
      (.call .begin .ok :: sessionEvents conf.sessionParams) := by
    cases hbegan <;> simp_all
  have htx₁ : ma₁.tx = true := by rw [hma₁]; rfl
  rw [executeOnNonDML, bind_of_ok hb]
  cases UsedSchema.of_useSchema env schemaContext htx₁ with
  | failed r hr henv e r' result =>
    rw [bind_of_error result, hma₁]
    exact .use htx r hr henv e r' (by simp [MysqlApplier.emit])
  | ok result =>
    rw [bind_of_ok result]
    cases ExecutedData.of_executeData conf env (.nonDML query)
        (ma₁.emit (useEvents schemaContext)) htx₁ with
    | failed r hr henv e r' result =>
      rw [bind_of_error result, hma₁]
      exact .failed htx r hr henv e r' (by simp [MysqlApplier.emit, openEvents])
    | ok r hr result =>
      rw [bind_of_ok result]
      cases Committed.of_commit env
          ((ma₁.emit (useEvents schemaContext)).emit [.call (.exec (.nonDML query)) r]) with
      | ok _ result => exact .ok htx r hr (by rw [result, hma₁]; simp [MysqlApplier.emit, openEvents])
      | missing htx' _ => exact absurd (htx₁.symm.trans htx') (by simp)
      | refused _ r' hr' henv result =>
        exact .commit htx r hr r' hr' henv
          (by rw [result, hma₁]; simp [MysqlApplier.emit, openEvents])

variable {conf} in
lemma ExecutedNonDML.keeps {schemaContext query : String} {ma : MysqlApplier} {x : Ending}
    (h : ExecutedNonDML conf env schemaContext query ma x) : Keeps ma x := by
  cases h with
  | ok htx r hr result => rw [result]; exact .of_ok rfl rfl rfl
  | began e ma' hb result => rw [result]; exact hb.keeps
  | use htx r hr henv r'' r' result => rw [result]; exact .of_error rfl rfl rfl rfl
  | failed htx r hr henv r'' r' result => rw [result]; exact .of_error rfl rfl rfl rfl
  | commit htx r hr r' hr' henv result => rw [result]; exact .of_error rfl rfl rfl rfl

end MysqlClient

/-! ### Checkpointing and merging -/

namespace MysqlApplier

variable {env}

/-- The two writes of a checkpoint and the replies they get. -/
def checkpointEvents (ma : MysqlApplier) (r₁ r₂ : Reply) : List Event :=
  [.call (.putGtidsets ma.ckpt.gtidSetsMap) r₁,
   .call (.putBinlogpos ma.ckpt.binLogFile ma.ckpt.binLogPos) r₂]

variable (env) in
/-- A checkpoint never stops the applier. -/
lemma checkpoint_eq (ma : MysqlApplier) :
    ∃ r₁ r₂, checkpoint env ma = (.ok (), ma.emit (checkpointEvents ma r₁ r₂)) := by
  refine ⟨env ma.log (.putGtidsets ma.ckpt.gtidSetsMap), env (ma.log ++ [.call
    (.putGtidsets ma.ckpt.gtidSetsMap) (env ma.log (.putGtidsets ma.ckpt.gtidSetsMap))])
    (.putBinlogpos ma.ckpt.binLogFile ma.ckpt.binLogPos), ?_⟩
  simp only [checkpoint, bind_apply, get_apply, MysqlClient.call_apply, emit_emit]
  rfl

/-- What a checkpoint changes outside the process. -/
lemma foldl_checkpointEvents (w : World) (ma : MysqlApplier) (r₁ r₂ : Reply) :
    (checkpointEvents ma r₁ r₂).foldl World.after w =
      { w with
        gtidsets := if r₁ = .ok then some ma.ckpt.gtidSetsMap else w.gtidsets
        binlogpos := if r₂ = .ok then some (ma.ckpt.binLogFile, ma.ckpt.binLogPos)
          else w.binlogpos } := by
  simp only [checkpointEvents, List.foldl_cons, List.foldl_nil, World.after_putGtidsets,
    World.after_putBinlogpos]

/-- At every point of a checkpoint the map it writes is written or not. -/
lemma always_checkpointEvents {G : World → Prop} {w : World} {ma : MysqlApplier}
    (h : ∀ gs bp, gs = w.gtidsets ∨ gs = some ma.ckpt.gtidSetsMap →
      G { w with gtidsets := gs, binlogpos := bp }) (r₁ r₂ : Reply) :
    Trace.Always World.after G w (checkpointEvents ma r₁ r₂) := by
  have hgs : ∀ gs, gs = (if r₁ = .ok then some ma.ckpt.gtidSetsMap else w.gtidsets) →
      gs = w.gtidsets ∨ gs = some ma.ckpt.gtidSetsMap := by
    intro gs hgs
    split_ifs at hgs
    · exact .inr hgs
    · exact .inl hgs
  simp only [checkpointEvents, Trace.always_cons, Trace.always_nil, World.after_putGtidsets,
    World.after_putBinlogpos]
  exact ⟨h _ _ (.inl rfl), h _ _ (hgs _ rfl), h _ _ (hgs _ rfl)⟩

variable (env) in
/-- Flushing the merged batch. -/
inductive Merged (ma : MysqlApplier) (x : Ending) : Prop where
  | idle (h : ma.pendingCommitCount = 0) (result : x = (.ok (), ma))
  | flushed (h : 1 ≤ ma.pendingCommitCount) (htx : ma.tx = true) (r₁ r₂ : Reply)
      (result : x = (.ok (), { ma with tx := false, pendingCommitCount := 0, gtidCount := 0 }.emit
        (.call .commit .ok :: checkpointEvents ma r₁ r₂)))
  | missing (h : 1 ≤ ma.pendingCommitCount) (htx : ma.tx = false)
      (result : x = (.error .txDoesNotExist, ma))
  | refused (h : 1 ≤ ma.pendingCommitCount) (htx : ma.tx = true) (r : Reply) (hr : r ≠ .ok)
      (henv : env.Gives .commit r) (result : x = (.error (.database r), ma.emit [.call .commit r]))

variable (env) in
lemma Merged.of_mergeCommit (ma : MysqlApplier) : Merged env ma (mergeCommit env ma) := by
  by_cases h : ma.pendingCommitCount = 0
  · exact .idle h (by simp [mergeCommit, bind_apply, h])
  have hpos : 1 ≤ ma.pendingCommitCount := Nat.one_le_iff_ne_zero.mpr h
  cases MysqlClient.Committed.of_commit env ma with
  | ok htx result =>
    obtain ⟨r₁, r₂, hck⟩ := checkpoint_eq env
      ({ ma with tx := false, pendingCommitCount := 0, gtidCount := 0 }.emit [.call .commit .ok])
    refine .flushed hpos htx r₁ r₂ ?_
    have hmerge : mergeCommit env ma = checkpoint env
        ({ ma with tx := false, pendingCommitCount := 0, gtidCount := 0 }.emit
          [.call .commit .ok]) := by
      simp only [mergeCommit, bind_apply, get_apply, ge_iff_le, hpos, ↓reduceIte, result,
        modify_apply]
      rfl
    rw [hmerge, hck, emit_emit]
    rfl
  | missing htx result => exact .missing hpos htx (by simp [mergeCommit, bind_apply, hpos, result])
  | refused htx r hr henv result =>
    exact .refused hpos htx r hr henv (by simp [mergeCommit, bind_apply, hpos, result])

lemma Merged.keeps {ma : MysqlApplier} {x : Ending} (h : Merged env ma x) : Keeps ma x := by
  cases h with
  | idle h result => rw [result]; exact .of_ok rfl rfl rfl
  | flushed h htx r₁ r₂ result => rw [result]; exact .of_ok rfl rfl rfl
  | missing h htx result => rw [result]; exact .of_error rfl rfl rfl rfl
  | refused h htx r hr henv result => rw [result]; exact .of_error rfl rfl rfl rfl

/-- A flush that does not stop leaves no batch. -/
lemma Merged.pending_eq_zero {ma ma₁ : MysqlApplier} (h : Merged env ma (.ok (), ma₁)) :
    ma₁.pendingCommitCount = 0 := by
  cases h with
  | idle h result =>
    obtain ⟨-, rfl⟩ := Prod.mk.inj result
    exact h
  | flushed h htx r₁ r₂ result =>
    obtain ⟨-, rfl⟩ := Prod.mk.inj result
    rfl
  | missing h htx result => simp at result
  | refused h htx r hr henv result => simp at result

/-- With nothing pending there is nothing to flush. -/
lemma Merged.log_eq {ma : MysqlApplier} {x : Ending} (h : Merged env ma x)
    (hp : ma.pendingCommitCount = 0) : x.2.log = ma.log := by
  cases h with
  | idle _ result => rw [result]
  | flushed hp' | missing hp' | refused hp' => omega

/-- A batch that is there is committed, and a checkpoint written. -/
lemma Merged.exists_log_eq {ma ma₁ : MysqlApplier} (h : Merged env ma (.ok (), ma₁))
    (hp : 1 ≤ ma.pendingCommitCount) :
    ∃ r₁ r₂, ma₁.log = ma.log ++ .call .commit .ok :: checkpointEvents ma r₁ r₂ := by
  cases h with
  | idle hzero result => omega
  | flushed hp htx r₁ r₂ result =>
    obtain ⟨-, rfl⟩ := Prod.mk.inj result
    exact ⟨r₁, r₂, rfl⟩
  | missing hp htx result => simp at result
  | refused hp htx r hr henv result => simp at result

/-- The states a group leaves behind when it is complete, and the state before any group. -/
def resting : List State := [.null, .ddl, .dcl, .xid]

variable (env) in
/-- What the heartbeat and the GTID case do before anything else, in a resting state. -/
inductive Settled (force : Bool) (ma : MysqlApplier) (x : Ending) : Prop where
  | idle (hs : ma.state = .null ∨ ma.state = .xid ∧ force = false) (result : x = (.ok (), ma))
  | checkpointed (hs : ma.state = .ddl ∨ ma.state = .dcl) (r₁ r₂ : Reply)
      (result : x = (.ok (), ma.emit (checkpointEvents ma r₁ r₂)))
  | merged (hs : ma.state = .xid) (hforce : force = true) (h : Merged env ma x)

variable (env) in
lemma Settled.of_settle (case : String) (force : Bool) (ma : MysqlApplier)
    (hs : ma.state ∈ resting) : Settled env force ma (settle env case force ma) := by
  simp only [resting, List.mem_cons, List.not_mem_nil, or_false] at hs
  rcases hs with hs | hs | hs | hs
  · exact .idle (.inl hs) (by simp [settle, bind_apply, hs])
  · obtain ⟨r₁, r₂, hck⟩ := checkpoint_eq env ma
    exact .checkpointed (.inl hs) r₁ r₂ (by simp [settle, bind_apply, hs, hck])
  · obtain ⟨r₁, r₂, hck⟩ := checkpoint_eq env ma
    exact .checkpointed (.inr hs) r₁ r₂ (by simp [settle, bind_apply, hs, hck])
  · cases force with
    | false => exact .idle (.inr ⟨hs, rfl⟩) (by simp [settle, bind_apply, hs])
    | true =>
      have h : settle env case true ma = mergeCommit env ma := by simp [settle, bind_apply, hs]
      exact .merged hs rfl (h ▸ Merged.of_mergeCommit env ma)

lemma Settled.keeps {force : Bool} {ma : MysqlApplier} {x : Ending}
    (h : Settled env force ma x) : Keeps ma x := by
  cases h with
  | idle hs result => rw [result]; exact .of_ok rfl rfl rfl
  | checkpointed hs r₁ r₂ result => rw [result]; exact .of_ok rfl rfl rfl
  | merged hs hforce h => exact h.keeps

/-- When a batch can only be pending in the state `xid`, a forced settlement leaves none. -/
lemma Settled.pending_eq_zero {ma ma₁ : MysqlApplier} (h : Settled env true ma (.ok (), ma₁))
    (hp : ma.state ∈ [State.null, .ddl, .dcl] → ma.pendingCommitCount = 0) :
    ma₁.pendingCommitCount = 0 := by
  cases h with
  | idle hs result =>
    obtain ⟨-, rfl⟩ := Prod.mk.inj result
    rcases hs with hs | ⟨-, hforce⟩
    · exact hp (by simp [hs])
    · exact absurd hforce (by simp)
  | checkpointed hs r₁ r₂ result =>
    obtain ⟨-, rfl⟩ := Prod.mk.inj result
    rcases hs with hs | hs
    · exact hp (by simp [hs])
    · exact hp (by simp [hs])
  | merged hs hforce h => exact h.pending_eq_zero

variable (env) in
lemma settle_of_notMem (case : String) (force : Bool) (ma : MysqlApplier)
    (hs : ma.state ∉ resting) :
    settle env case force ma = (.error (.lastState case ma.state), ma) := by
  cases h : ma.state <;> simp_all [resting, settle, bind_apply]

/-- The number leaves a gap to what the map holds of the server. -/
def Misses (m : GtidSetsMap) (op : MysqlOperationGTID) : Prop :=
  ∃ last, m.lookup op.serverUUID = some last ∧ last < op.trxID.toUInt64 ∧
    last + 2 ≤ op.trxID.toUInt64

/-- The number that continues what the map holds of the server, or the first one seen of it. -/
def Continues (m : GtidSetsMap) (op : MysqlOperationGTID) : Prop :=
  m.lookup op.serverUUID = none ∨
  ∃ last, m.lookup op.serverUUID = some last ∧ last < op.trxID.toUInt64 ∧
    op.trxID.toUInt64 < last + 2

lemma Continues.not_covers {m : GtidSetsMap} {op : MysqlOperationGTID} (h : Continues m op) :
    ¬ m.Covers op.serverUUID op.trxID.toUInt64 := by
  rintro ⟨last', hlast', hle⟩
  rcases h with h | ⟨last, hlast, hlt, -⟩
  · exact Option.some_ne_none last' (hlast'.symm.trans h)
  · obtain rfl : last = last' := Option.some.inj (hlast.symm.trans hlast')
    exact absurd hle (UInt64.not_le.mpr hlt)

variable (env) in
/-- The decision on a GTID. -/
inductive Decided (op : MysqlOperationGTID) (ma : MysqlApplier) (x : Ending) : Prop where
  | skip (h : ma.ckpt.gtidSetsMap.Covers op.serverUUID op.trxID.toUInt64)
      (result : x = (.ok (), { ma with gtidSkip := true }))
  | miss (last : UInt64) (hlast : ma.ckpt.gtidSetsMap.lookup op.serverUUID = some last)
      (hlt : last < op.trxID.toUInt64) (hgap : last + 2 ≤ op.trxID.toUInt64)
      (result : x = (.error (.gtidMiss op.serverUUID (last + 1)), { ma with gtidSkip := false }))
  | accept (h : Continues ma.ckpt.gtidSetsMap op) (ma₁ : MysqlApplier)
      (hm : ma₁ = { ma with gtidSkip := false } ∨
        Merged env { ma with gtidSkip := false } (.ok (), ma₁))
      (result : x = (.ok (), { ma₁ with
        lastCommitted := op.lastCommitted
        ckpt := ma₁.ckpt.setTrxIdOfServerUUID op.serverUUID op.trxID.toUInt64
        gtidCount := ma₁.gtidCount + 1 }))
  | stopped (h : Continues ma.ckpt.gtidSetsMap op) (e : Stop) (ma₁ : MysqlApplier)
      (hm : Merged env { ma with gtidSkip := false } (.error e, ma₁))
      (result : x = (.error e, ma₁))

lemma Decided.of_acceptGTID {op : MysqlOperationGTID} {ma : MysqlApplier}
    (h : Continues ma.ckpt.gtidSetsMap op) :
    Decided env op ma (acceptGTID env op { ma with gtidSkip := false }) := by
  by_cases hlc : ma.lastCommitted = op.lastCommitted
  · refine .accept h _ (.inl rfl) ?_
    simp [acceptGTID, bind_apply, hlc]
  · rcases hm : mergeCommit env { ma with gtidSkip := false } with ⟨e | ⟨⟩, ma₁⟩
    · refine .stopped h e ma₁ (hm ▸ Merged.of_mergeCommit env _) ?_
      simp [acceptGTID, bind_apply, hlc, hm]
    · refine .accept h ma₁ (.inr (hm ▸ Merged.of_mergeCommit env _)) ?_
      simp [acceptGTID, bind_apply, hlc, hm]

lemma Decided.of_onGTID (op : MysqlOperationGTID) (ma : MysqlApplier) :
    Decided env op ma (onGTID env op ma) := by
  cases hlast : ma.ckpt.gtidSetsMap.lookup op.serverUUID with
  | none =>
    have h : onGTID env op ma = acceptGTID env op { ma with gtidSkip := false } := by
      simp [onGTID, bind_apply, Checkpoint.getTrxIdOfServerUUID, hlast]
    exact h ▸ Decided.of_acceptGTID (.inl hlast)
  | some last =>
    by_cases hle : op.trxID.toUInt64 ≤ last
    · refine .skip ⟨last, hlast, hle⟩ ?_
      simp [onGTID, bind_apply, Checkpoint.getTrxIdOfServerUUID, hlast, hle]
    by_cases hgap : last + 2 ≤ op.trxID.toUInt64
    · refine .miss last hlast (UInt64.not_le.mp hle) hgap ?_
      simp [onGTID, bind_apply, Checkpoint.getTrxIdOfServerUUID, hlast, hle, hgap]
    · have h : onGTID env op ma = acceptGTID env op { ma with gtidSkip := false } := by
        simp [onGTID, bind_apply, Checkpoint.getTrxIdOfServerUUID, hlast, hle, hgap]
      exact h ▸ Decided.of_acceptGTID
        (.inr ⟨last, hlast, UInt64.not_le.mp hle, UInt64.not_le.mp hgap⟩)

end MysqlApplier

end MysqlSync

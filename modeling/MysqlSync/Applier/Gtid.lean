import MysqlSync.Applier.Writes

/-!
# GTID accounting

What one turn does to the GTID map, whatever the operation and however the turn ends
(`Accounted`), and the transactions a run accepts (`accepted`). A map can only say "all numbers up
to `n`", so it tells the truth as long as the numbers of a UUID are accepted without gaps. That
holds of the UUIDs the map knows; a UUID it does not know is accepted with whatever number comes
first.
-/

namespace MysqlSync

open MysqlApplier

/-! ### What leaves the map alone -/

/-- The `gtid miss` error. -/
def Stop.isGtidMiss : Stop → Bool
  | .gtidMiss _ _ => true
  | _ => false

/-- The map is left as it was, and the applier did not stop on a missing GTID. -/
structure KeepsMap (m : GtidSetsMap) (x : Ending) : Prop where
  gtidSetsMap : x.2.ckpt.gtidSetsMap = m
  error : ∀ e, x.1 = .error e → e.isGtidMiss = false

section

variable {conf : Settings} {env : Env} {op : MysqlOperation} {ma ma₁ : MysqlApplier} {e : Stop}
  {x : Ending} {m : GtidSetsMap}

lemma keepsMap_ok (h : ma₁.ckpt.gtidSetsMap = m) : KeepsMap m (.ok (), ma₁) :=
  ⟨h, by simp⟩

lemma keepsMap_error (h : ma₁.ckpt.gtidSetsMap = m) (he : e.isGtidMiss = false) :
    KeepsMap m (.error e, ma₁) :=
  ⟨h, fun _ h => by cases h; exact he⟩

lemma keepsMap_of_keeps (h : Keeps ma x) : KeepsMap ma.ckpt.gtidSetsMap x := by
  refine ⟨by rw [h.ckpt], fun e he => ?_⟩
  have hclient := h.error e he
  cases e <;> simp_all [Stop.isClient, Stop.isGtidMiss]

lemma KeepsMap.thenState (h : KeepsMap m x) (s : State) : KeepsMap m (thenState x s) := by
  rcases x with ⟨e | ⟨⟩, ma₁⟩
  · exact h
  · exact keepsMap_ok h.gtidSetsMap

/-- No case but the GTID case touches the map. -/
lemma keepsMap_of_dispatched (hop : op.isGTID = false) (h : Dispatched conf env op ma x) :
    KeepsMap ma.ckpt.gtidSetsMap x := by
  cases h with
  | refused hs ts result => rw [result]; exact keepsMap_error rfl rfl
  | binLogPos o hop result => rw [result]; exact keepsMap_ok rfl
  | heartbeat o hop hs x₁ h result =>
    rw [result]
    exact (keepsMap_of_keeps h.keeps).thenState _
  | gtidSettle o hop' => subst hop'; simp [MysqlOperation.isGTID] at hop
  | gtid o hop' => subst hop'; simp [MysqlOperation.isGTID] at hop
  | nonDMLMerge hop hs e ma₁ h result => rw [result]; exact keepsMap_of_keeps h.keeps
  | nonDML hop hs hq ma₁ h result =>
    rw [result]
    exact keepsMap_ok (by rw [h.keeps.ckpt])
  | nonDMLExec hop hs schemaContext query hq ma₁ h x₂ h₂ result =>
    rw [result]
    exact (keepsMap_of_keeps (h.keeps.trans h₂.keeps)).thenState _
  | beginMerged o hop hs hp result => rw [result]; exact keepsMap_ok rfl
  | begin o hop hs hp x₁ h result => rw [result]; exact (keepsMap_of_keeps h.keeps).thenState _
  | dmlStop hop hs e hq result =>
    rw [result]
    rcases dmlQuery_error hq with rfl | rfl
    · exact keepsMap_error rfl rfl
    · exact keepsMap_error rfl rfl
  | dml hop hs hq result => rw [result]; exact keepsMap_ok rfl
  | dmlMissing hop hs query hq htx result => rw [result]; exact keepsMap_error rfl rfl
  | dmlExec hop hs query hq htx x₁ h result =>
    rw [result]
    exact (keepsMap_of_keeps h.keeps).thenState _
  | xid o hop hs result => rw [result]; exact keepsMap_ok rfl

/-! ### What a turn does to the map -/

/-- The account of one turn, from the map it begins with. -/
inductive Accounted (op : MysqlOperation) (m : GtidSetsMap) (x : Ending) : Prop where
  | other (hop : op.isGTID = false) (h : KeepsMap m x)
  | skipped (o : MysqlOperationGTID) (hop : op = .gtid o)
      (hcov : m.Covers o.serverUUID o.trxID.toUInt64) (hok : x.1 = .ok ())
      (hskip : x.2.gtidSkip = true) (hmap : x.2.ckpt.gtidSetsMap = m)
  | accepted (o : MysqlOperationGTID) (hop : op = .gtid o) (hcont : Continues m o)
      (hok : x.1 = .ok ()) (hskip : x.2.gtidSkip = false)
      (hmap : x.2.ckpt.gtidSetsMap = m.insert o.serverUUID o.trxID.toUInt64)
  | missed (o : MysqlOperationGTID) (hop : op = .gtid o) (last : UInt64)
      (hlast : m.lookup o.serverUUID = some last)
      (hlt : last < o.trxID.toUInt64) (hgap : last + 2 ≤ o.trxID.toUInt64)
      (herr : x.1 = .error (.gtidMiss o.serverUUID (last + 1)))
      (hmap : x.2.ckpt.gtidSetsMap = m)
  | stopped (o : MysqlOperationGTID) (hop : op = .gtid o) (e : Stop) (herr : x.1 = .error e)
      (h : KeepsMap m x)

lemma Accounted.finish (h : Accounted op m x) : Accounted op m (MysqlApplier.finish op x) := by
  obtain ⟨hckpt, hskip, hres⟩ := finish_frame op x
  cases h with
  | other hop h => exact .other hop ⟨by rw [hckpt]; exact h.gtidSetsMap, by rw [hres]; exact h.error⟩
  | skipped o hop hcov hok hs hmap =>
    exact .skipped o hop hcov (hres.trans hok) (hskip.trans hs) (by rw [hckpt, hmap])
  | accepted o hop hcont hok hs hmap =>
    exact .accepted o hop hcont (hres.trans hok) (hskip.trans hs) (by rw [hckpt, hmap])
  | missed o hop last hlast hlt hgap herr hmap =>
    exact .missed o hop last hlast hlt hgap (hres.trans herr) (by rw [hckpt, hmap])
  | stopped o hop e herr h =>
    exact .stopped o hop e (hres.trans herr)
      ⟨by rw [hckpt]; exact h.gtidSetsMap, by rw [hres]; exact h.error⟩

lemma accounted_of_decided {o : MysqlOperationGTID} (h : Decided env o ma x) :
    Accounted (.gtid o) ma.ckpt.gtidSetsMap (thenState x .gtid) := by
  cases h with
  | skip hcov result =>
    rw [result]
    exact .skipped o rfl hcov rfl rfl rfl
  | miss last hlast hlt hgap result =>
    rw [result]
    exact .missed o rfl last hlast hlt hgap rfl rfl
  | accept hcont ma₁ hm result =>
    rw [result]
    obtain ⟨hckpt, hskip⟩ : ma₁.ckpt = ma.ckpt ∧ ma₁.gtidSkip = false := by
      rcases hm with rfl | hm
      · exact ⟨rfl, rfl⟩
      · exact ⟨hm.keeps.ckpt, hm.keeps.gtidSkip⟩
    refine .accepted o rfl hcont rfl hskip ?_
    simp [thenState, hckpt]
  | stopped hcont e ma₁ hm result =>
    rw [result]
    have hk := keepsMap_of_keeps hm.keeps
    exact .stopped o rfl e rfl hk

lemma accounted_of_dispatched (h : Dispatched conf env op ma x) :
    Accounted op ma.ckpt.gtidSetsMap x := by
  cases hop : op.isGTID with
  | false => exact .other hop (keepsMap_of_dispatched hop h)
  | true =>
    obtain ⟨o, rfl⟩ : ∃ o, op = .gtid o := by cases op <;> simp_all [MysqlOperation.isGTID]
    cases h with
    | refused hs ts result =>
      rw [result]
      exact .stopped o rfl _ rfl (keepsMap_error rfl rfl)
    | gtidSettle o' hop' hs force e ma₁ h result =>
      rw [result]
      have hk := keepsMap_of_keeps h.keeps
      exact .stopped o rfl e rfl hk
    | gtid o' hop' hs force ma₁ h x₂ h₂ result =>
      cases hop'
      have hacc := accounted_of_decided h₂
      rw [h.keeps.ckpt] at hacc
      rw [result]
      exact hacc
    | _ => simp_all [MysqlOperation.isNonDML, MysqlOperation.isDML]

/-- Every turn is accounted for. -/
theorem accounted_start (conf : Settings) (env : Env) (op : MysqlOperation) (ma : MysqlApplier) :
    Accounted op ma.ckpt.gtidSetsMap (MysqlApplier.start conf env op ma) := by
  cases Turn.of_start conf env op ma with
  | skipped hskip hop result =>
    rw [result]
    exact .other hop (keepsMap_ok rfl)
  | taken hnot x₁ h result =>
    rw [result]
    exact (accounted_of_dispatched h).finish

end

/-! ### The transactions a run accepts -/

section

variable (conf : Settings) (env : Env)

/-- The GTID a turn accepts, if it accepts one. -/
def accepts (op : MysqlOperation) (ma : MysqlApplier) : Option MysqlOperationGTID :=
  match op, MysqlApplier.start conf env op ma with
  | .gtid o, (.ok (), ma') => if ma'.gtidSkip then none else some o
  | _, _ => none

/-- The GTIDs accepted in a run, in order. -/
def accepted : MysqlApplier → List MysqlOperation → List MysqlOperationGTID
  | _, [] => []
  | ma, op :: opers =>
    (accepts conf env op ma).toList ++ match MysqlApplier.start conf env op ma with
      | (.ok (), ma') => accepted ma' opers
      | (.error _, _) => []

variable {conf env}

lemma accepted_concat_of_ok {ma ma' : MysqlApplier} {opers : List MysqlOperation}
    (h : run conf env opers ma = (.ok (), ma')) (op : MysqlOperation) :
    accepted conf env ma (opers ++ [op]) =
      accepted conf env ma opers ++ (accepts conf env op ma').toList := by
  induction opers generalizing ma with
  | nil =>
    obtain ⟨-, rfl⟩ := Prod.mk.inj h
    simp only [List.nil_append, accepted]
    rcases MysqlApplier.start conf env op ma with ⟨_ | ⟨⟩, _⟩ <;> simp
  | cons op' opers ih =>
    rw [run, Prog.forEach_cons, Prog.bind_apply] at h
    simp only [List.cons_append, accepted]
    rcases hstart : MysqlApplier.start conf env op' ma with ⟨_ | ⟨⟩, ma₁⟩
    · simp [hstart] at h
    · rw [hstart] at h
      simp only [ih h, List.append_assoc]

lemma accepted_concat_of_error {ma ma' : MysqlApplier} {opers : List MysqlOperation} {e : Stop}
    (h : run conf env opers ma = (.error e, ma')) (op : MysqlOperation) :
    accepted conf env ma (opers ++ [op]) = accepted conf env ma opers := by
  induction opers generalizing ma with
  | nil => simp [run] at h
  | cons op' opers ih =>
    rw [run, Prog.forEach_cons, Prog.bind_apply] at h
    simp only [List.cons_append, accepted]
    rcases hstart : MysqlApplier.start conf env op' ma with ⟨_ | ⟨⟩, ma₁⟩
    · rfl
    · rw [hstart] at h
      simp only [ih h]

end

/-- The transaction number as the applier compares it. -/
def MysqlOperationGTID.number (o : MysqlOperationGTID) : ℕ := o.trxID.toUInt64.toNat

/-- The GTIDs of a stream. -/
def gtidsOf (opers : List MysqlOperation) : List MysqlOperationGTID :=
  opers.filterMap fun
    | .gtid o => some o
    | _ => none

/-- The numbers of one server among a list of GTIDs. -/
def numbers (u : String) (l : List MysqlOperationGTID) : List ℕ :=
  (l.filter (·.serverUUID = u)).map (·.number)

section

variable {m : GtidSetsMap} {u : String} {o : MysqlOperationGTID}

lemma numbers_append (l l' : List MysqlOperationGTID) :
    numbers u (l ++ l') = numbers u l ++ numbers u l' := by
  simp [numbers]

lemma numbers_singleton_self : numbers o.serverUUID [o] = [o.number] := by simp [numbers]

lemma numbers_singleton_of_ne (h : u ≠ o.serverUUID) : numbers u [o] = [] := by
  simp [numbers, Ne.symm h]

lemma gtidsOf_append (as bs : List MysqlOperation) :
    gtidsOf (as ++ bs) = gtidsOf as ++ gtidsOf bs :=
  List.filterMap_append ..

lemma gtidsOf_singleton_of_not {op : MysqlOperation} (h : op.isGTID = false) :
    gtidsOf [op] = [] := by
  cases op <;> simp_all [gtidsOf, MysqlOperation.isGTID]

lemma gtidsOf_isPrefix {as opers : List MysqlOperation} (h : as <+: opers) :
    gtidsOf as <+: gtidsOf opers := by
  obtain ⟨rest, rfl⟩ := h
  rw [gtidsOf_append]
  exact List.prefix_append _ _

lemma MysqlOperationGTID.number_bounds (h : 1 ≤ o.trxID) : 1 ≤ o.number ∧ o.number < 2 ^ 63 := by
  have h0 : (0 : Int64) ≤ o.trxID := Int64.le_trans (by decide) h
  have hnum : o.number = o.trxID.toNatClampNeg := Int64.toNat_toUInt64_of_le h0
  have hcast := Int64.cast_toNatClampNeg o.trxID h0
  have h1 : (1 : Int) ≤ o.trxID.toInt := Int64.le_iff_toInt_le.mp h
  refine ⟨by omega, ?_⟩
  rw [hnum]
  exact Int64.toNatClampNeg_lt o.trxID

lemma GtidSetsMap.last_insert_self (n : UInt64) :
    GtidSetsMap.last (Finmap.insert u n m) u = n.toNat := by
  simp [GtidSetsMap.last]

lemma GtidSetsMap.last_insert_of_ne {u' : String} (h : u ≠ u') (n : UInt64) :
    GtidSetsMap.last (Finmap.insert u' n m) u = GtidSetsMap.last m u := by
  simp [GtidSetsMap.last, Finmap.lookup_insert_of_ne _ h]

/-- A number that is accepted from a server the map knows is the next one. -/
lemma number_eq_of_continues (h : Continues m o) (hpos : 1 ≤ o.trxID)
    (hnew : m.lookup o.serverUUID = none → o.trxID = 1) :
    o.number = GtidSetsMap.last m o.serverUUID + 1 := by
  rcases h with hnone | ⟨last, hlast, hlt, hgap⟩
  · simp only [MysqlOperationGTID.number, GtidSetsMap.last, hnone, hnew hnone, Option.elim_none]
    rfl
  · have hbound : o.number < 2 ^ 63 := (MysqlOperationGTID.number_bounds hpos).2
    have hlt' : last.toNat < o.number := UInt64.lt_iff_toNat_lt.mp hlt
    have hgap' : o.number < (last + 2).toNat := UInt64.lt_iff_toNat_lt.mp hgap
    -- the number fits in 63 bits, so the sum does not wrap
    have hsum : (last + 2).toNat = last.toNat + 2 := by
      rw [UInt64.toNat_add]
      exact Nat.mod_eq_of_lt (by simp; omega)
    simp only [GtidSetsMap.last, hlast, Option.elim_some]
    omega

end

/-! ### No gaps -/

/-- Of every server the list holds exactly the numbers by which `m'` is ahead of `m`, each once and
in increasing order. -/
def GapFree (m m' : GtidSetsMap) (l : List MysqlOperationGTID) : Prop :=
  ∀ u, m.last u ≤ m'.last u ∧
    numbers u l = List.range' (m.last u + 1) (m'.last u - m.last u)

open Prog in
/-- The part of a turn with a GTID that comes before `OnGTID`. -/
def beforeOnGTID (conf : Settings) (env : Env) (o : MysqlOperationGTID) : Action Unit := do
  modify fun ma => ma.emit [.receive (.gtid o)]
  let ma ← get
  if ma.gtidSkip then setState .null
  modify fun ma => { ma with lastCheckpointTimestamp := ma.lastAppliedTimestamp }
  let ma ← get
  settle env "gtid" (evaluateForceMergeCommit conf ma)

/-- Whenever `OnGTID` meets a GTID of a server that the map does not hold, its number is 1. -/
def NewServersStartAtOne (conf : Settings) (env : Env) (ckpt : Checkpoint)
    (opers : List MysqlOperation) : Prop :=
  ∀ k o ma, opers[k]? = some (.gtid o) →
    run conf env (opers.take k) (newMysqlApplier ckpt) = (.ok (), ma) →
    (beforeOnGTID conf env o ma).1 = .ok () →
    ma.ckpt.gtidSetsMap.lookup o.serverUUID = none → o.trxID = 1

section

variable {conf : Settings} {env : Env} {m m' : GtidSetsMap} {l : List MysqlOperationGTID}
  {o : MysqlOperationGTID}

open Prog in
/-- A turn that ends well has met `OnGTID`. -/
lemma beforeOnGTID_eq_ok {ma : MysqlApplier}
    (h : (MysqlApplier.start conf env (.gtid o) ma).1 = .ok ()) :
    (beforeOnGTID conf env o ma).1 = .ok () := by
  have hemit : (ma.emit [.receive (.gtid o)]).gtidSkip = ma.gtidSkip := rfl
  revert h
  cases hskip : ma.gtidSkip <;>
  · simp only [MysqlApplier.start, beforeOnGTID, dispatch, startGTID, continues, setState,
      MysqlOperation.isGTID, Prog.bind_apply, get_apply, modify_apply, hemit, hskip, Bool.not_true,
      Bool.and_false, Bool.false_eq_true, if_true, if_false]
    -- the turn stops where the first part stops
    generalize settle env "gtid" _ _ = x
    rcases x with ⟨e | ⟨⟩, ma'⟩
    · exact id
    · exact fun _ => rfl

lemma gapFree_refl (m : GtidSetsMap) : GapFree m m [] := by
  intro u
  simp [numbers]

/-- Accepting the next number of a server keeps the account free of gaps. -/
lemma GapFree.accept (h : GapFree m m' l) (hnum : o.number = m'.last o.serverUUID + 1) :
    GapFree m (Finmap.insert o.serverUUID o.trxID.toUInt64 m') (l ++ [o]) := by
  intro u
  obtain ⟨hle, heq⟩ := h u
  by_cases hu : u = o.serverUUID
  · subst hu
    have hlast : GtidSetsMap.last (Finmap.insert o.serverUUID o.trxID.toUInt64 m') o.serverUUID =
        o.number := GtidSetsMap.last_insert_self _
    rw [hlast, hnum, numbers_append, heq, numbers_singleton_self, hnum]
    refine ⟨Nat.le_succ_of_le hle, ?_⟩
    have hlen : m'.last o.serverUUID + 1 - m.last o.serverUUID =
        (m'.last o.serverUUID - m.last o.serverUUID) + 1 := by omega
    rw [hlen, List.range'_concat]
    congr 2
    omega
  · rw [GtidSetsMap.last_insert_of_ne hu, numbers_append, numbers_singleton_of_ne hu,
      List.append_nil]
    exact ⟨hle, heq⟩

lemma GapFree.start {op : MysqlOperation} {ma : MysqlApplier}
    (h : GapFree m ma.ckpt.gtidSetsMap l) (hpos : ∀ o, op = .gtid o → 1 ≤ o.trxID)
    (hnew : ∀ o, op = .gtid o → (beforeOnGTID conf env o ma).1 = .ok () →
      ma.ckpt.gtidSetsMap.lookup o.serverUUID = none → o.trxID = 1) :
    GapFree m (MysqlApplier.start conf env op ma).2.ckpt.gtidSetsMap
      (l ++ (accepts conf env op ma).toList) := by
  have hkeep (hmap : (MysqlApplier.start conf env op ma).2.ckpt.gtidSetsMap =
      ma.ckpt.gtidSetsMap) (hnone : accepts conf env op ma = none) :
      GapFree m (MysqlApplier.start conf env op ma).2.ckpt.gtidSetsMap
        (l ++ (accepts conf env op ma).toList) := by
    rw [hmap, hnone, Option.toList_none, List.append_nil]
    exact h
  rcases hx : MysqlApplier.start conf env op ma with ⟨res, ma'⟩
  have hacc := accounted_start conf env op ma
  rw [hx] at hacc hkeep
  cases hacc with
  | other hop hk =>
    refine hkeep hk.gtidSetsMap ?_
    cases op <;> simp_all [accepts, MysqlOperation.isGTID]
  | skipped o hop hcov hok hskip hmap =>
    refine hkeep hmap ?_
    simp_all [accepts]
  | accepted o hop hcont hok hskip hmap =>
    have hsome : accepts conf env op ma = some o := by simp_all [accepts]
    have hmet : (beforeOnGTID conf env o ma).1 = .ok () := by
      refine beforeOnGTID_eq_ok ?_
      rw [← hop, hx]
      exact hok
    rw [hsome, Option.toList_some, hmap]
    exact h.accept (number_eq_of_continues hcont (hpos o hop) (hnew o hop hmet))
  | missed o hop last hlast hlt hgap herr hmap =>
    refine hkeep hmap ?_
    simp_all [accepts]
  | stopped o hop e herr hk =>
    refine hkeep hk.gtidSetsMap ?_
    simp_all [accepts]

lemma gapFree_run {ckpt : Checkpoint} {opers : List MysqlOperation}
    (hpos : ∀ o, .gtid o ∈ opers → 1 ≤ o.trxID)
    (hnew : NewServersStartAtOne conf env ckpt opers) :
    GapFree ckpt.gtidSetsMap (run conf env opers (newMysqlApplier ckpt)).2.ckpt.gtidSetsMap
      (accepted conf env (newMysqlApplier ckpt) opers) := by
  refine Prog.forEach_along (P := fun as (ma : MysqlApplier) =>
    GapFree ckpt.gtidSetsMap ma.ckpt.gtidSetsMap (accepted conf env (newMysqlApplier ckpt) as))
    opers (gapFree_refl _) ?_ ?_
  · intro as op ma has hrun ih
    have hpre : as <+: opers := (List.prefix_append as [op]).trans has
    have hk : opers[as.length]? = some op := Prog.getElem?_of_concat_isPrefix has
    rw [accepted_concat_of_ok hrun]
    refine ih.start (fun o hop => ?_) (fun o hop => ?_)
    · exact hpos o (hop ▸ List.mem_of_getElem? hk)
    · rw [List.prefix_iff_eq_take.mp hpre] at hrun
      exact hnew as.length o ma (hop ▸ hk) hrun
  · intro as op e ma hrun ih
    rw [accepted_concat_of_error hrun]
    exact ih

lemma accepted_isPrefix {ma : MysqlApplier} {as opers : List MysqlOperation} (h : as <+: opers) :
    accepted conf env ma as <+: accepted conf env ma opers := by
  obtain ⟨rest, rfl⟩ := h
  induction rest using List.reverseRecOn with
  | nil => simp
  | append_singleton rest op ih =>
    rw [← List.append_assoc]
    refine ih.trans ?_
    rcases hrun : run conf env (as ++ rest) ma with ⟨e | ⟨⟩, ma'⟩
    · rw [accepted_concat_of_error hrun]
    · rw [accepted_concat_of_ok hrun]
      exact List.prefix_append _ _

lemma NewServersStartAtOne.of_isPrefix {ckpt : Checkpoint} {as opers : List MysqlOperation}
    (h : NewServersStartAtOne conf env ckpt opers) (has : as <+: opers) :
    NewServersStartAtOne conf env ckpt as := by
  intro k o ma hk hrun hmet hnone
  have hlt : k < as.length := (List.getElem?_eq_some_iff.mp hk).1
  refine h k o ma ?_ ?_ hmet hnone
  · obtain ⟨rest, rfl⟩ := has
    rw [List.getElem?_append_left hlt]
    exact hk
  · rw [List.prefix_iff_eq_take.mp has, List.take_take, min_eq_left hlt.le] at hrun
    exact hrun

end

/-- GTID accounting has no gaps as long as new servers start at 1: a number the map holds for a
server stands for exactly the accepted numbers from the initial one on, and so does every map
that was written to Consul. -/
theorem accepted_eq_range (conf : Settings) (env : Env) (ckpt : Checkpoint)
    (opers : List MysqlOperation) (hpos : ∀ o, .gtid o ∈ opers → 1 ≤ o.trxID)
    (hnew : NewServersStartAtOne conf env ckpt opers) :
    (∀ u n, (run conf env opers (newMysqlApplier ckpt)).2.ckpt.gtidSetsMap.lookup u = some n →
      numbers u (accepted conf env (newMysqlApplier ckpt) opers) =
        List.range' (ckpt.gtidSetsMap.last u + 1) (n.toNat - ckpt.gtidSetsMap.last u)) ∧
    (∀ written r, .call (.putGtidsets written) r ∈
        (run conf env opers (newMysqlApplier ckpt)).2.log →
      ∀ u n, written.lookup u = some n → ∀ x, ckpt.gtidSetsMap.last u < x → x ≤ n.toNat →
        x ∈ numbers u (accepted conf env (newMysqlApplier ckpt) opers)) := by
  constructor
  · intro u n hn
    have hlast : (run conf env opers (newMysqlApplier ckpt)).2.ckpt.gtidSetsMap.last u = n.toNat := by
      simp [GtidSetsMap.last, hn]
    rw [← hlast]
    exact (gapFree_run hpos hnew u).2
  · intro written r hmem u n hn x hlo hhi
    obtain ⟨as, ma, has, hrun, rfl⟩ := exists_run_of_mem_log hmem
    have hgap : GapFree ckpt.gtidSetsMap ma.ckpt.gtidSetsMap
        (accepted conf env (newMysqlApplier ckpt) as) := by
      have h := gapFree_run (fun o ho => hpos o (has.subset ho)) (hnew.of_isPrefix has)
      rwa [hrun] at h
    have hlast : ma.ckpt.gtidSetsMap.last u = n.toNat := by simp [GtidSetsMap.last, hn]
    have hx : x ∈ numbers u (accepted conf env (newMysqlApplier ckpt) as) := by
      rw [(hgap u).2, List.mem_range'_1]
      omega
    exact ((accepted_isPrefix has).sublist.filter _).map _ |>.subset hx

/-- Two transactions of one server, from the number `n` on. -/
def twoFrom (n : Int64) : List MysqlOperation :=
  [.gtid ⟨1, 1, 10, "u", n⟩, .begin ⟨1, 10⟩, .xid ⟨10⟩,
   .gtid ⟨2, 1, 11, "u", n + 1⟩, .begin ⟨1, 11⟩, .xid ⟨11⟩]

theorem accepted_eq_range_twoFrom_one :
    numbers "u" (accepted Settings.unrestricted (fun _ _ => .ok) (newMysqlApplier ⟨∅, "", 0⟩)
      (twoFrom 1)) = [1, 2] := by
  refine (accepted_eq_range Settings.unrestricted (fun _ _ => .ok) ⟨∅, "", 0⟩ (twoFrom 1) ?_ ?_).1
    "u" 2 (by decide)
  · intro o ho
    have hall : ∀ op ∈ twoFrom 1, ∀ o, op = .gtid o → 1 ≤ o.trxID := by
      simp only [twoFrom, List.mem_cons, List.not_mem_nil, or_false]
      rintro op (rfl | rfl | rfl | rfl | rfl | rfl) o h <;> cases h <;> decide
    exact hall _ ho o rfl
  · intro k o ma hk hrun _ hnone
    match k, hk with
    | 0, hk => cases hk; rfl
    | 3, hk =>
      cases hk
      have hsome : (run Settings.unrestricted (fun _ _ => .ok) ((twoFrom 1).take 3)
          (newMysqlApplier ⟨∅, "", 0⟩)).2.ckpt.gtidSetsMap.lookup "u" ≠ none := by decide
      rw [hrun] at hsome
      exact absurd hnone hsome
    | 1, hk | 2, hk | 4, hk | 5, hk => cases hk

/-- A server that was never seen before is accepted at number 5, and the map then claims 1 to 5. -/
theorem accepted_ne_range_twoFrom_five :
    ¬ ∀ u n, (run Settings.unrestricted (fun _ _ => .ok) (twoFrom 5)
        (newMysqlApplier ⟨∅, "", 0⟩)).2.ckpt.gtidSetsMap.lookup u = some n →
      numbers u (accepted Settings.unrestricted (fun _ _ => .ok) (newMysqlApplier ⟨∅, "", 0⟩)
        (twoFrom 5)) = List.range' (GtidSetsMap.last ∅ u + 1) (n.toNat - GtidSetsMap.last ∅ u) := by
  intro h
  exact absurd (h "u" 6 (by decide)) (by decide)

end MysqlSync

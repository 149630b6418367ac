import MysqlSync.Transfer.Link

/-!
# Delivery in lockstep

The transfer refines the lockstep broadcast: the state of the broadcast is the batches that the
distributor has formed and what every client has put on its channel. The invariant adds to the
phases of the connections where the distributor is: while it looks for clients that are not ready
no push is going on, and those it has passed stay free.
-/

namespace MysqlSync

variable {ι : Type}

namespace Distributor

/-- What the distributor has taken for the batch it is forming. -/
def fetched : Distributor ι → List MysqlOperation
  | .fetchMos _ mos => mos
  | .clientsReady _ | .alive _ _ | .busy _ | .again _ | .clientsPush | .returned => []

/-- What holds of the connections while the distributor is at a given point. -/
def Guards (links : ι → Link) : Distributor ι → Prop
  | .clientsReady rest | .alive _ rest =>
    (∀ c, (links c).pushIdle = true) ∧ ∀ c, c ∉ rest → (links c).Free
  | .busy _ => ∀ c, (links c).pushIdle = true
  | .again c => ∀ d, d ≠ c → (links d).pushIdle = true
  | .fetchMos _ _ => (∀ c, (links c).pushIdle = true) ∧ ∀ c, (links c).Free
  | .clientsPush | .returned => True

/-- The guards are kept by what the parties of one connection do. -/
lemma Guards.update [DecidableEq ι] {links : ι → Link} {pc : Distributor ι} {c : ι} {l : Link}
    (h : pc.Guards links) (hstep : (links c).Step l) :
    pc.Guards (Function.update links c l) := by
  have hidle : ∀ d, (links d).pushIdle = true → (Function.update links c l d).pushIdle = true := by
    rw [Function.forall_update_iff links
      (p := fun d l' => (links d).pushIdle = true → l'.pushIdle = true)]
    exact ⟨hstep.pushIdle, fun d _ => id⟩
  have hfree : ∀ d, (links d).pushIdle = true → (links d).Free →
      (Function.update links c l d).Free := by
    rw [Function.forall_update_iff links
      (p := fun d l' => (links d).pushIdle = true → (links d).Free → l'.Free)]
    exact ⟨hstep.free, fun d _ _ => id⟩
  cases pc with
  | clientsReady rest | alive _ rest =>
    exact ⟨fun d => hidle d (h.1 d), fun d hd => hfree d (h.1 d) (h.2 d hd)⟩
  | busy => exact fun d => hidle d (h d)
  | again => exact fun d hd => hidle d (h d hd)
  | fetchMos => exact ⟨fun d => hidle d (h.1 d), fun d => hfree d (h.1 d) (h.2 d)⟩
  | clientsPush | returned => trivial

end Distributor

namespace TCPServer

/-! ### What a step can do -/

section

variable [Fintype ι] [DecidableEq ι]

/-- What an event finds and what it does. -/
inductive Effect (ts : TCPServer ι) : TransferEvent ι → TCPServer ι → Prop where
  | extract (oper : MysqlOperation) :
      Effect ts (.extract oper) { ts with moCh := ts.moCh ++ [oper] }
  | cancel {rest : Finset ι} (hpc : ts.distributor = .clientsReady rest) :
      Effect ts .cancel { ts with distributor := .returned }
  | readDead {c : ι} {rest : Finset ι} (hpc : ts.distributor = .clientsReady rest)
      (hc : c ∈ rest) : Effect ts (.readDead c) (ts.readDead c rest)
  | readState {c : ι} {rest : Finset ι} {tsc : TCPServerClient}
      (hpc : ts.distributor = .alive c rest) (hs : (ts.links c).server = some tsc) :
      Effect ts .readState (ts.readState c rest tsc)
  | readSendError {c : ι} {tsc : TCPServerClient} (hpc : ts.distributor = .busy c)
      (hs : (ts.links c).server = some tsc) : Effect ts .readSendError (ts.readSendError c tsc)
  | evaluateFetchCount {count : ℕ} (hpc : ts.distributor = .clientsReady ∅)
      (hmin : minRcCnt ≤ count) (hmax : count ≤ ts.moCh.length) :
      Effect ts (.evaluateFetchCount count) { ts with distributor := .fetchMos count [] }
  | takeMo {count : ℕ} {mos moCh : List MysqlOperation} {oper : MysqlOperation}
      (hpc : ts.distributor = .fetchMos count mos) (hmoCh : ts.moCh = oper :: moCh)
      (hlt : mos.length < count) :
      Effect ts .takeMo { ts with
        moCh := moCh
        distributor := .fetchMos count (mos ++ [oper])
        taken := ts.taken ++ [oper] }
  | formBatch {mos : List MysqlOperation} (hpc : ts.distributor = .fetchMos mos.length mos) :
      Effect ts .formBatch (ts.formBatch mos)
  | again {c : ι} (hpc : ts.distributor = .again c) (hidle : (ts.links c).pushIdle = true) :
      Effect ts .pushed ts.retry
  | pushed (hpc : ts.distributor = .clientsPush) (hidle : ∀ c, (ts.links c).pushIdle = true) :
      Effect ts .pushed ts.retry
  | link {c : ι} {e : LinkEvent} {l : Link} (hl : (ts.links c).step e = some l) :
      Effect ts (.link c e) (ts.setLink c l)

lemma effect_of_step {e : TransferEvent ι} {ts ts' : TCPServer ι}
    (h : TCPServer.step e ts = some ts') : ts.Effect e ts' := by
  cases e <;> simp only [TCPServer.step] at h
  case extract oper =>
    cases h
    exact .extract oper
  case cancel =>
    split at h
    · next hpc =>
      cases h
      exact .cancel hpc
    · cases h
  case readDead c =>
    split at h
    · next hpc =>
      split at h
      · next hc =>
        cases h
        exact .readDead hpc hc
      · cases h
    · cases h
  case readState =>
    split at h
    · next hpc =>
      obtain ⟨tsc, hs, rfl⟩ := Option.map_eq_some_iff.mp h
      exact .readState hpc hs
    · cases h
  case readSendError =>
    split at h
    · next hpc =>
      obtain ⟨tsc, hs, rfl⟩ := Option.map_eq_some_iff.mp h
      exact .readSendError hpc hs
    · cases h
  case evaluateFetchCount count =>
    split at h
    · next hpc =>
      split at h
      · next hcount =>
        obtain ⟨rfl, hmin, hmax⟩ := hcount
        cases h
        exact .evaluateFetchCount hpc hmin hmax
      · cases h
    · cases h
  case takeMo =>
    split at h
    · next hpc hmoCh =>
      split at h
      · next hlt =>
        cases h
        exact .takeMo hpc hmoCh hlt
      · cases h
    · cases h
  case formBatch =>
    split at h
    · next hpc =>
      split at h
      · next hlen =>
        subst hlen
        cases h
        exact .formBatch hpc
      · cases h
    · cases h
  case pushed =>
    split at h
    · next hpc =>
      split at h
      · next hidle =>
        cases h
        exact .again hpc hidle
      · cases h
    · next hpc =>
      split at h
      · next hidle =>
        cases h
        exact .pushed hpc hidle
      · cases h
    · cases h
  case link c e =>
    obtain ⟨l, hl, rfl⟩ := Option.map_eq_some_iff.mp h
    exact .link hl

/-- The steps of the transfer, with what they change. -/
inductive Step (ts : TCPServer ι) : TCPServer ι → Prop where
  | extract (oper : MysqlOperation) : Step ts { ts with moCh := ts.moCh ++ [oper] }
  | cancel {rest : Finset ι} (hpc : ts.distributor = .clientsReady rest) :
      Step ts { ts with distributor := .returned }
  | notReady {rest : Finset ι} (hpc : ts.distributor = .clientsReady rest) : Step ts ts.retry
  | alive {rest : Finset ι} (c : ι) (hpc : ts.distributor = .clientsReady rest) :
      Step ts { ts with distributor := .alive c rest }
  | readState {c : ι} {rest : Finset ι} {tsc : TCPServerClient}
      (hpc : ts.distributor = .alive c rest) (hsome : (ts.links c).server = some tsc) :
      Step ts (ts.readState c rest tsc)
  | readSendError {c : ι} {tsc : TCPServerClient} (hpc : ts.distributor = .busy c) :
      Step ts (ts.readSendError c tsc)
  | evaluateFetchCount (count : ℕ) (hpc : ts.distributor = .clientsReady ∅) :
      Step ts { ts with distributor := .fetchMos count [] }
  | takeMo {count : ℕ} {mos moCh : List MysqlOperation} {oper : MysqlOperation}
      (hpc : ts.distributor = .fetchMos count mos) :
      Step ts { ts with
        moCh := moCh
        distributor := .fetchMos count (mos ++ [oper])
        taken := ts.taken ++ [oper] }
  | formBatch {count : ℕ} {mos : List MysqlOperation}
      (hpc : ts.distributor = .fetchMos count mos) : Step ts (ts.formBatch mos)
  | pushedAgain {c : ι} (hpc : ts.distributor = .again c)
      (hidle : (ts.links c).pushIdle = true) : Step ts ts.retry
  | pushed (hpc : ts.distributor = .clientsPush)
      (hidle : ∀ c, (ts.links c).pushIdle = true) : Step ts ts.retry
  | link {c : ι} {l : Link} (hstep : (ts.links c).Step l) : Step ts (ts.setLink c l)

/-- Every event is one of these steps. -/
theorem step_of_eq_some {e : TransferEvent ι} {ts ts' : TCPServer ι}
    (h : TCPServer.step e ts = some ts') : ts.Step ts' := by
  cases effect_of_step h with
  | extract oper => exact .extract oper
  | cancel hpc => exact .cancel hpc
  | @readDead c rest hpc =>
    rw [readDead]
    split
    · exact .notReady hpc
    · split
      · exact .notReady hpc
      · exact .alive c hpc
  | readState hpc hs => exact .readState hpc hs
  | readSendError hpc => exact .readSendError hpc
  | @evaluateFetchCount count hpc => exact .evaluateFetchCount count hpc
  | takeMo hpc => exact .takeMo hpc
  | formBatch hpc => exact .formBatch hpc
  | again hpc hidle => exact .pushedAgain hpc hidle
  | pushed hpc hidle => exact .pushed hpc hidle
  | link hl => exact .link (Link.step_of_eq_some hl)

end

/-! ### The invariant -/

structure Inv (ts : TCPServer ι) : Prop where
  batchID : ts.batchID = .ofNat ts.batches.length
  taken : ts.taken = ts.batches.flatten ++ ts.distributor.fetched
  links : ∀ c, (ts.links c).Inv ts.batches
  guards : ts.distributor.Guards ts.links

variable {ts ts' : TCPServer ι}

lemma inv_start [Fintype ι] : Inv (start : TCPServer ι) where
  batchID := rfl
  taken := rfl
  links := fun _ => ⟨[], .settled, {
    registered := fun _ => rfl
    accepts := rfl
    setPush := fun _ _ h => nomatch h
    signal1 := fun _ => rfl
    sending := fun _ h => nomatch h
    fresh := fun h => nomatch h
    busy := fun h => nomatch h
    matched := fun h => nomatch h
    toServer := fun h => absurd rfl h
    toClient := ⟨[], [], rfl, List.forall_mem_nil _, List.forall_mem_nil _, fun _ => rfl⟩
    client := .inl .decode
    putting := fun _ _ h => nomatch h }⟩
  guards := ⟨fun _ => rfl, fun c hc => absurd (Finset.mem_univ c) hc⟩

/-- `clientsReady` may begin anew whenever no push is going on. -/
lemma Inv.retry [Fintype ι] (h : ts.Inv) (hidle : ∀ c, (ts.links c).pushIdle = true)
    (hfetched : ts.distributor.fetched = []) : ts.retry.Inv :=
  { h with
    taken := by
      rw [show ts.retry.taken = ts.taken from rfl, h.taken, hfetched]
      rfl
    guards := ⟨hidle, fun c hc => absurd (Finset.mem_univ c) hc⟩ }

lemma Inv.setLink_links [DecidableEq ι] {c : ι} {l : Link} (h : ts.Inv)
    (hlink : l.Inv ts.batches) : ∀ d, ((ts.setLink c l).links d).Inv ts.batches :=
  (Function.forall_update_iff ts.links (p := fun _ l' => l'.Inv ts.batches)).mpr
    ⟨hlink, fun d _ => h.links d⟩

/-- A client that is passed is free. -/
lemma Inv.readState [DecidableEq ι] {c : ι} {rest : Finset ι} {tsc : TCPServerClient} (h : ts.Inv)
    (hpc : ts.distributor = .alive c rest) (hsome : (ts.links c).server = some tsc) :
    (ts.readState c rest tsc).Inv := by
  have hguards := h.guards
  have htaken := h.taken
  rw [hpc] at hguards htaken
  obtain ⟨hidle, hfree⟩ := hguards
  rw [TCPServer.readState]
  cases hstate : tsc.state with
  | busy => exact { h with taken := htaken, guards := hidle }
  | free =>
    refine { h with taken := htaken, guards := ⟨hidle, fun d hd => ?_⟩ }
    by_cases hdc : d = c
    · subst hdc
      exact ⟨tsc, hsome, hstate⟩
    · exact hfree d fun hmem => hd (Finset.mem_erase.mpr ⟨hdc, hmem⟩)

lemma Inv.readSendError [Fintype ι] [DecidableEq ι] {c : ι} {tsc : TCPServerClient} (h : ts.Inv)
    (hpc : ts.distributor = .busy c) : (ts.readSendError c tsc).Inv := by
  have hidle := h.guards
  have htaken := h.taken
  rw [hpc] at hidle htaken
  rw [TCPServer.readSendError]
  cases tsc.sendError with
  | none => exact h.retry hidle (by rw [hpc]; rfl)
  | some err =>
    refine { h with
      taken := htaken
      links := h.setLink_links ((h.links c).startPush_again (hidle c))
      guards := ?_ }
    intro d hdc
    show (Function.update ts.links c _ d).pushIdle = true
    rw [Function.update_of_ne hdc]
    exact hidle d

/-- While a batch is being taken, every client has accepted all the batches before it. -/
lemma Inv.settled {count : ℕ} {mos : List MysqlOperation} (h : ts.Inv)
    (hpc : ts.distributor = .fetchMos count mos) (c : ι) :
    (ts.links c).Free ∧ (ts.links c).At ts.batches ts.batches .settled := by
  have hguards := h.guards
  rw [hpc] at hguards
  exact ⟨hguards.2 c, (h.links c).settled (hguards.1 c) (hguards.2 c)⟩

lemma Inv.formBatch {count : ℕ} {mos : List MysqlOperation} (h : ts.Inv)
    (hpc : ts.distributor = .fetchMos count mos) : (ts.formBatch mos).Inv := by
  have hid : ts.batchID + 1 = .ofNat (ts.batches ++ [mos]).length := by
    rw [h.batchID, List.length_append, UInt64.ofNat_add]
    rfl
  refine ⟨hid, ?_, ?_, trivial⟩
  · show ts.taken = (ts.batches ++ [mos]).flatten ++ []
    rw [h.taken, hpc, List.flatten_append, List.append_nil]
    simp [Distributor.fetched]
  · intro c
    obtain ⟨hfree, hsettled⟩ := h.settled hpc c
    show ((ts.links c).startPush (.setPush (ts.batchID + 1) mos)).Inv (ts.batches ++ [mos])
    rw [hid]
    exact hsettled.startPush hfree

variable [Fintype ι] [DecidableEq ι]

/-- Every step of the transfer preserves the invariant. -/
theorem Inv.step (h : ts.Inv) (hstep : ts.Step ts') : ts'.Inv := by
  have hguards := h.guards
  have htaken := h.taken
  cases hstep with
  | extract oper => exact { h with }
  | cancel hpc =>
    rw [hpc] at htaken
    exact { h with taken := htaken, guards := trivial }
  | notReady hpc =>
    rw [hpc] at hguards
    exact h.retry hguards.1 (by rw [hpc]; rfl)
  | alive c hpc =>
    rw [hpc] at hguards htaken
    exact { h with taken := htaken, guards := hguards }
  | readState hpc hsome => exact h.readState hpc hsome
  | readSendError hpc => exact h.readSendError hpc
  | evaluateFetchCount count hpc =>
    rw [hpc] at hguards htaken
    exact { h with
      taken := htaken
      guards := ⟨hguards.1, fun c => hguards.2 c (Finset.notMem_empty c)⟩ }
  | @takeMo count mos moCh oper hpc =>
    rw [hpc] at hguards htaken
    refine { h with taken := ?_, guards := hguards }
    show ts.taken ++ [oper] = ts.batches.flatten ++ (mos ++ [oper])
    rw [htaken, List.append_assoc]
    rfl
  | formBatch hpc => exact h.formBatch hpc
  | @pushedAgain c hpc hidle =>
    rw [hpc] at hguards
    refine h.retry (fun d => ?_) (by rw [hpc]; rfl)
    by_cases hdc : d = c
    · rw [hdc]
      exact hidle
    · exact hguards d hdc
  | pushed hpc hidle => exact h.retry hidle (by rw [hpc]; rfl)
  | @link c l hstep =>
    exact { h with
      links := h.setLink_links (hstep.inv (h.links c))
      guards := hguards.update hstep }

/-! ### Refinement of the lockstep broadcast -/

/-- What the transfer does, seen as a broadcast. -/
def broadcast (ts : TCPServer ι) : Lockstep ι MysqlOperation :=
  ⟨ts.batches, fun c => (ts.links c).client.moCh⟩

omit [Fintype ι] in
lemma broadcast_setLink (c : ι) (l : Link) :
    (ts.setLink c l).broadcast =
      { ts.broadcast with received := Function.update ts.broadcast.received c l.client.moCh } :=
  congrArg (Lockstep.mk ts.batches)
    (Function.comp_update (fun l : Link => l.client.moCh) ts.links c l)

omit [Fintype ι] in
lemma broadcast_setLink_of_moCh {c : ι} {l : Link}
    (h : l.client.moCh = (ts.links c).client.moCh) : (ts.setLink c l).broadcast = ts.broadcast := by
  rw [broadcast_setLink, h]
  exact congrArg (Lockstep.mk ts.batches) (Function.update_eq_self c ts.broadcast.received)

/-- A step of the transfer is a move of the broadcast or none: a batch is issued when it is
formed, and a value is received when a client puts an operation on its channel. -/
theorem Inv.simulates (h : ts.Inv) (hstep : ts.Step ts') :
    Relation.ReflGen Lockstep.Step ts.broadcast ts'.broadcast := by
  cases hstep with
  | extract | cancel | notReady | alive | evaluateFetchCount | takeMo | pushedAgain | pushed =>
    exact .refl
  | @readState c rest tsc hpc hsome =>
    rw [TCPServer.readState]
    cases tsc.state <;> exact .refl
  | @readSendError c tsc hpc =>
    rw [TCPServer.readSendError]
    cases tsc.sendError with
    | none => exact .refl
    | some err =>
      -- the distributor has moved on, which the broadcast does not see
      have hmoCh : ((ts.links c).startPush .clientPush).client.moCh = (ts.links c).client.moCh := rfl
      show Relation.ReflGen Lockstep.Step ts.broadcast
        (ts.setLink c ((ts.links c).startPush .clientPush)).broadcast
      rw [broadcast_setLink_of_moCh hmoCh]
  | @formBatch count mos hpc =>
    refine .single (.issue ts.broadcast mos fun c => ?_)
    exact (h.settled hpc c).2.moCh_eq
  | @link c l hstep =>
    rcases hstep.moCh (h.links c) with hmoCh | ⟨a, hmoCh, hprefix⟩
    · rw [broadcast_setLink_of_moCh hmoCh]
    · rw [broadcast_setLink, hmoCh]
      exact .single (.receive ts.broadcast c a hprefix)

lemma inv_of_run {es : List (TransferEvent ι)} (h : run es = some ts) : ts.Inv :=
  Machine.run_invariant (fun _ _ _ hinv hstep => hinv.step (step_of_eq_some hstep)) inv_start h

/-- A run of the transfer is a run of the broadcast. -/
theorem broadcast_of_run {es : List (TransferEvent ι)} (h : run es = some ts) :
    Relation.ReflTransGen Lockstep.Step Lockstep.start ts.broadcast :=
  Machine.run_simulates broadcast
    (fun _ _ _ hinv hstep => hinv.step (step_of_eq_some hstep))
    (fun _ _ _ hinv hstep => hinv.simulates (step_of_eq_some hstep)) inv_start h

/-- In every state that a run reaches, under any interleaving and with any number of clients:
what a client has put on its channel is a prefix of what the server has taken from its own; a new
batch is formed only when every client has put all the batches before it there; and what two
clients have put on their channels agrees up to the last batch and differs inside it only. -/
theorem lockstep_delivery {es : List (TransferEvent ι)} (h : run es = some ts) :
    (∀ c, (ts.links c).client.moCh <+: ts.taken) ∧
    (∀ e ts', step e ts = some ts' → ts'.batches ≠ ts.batches →
      ∀ c, (ts.links c).client.moCh = ts.batches.flatten) ∧
    ∀ c d, ∃ p q, p <+: Lockstep.last ts.batches ∧ q <+: Lockstep.last ts.batches ∧
      (ts.links c).client.moCh = ts.batches.dropLast.flatten ++ p ∧
      (ts.links d).client.moCh = ts.batches.dropLast.flatten ++ q := by
  have hinv := inv_of_run h
  have hbroadcast := broadcast_of_run h
  refine ⟨?_, ?_, ?_⟩
  · intro c
    have htaken : ts.batches.flatten <+: ts.taken := by
      rw [hinv.taken]
      exact List.prefix_append _ _
    exact (Lockstep.received_bounds hbroadcast c).2.trans htaken
  · intro e ts' hstep hne c
    exact Lockstep.received_of_issue (hinv.simulates (step_of_eq_some hstep)) hne c
  · intro c d
    exact Lockstep.exists_common hbroadcast c d

/-- Two clients and one batch. The push to the second client fails although the batch arrives, so
the distributor pushes it again; the confirmation comes in between, and the client stops when it
decodes the second copy. -/
def resentBatch : List (TransferEvent (Fin 2)) :=
  List.flatten [
    List.ofFn fun i : Fin 10 => .extract (.heartbeat ⟨.ofNat i⟩),
    [.link 0 .register, .link 1 .register, .readDead 0, .readState, .readDead 1, .readState,
      .evaluateFetchCount 10],
    List.replicate 10 .takeMo,
    [.formBatch, .link 0 .setPush, .link 1 .setPush, .link 1 .clientPush, .link 0 .clientPush,
      .link 0 (.sendOperations none true), .link 1 (.sendOperations (some "i/o timeout") true),
      .link 1 .setSendError, .pushed, .link 1 .decodeSignal1],
    List.replicate 10 (.link 1 .putMo),
    [.readDead 1, .readState, .readSendError, .link 1 (.confirm false true),
      .link 1 .decodeSignal2, .link 1 .setFree, .link 1 .clearSendError, .link 1 .clientPush,
      .link 1 (.sendOperations none true), .pushed, .link 1 .setBatchID, .link 1 .decodeSignal1]]

theorem lockstep_delivery_resentBatch :
    ∃ ts, run resentBatch = some ts ∧
      (ts.links 1).client.moCh = ts.taken ∧ (ts.links 1).client.receiveOperations = .returned ∧
      (∀ c, (ts.links c).client.moCh <+: ts.taken) ∧
      (∀ e ts', step e ts = some ts' → ts'.batches ≠ ts.batches →
        ∀ c, (ts.links c).client.moCh = ts.batches.flatten) ∧
      ∀ c d, ∃ p q, p <+: Lockstep.last ts.batches ∧ q <+: Lockstep.last ts.batches ∧
        (ts.links c).client.moCh = ts.batches.dropLast.flatten ++ p ∧
        (ts.links d).client.moCh = ts.batches.dropLast.flatten ++ q := by
  have hrun : ((run resentBatch).map fun ts =>
      decide ((ts.links 1).client.moCh = ts.taken ∧
        (ts.links 1).client.receiveOperations = .returned)) = some true := by decide +kernel
  obtain ⟨ts, hts, hclient⟩ := Option.map_eq_some_iff.mp hrun
  obtain ⟨hmoCh, hreturned⟩ := of_decide_eq_true hclient
  exact ⟨ts, hts, hmoCh, hreturned, lockstep_delivery hts⟩

end TCPServer

end MysqlSync

import Mathlib
import MysqlSync.Transfer.Delivery

/-!
# The transfer never gets stuck

While no connection breaks and no call fails, the parties can always finish what they have begun.
A batch passes through a connection in nine stages (`Link.Stage`), every step on the connection
leaves less of it to do (`Link.work`), and a client that has nothing left to do is one that the
distributor finds free. So whatever has happened, and whatever counts the distributor evaluates, the
transfer can go on until every client has every operation that was extracted, save the last few
that do not make up a batch (`exists_run_delivers`).
-/

namespace MysqlSync

/-! ### Runs without a fault -/

/-- The steps of a connection on which nothing fails and no party stops. -/
def LinkEvent.faultless : LinkEvent → Bool
  | .sendOperations err delivered => err.isNone && delivered
  | .confirm failed delivered => !failed && delivered
  | .closeReceivedSignal | .setDead | .closeReceiveOperations | .disconnect _ _ => false
  | .register | .setPush | .clientPush | .setSendError | .decodeSignal2 | .setFree
  | .clearSendError | .decodeSignal1 | .putMo | .setBatchID => true

namespace TransferEvent

variable {ι : Type}

def faultless : TransferEvent ι → Bool
  | .cancel => false
  | .link _ e => e.faultless
  | .extract _ | .readDead _ | .readState | .readSendError | .evaluateFetchCount _ | .takeMo
  | .formBatch | .pushed => true

/-- The operation that an event puts on the server's channel. -/
def extracted : TransferEvent ι → Option MysqlOperation
  | .extract oper => some oper
  | .cancel | .readDead _ | .readState | .readSendError | .evaluateFetchCount _ | .takeMo
  | .formBatch | .pushed | .link _ _ => none

end TransferEvent

/-! ### A batch on its way through a connection -/

/-- A client that has accepted the batch `id`, which it may still have to store. -/
def TCPClient.Ready (id : UInt64) (tc : TCPClient) : Prop :=
  tc.receiveOperations = .decode ∧ tc.batchID = id ∨ tc.receiveOperations = .confirmed id

/-- The server's goroutine waits for a confirmation, or is about to. -/
def ReceivedSignal.Listening (rs : ReceivedSignal) : Prop := rs = .decode ∨ rs = .freed

/-- The stages of the batch `id` with the operations `mos` on a connection without faults, from the
one in which the batch before it is done. -/
inductive Link.Stage (id : UInt64) (mos : List MysqlOperation) : Link → Prop where
  | unregistered (hid : id = 0) (hmos : mos = []) : Stage id mos ⟨none, {}, {}⟩
  | formed {id' : UInt64} {mos' : List MysqlOperation} {rs : ReceivedSignal} {client : TCPClient}
      (hrs : rs.Listening) (hclient : client.Ready (id - 1)) :
      Stage id mos ⟨some ⟨id', .free, none, mos', false, .setPush id mos, rs⟩, {}, client⟩
  | set {rs : ReceivedSignal} {client : TCPClient}
      (hrs : rs.Listening) (hclient : client.Ready (id - 1)) :
      Stage id mos ⟨some ⟨id, .free, none, mos, false, .clientPush, rs⟩, {}, client⟩
  | sending {rs : ReceivedSignal} {client : TCPClient}
      (hrs : rs.Listening) (hclient : client.Ready (id - 1)) :
      Stage id mos
        ⟨some ⟨id, .busy, none, mos, false, .sending ⟨id, mos, mos.length⟩, rs⟩, {}, client⟩
  | sent {rs : ReceivedSignal} {client : TCPClient}
      (hrs : rs.Listening) (hclient : client.Ready (id - 1)) :
      Stage id mos ⟨some ⟨id, .busy, none, mos, false, .idle, rs⟩,
        ⟨[⟨id, mos, mos.length⟩], [], false⟩, client⟩
  | putting {rs : ReceivedSignal} {batchID : UInt64} {moCh rest : List MysqlOperation}
      (hrs : rs.Listening) :
      Stage id mos ⟨some ⟨id, .busy, none, mos, false, .idle, rs⟩, {},
        ⟨batchID, moCh, .putting ⟨id, mos, mos.length⟩ rest⟩⟩
  | confirmed {rs : ReceivedSignal} {client : TCPClient}
      (hrs : rs.Listening) (hclient : client.Ready id) :
      Stage id mos ⟨some ⟨id, .busy, none, mos, false, .idle, rs⟩, ⟨[], [⟨id⟩], false⟩, client⟩
  | matched {client : TCPClient} (hclient : client.Ready id) :
      Stage id mos ⟨some ⟨id, .busy, none, mos, false, .idle, .matched⟩, {}, client⟩
  | settled {rs : ReceivedSignal} {client : TCPClient}
      (hrs : rs.Listening) (hclient : client.Ready id) :
      Stage id mos ⟨some ⟨id, .free, none, mos, false, .idle, rs⟩, {}, client⟩

/-- The steps that a push still takes, and those that follow from it. -/
def Push.work (mos : List MysqlOperation) : Push → ℕ
  | .idle | .failed _ => 0
  | .setPush _ mos' => mos'.length + 10
  | .clientPush => mos.length + 9
  | .sending sig => sig.mos.length + 8

def ReceivedSignal.work : ReceivedSignal → ℕ
  | .decode | .returned => 0
  | .matched => 2
  | .freed => 1

def ReceiveOperations.work : ReceiveOperations → ℕ
  | .decode | .returned => 0
  | .putting _ rest => rest.length + 5
  | .confirmed _ => 1

def TCPServerClient.work (tsc : TCPServerClient) : ℕ :=
  tsc.push.work tsc.sendMos + tsc.receivedSignal.work

def Conn.work (conn : Conn) : ℕ :=
  (conn.toClient.map fun sig => sig.mos.length + 7).sum + 3 * conn.toServer.length

/-- How much is left to do on a connection. -/
def Link.work (l : Link) : ℕ :=
  l.server.elim 1 TCPServerClient.work + l.conn.work + l.client.receiveOperations.work

/-- A client takes the batch that comes after the one it has stored. -/
lemma TCPClient.received_next (id : UInt64) (mos moCh : List MysqlOperation) :
    TCPClient.received ⟨id - 1, moCh, .decode⟩ ⟨id, mos, mos.length⟩ =
      ⟨id - 1, moCh, .putting ⟨id, mos, mos.length⟩ mos⟩ := by
  simp [TCPClient.received]

namespace Link

variable {id : UInt64} {mos : List MysqlOperation} {l l' : Link} {e : LinkEvent}

lemma Stage.register (h : l.Stage id mos) (hstep : l.step .register = some l') :
    l'.Stage id mos ∧ l'.work < l.work := by
  cases h with
  | unregistered hid hmos =>
    subst hid hmos
    cases hstep
    exact ⟨.settled (.inl rfl) (.inl ⟨rfl, rfl⟩), by decide⟩
  | formed | set | sending | sent | putting | confirmed | matched | settled => cases hstep

lemma Stage.setPush (h : l.Stage id mos) (hstep : l.step .setPush = some l') :
    l'.Stage id mos ∧ l'.work < l.work := by
  cases h with
  | formed hrs hclient =>
    cases hstep
    exact ⟨.set hrs hclient,
      by simp [work, TCPServerClient.work, TCPServerClient.setPush, Push.work]⟩
  | unregistered | set | sending | sent | putting | confirmed | matched | settled => cases hstep

lemma Stage.clientPush (h : l.Stage id mos) (hstep : l.step .clientPush = some l') :
    l'.Stage id mos ∧ l'.work < l.work := by
  cases h with
  | set hrs hclient =>
    cases hstep
    exact ⟨.sending hrs hclient, by
      simp [work, TCPServerClient.work, TCPServerClient.clientPush, TCPServerClient.signal1,
        Push.work]⟩
  | unregistered | formed | sending | sent | putting | confirmed | matched | settled =>
    cases hstep

lemma Stage.sendOperations (h : l.Stage id mos)
    (hstep : l.step (.sendOperations none true) = some l') :
    l'.Stage id mos ∧ l'.work < l.work := by
  cases h with
  | sending hrs hclient =>
    cases hstep
    exact ⟨.sent hrs hclient, by
      simp [work, TCPServerClient.work, TCPServerClient.sent, Push.work, Conn.work]; omega⟩
  | unregistered | formed | set | sent | putting | confirmed | matched | settled => cases hstep

/-- The confirmation that arrives is of the batch that was sent. -/
lemma Stage.decodeSignal2 (h : l.Stage id mos) (hstep : l.step .decodeSignal2 = some l') :
    l'.Stage id mos ∧ l'.work < l.work := by
  cases h with
  | @confirmed rs client hrs hclient =>
    rcases hrs with rfl | rfl
    · obtain rfl : _ = l' := Option.some.inj hstep
      refine ⟨?_, ?_⟩
      · simp only [TCPServerClient.received, beq_self_eq_true, if_true]
        exact .matched hclient
      · simp [work, TCPServerClient.work, TCPServerClient.received, ReceivedSignal.work, Conn.work]
    · cases hstep
  | unregistered => cases hstep
  | formed hrs | set hrs | sending hrs | sent hrs | putting hrs | settled hrs =>
    rcases hrs with rfl | rfl <;> cases hstep
  | matched => cases hstep

lemma Stage.setFree (h : l.Stage id mos) (hstep : l.step .setFree = some l') :
    l'.Stage id mos ∧ l'.work < l.work := by
  cases h with
  | matched hclient =>
    cases hstep
    exact ⟨.settled (.inr rfl) hclient, by simp [work, TCPServerClient.work, ReceivedSignal.work]⟩
  | unregistered => cases hstep
  | formed hrs | set hrs | sending hrs | sent hrs | putting hrs | confirmed hrs | settled hrs =>
    rcases hrs with rfl | rfl <;> cases hstep

/-- Clearing the error may come late, when the next batch is already on its way. -/
lemma Stage.clearSendError (h : l.Stage id mos) (hstep : l.step .clearSendError = some l') :
    l'.Stage id mos ∧ l'.work < l.work := by
  have hlt {l : Link} {tsc : TCPServerClient} (h : tsc.receivedSignal = .freed) :
      work { l with server := some { tsc with sendError := none, receivedSignal := .decode } } <
        work { l with server := some tsc } := by
    simp [work, TCPServerClient.work, h, ReceivedSignal.work]
  cases h with
  | unregistered | matched => cases hstep
  | formed hrs hclient =>
    rcases hrs with rfl | rfl <;> cases hstep
    exact ⟨.formed (.inl rfl) hclient, hlt rfl⟩
  | set hrs hclient =>
    rcases hrs with rfl | rfl <;> cases hstep
    exact ⟨.set (.inl rfl) hclient, hlt rfl⟩
  | sending hrs hclient =>
    rcases hrs with rfl | rfl <;> cases hstep
    exact ⟨.sending (.inl rfl) hclient, hlt rfl⟩
  | sent hrs hclient =>
    rcases hrs with rfl | rfl <;> cases hstep
    exact ⟨.sent (.inl rfl) hclient, hlt rfl⟩
  | putting hrs =>
    rcases hrs with rfl | rfl <;> cases hstep
    exact ⟨.putting (.inl rfl), hlt rfl⟩
  | confirmed hrs hclient =>
    rcases hrs with rfl | rfl <;> cases hstep
    exact ⟨.confirmed (.inl rfl) hclient, hlt rfl⟩
  | settled hrs hclient =>
    rcases hrs with rfl | rfl <;> cases hstep
    exact ⟨.settled (.inl rfl) hclient, hlt rfl⟩

lemma Stage.decodeSignal1 (h : l.Stage id mos) (hstep : l.step .decodeSignal1 = some l') :
    l'.Stage id mos ∧ l'.work < l.work := by
  cases h with
  | @sent rs client hrs hclient =>
    obtain ⟨batchID, moCh, pc⟩ := client
    rcases hclient with ⟨rfl, rfl⟩ | rfl
    · cases hstep
      rw [TCPClient.received_next]
      exact ⟨.putting hrs, by simp [work, Conn.work, ReceiveOperations.work]⟩
    · cases hstep
  | unregistered | putting => cases hstep
  | @formed _ _ _ client _ hclient | @set _ client _ hclient | @sending _ client _ hclient
  | @confirmed _ client _ hclient | @matched client hclient | @settled _ client _ hclient =>
    obtain ⟨batchID, moCh, pc⟩ := client
    rcases hclient with ⟨rfl, rfl⟩ | rfl <;> cases hstep

lemma Stage.putMo (h : l.Stage id mos) (hstep : l.step .putMo = some l') :
    l'.Stage id mos ∧ l'.work < l.work := by
  cases h with
  | @putting rs batchID moCh rest hrs =>
    cases rest with
    | nil => cases hstep
    | cons oper rest =>
      cases hstep
      exact ⟨.putting hrs, by simp [work, ReceiveOperations.work]⟩
  | unregistered => cases hstep
  | @formed _ _ _ client _ hclient | @set _ client _ hclient | @sending _ client _ hclient
  | @sent _ client _ hclient | @confirmed _ client _ hclient | @matched client hclient
  | @settled _ client _ hclient =>
    obtain ⟨batchID, moCh, pc⟩ := client
    rcases hclient with ⟨rfl, rfl⟩ | rfl <;> cases hstep

lemma Stage.confirm (h : l.Stage id mos) (hstep : l.step (.confirm false true) = some l') :
    l'.Stage id mos ∧ l'.work < l.work := by
  cases h with
  | @putting rs batchID moCh rest hrs =>
    cases rest with
    | nil =>
      cases hstep
      exact ⟨.confirmed hrs (.inr rfl), by simp [work, Conn.work, ReceiveOperations.work]⟩
    | cons oper rest => cases hstep
  | unregistered => cases hstep
  | @formed _ _ _ client _ hclient | @set _ client _ hclient | @sending _ client _ hclient
  | @sent _ client _ hclient | @confirmed _ client _ hclient | @matched client hclient
  | @settled _ client _ hclient =>
    obtain ⟨batchID, moCh, pc⟩ := client
    rcases hclient with ⟨rfl, rfl⟩ | rfl <;> cases hstep

/-- A client stores the number of a batch it has confirmed, at the latest before the next one. -/
lemma Stage.setBatchID (h : l.Stage id mos) (hstep : l.step .setBatchID = some l') :
    l'.Stage id mos ∧ l'.work < l.work := by
  have hlt {l : Link} {batchID : UInt64} (h : l.client.receiveOperations = .confirmed batchID) :
      work { l with client := ⟨batchID, l.client.moCh, .decode⟩ } < work l := by
    simp [work, h, ReceiveOperations.work]
  cases h with
  | unregistered | putting => cases hstep
  | @formed _ _ _ client hrs hclient =>
    obtain ⟨batchID, moCh, pc⟩ := client
    rcases hclient with ⟨rfl, rfl⟩ | rfl <;> cases hstep
    exact ⟨.formed hrs (.inl ⟨rfl, rfl⟩), hlt rfl⟩
  | @set _ client hrs hclient =>
    obtain ⟨batchID, moCh, pc⟩ := client
    rcases hclient with ⟨rfl, rfl⟩ | rfl <;> cases hstep
    exact ⟨.set hrs (.inl ⟨rfl, rfl⟩), hlt rfl⟩
  | @sending _ client hrs hclient =>
    obtain ⟨batchID, moCh, pc⟩ := client
    rcases hclient with ⟨rfl, rfl⟩ | rfl <;> cases hstep
    exact ⟨.sending hrs (.inl ⟨rfl, rfl⟩), hlt rfl⟩
  | @sent _ client hrs hclient =>
    obtain ⟨batchID, moCh, pc⟩ := client
    rcases hclient with ⟨rfl, rfl⟩ | rfl <;> cases hstep
    exact ⟨.sent hrs (.inl ⟨rfl, rfl⟩), hlt rfl⟩
  | @confirmed _ client hrs hclient =>
    obtain ⟨batchID, moCh, pc⟩ := client
    rcases hclient with ⟨rfl, rfl⟩ | rfl <;> cases hstep
    exact ⟨.confirmed hrs (.inl ⟨rfl, rfl⟩), hlt rfl⟩
  | @matched client hclient =>
    obtain ⟨batchID, moCh, pc⟩ := client
    rcases hclient with ⟨rfl, rfl⟩ | rfl <;> cases hstep
    exact ⟨.matched (.inl ⟨rfl, rfl⟩), hlt rfl⟩
  | @settled _ client hrs hclient =>
    obtain ⟨batchID, moCh, pc⟩ := client
    rcases hclient with ⟨rfl, rfl⟩ | rfl <;> cases hstep
    exact ⟨.settled hrs (.inl ⟨rfl, rfl⟩), hlt rfl⟩

/-- Every step without a fault leaves the connection in some stage, with less to do. -/
theorem Stage.step (h : l.Stage id mos) (he : e.faultless = true) (hstep : l.step e = some l') :
    l'.Stage id mos ∧ l'.work < l.work := by
  cases e with
  | register => exact h.register hstep
  | setPush => exact h.setPush hstep
  | clientPush => exact h.clientPush hstep
  | sendOperations err delivered =>
    obtain ⟨rfl, rfl⟩ : err = none ∧ delivered = true := by
      simpa [LinkEvent.faultless] using he
    exact h.sendOperations hstep
  | setSendError => cases h <;> cases hstep
  | decodeSignal2 => exact h.decodeSignal2 hstep
  | setFree => exact h.setFree hstep
  | clearSendError => exact h.clearSendError hstep
  | decodeSignal1 => exact h.decodeSignal1 hstep
  | putMo => exact h.putMo hstep
  | confirm failed delivered =>
    obtain ⟨rfl, rfl⟩ : failed = false ∧ delivered = true := by
      simpa [LinkEvent.faultless] using he
    exact h.confirm hstep
  | setBatchID => exact h.setBatchID hstep
  | closeReceivedSignal | setDead | closeReceiveOperations | disconnect => cases he

/-- A connection with something left to do can go on. -/
theorem Stage.exists_step (h : l.Stage id mos) (hwork : l.work ≠ 0) :
    ∃ e l', LinkEvent.faultless e = true ∧ l.step e = some l' := by
  cases h with
  | unregistered => exact ⟨.register, _, rfl, rfl⟩
  | formed => exact ⟨.setPush, _, rfl, rfl⟩
  | set => exact ⟨.clientPush, _, rfl, rfl⟩
  | sending => exact ⟨.sendOperations none true, _, rfl, rfl⟩
  | @sent _ client hrs hclient =>
    obtain ⟨batchID, moCh, pc⟩ := client
    rcases hclient with ⟨rfl, rfl⟩ | rfl
    · exact ⟨.decodeSignal1, _, rfl, rfl⟩
    · exact ⟨.setBatchID, _, rfl, rfl⟩
  | @putting _ _ _ rest =>
    cases rest with
    | nil => exact ⟨.confirm false true, _, rfl, rfl⟩
    | cons => exact ⟨.putMo, _, rfl, rfl⟩
  | confirmed hrs =>
    rcases hrs with rfl | rfl
    · exact ⟨.decodeSignal2, _, rfl, rfl⟩
    · exact ⟨.clearSendError, _, rfl, rfl⟩
  | matched => exact ⟨.setFree, _, rfl, rfl⟩
  | @settled _ client hrs hclient =>
    obtain ⟨batchID, moCh, pc⟩ := client
    rcases hrs with rfl | rfl
    · rcases hclient with ⟨rfl, rfl⟩ | rfl
      · exact absurd rfl hwork
      · exact ⟨.setBatchID, _, rfl, rfl⟩
    · exact ⟨.clearSendError, _, rfl, rfl⟩

/-- The server's record of a client that has nothing left to do, or is being waited for. -/
lemma Stage.server_eq_some (h : l.Stage id mos) {tsc : TCPServerClient} (hs : l.server = some tsc) :
    tsc.dead = false ∧ tsc.sendError = none := by
  cases h <;> cases hs <;> exact ⟨rfl, rfl⟩

/-- A connection with nothing left to do belongs to a client that is free. -/
lemma Stage.free_of_work (h : l.Stage id mos) (hwork : l.work = 0) :
    l.pushIdle = true ∧ l.Free := by
  cases h with
  | settled => exact ⟨rfl, _, rfl, rfl⟩
  | unregistered | formed | set | sending | sent | putting | confirmed | matched =>
    simp [work, TCPServerClient.work, Push.work, ReceivedSignal.work, ReceiveOperations.work,
      Conn.work] at hwork

/-- The next batch finds the connection settled. -/
lemma Stage.startPush {mos' : List MysqlOperation} (h : l.Stage id mos)
    (hidle : l.pushIdle = true) (hfree : l.Free) :
    (l.startPush (.setPush (id + 1) mos')).Stage (id + 1) mos' := by
  obtain ⟨tsc, hs, hstate⟩ := hfree
  have hid : id + 1 - 1 = id := by simp
  cases h with
  | settled hrs hclient => exact .formed hrs (hid.symm ▸ hclient)
  | unregistered => cases hs
  | formed | set => simp [Link.pushIdle] at hidle
  | sending | sent | putting | confirmed | matched =>
    cases hs
    cases hstate

end Link

/-! ### The distributor -/

variable {ι : Type}

/-- A client that has registered stays so. -/
lemma Link.Step.registered {l l' : Link} (hstep : l.Step l') (h : l.server.isSome = true) :
    l'.server.isSome = true := by
  cases hstep with
  | register | setPush | clientPush | sendOperations | setSendError | decodeSignal2 | setFree
  | clearSendError | closeReceivedSignal | setDead => rfl
  | decodeSignal1 | putMo | confirm | setBatchID | closeReceiveOperations | disconnect => exact h

/-- What the distributor can rely on where it is: the client it looks at has registered, and the
operations it fetches are there. -/
def Distributor.Supplied (moCh : List MysqlOperation) (links : ι → Link) : Distributor ι → Prop
  | .alive c _ | .busy c => (links c).server.isSome = true
  | .fetchMos count mos => 0 < count ∧ mos.length ≤ count ∧ count ≤ mos.length + moCh.length
  | .clientsReady _ | .clientsPush => True
  | .again _ | .returned => False

namespace TCPServer

/-- The states of a run without faults. -/
structure Live (ts : TCPServer ι) : Prop where
  inv : ts.Inv
  links : ∀ c, (ts.links c).Stage ts.batchID (Lockstep.last ts.batches)
  supplied : ts.distributor.Supplied ts.moCh ts.links

variable {ts ts' : TCPServer ι}

lemma live_start [Fintype ι] : Live (start : TCPServer ι) where
  inv := inv_start
  links := fun _ => .unregistered rfl rfl
  supplied := trivial

lemma Live.retry [Fintype ι] (h : ts.Live) (hinv : ts.retry.Inv) : ts.retry.Live :=
  ⟨hinv, h.links, trivial⟩

lemma Live.readDead [Fintype ι] {c : ι} {rest : Finset ι} (h : ts.Live)
    (hinv : (ts.readDead c rest).Inv) :
    (ts.readDead c rest).Live := by
  rw [TCPServer.readDead] at hinv ⊢
  cases hs : (ts.links c).server with
  | none =>
    rw [hs] at hinv
    exact h.retry hinv
  | some tsc =>
    rw [hs] at hinv
    have hdead := ((h.links c).server_eq_some hs).1
    simp only [hdead] at hinv ⊢
    refine ⟨hinv, h.links, ?_⟩
    show (ts.links c).server.isSome = true
    rw [hs]
    rfl

lemma Live.formBatch {count : ℕ} {mos : List MysqlOperation} (h : ts.Live)
    (hpc : ts.distributor = .fetchMos count mos) (hinv : (ts.formBatch mos).Inv) :
    (ts.formBatch mos).Live := by
  refine ⟨hinv, fun c => ?_, trivial⟩
  have hguards := h.inv.guards
  rw [hpc] at hguards
  have hlast : Lockstep.last (ts.batches ++ [mos]) = mos := by simp [Lockstep.last]
  show Link.Stage (ts.batchID + 1) (Lockstep.last (ts.batches ++ [mos])) _
  rw [hlast]
  exact (h.links c).startPush (hguards.1 c) (hguards.2 c)

variable [DecidableEq ι]

/-- What a step does on one connection. -/
lemma Live.setLink {c : ι} {l : Link} {e : LinkEvent} (h : ts.Live) (hinv : (ts.setLink c l).Inv)
    (he : e.faultless = true) (hstep : (ts.links c).step e = some l) : (ts.setLink c l).Live := by
  have hregistered : ∀ d, (ts.links d).server.isSome = true →
      ((ts.setLink c l).links d).server.isSome = true := by
    refine (Function.forall_update_iff ts.links (p := fun d l' =>
      (ts.links d).server.isSome = true → l'.server.isSome = true)).mpr ⟨?_, fun d _ => id⟩
    exact (Link.step_of_eq_some hstep).registered
  refine ⟨hinv, ?_, ?_⟩
  · exact (Function.forall_update_iff ts.links (p := fun _ l' =>
      l'.Stage ts.batchID (Lockstep.last ts.batches))).mpr
      ⟨((h.links c).step he hstep).1, fun d _ => h.links d⟩
  · have hsupplied := h.supplied
    show ts.distributor.Supplied ts.moCh (ts.setLink c l).links
    cases hpc : ts.distributor with
    | alive d rest | busy d =>
      rw [hpc] at hsupplied
      exact hregistered d hsupplied
    | fetchMos | clientsReady | clientsPush | again | returned =>
      rw [hpc] at hsupplied
      exact hsupplied

lemma Live.readState {c : ι} {rest : Finset ι} {tsc : TCPServerClient} (h : ts.Live)
    (hinv : (ts.readState c rest tsc).Inv) (hs : (ts.links c).server = some tsc) :
    (ts.readState c rest tsc).Live := by
  rw [TCPServer.readState] at hinv ⊢
  cases hstate : tsc.state with
  | busy =>
    rw [hstate] at hinv
    refine ⟨hinv, h.links, ?_⟩
    show (ts.links c).server.isSome = true
    rw [hs]
    rfl
  | free =>
    rw [hstate] at hinv
    exact ⟨hinv, h.links, trivial⟩

variable [Fintype ι]

/-- Without a fault there is nothing to push again. -/
lemma Live.readSendError_eq {c : ι} {tsc : TCPServerClient} (h : ts.Live)
    (hs : (ts.links c).server = some tsc) : ts.readSendError c tsc = ts.retry := by
  rw [TCPServer.readSendError, ((h.links c).server_eq_some hs).2]

/-- Every step without a fault leads to such a state. -/
theorem Live.step {e : TransferEvent ι} (h : ts.Live) (he : e.faultless = true)
    (hstep : TCPServer.step e ts = some ts') : ts'.Live := by
  have hinv : ts'.Inv := h.inv.step (step_of_eq_some hstep)
  have hsupplied := h.supplied
  cases effect_of_step hstep with
  | extract oper =>
    refine ⟨hinv, h.links, ?_⟩
    show ts.distributor.Supplied (ts.moCh ++ [oper]) ts.links
    cases hpc : ts.distributor with
    | fetchMos count mos =>
      rw [hpc] at hsupplied
      obtain ⟨hpos, hle, hle'⟩ := hsupplied
      exact ⟨hpos, hle, by rw [List.length_append]; omega⟩
    | alive | busy | clientsReady | clientsPush | again | returned =>
      rw [hpc] at hsupplied
      exact hsupplied
  | cancel => cases he
  | readDead => exact h.readDead hinv
  | readState _ hs => exact h.readState hinv hs
  | readSendError _ hs =>
    rw [h.readSendError_eq hs] at hinv ⊢
    exact h.retry hinv
  | @evaluateFetchCount count _ hmin hmax =>
    exact ⟨hinv, h.links, (Nat.succ_pos 9).trans_le hmin, Nat.zero_le count, by simpa using hmax⟩
  | @takeMo count mos moCh oper hpc hmoCh hlt =>
    rw [hpc, hmoCh] at hsupplied
    obtain ⟨hpos, -, hle'⟩ := hsupplied
    rw [List.length_cons] at hle'
    refine ⟨hinv, h.links, hpos, ?_, ?_⟩
    · rw [List.length_append]
      exact hlt
    · show count ≤ (mos ++ [oper]).length + moCh.length
      rw [List.length_append, List.length_singleton]
      omega
  | formBatch hpc => exact h.formBatch hpc hinv
  | again hpc =>
    rw [hpc] at hsupplied
    exact hsupplied.elim
  | pushed => exact h.retry hinv
  | link hl => exact h.setLink hinv he hl

/-! ### Going on -/

/-- How far the distributor is from the next batch, when it has `n` operations to take it from. -/
def rank (n : ℕ) : Distributor ι → ℕ
  | .clientsReady rest => 2 * rest.card + n + 1
  | .alive c rest => 2 * (rest.erase c).card + n + 2
  | .busy _ | .clientsPush | .again _ | .returned => 2 * Fintype.card ι + n + 2
  | .fetchMos count mos => count - mos.length

/-- What is left to do: operations not yet in a batch, steps on the connections, and steps of the
distributor. -/
def remaining (ts : TCPServer ι) : ℕ × ℕ × ℕ :=
  (ts.moCh.length + ts.distributor.fetched.length, ∑ c, (ts.links c).work,
    rank ts.moCh.length ts.distributor)

/-- Every client has what was taken, and what is left does not make up a batch. -/
structure Done (ts : TCPServer ι) : Prop where
  links : ∀ c, (ts.links c).work = 0
  distributor : ts.distributor = .clientsReady ∅
  moCh : ts.moCh.length < minRcCnt

/-- The steps that are taken to get there: nothing fails, nothing is extracted, and the count that
the distributor evaluates is the given one. -/
structure Advances (count : TCPServer ι → ℕ) (e : TransferEvent ι) (ts : TCPServer ι) : Prop where
  faultless : e.faultless = true
  extracted : e.extracted = none
  count : ∀ n, e = .evaluateFetchCount n → n = count ts

/-- A connection with something left to do goes on by itself. -/
lemma Live.advance_link (h : ts.Live) (count : TCPServer ι → ℕ) {c : ι}
    (hwork : (ts.links c).work ≠ 0) :
    ∃ e ts', Advances count e ts ∧ TCPServer.step e ts = some ts' ∧ ts'.Live ∧
      Prod.Lex (· < ·) (Prod.Lex (· < ·) (· < ·)) ts'.remaining ts.remaining := by
  obtain ⟨e, l, he, hl⟩ := (h.links c).exists_step hwork
  have hstep : TCPServer.step (.link c e) ts = some (ts.setLink c l) := by
    rw [TCPServer.step, hl]
    rfl
  refine ⟨.link c e, _, ⟨he, rfl, by simp⟩, hstep, h.step (e := .link c e) he hstep, ?_⟩
  refine .right _ (.left _ _ ?_)
  show ∑ d, (Function.update ts.links c l d).work < ∑ d, (ts.links d).work
  have hlt : ∀ d, (Function.update ts.links c l d).work ≤ (ts.links d).work :=
    (Function.forall_update_iff ts.links (p := fun d l' => l'.work ≤ (ts.links d).work)).mpr
      ⟨((h.links c).step he hl).2.le, fun d _ => le_rfl⟩
  refine Finset.sum_lt_sum (fun d _ => hlt d) ⟨c, Finset.mem_univ c, ?_⟩
  rw [Function.update_self]
  exact ((h.links c).step he hl).2

/-- When nothing is left to do on the connections, the distributor finds every client free and
goes on to the next batch. -/
lemma Live.advance_distributor (h : ts.Live) (count : TCPServer ι → ℕ)
    (hcount : ∀ ts, minRcCnt ≤ ts.moCh.length →
      minRcCnt ≤ count ts ∧ count ts ≤ ts.moCh.length)
    (hwork : ∀ c, (ts.links c).work = 0) (hdone : ¬ ts.Done) :
    ∃ e ts', Advances count e ts ∧ TCPServer.step e ts = some ts' ∧ ts'.Live ∧
      Prod.Lex (· < ·) (Prod.Lex (· < ·) (· < ·)) ts'.remaining ts.remaining := by
  have hfree (c : ι) := (h.links c).free_of_work (hwork c)
  suffices hsuff : ∃ e ts', Advances count e ts ∧ TCPServer.step e ts = some ts' ∧
      Prod.Lex (· < ·) (Prod.Lex (· < ·) (· < ·)) ts'.remaining ts.remaining by
    obtain ⟨e, ts', hadv, hstep, hlex⟩ := hsuff
    exact ⟨e, ts', hadv, hstep, h.step hadv.faultless hstep, hlex⟩
  have hsupplied := h.supplied
  cases hpc : ts.distributor with
  | clientsReady rest =>
    rcases rest.eq_empty_or_nonempty with rfl | ⟨c, hc⟩
    · have hmoCh : minRcCnt ≤ ts.moCh.length := by
        by_contra hlt
        exact hdone ⟨hwork, hpc, by omega⟩
      obtain ⟨hmin, hmax⟩ := hcount ts hmoCh
      refine ⟨.evaluateFetchCount (count ts), { ts with distributor := .fetchMos (count ts) [] },
        ⟨rfl, rfl, by simp⟩, ?_, ?_⟩
      · simp [TCPServer.step, hpc, hmin, hmax]
      · simp only [remaining, hpc, Distributor.fetched]
        refine .right _ (.right _ ?_)
        simp only [rank, List.length_nil]
        omega
    · obtain ⟨-, tsc, hs, -⟩ := hfree c
      have hdead := ((h.links c).server_eq_some hs).1
      refine ⟨.readDead c, { ts with distributor := .alive c rest }, ⟨rfl, rfl, by simp⟩, ?_, ?_⟩
      · simp [TCPServer.step, hpc, hc, TCPServer.readDead, hs, hdead]
      · simp only [remaining, hpc, Distributor.fetched]
        refine .right _ (.right _ ?_)
        have hcard := Finset.card_erase_add_one hc
        simp only [rank]
        omega
  | alive c rest =>
    obtain ⟨-, tsc, hs, hstate⟩ := hfree c
    refine ⟨.readState, { ts with distributor := .clientsReady (rest.erase c) },
      ⟨rfl, rfl, by simp⟩, ?_, ?_⟩
    · simp [TCPServer.step, hpc, hs, TCPServer.readState, hstate]
    · simp only [remaining, hpc, Distributor.fetched]
      exact .right _ (.right _ (by simp [rank]))
  | busy c =>
    obtain ⟨-, tsc, hs, -⟩ := hfree c
    refine ⟨.readSendError, ts.retry, ⟨rfl, rfl, by simp⟩, ?_, ?_⟩
    · simp [TCPServer.step, hpc, hs, h.readSendError_eq hs]
    · simp only [remaining, hpc, Distributor.fetched]
      exact .right _ (.right _ (by simp [rank, TCPServer.retry]))
  | clientsPush =>
    refine ⟨.pushed, ts.retry, ⟨rfl, rfl, by simp⟩, ?_, ?_⟩
    · simp [TCPServer.step, hpc, fun c => (hfree c).1]
    · simp only [remaining, hpc, Distributor.fetched]
      exact .right _ (.right _ (by simp [rank, TCPServer.retry]))
  | fetchMos n mos =>
    rw [hpc] at hsupplied
    obtain ⟨hpos, hle, hle'⟩ := hsupplied
    rcases hle.eq_or_lt with heq | hlt
    · refine ⟨.formBatch, ts.formBatch mos, ⟨rfl, rfl, by simp⟩, ?_, ?_⟩
      · simp [TCPServer.step, hpc, heq]
      · simp only [remaining, hpc, Distributor.fetched]
        exact .left _ _ (by simp [TCPServer.formBatch]; omega)
    · cases hmoCh : ts.moCh with
      | nil =>
        rw [hmoCh, List.length_nil] at hle'
        omega
      | cons oper moCh =>
        refine ⟨.takeMo, { ts with
          moCh := moCh
          distributor := .fetchMos n (mos ++ [oper])
          taken := ts.taken ++ [oper] }, ⟨rfl, rfl, by simp⟩, ?_, ?_⟩
        · simp [TCPServer.step, hpc, hmoCh, hlt]
        · have hsame :
              moCh.length + (mos ++ [oper]).length = (oper :: moCh).length + mos.length := by
            simp +arith
          simp only [remaining, hpc, hmoCh, Distributor.fetched, hsame]
          refine .right _ (.right _ ?_)
          simp only [rank, List.length_append, List.length_singleton]
          omega
  | again | returned =>
    rw [hpc] at hsupplied
    exact hsupplied.elim

omit [DecidableEq ι] in
lemma readDead_channel (c : ι) (rest : Finset ι) :
    (ts.readDead c rest).taken ++ (ts.readDead c rest).moCh = ts.taken ++ ts.moCh := by
  rw [TCPServer.readDead]
  split
  · rfl
  · split <;> rfl

omit [Fintype ι] in
lemma readState_channel (c : ι) (rest : Finset ι) (tsc : TCPServerClient) :
    (ts.readState c rest tsc).taken ++ (ts.readState c rest tsc).moCh = ts.taken ++ ts.moCh := by
  rw [TCPServer.readState]
  split <;> rfl

lemma readSendError_channel (c : ι) (tsc : TCPServerClient) :
    (ts.readSendError c tsc).taken ++ (ts.readSendError c tsc).moCh = ts.taken ++ ts.moCh := by
  rw [TCPServer.readSendError]
  split <;> rfl

/-- No operation is lost or made up on the way into the batches. -/
lemma taken_append_moCh_of_step {e : TransferEvent ι} (h : step e ts = some ts') :
    ts'.taken ++ ts'.moCh = ts.taken ++ ts.moCh ++ e.extracted.toList := by
  cases effect_of_step h with
  | extract oper => simp [TransferEvent.extracted]
  | takeMo _ hmoCh => simp [TransferEvent.extracted, hmoCh]
  | @readDead c rest => exact (readDead_channel c rest).trans (List.append_nil _).symm
  | @readState c rest tsc => exact (readState_channel c rest tsc).trans (List.append_nil _).symm
  | @readSendError c tsc => exact (readSendError_channel c tsc).trans (List.append_nil _).symm
  | cancel | evaluateFetchCount | formBatch | again | pushed | link =>
    exact (List.append_nil _).symm

lemma taken_append_moCh_of_run {es : List (TransferEvent ι)}
    (h : Machine.run step es ts = some ts') :
    ts'.taken ++ ts'.moCh = ts.taken ++ ts.moCh ++ es.filterMap TransferEvent.extracted := by
  induction es generalizing ts with
  | nil =>
    cases h
    simp
  | cons e es ih =>
    obtain ⟨ts₁, hstep, hrun⟩ := Machine.run_cons_eq_some.mp h
    rw [ih hrun, taken_append_moCh_of_step hstep]
    cases he : e.extracted <;> simp [he]

/-- The transfer never gets stuck. After any run without faults, whatever counts the distributor
evaluates from then on, the parties can go on without a fault until every client has put all the
operations that were extracted on its channel, save fewer than ten that wait for a batch. -/
theorem exists_run_delivers {es : List (TransferEvent ι)} (hes : ∀ e ∈ es, e.faultless = true)
    (h : run es = some ts) (count : TCPServer ι → ℕ)
    (hcount : ∀ ts, minRcCnt ≤ ts.moCh.length →
      minRcCnt ≤ count ts ∧ count ts ≤ ts.moCh.length) :
    ∃ es' ts', Machine.Along step (Advances count) es' ts ∧ run (es ++ es') = some ts' ∧
      ts'.moCh.length < minRcCnt ∧
      ∀ c, (ts'.links c).client.moCh ++ ts'.moCh = es.filterMap TransferEvent.extracted := by
  have hlive : ts.Live := Machine.run_invariant_along
    (Q := fun e _ => e.faultless = true) (fun _ _ _ hlive he hstep => hlive.step he hstep)
    live_start (Machine.along_of_forall (fun e he _ => hes e he) _) h
  have hwf := (Prod.lex Nat.lt_wfRel (Prod.lex Nat.lt_wfRel Nat.lt_wfRel)).wf
  obtain ⟨es', ts', halong, hrun, hlive', hdone⟩ := Machine.exists_run_of_decreases
    (Q := Advances count) hwf remaining (D := Done) (fun ts hlive hdone => by
      by_cases hwork : ∀ c, (ts.links c).work = 0
      · exact hlive.advance_distributor count hcount hwork hdone
      · push Not at hwork
        obtain ⟨c, hc⟩ := hwork
        exact hlive.advance_link count hc) hlive
  refine ⟨es', ts', halong, ?_, hdone.moCh, fun c => ?_⟩
  · rw [run, Machine.run_append, show Machine.run step es start = some ts from h]
    exact hrun
  · have hextracted : es'.filterMap TransferEvent.extracted = [] :=
      List.filterMap_eq_nil_iff.mpr
        (Machine.forall_of_along (fun _ _ hadv => hadv.extracted) halong hrun)
    have hinv := hlive'.inv
    obtain ⟨hidle, hfree⟩ := (hlive'.links c).free_of_work (hdone.links c)
    have hmoCh : (ts'.links c).client.moCh = ts'.taken := by
      rw [((hinv.links c).settled hidle hfree).moCh_eq, hinv.taken, hdone.distributor]
      simp [Distributor.fetched]
    have hfirst := taken_append_moCh_of_run h
    have hsecond := taken_append_moCh_of_run hrun
    rw [hextracted, List.append_nil, hfirst] at hsecond
    rw [hmoCh, hsecond]
    rfl

/-- Twelve operations for two clients, of which one has registered. -/
def twelveExtracted : List (TransferEvent Bool) :=
  (List.ofFn fun i : Fin 12 => .extract (.heartbeat ⟨.ofNat i⟩)) ++
    [.link true .register, .readDead true]

theorem exists_run_delivers_twelveExtracted :
    ∃ ts, run twelveExtracted = some ts ∧ ∃ es' ts',
      Machine.Along step (Advances fun _ => minRcCnt) es' ts ∧
      run (twelveExtracted ++ es') = some ts' ∧ ts'.moCh.length < minRcCnt ∧
      ∀ c, (ts'.links c).client.moCh ++ ts'.moCh =
        twelveExtracted.filterMap TransferEvent.extracted := by
  have hrun : (run twelveExtracted).isSome = true := by decide +kernel
  obtain ⟨ts, hts⟩ := Option.isSome_iff_exists.mp hrun
  exact ⟨ts, hts, exists_run_delivers (by decide) hts (fun _ => minRcCnt) fun ts hts =>
    ⟨le_rfl, hts⟩⟩

end TCPServer

end MysqlSync

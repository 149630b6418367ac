import MysqlSync.Lib.Lockstep
import MysqlSync.Transfer.Basic

/-!
# One connection

With respect to the batches formed so far, a connection is in one of four phases. A batch that is
formed makes it `fresh`; when the server has marked the client busy it is `waiting`, until the
client has confirmed the batch; a confirmation that is on its way makes it `acked`; and when the
server has marked the client free, or the confirmation is lost, it is `settled`. A push that is
repeated does not change the phase: the client has either not decoded the batch yet and takes one
copy of it, or it stops at the first copy that it decodes after it has taken the batch.
-/

namespace MysqlSync

open Lockstep

/-! ### What a step can do -/

/-- The steps on a connection, with what they change. -/
inductive Link.Step : Link → Link → Prop where
  | register {conn : Conn} {client : TCPClient} :
      Step ⟨none, conn, client⟩ ⟨some {}, conn, client⟩
  | setPush {tsc : TCPServerClient} {conn : Conn} {client : TCPClient} {batchID : UInt64}
      {mos : List MysqlOperation} (hpush : tsc.push = .setPush batchID mos) :
      Step ⟨some tsc, conn, client⟩ ⟨some (tsc.setPush batchID mos), conn, client⟩
  | clientPush {tsc : TCPServerClient} {conn : Conn} {client : TCPClient}
      (hpush : tsc.push = .clientPush) :
      Step ⟨some tsc, conn, client⟩ ⟨some tsc.clientPush, conn, client⟩
  | sendOperations {tsc : TCPServerClient} {conn : Conn} {client : TCPClient} {sig : Signal1}
      (err : Option String) (delivered : Bool) (hpush : tsc.push = .sending sig) :
      Step ⟨some tsc, conn, client⟩
        ⟨some (tsc.sent err),
          { conn with toClient := conn.toClient ++ if delivered then [sig] else [] }, client⟩
  | setSendError {tsc : TCPServerClient} {conn : Conn} {client : TCPClient} {err : String}
      (hpush : tsc.push = .failed err) :
      Step ⟨some tsc, conn, client⟩
        ⟨some { tsc with sendError := some err, push := .idle }, conn, client⟩
  | decodeSignal2 {tsc : TCPServerClient} {toClient : List Signal1} {broken : Bool}
      {client : TCPClient} {ack : Signal2} {acks : List Signal2} :
      Step ⟨some tsc, ⟨toClient, ack :: acks, broken⟩, client⟩
        ⟨some (tsc.received ack), ⟨toClient, acks, broken⟩, client⟩
  | setFree {tsc : TCPServerClient} {conn : Conn} {client : TCPClient}
      (hrecv : tsc.receivedSignal = .matched) :
      Step ⟨some tsc, conn, client⟩
        ⟨some { tsc with state := .free, receivedSignal := .freed }, conn, client⟩
  | clearSendError {tsc : TCPServerClient} {conn : Conn} {client : TCPClient} :
      Step ⟨some tsc, conn, client⟩
        ⟨some { tsc with sendError := none, receivedSignal := .decode }, conn, client⟩
  | closeReceivedSignal {tsc : TCPServerClient} {conn : Conn} {client : TCPClient} :
      Step ⟨some tsc, conn, client⟩
        ⟨some { tsc with receivedSignal := .returned }, conn, client⟩
  | setDead {tsc : TCPServerClient} {conn : Conn} {client : TCPClient} :
      Step ⟨some tsc, conn, client⟩ ⟨some { tsc with dead := true }, conn, client⟩
  | decodeSignal1 {server : Option TCPServerClient} {sig : Signal1} {sigs : List Signal1}
      {toServer : List Signal2} {broken : Bool} {batchID : UInt64}
      {moCh : List MysqlOperation} :
      Step ⟨server, ⟨sig :: sigs, toServer, broken⟩, ⟨batchID, moCh, .decode⟩⟩
        ⟨server, ⟨sigs, toServer, broken⟩, TCPClient.received ⟨batchID, moCh, .decode⟩ sig⟩
  | putMo {server : Option TCPServerClient} {conn : Conn} {batchID : UInt64}
      {moCh : List MysqlOperation} {sig : Signal1} {oper : MysqlOperation}
      {rest : List MysqlOperation} :
      Step ⟨server, conn, ⟨batchID, moCh, .putting sig (oper :: rest)⟩⟩
        ⟨server, conn, ⟨batchID, moCh ++ [oper], .putting sig rest⟩⟩
  | confirm {server : Option TCPServerClient} {conn : Conn} {batchID : UInt64}
      {moCh : List MysqlOperation} {sig : Signal1} (failed delivered : Bool) :
      Step ⟨server, conn, ⟨batchID, moCh, .putting sig []⟩⟩
        ⟨server,
          { conn with toServer := conn.toServer ++ if delivered then [⟨sig.batchID⟩] else [] },
          ⟨batchID, moCh, if failed then .returned else .confirmed sig.batchID⟩⟩
  | setBatchID {server : Option TCPServerClient} {conn : Conn} {batchID confirmed : UInt64}
      {moCh : List MysqlOperation} :
      Step ⟨server, conn, ⟨batchID, moCh, .confirmed confirmed⟩⟩
        ⟨server, conn, ⟨confirmed, moCh, .decode⟩⟩
  | closeReceiveOperations {server : Option TCPServerClient} {conn : Conn} {client : TCPClient} :
      Step ⟨server, conn, client⟩ ⟨server, conn, { client with receiveOperations := .returned }⟩
  | disconnect {server : Option TCPServerClient} {conn : Conn} {client : TCPClient} (m n : ℕ) :
      Step ⟨server, conn, client⟩
        ⟨server, ⟨conn.toClient.take m, conn.toServer.take n, true⟩, client⟩

namespace Link

lemma step_of_serverStep_eq_some {tsc : TCPServerClient} {conn : Conn} {client : TCPClient}
    {e : LinkEvent} {l' : Link}
    (h : serverStep tsc ⟨some tsc, conn, client⟩ e = some l') :
    Step ⟨some tsc, conn, client⟩ l' := by
  cases e <;> simp only [serverStep, reduceCtorEq] at h
  case setPush =>
    split at h
    · next hpush => cases h; exact .setPush hpush
    · cases h
  case clientPush =>
    split at h
    · next hpush => cases h; exact .clientPush hpush
    · cases h
  case sendOperations err delivered =>
    split at h
    · next hpush =>
      split at h
      · cases h; exact .sendOperations err delivered hpush
      · cases h
    · cases h
  case setSendError =>
    split at h
    · next hpush => cases h; exact .setSendError hpush
    · cases h
  case decodeSignal2 =>
    split at h
    · next ack acks _ hacks =>
      obtain ⟨toClient, toServer, broken⟩ := conn
      obtain rfl : toServer = ack :: acks := hacks
      cases h
      exact .decodeSignal2
    · cases h
  case setFree =>
    split at h
    · next hrecv => cases h; exact .setFree hrecv
    · cases h
  case clearSendError =>
    split at h
    · cases h; exact .clearSendError
    · cases h
  case closeReceivedSignal =>
    split at h
    · cases h; exact .closeReceivedSignal
    · cases h
  case setDead =>
    split at h
    · cases h; exact .setDead
    · cases h

/-- Every event is one of these steps. -/
theorem step_of_eq_some {e : LinkEvent} {l l' : Link} (h : l.step e = some l') : Step l l' := by
  obtain ⟨server, conn, client⟩ := l
  -- the events of the server's goroutines need the record of the client
  have hserver : (server.bind fun tsc => serverStep tsc ⟨server, conn, client⟩ e) = some l' →
      Step ⟨server, conn, client⟩ l' := by
    intro h
    obtain ⟨tsc, rfl, htsc⟩ := Option.bind_eq_some_iff.mp h
    exact step_of_serverStep_eq_some htsc
  obtain ⟨batchID, moCh, pc⟩ := client
  cases e with
  | register =>
    cases server with
    | none => cases h; exact .register
    | some tsc => cases h
  | decodeSignal1 =>
    obtain ⟨toClient, toServer, broken⟩ := conn
    cases pc with
    | decode =>
      cases toClient with
      | nil => cases h
      | cons sig sigs => cases h; exact .decodeSignal1
    | putting | confirmed | returned => cases h
  | putMo =>
    cases pc with
    | putting sig rest =>
      cases rest with
      | nil => cases h
      | cons oper rest => cases h; exact .putMo
    | decode | confirmed | returned => cases h
  | confirm failed delivered =>
    cases pc with
    | putting sig rest =>
      cases rest with
      | nil =>
        simp only [step] at h
        split at h
        · cases h; exact .confirm failed delivered
        · cases h
      | cons oper rest => cases h
    | decode | confirmed | returned => cases h
  | setBatchID =>
    cases pc with
    | confirmed id => cases h; exact .setBatchID
    | decode | putting | returned => cases h
  | closeReceiveOperations => cases h; exact .closeReceiveOperations
  | disconnect m n => cases h; exact .disconnect m n
  | setPush | clientPush | sendOperations | setSendError | decodeSignal2 | setFree
  | clearSendError | closeReceivedSignal | setDead => exact hserver h

end Link

/-! ### The invariant of a connection -/

/-- The signal of the last batch. -/
def signalOf (batches : List (List MysqlOperation)) : Signal1 :=
  ⟨.ofNat batches.length, last batches, (last batches).length⟩

/-- A client between two batches, the first of which is the last one of `done`. -/
inductive TCPClient.Accepted (done : List (List MysqlOperation)) : TCPClient → Prop where
  | decode : Accepted done ⟨.ofNat done.length, done.flatten, .decode⟩
  | confirmed {batchID : UInt64} :
      Accepted done ⟨batchID, done.flatten, .confirmed (.ofNat done.length)⟩
  | returned {batchID : UInt64} : Accepted done ⟨batchID, done.flatten, .returned⟩

/-- A client that has put a part of the batch of `sig` on its channel after those of `done`. -/
inductive TCPClient.Receiving (done : List (List MysqlOperation)) (sig : Signal1) :
    TCPClient → Prop where
  | putting {batchID : UInt64} {p rest : List MysqlOperation} (h : p ++ rest = sig.mos) :
      Receiving done sig ⟨batchID, done.flatten ++ p, .putting sig rest⟩
  | returned {batchID : UInt64} {p : List MysqlOperation} (h : p <+: sig.mos) :
      Receiving done sig ⟨batchID, done.flatten ++ p, .returned⟩

inductive LinkPhase where
  | fresh
  | waiting
  | acked
  | settled
  deriving DecidableEq

/-- The batches that the client has accepted: all but the last one, or all. -/
def LinkPhase.Accepts (batches done : List (List MysqlOperation)) : LinkPhase → Prop
  | .fresh | .waiting => ∃ b, batches = done ++ [b]
  | .acked | .settled => batches = done

/-- The signals on their way to the client: copies of the batch it has accepted last, and behind
them copies of the last batch. -/
def LinkPhase.InFlight (batches done : List (List MysqlOperation)) (ph : LinkPhase)
    (sigs : List Signal1) : Prop :=
  ∃ old new, sigs = old ++ new ∧ (∀ s ∈ old, s = signalOf done) ∧
    (∀ s ∈ new, s = signalOf batches) ∧ (ph = .fresh → new = [])

/-- Pushes that have not marked the client busy yet. -/
def Push.starting : Push → Bool
  | .setPush _ _ | .clientPush => true
  | .idle | .sending _ | .failed _ => false

/-- The server's record of a client; before the client has registered, the one it will get. -/
def Link.tsc (l : Link) : TCPServerClient := l.server.getD {}

/-- A connection in the phase `ph`, with the batches `batches` formed and those of `done`
accepted by the client. -/
structure Link.At (batches done : List (List MysqlOperation)) (ph : LinkPhase) (l : Link) :
    Prop where
  registered : l.server = none → batches = []
  accepts : ph.Accepts batches done
  setPush : ∀ batchID mos, l.tsc.push = .setPush batchID mos →
    ph = .fresh ∧ batchID = (signalOf batches).batchID ∧ mos = (signalOf batches).mos
  signal1 : (∀ batchID mos, l.tsc.push ≠ .setPush batchID mos) → l.tsc.signal1 = signalOf batches
  sending : ∀ sig, l.tsc.push = .sending sig → sig = signalOf batches
  fresh : ph = .fresh → l.tsc.state = .free ∧ l.tsc.push.starting = true
  busy : ph = .waiting ∨ ph = .acked → l.tsc.state = .busy
  matched : l.tsc.receivedSignal = .matched → ph = .acked ∧ l.conn.toServer = []
  toServer : l.conn.toServer ≠ [] →
    ph = .acked ∧ l.conn.toServer = [⟨(signalOf batches).batchID⟩]
  toClient : ph.InFlight batches done l.conn.toClient
  client : l.client.Accepted done ∨
    ph = .waiting ∧ l.client.Receiving done (signalOf batches)
  putting : ∀ sig rest, l.client.receiveOperations = .putting sig rest →
    ∀ s ∈ l.conn.toClient, s = signalOf batches

/-- The invariant of a connection: it is in some phase. -/
def Link.Inv (batches : List (List MysqlOperation)) (l : Link) : Prop :=
  ∃ done ph, l.At batches done ph

namespace Link

variable {batches done : List (List MysqlOperation)} {ph : LinkPhase} {l l' : Link}
  {server : Option TCPServerClient} {tsc : TCPServerClient} {conn : Conn} {client : TCPClient}

/-- A fresh connection is one whose push is still starting. -/
lemma At.ne_fresh (h : At batches done ph ⟨some tsc, conn, client⟩)
    (hpush : tsc.push.starting = false) : ph ≠ .fresh := by
  intro hph
  have hstarting : tsc.push.starting = true := (h.fresh hph).2
  rw [hpush] at hstarting
  cases hstarting

lemma At.setPush_step {batchID : UInt64} {mos : List MysqlOperation}
    (h : At batches done ph ⟨some tsc, conn, client⟩) (hpush : tsc.push = .setPush batchID mos) :
    At batches done ph ⟨some (tsc.setPush batchID mos), conn, client⟩ := by
  obtain ⟨rfl, rfl, rfl⟩ := h.setPush batchID mos hpush
  exact { h with
    registered := fun h => nomatch h
    setPush := fun _ _ h => nomatch h
    signal1 := fun _ => rfl
    sending := fun _ h => nomatch h
    fresh := fun hph => ⟨(h.fresh hph).1, rfl⟩ }

/-- Marking the client busy begins the wait for a batch that was just formed; in the other phases
this is a repeated push. -/
lemma At.clientPush_step (h : At batches done ph ⟨some tsc, conn, client⟩)
    (hpush : tsc.push = .clientPush) : Inv batches ⟨some tsc.clientPush, conn, client⟩ := by
  have hsignal : tsc.signal1 = signalOf batches :=
    h.signal1 fun batchID mos => by
      show tsc.push ≠ _
      rw [hpush]
      exact Push.noConfusion
  have hsending : ∀ sig, tsc.clientPush.push = .sending sig → sig = signalOf batches := by
    intro sig hsig
    rw [← hsignal]
    exact (Push.sending.inj hsig).symm
  by_cases hph : ph = .fresh
  · subst hph
    refine ⟨done, .waiting, ?_⟩
    obtain ⟨old, new, hsigs, hold, hnew, -⟩ := h.toClient
    exact {
      registered := fun h => nomatch h
      accepts := h.accepts
      setPush := fun _ _ h => nomatch h
      signal1 := fun _ => hsignal
      sending := hsending
      fresh := fun h => nomatch h
      busy := fun _ => rfl
      matched := fun hm => nomatch (h.matched hm).1
      toServer := fun hs => nomatch (h.toServer hs).1
      toClient := ⟨old, new, hsigs, hold, hnew, fun h => nomatch h⟩
      client := .inl (h.client.resolve_right fun h => nomatch h.1)
      putting := h.putting }
  · exact ⟨done, ph, { h with
      registered := fun h => nomatch h
      setPush := fun _ _ h => nomatch h
      signal1 := fun _ => hsignal
      sending := hsending
      fresh := fun h => absurd h hph
      busy := fun _ => rfl }⟩

/-- A push that has marked the client busy goes on and does not change the phase. -/
lemma At.push_step {tsc' : TCPServerClient} (h : At batches done ph ⟨some tsc, conn, client⟩)
    (hpush : tsc.push.starting = false) (hidle : tsc'.push = .idle ∨ ∃ err, tsc'.push = .failed err)
    (hsignal : tsc'.signal1 = tsc.signal1) (hstate : tsc'.state = tsc.state)
    (hrecv : tsc'.receivedSignal = tsc.receivedSignal) :
    At batches done ph ⟨some tsc', conn, client⟩ where
  registered := fun h => nomatch h
  accepts := h.accepts
  setPush := by
    intro batchID mos hset
    rcases hidle with hidle | ⟨err, hidle⟩ <;> exact nomatch hidle.symm.trans hset
  signal1 := by
    intro _
    refine hsignal.trans (h.signal1 fun batchID mos hset => ?_)
    rw [show tsc.push = _ from hset] at hpush
    exact nomatch hpush
  sending := by
    intro sig hsig
    rcases hidle with hidle | ⟨err, hidle⟩ <;> exact nomatch hidle.symm.trans hsig
  fresh := fun hph => absurd hph (h.ne_fresh hpush)
  busy := fun hph => hstate.trans (h.busy hph)
  matched := fun hm => h.matched (hrecv.symm.trans hm)
  toServer := h.toServer
  toClient := h.toClient
  client := h.client
  putting := h.putting

lemma At.sendOperations_step {sig : Signal1} (h : At batches done ph ⟨some tsc, conn, client⟩)
    (err : Option String) (delivered : Bool) (hpush : tsc.push = .sending sig) :
    At batches done ph ⟨some (tsc.sent err),
      { conn with toClient := conn.toClient ++ if delivered then [sig] else [] }, client⟩ := by
  have hsig : sig = signalOf batches := h.sending sig hpush
  have hstarting : tsc.push.starting = false := by
    rw [hpush]
    rfl
  have hsent : At batches done ph ⟨some (tsc.sent err), conn, client⟩ := by
    cases err with
    | none => exact h.push_step hstarting (.inl rfl) rfl rfl rfl
    | some err => exact h.push_step hstarting (.inr ⟨err, rfl⟩) rfl rfl rfl
  have hcopy : ∀ s ∈ (if delivered then [sig] else []), s = signalOf batches := by
    intro s hs
    cases delivered with
    | false => exact absurd hs List.not_mem_nil
    | true => exact (List.mem_singleton.mp hs).trans hsig
  refine { hsent with toClient := ?_, putting := ?_ }
  · obtain ⟨old, new, hsigs, hold, hnew, -⟩ := h.toClient
    refine ⟨old, new ++ if delivered then [sig] else [], ?_, hold, ?_, ?_⟩
    · rw [← List.append_assoc, ← hsigs]
    · intro s hs
      exact (List.mem_append.mp hs).elim (hnew s) (hcopy s)
    · exact fun hph => absurd hph (h.ne_fresh hstarting)
  · intro sig' rest hput s hs
    exact (List.mem_append.mp hs).elim (h.putting sig' rest hput s) (hcopy s)

/-- The only confirmation that arrives is the one the server waits for. -/
lemma At.decodeSignal2_step {toClient : List Signal1} {ack : Signal2} {acks : List Signal2}
    {broken : Bool} (h : At batches done ph ⟨some tsc, ⟨toClient, ack :: acks, broken⟩, client⟩) :
    At batches done ph ⟨some (tsc.received ack), ⟨toClient, acks, broken⟩, client⟩ := by
  obtain ⟨rfl, hacks⟩ := h.toServer (List.cons_ne_nil _ _)
  obtain ⟨rfl, rfl⟩ := List.cons.inj hacks
  have hsignal : tsc.signal1 = signalOf batches :=
    h.signal1 fun batchID mos hset => nomatch (h.setPush batchID mos hset).1
  have hreceived : tsc.received ⟨(signalOf batches).batchID⟩ =
      { tsc with receivedSignal := .matched } := by
    have hid : tsc.sendBatchID = (signalOf batches).batchID := congrArg Signal1.batchID hsignal
    rw [TCPServerClient.received, hid, if_pos (beq_self_eq_true _)]
  rw [hreceived]
  exact { h with
    registered := fun h => nomatch h
    matched := fun _ => ⟨rfl, rfl⟩
    toServer := fun h => absurd rfl h }

lemma At.setFree_step (h : At batches done ph ⟨some tsc, conn, client⟩)
    (hrecv : tsc.receivedSignal = .matched) :
    Inv batches ⟨some { tsc with state := .free, receivedSignal := .freed }, conn, client⟩ := by
  obtain ⟨rfl, hnil⟩ := h.matched hrecv
  obtain ⟨old, new, hsigs, hold, hnew, -⟩ := h.toClient
  refine ⟨done, .settled, ?_⟩
  exact { h with
    registered := fun h => nomatch h
    setPush := fun batchID mos hset => nomatch (h.setPush batchID mos hset).1
    fresh := fun h => nomatch h
    busy := fun h => nomatch h
    matched := fun h => nomatch h
    toServer := fun hs => absurd hnil hs
    toClient := ⟨old, new, hsigs, hold, hnew, fun h => nomatch h⟩
    client := .inl (h.client.resolve_right fun h => nomatch h.1) }

/-- The steps of the goroutine for the confirmations that do not concern a batch. -/
lemma At.server_step {tsc' : TCPServerClient} (h : At batches done ph ⟨some tsc, conn, client⟩)
    (hpush : tsc'.push = tsc.push) (hsignal : tsc'.signal1 = tsc.signal1)
    (hstate : tsc'.state = tsc.state)
    (hrecv : tsc'.receivedSignal = .matched → tsc.receivedSignal = .matched) :
    At batches done ph ⟨some tsc', conn, client⟩ where
  registered := fun h => nomatch h
  accepts := h.accepts
  setPush := fun batchID mos hset => h.setPush batchID mos (hpush.symm.trans hset)
  signal1 := fun hset => hsignal.trans (h.signal1 fun batchID mos hset' =>
    hset batchID mos (hpush.trans hset'))
  sending := fun sig hsig => h.sending sig (hpush.symm.trans hsig)
  fresh := fun hph => ⟨hstate.trans (h.fresh hph).1, by
    show tsc'.push.starting = true
    rw [hpush]
    exact (h.fresh hph).2⟩
  busy := fun hph => hstate.trans (h.busy hph)
  matched := fun hm => h.matched (hrecv hm)
  toServer := h.toServer
  toClient := h.toClient
  client := h.client
  putting := h.putting

/-- A copy of a batch that the client has accepted already makes it stop. -/
lemma received_signalOf_self {batchID : UInt64} {moCh : List MysqlOperation}
    (hid : batchID = .ofNat batches.length) :
    TCPClient.received ⟨batchID, moCh, .decode⟩ (signalOf batches) =
      ⟨batchID, moCh, .returned⟩ := by
  have hne : (signalOf batches).batchID ≠ batchID + 1 := by
    subst hid
    intro h
    have h1 : (1 : UInt64) = 0 := UInt64.left_eq_add.mp h
    exact absurd h1 (by decide)
  simp [TCPClient.received, hne]

/-- The batch after the accepted ones is accepted. -/
lemma received_signalOf_concat {batchID : UInt64} {moCh : List MysqlOperation}
    {b : List MysqlOperation} (hid : batchID = .ofNat done.length) :
    TCPClient.received ⟨batchID, moCh, .decode⟩ (signalOf (done ++ [b])) =
      ⟨batchID, moCh, .putting (signalOf (done ++ [b])) (signalOf (done ++ [b])).mos⟩ := by
  have hnext : (signalOf (done ++ [b])).batchID = batchID + 1 := by
    subst hid
    show UInt64.ofNat (done ++ [b]).length = _
    rw [List.length_append, UInt64.ofNat_add]
    rfl
  have hcount : (signalOf (done ++ [b])).mos.length = (signalOf (done ++ [b])).count := rfl
  simp [TCPClient.received, hnext, hcount]

lemma At.decodeSignal1_step {sig : Signal1} {sigs : List Signal1} {toServer : List Signal2}
    {broken : Bool} {batchID : UInt64} {moCh : List MysqlOperation}
    (h : At batches done ph ⟨server, ⟨sig :: sigs, toServer, broken⟩, ⟨batchID, moCh, .decode⟩⟩) :
    At batches done ph ⟨server, ⟨sigs, toServer, broken⟩,
      TCPClient.received ⟨batchID, moCh, .decode⟩ sig⟩ := by
  obtain ⟨hid, hmoCh⟩ : batchID = .ofNat done.length ∧ moCh = done.flatten := by
    rcases h.client with hclient | ⟨-, hclient⟩
    · cases hclient with
      | decode => exact ⟨rfl, rfl⟩
    · cases hclient
  subst hmoCh
  obtain ⟨old, new, hsigs, hold, hnew, hfresh⟩ := h.toClient
  -- the head of the queue is an old copy, or all copies are of the last batch
  cases old with
  | cons s old =>
    obtain ⟨rfl, rfl⟩ := List.cons.inj hsigs
    rw [hold sig List.mem_cons_self, received_signalOf_self hid]
    exact { h with
      toClient := ⟨old, new, rfl, fun s hs => hold s (List.mem_cons_of_mem _ hs), hnew, hfresh⟩
      client := .inl .returned
      putting := fun _ _ h => nomatch h }
  | nil =>
    obtain rfl : sig :: sigs = new := hsigs
    have htail : ∀ s ∈ sigs, s = signalOf batches :=
      fun s hs => hnew s (List.mem_cons_of_mem _ hs)
    have hin : ph.InFlight batches done sigs :=
      ⟨[], sigs, rfl, hold, htail, fun hph => absurd (hfresh hph) (List.cons_ne_nil _ _)⟩
    rw [hnew sig List.mem_cons_self]
    cases ph with
    | fresh => exact absurd (hfresh rfl) (List.cons_ne_nil _ _)
    | waiting =>
      obtain ⟨b, rfl⟩ := h.accepts
      rw [received_signalOf_concat hid]
      refine { h with toClient := hin, client := .inr ⟨rfl, ?_⟩, putting := fun _ _ _ => htail }
      rw [← List.append_nil done.flatten]
      exact .putting (List.nil_append _)
    | acked | settled =>
      obtain rfl : batches = done := h.accepts
      rw [received_signalOf_self hid]
      exact { h with
        toClient := hin
        client := .inl .returned
        putting := fun _ _ h => nomatch h }

lemma At.putMo_step {batchID : UInt64} {moCh rest : List MysqlOperation} {sig : Signal1}
    {oper : MysqlOperation}
    (h : At batches done ph ⟨server, conn, ⟨batchID, moCh, .putting sig (oper :: rest)⟩⟩) :
    At batches done ph ⟨server, conn, ⟨batchID, moCh ++ [oper], .putting sig rest⟩⟩ := by
  refine { h with client := ?_, putting := fun _ _ _ => h.putting _ _ rfl }
  rcases h.client with hclient | ⟨hph, hclient⟩
  · cases hclient
  · cases hclient with
    | putting hp =>
      rw [List.append_assoc]
      refine .inr ⟨hph, .putting ?_⟩
      rw [List.append_assoc]
      exact hp

/-- What the client has put on its channel when it has put the whole batch there. -/
lemma At.flatten_of_putting_nil {batchID : UInt64} {moCh : List MysqlOperation} {sig : Signal1}
    (h : At batches done ph ⟨server, conn, ⟨batchID, moCh, .putting sig []⟩⟩) :
    ph = .waiting ∧ sig = signalOf batches ∧ moCh = batches.flatten := by
  rcases h.client with hclient | ⟨rfl, hclient⟩
  · cases hclient
  · obtain ⟨b, rfl⟩ := h.accepts
    cases hclient with
    | putting hp =>
      rw [List.append_nil] at hp
      refine ⟨rfl, rfl, ?_⟩
      rw [hp]
      simp [signalOf, last]

lemma At.confirm_step {batchID : UInt64} {moCh : List MysqlOperation} {sig : Signal1}
    (h : At batches done ph ⟨server, conn, ⟨batchID, moCh, .putting sig []⟩⟩)
    (failed delivered : Bool) :
    Inv batches ⟨server,
      { conn with toServer := conn.toServer ++ if delivered then [⟨sig.batchID⟩] else [] },
      ⟨batchID, moCh, if failed then .returned else .confirmed sig.batchID⟩⟩ := by
  obtain ⟨rfl, rfl, rfl⟩ := h.flatten_of_putting_nil
  have hnil : conn.toServer = [] := by
    by_contra hne
    exact nomatch (h.toServer hne).1
  refine ⟨batches, .acked, ?_⟩
  exact {
    registered := h.registered
    accepts := rfl
    setPush := fun batchID mos hset => nomatch (h.setPush batchID mos hset).1
    signal1 := h.signal1
    sending := h.sending
    fresh := fun h => nomatch h
    busy := fun _ => h.busy (.inl rfl)
    matched := fun hm => nomatch (h.matched hm).1
    toServer := by
      intro hne
      refine ⟨rfl, ?_⟩
      cases delivered with
      | false =>
        refine absurd ?_ hne
        show conn.toServer ++ [] = []
        rw [hnil, List.append_nil]
      | true =>
        show conn.toServer ++ [_] = _
        rw [hnil, List.nil_append]
    toClient := ⟨[], conn.toClient, rfl, fun _ h => absurd h List.not_mem_nil,
      h.putting _ _ rfl, fun h => nomatch h⟩
    client := by
      cases failed with
      | false => exact .inl .confirmed
      | true => exact .inl .returned
    putting := by
      intro sig' rest hput
      cases failed <;> exact nomatch hput }

/-- The client stores the number of the batch it has confirmed. -/
lemma At.setBatchID_step {batchID confirmed : UInt64} {moCh : List MysqlOperation}
    (h : At batches done ph ⟨server, conn, ⟨batchID, moCh, .confirmed confirmed⟩⟩) :
    At batches done ph ⟨server, conn, ⟨confirmed, moCh, .decode⟩⟩ := by
  refine { h with client := ?_, putting := fun _ _ h => nomatch h }
  rcases h.client with hclient | ⟨hph, hclient⟩
  · cases hclient with
    | confirmed => exact .inl .decode
  · cases hclient

lemma At.closeReceiveOperations_step (h : At batches done ph ⟨server, conn, client⟩) :
    At batches done ph ⟨server, conn, { client with receiveOperations := .returned }⟩ := by
  refine { h with client := ?_, putting := fun _ _ h => nomatch h }
  rcases h.client with hclient | ⟨hph, hclient⟩
  · cases hclient with
    | decode | confirmed | returned => exact .inl .returned
  · cases hclient with
    | putting hp => exact .inr ⟨hph, .returned ⟨_, hp⟩⟩
    | returned hp => exact .inr ⟨hph, .returned hp⟩

/-- What is lost is the end of what was in flight. -/
lemma At.disconnect_step (h : At batches done ph ⟨server, conn, client⟩) (m n : ℕ) :
    At batches done ph
      ⟨server, ⟨conn.toClient.take m, conn.toServer.take n, true⟩, client⟩ := by
  refine { h with matched := ?_, toServer := ?_, toClient := ?_, putting := ?_ }
  · intro hm
    refine ⟨(h.matched hm).1, ?_⟩
    show conn.toServer.take n = []
    rw [show conn.toServer = [] from (h.matched hm).2, List.take_nil]
  · intro hne
    have hserver : conn.toServer ≠ [] := by
      intro hnil
      apply hne
      show conn.toServer.take n = []
      rw [hnil, List.take_nil]
    obtain ⟨hph, hacks⟩ := h.toServer hserver
    refine ⟨hph, ?_⟩
    show conn.toServer.take n = _
    rw [show conn.toServer = _ from hacks] at hne ⊢
    cases n with
    | zero => exact absurd rfl hne
    | succ n => rw [List.take_succ_cons, List.take_nil]
  · obtain ⟨old, new, hsigs, hold, hnew, hfresh⟩ := h.toClient
    refine ⟨old.take m, new.take (m - old.length), ?_, ?_, ?_, ?_⟩
    · show conn.toClient.take m = _
      rw [show conn.toClient = _ from hsigs, List.take_append]
    · exact fun s hs => hold s (List.mem_of_mem_take hs)
    · exact fun s hs => hnew s (List.mem_of_mem_take hs)
    · intro hph
      rw [hfresh hph, List.take_nil]
  · exact fun sig rest hput s hs => h.putting sig rest hput s (List.mem_of_mem_take hs)

/-- Every step on a connection leaves it in some phase. -/
theorem Step.inv (hstep : Step l l') (h : l.Inv batches) : l'.Inv batches := by
  obtain ⟨done, ph, h⟩ := h
  cases hstep with
  | register => exact ⟨done, ph, { h with registered := fun h => nomatch h }⟩
  | setPush hpush => exact ⟨done, ph, h.setPush_step hpush⟩
  | clientPush hpush => exact h.clientPush_step hpush
  | sendOperations err delivered hpush =>
    exact ⟨done, ph, h.sendOperations_step err delivered hpush⟩
  | setSendError hpush =>
    exact ⟨done, ph, h.push_step (by rw [hpush]; rfl) (.inl rfl) rfl rfl rfl⟩
  | decodeSignal2 => exact ⟨done, ph, h.decodeSignal2_step⟩
  | setFree hrecv => exact h.setFree_step hrecv
  | clearSendError => exact ⟨done, ph, h.server_step rfl rfl rfl fun h => nomatch h⟩
  | closeReceivedSignal => exact ⟨done, ph, h.server_step rfl rfl rfl fun h => nomatch h⟩
  | setDead => exact ⟨done, ph, h.server_step rfl rfl rfl id⟩
  | decodeSignal1 => exact ⟨done, ph, h.decodeSignal1_step⟩
  | putMo => exact ⟨done, ph, h.putMo_step⟩
  | confirm failed delivered => exact h.confirm_step failed delivered
  | setBatchID => exact ⟨done, ph, h.setBatchID_step⟩
  | closeReceiveOperations => exact ⟨done, ph, h.closeReceiveOperations_step⟩
  | disconnect m n => exact ⟨done, ph, h.disconnect_step m n⟩

/-! ### What the distributor relies on -/

/-- The client has registered and is marked free. -/
def Free (l : Link) : Prop := ∃ tsc, l.server = some tsc ∧ tsc.state = .free

@[simp] lemma pushIdle_some : pushIdle ⟨some tsc, conn, client⟩ = true ↔ tsc.push = .idle :=
  beq_iff_eq

/-- Only the distributor starts a push. -/
lemma Step.pushIdle (hstep : Step l l') (h : l.pushIdle = true) : l'.pushIdle = true := by
  cases hstep with
  | register => rfl
  | setPush hpush | clientPush hpush | sendOperations _ _ hpush | setSendError hpush =>
    rw [pushIdle_some, hpush] at h
    cases h
  | decodeSignal2 =>
    rw [pushIdle_some] at h ⊢
    rw [← h, TCPServerClient.received]
    split <;> rfl
  | setFree | clearSendError | closeReceivedSignal | setDead | decodeSignal1 | putMo | confirm
  | setBatchID | closeReceiveOperations | disconnect => exact h

/-- A client that is marked free stays so until the next push. -/
lemma Step.free (hstep : Step l l') (hidle : l.pushIdle = true) (h : l.Free) : l'.Free := by
  obtain ⟨tsc₀, hsome, hfree⟩ := h
  cases hstep with
  | register => cases hsome
  | setPush hpush | clientPush hpush | sendOperations _ _ hpush | setSendError hpush =>
    rw [pushIdle_some, hpush] at hidle
    cases hidle
  | decodeSignal2 =>
    cases hsome
    refine ⟨_, rfl, ?_⟩
    rw [← hfree, TCPServerClient.received]
    split <;> rfl
  | setFree => exact ⟨_, rfl, rfl⟩
  | clearSendError | closeReceivedSignal | setDead =>
    cases hsome
    exact ⟨_, rfl, hfree⟩
  | decodeSignal1 | putMo | confirm | setBatchID | closeReceiveOperations | disconnect =>
    exact ⟨tsc₀, hsome, hfree⟩

/-- A client that is marked free while no push is going on has accepted every batch. -/
lemma Inv.settled (h : l.Inv batches) (hidle : l.pushIdle = true) (hfree : l.Free) :
    l.At batches batches .settled := by
  obtain ⟨server, conn, client⟩ := l
  obtain ⟨tsc, rfl, hfree⟩ := hfree
  obtain ⟨done, ph, h⟩ := h
  rw [pushIdle_some] at hidle
  have hbusy : ¬ (ph = .waiting ∨ ph = .acked) :=
    fun hph => nomatch hfree.symm.trans (h.busy hph)
  cases ph with
  | fresh => exact absurd rfl (h.ne_fresh (by rw [hidle]; rfl))
  | waiting => exact absurd (.inl rfl) hbusy
  | acked => exact absurd (.inr rfl) hbusy
  | settled =>
    obtain rfl : batches = done := h.accepts
    exact h

lemma At.moCh_eq (h : l.At batches batches .settled) : l.client.moCh = batches.flatten := by
  obtain ⟨server, conn, client⟩ := l
  rcases h.client with hclient | ⟨hph, -⟩
  · cases hclient with
    | decode | confirmed | returned => rfl
  · cases hph

/-- The next batch finds the client with all the batches before it. -/
lemma At.startPush {b : List MysqlOperation} (h : l.At batches batches .settled)
    (hfree : l.Free) : (l.startPush (.setPush (.ofNat (batches ++ [b]).length) b)).Inv
      (batches ++ [b]) := by
  obtain ⟨server, conn, client⟩ := l
  obtain ⟨tsc, rfl, hfree⟩ := hfree
  refine ⟨batches, .fresh, ?_⟩
  obtain ⟨old, new, hsigs, hold, hnew, -⟩ := h.toClient
  exact {
    registered := by
      intro hnone
      cases hnone
    accepts := ⟨b, rfl⟩
    setPush := by
      intro batchID mos hset
      cases hset
      exact ⟨rfl, rfl, by simp [signalOf, last]⟩
    signal1 := fun hset => absurd rfl (hset _ _)
    sending := by
      intro sig hsig
      cases hsig
    fresh := fun _ => ⟨hfree, rfl⟩
    busy := by
      rintro (hph | hph) <;> cases hph
    matched := by
      intro hm
      cases (h.matched hm).1
    toServer := by
      intro hs
      cases (h.toServer hs).1
    toClient := ⟨old ++ new, [], by rw [List.append_nil]; exact hsigs,
      fun s hs => (List.mem_append.mp hs).elim (hold s) (hnew s),
      fun _ h => absurd h List.not_mem_nil, fun _ => rfl⟩
    client := by
      rcases h.client with hclient | ⟨hph, -⟩
      · exact .inl hclient
      · cases hph
    putting := by
      intro sig rest hput
      rcases h.client with hclient | ⟨hph, -⟩
      · cases hclient <;> cases hput
      · cases hph }

/-- A push that is repeated starts in the phase that the connection is in. -/
lemma Inv.startPush_again (h : l.Inv batches) (hidle : l.pushIdle = true) :
    (l.startPush .clientPush).Inv batches := by
  obtain ⟨server, conn, client⟩ := l
  obtain ⟨done, ph, h⟩ := h
  cases server with
  | none => exact ⟨done, ph, h⟩
  | some tsc =>
    rw [pushIdle_some] at hidle
    have hfresh : ph ≠ .fresh := h.ne_fresh (by rw [hidle]; rfl)
    exact ⟨done, ph, { h with
      registered := fun h => nomatch h
      setPush := fun _ _ h => nomatch h
      signal1 := fun _ => h.signal1 fun batchID mos hset => nomatch hidle.symm.trans hset
      sending := fun _ h => nomatch h
      fresh := fun h => absurd h hfresh }⟩

/-- A step puts at most one operation on the client's channel, and the one that comes next. -/
lemma Step.moCh (hstep : Step l l') (h : l.Inv batches) :
    l'.client.moCh = l.client.moCh ∨
      ∃ a, l'.client.moCh = l.client.moCh ++ [a] ∧ l.client.moCh ++ [a] <+: batches.flatten := by
  cases hstep with
  | decodeSignal1 =>
    left
    show (TCPClient.received _ _).moCh = _
    rw [TCPClient.received]
    split <;> rfl
  | @putMo server conn batchID moCh sig oper rest =>
    right
    refine ⟨oper, rfl, ?_⟩
    obtain ⟨done, ph, h⟩ := h
    rcases h.client with hclient | ⟨rfl, hclient⟩
    · cases hclient
    · obtain ⟨b, rfl⟩ := h.accepts
      cases hclient with
      | @putting _ p _ hp =>
        refine ⟨rest, ?_⟩
        have hb : p ++ oper :: rest = b := by rw [hp]; simp [signalOf, last]
        show done.flatten ++ p ++ [oper] ++ rest = (done ++ [b]).flatten
        simp [← hb]
  | register | setPush | clientPush | sendOperations | setSendError | decodeSignal2 | setFree
  | clearSendError | closeReceivedSignal | setDead | confirm | setBatchID
  | closeReceiveOperations | disconnect => exact .inl rfl

end Link

end MysqlSync

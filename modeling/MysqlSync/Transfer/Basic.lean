import Mathlib.Data.Fintype.Basic
import MysqlSync.Lib.Machine
import MysqlSync.Operation

/-!
# The transfer of operations from the server to its clients

The server takes operations from its channel in numbered batches and pushes every batch to all of
its clients; a client puts the operations of a batch on its own channel and confirms the batch.
Several goroutines work on the same fields: the distributor, one goroutine per client that pushes
a batch, one per client that receives the confirmations, and the client at the other end of the
connection. Each of them is a program counter and a few events, one for each read or write that
another goroutine can come in between, so that a run is any interleaving of their steps.
-/

namespace MysqlSync

/-! ### The server's end of a connection -/

/-- A batch on its way to a client. -/
structure Signal1 where
  batchID : UInt64
  mos : List MysqlOperation
  count : ℕ
  deriving DecidableEq, Repr

/-- A client's confirmation of a batch. -/
structure Signal2 where
  batchID : UInt64
  deriving DecidableEq, Repr

inductive ClientState where
  | free
  | busy
  deriving DecidableEq, Repr

/-- Where the goroutine that pushes a batch to a client is. -/
inductive Push where
  | idle
  /-- Started by `ClientsPush`, before `SetPush`. -/
  | setPush (batchID : UInt64) (mos : List MysqlOperation)
  /-- Before `ClientPush`. -/
  | clientPush
  /-- In `sendOperations`. -/
  | sending (signal1 : Signal1)
  /-- `sendOperations` has failed, and the error is not stored yet. -/
  | failed (err : String)
  deriving DecidableEq, Repr

/-- Where the goroutine that receives a client's confirmations is. -/
inductive ReceivedSignal where
  | decode
  /-- The confirmation is of the batch sent last, and the client is not marked free yet. -/
  | matched
  /-- The client is marked free, and the error is not cleared yet. -/
  | freed
  | returned
  deriving DecidableEq, Repr

structure TCPServerClient where
  sendBatchID : UInt64 := 0
  state : ClientState := .free
  sendError : Option String := none
  sendMos : List MysqlOperation := []
  dead : Bool := false
  push : Push := .idle
  receivedSignal : ReceivedSignal := .decode
  deriving DecidableEq, Repr

namespace TCPServerClient

def setPush (tsc : TCPServerClient) (batchID : UInt64) (mos : List MysqlOperation) :
    TCPServerClient :=
  { tsc with sendBatchID := batchID, sendMos := mos, push := .clientPush }

/-- The signal that `ClientPush` builds from the fields `SetPush` has set. -/
def signal1 (tsc : TCPServerClient) : Signal1 :=
  ⟨tsc.sendBatchID, tsc.sendMos, tsc.sendMos.length⟩

/-- `ClientPush` up to the call of `sendOperations`. -/
def clientPush (tsc : TCPServerClient) : TCPServerClient :=
  { tsc with state := .busy, sendError := none, push := .sending tsc.signal1 }

/-- What `ClientPush` goes on with when `sendOperations` has returned. -/
def sent (tsc : TCPServerClient) (err : Option String) : TCPServerClient :=
  match err with
  | none => { tsc with push := .idle }
  | some err => { tsc with push := .failed err }

/-- The comparison that `receivedSignal` makes on a decoded confirmation. -/
def received (tsc : TCPServerClient) (ack : Signal2) : TCPServerClient :=
  if tsc.sendBatchID == ack.batchID then { tsc with receivedSignal := .matched } else tsc

end TCPServerClient

/-! ### The client -/

/-- Where `receiveOperations` is. -/
inductive ReceiveOperations where
  | decode
  /-- A batch is accepted, and `rest` is still to be put on the channel. -/
  | putting (sig : Signal1) (rest : List MysqlOperation)
  /-- The batch is confirmed, and its number is not stored yet. -/
  | confirmed (batchID : UInt64)
  | returned
  deriving DecidableEq, Repr

/-- `moCh` is everything the client has put on its channel. -/
structure TCPClient where
  batchID : UInt64 := 0
  moCh : List MysqlOperation := []
  receiveOperations : ReceiveOperations := .decode
  deriving DecidableEq, Repr

namespace TCPClient

/-- The check on a decoded batch: it is the next one and complete, or the client stops. -/
def received (tc : TCPClient) (sig : Signal1) : TCPClient :=
  if sig.batchID == tc.batchID + 1 && sig.mos.length == sig.count then
    { tc with receiveOperations := .putting sig sig.mos }
  else { tc with receiveOperations := .returned }

end TCPClient

/-! ### Connections -/

/-- What is in flight on a connection, oldest first. A connection that is `broken` delivers
nothing that is written to it later. -/
structure Conn where
  toClient : List Signal1 := []
  toServer : List Signal2 := []
  broken : Bool := false
  deriving DecidableEq, Repr

/-- A write may fail with or without its bytes being delivered; it succeeds without delivering
them on a broken connection only, where nothing is delivered any more. -/
def Conn.admits (conn : Conn) (failed delivered : Bool) : Bool :=
  if conn.broken then !delivered else failed || delivered

/-- A client with its connection and the server's record of it, which is nil until the client has
registered. -/
structure Link where
  server : Option TCPServerClient := none
  conn : Conn := {}
  client : TCPClient := {}
  deriving DecidableEq, Repr

/-- The steps on one connection. -/
inductive LinkEvent where
  /-- The server registers the client. -/
  | register
  | setPush
  | clientPush
  | sendOperations (err : Option String) (delivered : Bool)
  | setSendError
  /-- The server decodes a confirmation. -/
  | decodeSignal2
  | setFree
  | clearSendError
  /-- The server fails to decode a confirmation. -/
  | closeReceivedSignal
  | setDead
  /-- The client decodes a batch. -/
  | decodeSignal1
  | putMo
  | confirm (failed delivered : Bool)
  | setBatchID
  /-- The client stops. -/
  | closeReceiveOperations
  /-- The connection breaks: of what is in flight, only the given numbers of signals still
  arrive. -/
  | disconnect (toClient toServer : ℕ)
  deriving DecidableEq, Repr

namespace Link

/-- A step of the server's goroutines for the client. -/
def serverStep (tsc : TCPServerClient) (l : Link) : LinkEvent → Option Link
  | .setPush =>
    match tsc.push with
    | .setPush batchID mos => some { l with server := some (tsc.setPush batchID mos) }
    | _ => none
  | .clientPush =>
    match tsc.push with
    | .clientPush => some { l with server := some tsc.clientPush }
    | _ => none
  | .sendOperations err delivered =>
    match tsc.push with
    | .sending signal1 =>
      if l.conn.admits err.isSome delivered then
        some { l with
          server := some (tsc.sent err)
          conn.toClient := l.conn.toClient ++ if delivered then [signal1] else [] }
      else none
    | _ => none
  | .setSendError =>
    match tsc.push with
    | .failed err => some { l with server := some { tsc with sendError := some err, push := .idle } }
    | _ => none
  | .decodeSignal2 =>
    match tsc.receivedSignal, l.conn.toServer with
    | .decode, ack :: acks =>
      some { l with server := some (tsc.received ack), conn.toServer := acks }
    | _, _ => none
  | .setFree =>
    match tsc.receivedSignal with
    | .matched => some { l with server := some { tsc with state := .free, receivedSignal := .freed } }
    | _ => none
  | .clearSendError =>
    match tsc.receivedSignal with
    | .freed =>
      some { l with server := some { tsc with sendError := none, receivedSignal := .decode } }
    | _ => none
  | .closeReceivedSignal =>
    match tsc.receivedSignal with
    | .decode => some { l with server := some { tsc with receivedSignal := .returned } }
    | _ => none
  | .setDead =>
    match tsc.receivedSignal with
    | .returned => some { l with server := some { tsc with dead := true } }
    | _ => none
  | _ => none

/-- A step on the connection, of any of the parties. -/
def step (e : LinkEvent) (l : Link) : Option Link :=
  match e with
  | .register =>
    match l.server with
    | none => some { l with server := some {} }
    | some _ => none
  | .decodeSignal1 =>
    match l.client.receiveOperations, l.conn.toClient with
    | .decode, sig :: sigs =>
      some { l with client := l.client.received sig, conn.toClient := sigs }
    | _, _ => none
  | .putMo =>
    match l.client.receiveOperations with
    | .putting sig (oper :: rest) =>
      some { l with
        client.moCh := l.client.moCh ++ [oper]
        client.receiveOperations := .putting sig rest }
    | _ => none
  | .confirm failed delivered =>
    match l.client.receiveOperations with
    | .putting sig [] =>
      if l.conn.admits failed delivered then
        some { l with
          client.receiveOperations := if failed then .returned else .confirmed sig.batchID
          conn.toServer := l.conn.toServer ++ if delivered then [⟨sig.batchID⟩] else [] }
      else none
    | _ => none
  | .setBatchID =>
    match l.client.receiveOperations with
    | .confirmed batchID =>
      some { l with client.batchID := batchID, client.receiveOperations := .decode }
    | _ => none
  | .closeReceiveOperations => some { l with client.receiveOperations := .returned }
  | .disconnect toClient toServer =>
    some { l with
      conn.toClient := l.conn.toClient.take toClient
      conn.toServer := l.conn.toServer.take toServer
      conn.broken := true }
  | e => l.server.bind fun tsc => serverStep tsc l e

end Link

/-! ### The server -/

/-- Where the distributor is. The clients are a map, so `clientsReady` looks at them in any
order: `rest` are those it has still to look at. -/
inductive Distributor (ι : Type) where
  | clientsReady (rest : Finset ι)
  /-- The client `c` was registered and not dead, and its state is not read yet. -/
  | alive (c : ι) (rest : Finset ι)
  /-- The client `c` was busy, and its error is not read yet. -/
  | busy (c : ι)
  /-- `clientsReady` pushes to the client `c` again. -/
  | again (c : ι)
  | fetchMos (count : ℕ) (mos : List MysqlOperation)
  /-- `ClientsPush` waits for its goroutines. -/
  | clientsPush
  | returned

/-- The server and the connections to its clients, which are named by `ι`. `moCh` holds the
operations not yet taken. The last two fields record what the distributor has done: the operations
it has taken and the batches it has formed. -/
structure TCPServer (ι : Type) where
  moCh : List MysqlOperation := []
  batchID : UInt64 := 0
  distributor : Distributor ι
  links : ι → Link := fun _ => {}
  taken : List MysqlOperation := []
  batches : List (List MysqlOperation) := []

inductive TransferEvent (ι : Type) where
  /-- The extractor puts an operation on the server's channel. -/
  | extract (oper : MysqlOperation)
  /-- The distributor finds its context cancelled. -/
  | cancel
  | readDead (c : ι)
  | readState
  | readSendError
  /-- All clients are ready, `EvaluateFetchCount` gives `count`, and so many operations are
  there. -/
  | evaluateFetchCount (count : ℕ)
  | takeMo
  /-- The batch is complete: it gets its number, and every client's goroutine is started. -/
  | formBatch
  /-- A push that the distributor waits for has returned. -/
  | pushed
  | link (c : ι) (e : LinkEvent)

namespace Link

/-- Start a goroutine at the given point of its push; on a nil record there is none. -/
def startPush (push : Push) (l : Link) : Link :=
  { l with server := l.server.map fun tsc => { tsc with push := push } }

/-- No push to this client is going on. -/
def pushIdle (l : Link) : Bool :=
  match l.server with
  | none => true
  | some tsc => tsc.push == .idle

end Link

namespace TCPServer

variable {ι : Type} [Fintype ι] [DecidableEq ι]

/-- `EvaluateFetchCount` gives no smaller count. -/
def minRcCnt : ℕ := 10

/-- The server before any client has registered. -/
def start : TCPServer ι where
  distributor := .clientsReady Finset.univ

/-- `clientsReady` begins anew when it has returned false. -/
def retry (ts : TCPServer ι) : TCPServer ι :=
  { ts with distributor := .clientsReady Finset.univ }

def setLink (ts : TCPServer ι) (c : ι) (l : Link) : TCPServer ι :=
  { ts with links := Function.update ts.links c l }

/-- The check of `clientsReady` that a client is there. -/
def readDead (ts : TCPServer ι) (c : ι) (rest : Finset ι) : TCPServer ι :=
  match (ts.links c).server with
  | none => ts.retry
  | some tsc => if tsc.dead then ts.retry else { ts with distributor := .alive c rest }

/-- The check of `clientsReady` that a client is free. -/
def readState (ts : TCPServer ι) (c : ι) (rest : Finset ι) (tsc : TCPServerClient) :
    TCPServer ι :=
  match tsc.state with
  | .busy => { ts with distributor := .busy c }
  | .free => { ts with distributor := .clientsReady (rest.erase c) }

/-- A busy client is pushed to again if the last push has failed. -/
def readSendError (ts : TCPServer ι) (c : ι) (tsc : TCPServerClient) : TCPServer ι :=
  match tsc.sendError with
  | none => ts.retry
  | some _ =>
    { ts.setLink c ((ts.links c).startPush .clientPush) with distributor := .again c }

/-- The next batch is numbered, recorded and handed to the goroutines of `ClientsPush`. -/
def formBatch (ts : TCPServer ι) (mos : List MysqlOperation) : TCPServer ι :=
  { ts with
    batchID := ts.batchID + 1
    distributor := .clientsPush
    links := fun c => (ts.links c).startPush (.setPush (ts.batchID + 1) mos)
    batches := ts.batches ++ [mos] }

/-- A step of the server, its clients or the connections. -/
def step (e : TransferEvent ι) (ts : TCPServer ι) : Option (TCPServer ι) :=
  match e with
  | .extract oper => some { ts with moCh := ts.moCh ++ [oper] }
  | .cancel =>
    match ts.distributor with
    | .clientsReady _ => some { ts with distributor := .returned }
    | _ => none
  | .readDead c =>
    match ts.distributor with
    | .clientsReady rest => if c ∈ rest then some (ts.readDead c rest) else none
    | _ => none
  | .readState =>
    match ts.distributor with
    | .alive c rest => (ts.links c).server.map (ts.readState c rest)
    | _ => none
  | .readSendError =>
    match ts.distributor with
    | .busy c => (ts.links c).server.map (ts.readSendError c)
    | _ => none
  | .evaluateFetchCount count =>
    match ts.distributor with
    | .clientsReady rest =>
      if rest = ∅ ∧ minRcCnt ≤ count ∧ count ≤ ts.moCh.length then
        some { ts with distributor := .fetchMos count [] }
      else none
    | _ => none
  | .takeMo =>
    match ts.distributor, ts.moCh with
    | .fetchMos count mos, oper :: moCh =>
      if mos.length < count then
        some { ts with
          moCh := moCh
          distributor := .fetchMos count (mos ++ [oper])
          taken := ts.taken ++ [oper] }
      else none
    | _, _ => none
  | .formBatch =>
    match ts.distributor with
    | .fetchMos count mos => if mos.length = count then some (ts.formBatch mos) else none
    | _ => none
  | .pushed =>
    match ts.distributor with
    | .again c => if (ts.links c).pushIdle then some ts.retry else none
    | .clientsPush => if ∀ c, (ts.links c).pushIdle = true then some ts.retry else none
    | _ => none
  | .link c e => ((ts.links c).step e).map (ts.setLink c)

/-- The state after a run from the start. -/
def run (es : List (TransferEvent ι)) : Option (TCPServer ι) := Machine.run step es start

end TCPServer

end MysqlSync

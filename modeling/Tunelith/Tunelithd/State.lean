import Mathlib.Data.Finmap
import Mathlib.Data.Finset.Basic
import Mathlib.Logic.Function.Basic
import Mathlib.Tactic.Simps.Basic
import Tunelith.Core.Proto
import Tunelith.Lib.Fifo

/-!
# The state of tunelithd

What the tasks of the daemon share, and what its functions do to it while they hold the lock of
`Daemon::state` or of a session's `subscribers`: `subscribe`, `reserve`, `offer` (what `fan_out`
does with a chunk for one subscriber), `closeIfIdle`, the two critical sections of `end`, and
`release`.

An `Arc`, a channel and a task each have a number to tell them apart. Everything of a kind is one
total map from these numbers, what was never made being `absent` in it, and nothing is ever taken
out of it, as a number is not given twice.

Three fields say what happened rather than what is: `drawn`, `handles` and the `chunks` of a
session. No step of the daemon reads them. The `dropped` of a subscriber, a `u64` there, never gets
to 2^64: it is taken as a natural number.
-/

namespace Tunelith.Tunelithd

open Proto

abbrev TunerId := String
abbrev Token := Nat
abbrev SessionId := Nat
abbrev ChanId := Nat
abbrev ConnId := Nat
abbrev HandlerId := Nat
abbrev DataId := Nat
abbrev Chunk := List UInt8

/-- The chunks a client may fall behind by before its stream loses data. -/
def BACKLOG : Nat := 256

/-! ## Channels of chunks -/

inductive TrySendError
  | full
  | closed
deriving DecidableEq, Repr

/-- An `mpsc::channel(BACKLOG)` of chunks; `rx` is whether its receiver is still there. -/
structure Chan where
  made : Bool := false
  queue : Fifo Chunk := .empty
  rx : Bool := false

def Chan.trySend (k : Chan) (c : Chunk) : Except TrySendError Chan :=
  if !k.rx then .error .closed
  else if k.queue.queue.length < BACKLOG then .ok { k with queue := k.queue.push c }
  else .error .full

/-! ## Sessions -/

structure Subscriber where
  tx : ChanId
  /-- The control connection of the client, for events. -/
  events : ConnId
  /-- The bytes dropped since the client last kept up. -/
  dropped : Nat
deriving DecidableEq, Repr

/-- Where the `fan_out` task of a session stands. -/
inductive FanOut
  | absent
  /-- At the `select!`. -/
  | running
  /-- It left no subscriber, and is about to call `close_if_idle`. -/
  | checking
  /-- Out of the loop, for `error` if any; `end` is to come. -/
  | left (error : Option String)
  /-- Past the first critical section of `end`, waiting for the tuner. -/
  | ending
  /-- In `tuner.close().await`. -/
  | closing
  /-- The tuner is closed; the last critical section of `end` is to come. -/
  | closed
  | ended
deriving DecidableEq, Repr

/-- Between the two critical sections of `end`. -/
def FanOut.isEnding : FanOut → Bool
  | .ending | .closing | .closed => true
  | _ => false

/-- Before the first critical section of `end`. -/
def FanOut.isLooping : FanOut → Bool
  | .running | .checking | .left _ => true
  | _ => false

/-- A tuner tuned to `params`, and the clients taking its stream. -/
structure Session where
  params : TuneParams
  tunerId : TunerId
  format : StreamFormat
  /-- Taken once the session ends. -/
  tuner : Option TunerId
  /-- The handler that has the tuner locked. -/
  tunerLock : Option HandlerId
  subscribers : Finmap fun _ : Token => Subscriber
  /-- The permit `stop` keeps. -/
  stop : Bool
  fanOut : FanOut
  /-- Every chunk fanned out so far. -/
  chunks : List Chunk

def Session.none : Session where
  params := ⟨.isdbT, 0, .none, .none⟩
  tunerId := ""
  format := .ts
  tuner := .none
  tunerLock := .none
  subscribers := ∅
  stop := false
  fanOut := .absent
  chunks := []

/-! ## Control connections and their handlers -/

structure Conn where
  accepted : Bool := false
  /-- The streams of the client, `none` once it has gone. -/
  owned : Option (Finset Token) := none
  /-- What `control` is yet to release after its read loop. -/
  cleaning : Finset Token := ∅
  /-- The channel to the task writing to the client. -/
  events : Fifo Envelope := .empty

/-- What an acquire was asked, and its parameters normalised. -/
structure Job where
  request : AcquireRequest
  params : TuneParams
deriving DecidableEq, Repr

/-- A pass of the loops of `acquire` over its candidates. -/
structure Attempt where
  id : TunerId
  wait : Bool
deriving DecidableEq, Repr

/-- Where an acquire stands with a tuner it reserved. -/
inductive Phase
  | reserved
  | opening
  | settingLnb
  | tuning
  | streaming
  /-- `start` failed and closes the tuner. -/
  | closing (e : Error)
  /-- `start` returned an error; the tuner is not yet marked free. -/
  | failed (e : Error)
  /-- `start` returned a stream. -/
  | started (format : StreamFormat)
deriving DecidableEq, Repr

/-- Whether `start` has the tuner open. -/
def Phase.isOpen : Phase → Bool
  | .reserved | .opening | .failed _ => false
  | _ => true

/-- Where a task running `handle` stands. -/
inductive Stage
  | absent
  /-- In `acquire`, before its first critical section. -/
  | looking (request : AcquireRequest)
  /-- In `acquire`, about to `reserve` the first of `left`. -/
  | trying (job : Job) (left : List Attempt)
  /-- In `reserve`, waiting for a tuner to be closed; `woken` once one was. -/
  | waiting (job : Job) (id : TunerId) (left : List Attempt) (woken : Bool)
  | holding (job : Job) (id : TunerId) (left : List Attempt) (phase : Phase)
  /-- `acquire` returned `response`, its token not yet among the client's. -/
  | owning (response : AcquireResponse)
  /-- The client has gone; the stream is to be released. -/
  | forsaking (response : AcquireResponse)
  | disowning (token : Token)
  | releasing (token : Token)
  | finding (token : Token)
  | locking (token : Token) (s : SessionId)
  | measuring (token : Token) (s : SessionId)
  | listing
  | responding (body : Body)
  | done
deriving DecidableEq, Repr

/-- A task running `handle` for the envelope `id` of a control connection. -/
structure Handler where
  conn : ConnId := 0
  id : Nat := 0
  stage : Stage := .absent

/-- `closed.notify_waiters()`, for one task. -/
def Handler.wake (x : Handler) : Handler :=
  match x.stage with
  | .waiting job id left _ => { x with stage := .waiting job id left true }
  | _ => x

/-! ## Data connections -/

/-- Where the task of a data connection stands. -/
inductive DataStage
  | absent
  /-- It took the receiver and is sending its hello. -/
  | greeting (token : Token) (k : ChanId)
  /-- In `data`. -/
  | sending (token : Token) (k : ChanId)
  /-- About to release the stream, still with the receiver if its hello failed. -/
  | leaving (token : Token) (k : Option ChanId)
  | done
deriving DecidableEq, Repr

/-- A data connection: `out` is every chunk written to it. -/
structure DataTask where
  stage : DataStage := .absent
  out : List Chunk := []

/-! ## The daemon -/

structure Device where
  id : String
  name : String
  tuners : List TunerInfo

/-- The draw of a token: for whom, into which session and channel, and how many chunks the
session had fanned out before. -/
structure Draw where
  conn : ConnId
  session : SessionId
  chan : ChanId
  since : Nat
deriving DecidableEq, Repr

structure Daemon where
  devices : List Device
  /-- The ids of the tuners streams hold, or that are being closed. -/
  busy : Finset TunerId
  /-- The ids of the tuners being closed. -/
  closing : Finset TunerId
  sessions : List SessionId
  /-- The session of each stream token. -/
  tokens : Token → Option SessionId
  /-- The data of the streams whose data connection has yet to attach. -/
  unattached : Token → Option ChanId
  session : SessionId → Session
  chan : ChanId → Chan
  conn : ConnId → Conn
  handler : HandlerId → Handler
  data : DataId → DataTask
  /-- How often each tuner was opened less how often it was closed. -/
  handles : TunerId → Nat
  /-- The last draw of each token. -/
  drawn : Token → Option Draw

/-- The daemon as `run` makes it. -/
def Daemon.init (devices : List Device) : Daemon where
  devices := devices
  busy := ∅
  closing := ∅
  sessions := []
  tokens _ := none
  unattached _ := none
  session _ := .none
  chan _ := {}
  conn _ := {}
  handler _ := {}
  data _ := {}
  handles _ := 0
  drawn _ := none

namespace Daemon

@[simps] def setSession (d : Daemon) (s : SessionId) (S : Session) : Daemon :=
  { d with session := Function.update d.session s S }

@[simps] def setChan (d : Daemon) (k : ChanId) (K : Chan) : Daemon :=
  { d with chan := Function.update d.chan k K }

@[simps] def setConn (d : Daemon) (c : ConnId) (C : Conn) : Daemon :=
  { d with conn := Function.update d.conn c C }

@[simps] def setData (d : Daemon) (x : DataId) (X : DataTask) : Daemon :=
  { d with data := Function.update d.data x X }

/-- The handler `h` goes on to `stage`. -/
@[simps] def goto (d : Daemon) (h : HandlerId) (stage : Stage) : Daemon :=
  { d with handler := Function.update d.handler h ⟨(d.handler h).conn, (d.handler h).id, stage⟩ }

def setFanOut (d : Daemon) (s : SessionId) (f : FanOut) : Daemon :=
  d.setSession s { d.session s with fanOut := f }

def setSubscribers (d : Daemon) (s : SessionId) (m : Finmap fun _ : Token => Subscriber) :
    Daemon :=
  d.setSession s { d.session s with subscribers := m }

/-- Puts an envelope into the channel of events of `c`. -/
def send (d : Daemon) (c : ConnId) (e : Envelope) : Daemon :=
  d.setConn c { d.conn c with events := (d.conn c).events.push e }

/-- Drops the receiver of `k`. -/
def dropReceiver (d : Daemon) (k : ChanId) : Daemon :=
  d.setChan k { d.chan k with rx := false }

/-- `sessions.retain(|s| !Arc::ptr_eq(s, session))` -/
@[simps] def unlist (d : Daemon) (s : SessionId) : Daemon :=
  { d with sessions := d.sessions.filter (· ≠ s) }

/-- `sessions.push(session)` for a new session `S`. -/
@[simps] def addSession (d : Daemon) (s : SessionId) (S : Session) : Daemon :=
  { d with session := Function.update d.session s S, sessions := d.sessions ++ [s] }

/-- `unattached.remove(token)`, whose value is dropped. -/
def dropUnattached (d : Daemon) (t : Token) : Daemon :=
  match d.unattached t with
  | none => d
  | some k => { d.dropReceiver k with unattached := Function.update d.unattached t none }

/-! ## What the tasks do under a lock -/

/-- `subscribe`, with the token it drew and the channel it made. -/
def subscribe (d : Daemon) (s : SessionId) (c : ConnId) (t : Token) (k : ChanId) : Daemon :=
  let d := d.setChan k { made := true, rx := true }
  let d := { d with
    drawn := Function.update d.drawn t (some ⟨c, s, k, (d.session s).chunks.length⟩) }
  let d := d.setSubscribers s ((d.session s).subscribers.insert t ⟨k, c, 0⟩)
  { d with
    tokens := Function.update d.tokens t (some s)
    unattached := Function.update d.unattached t (some k) }

/-- The answer of `subscribe`. -/
def acquired (d : Daemon) (s : SessionId) (t : Token) : AcquireResponse where
  streamToken := t
  tuner := (d.session s).tunerId
  format := ofStreamFormat (d.session s).format

/-- The critical section of `reserve` in the handler `h`. -/
def reserve (d : Daemon) (h : HandlerId) (job : Job) (id : TunerId) (wait : Bool)
    (left : List Attempt) : Daemon :=
  if id ∉ d.closing then
    if id ∈ d.busy then d.goto h (.trying job left)
    else { d with busy := insert id d.busy }.goto h (.holding job id left .reserved)
  else if !wait then d.goto h (.trying job left)
  else d.goto h (.waiting job id left false)

/-- `flush_drops`: tells the client what it lost since it last kept up, if anything. -/
def flushDrops (d : Daemon) (t : Token) (x : Subscriber) : Daemon × Subscriber :=
  if x.dropped > 0 then
    (d.send x.events (envelope 0 (.dropEvent t x.dropped)), { x with dropped := 0 })
  else (d, x)

/-- What `fan_out` does with the chunk `c` for the subscriber under `t`. -/
def offer (d : Daemon) (s : SessionId) (c : Chunk) (t : Token) : Daemon :=
  match (d.session s).subscribers.lookup t with
  | none => d
  | some x =>
    match (d.chan x.tx).trySend c with
    | .ok k =>
      let p := (d.setChan x.tx k).flushDrops t x
      p.1.setSubscribers s ((d.session s).subscribers.insert t p.2)
    | .error .full =>
      d.setSubscribers s
        ((d.session s).subscribers.insert t { x with dropped := x.dropped + c.length })
    | .error .closed => d.setSubscribers s ((d.session s).subscribers.erase t)

/-- A turn of the loop of `fan_out` on the chunk `c`, the subscribers taken in `order`. -/
def fanOutChunk (d : Daemon) (s : SessionId) (order : List Token) (c : Chunk) : Daemon :=
  let d := order.foldl (fun d t => d.offer s c t) d
  let S := d.session s
  d.setSession s { S with
    chunks := S.chunks ++ [c]
    fanOut := if S.subscribers.keys = ∅ then .checking else .running }

/-- `close_if_idle`, and what `fan_out` does of it. -/
def closeIfIdle (d : Daemon) (s : SessionId) : Daemon :=
  if (d.session s).subscribers.keys = ∅ then (d.unlist s).setFanOut s (.left none)
  else d.setFanOut s .running

/-- What `end` does for the token `t` as it retains those of other sessions. -/
def retainToken (d : Daemon) (s : SessionId) (t : Token) : Daemon :=
  if d.tokens t = some s then
    { d.dropUnattached t with tokens := Function.update d.tokens t none }
  else d

/-- What `end` does for the subscriber under `t` it drains. -/
def drain (d : Daemon) (s : SessionId) (error : Option String) (t : Token) : Daemon :=
  match (d.session s).subscribers.lookup t with
  | none => d
  | some x =>
    let d := (d.flushDrops t x).1
    let d := d.send x.events (envelope 0 (.streamEndEvent t (error.getD "")))
    d.setSubscribers s ((d.session s).subscribers.erase t)

/-- `end` takes `s` out of the running ones, and its tuner is now being closed. -/
@[simps] def beginEnd (d : Daemon) (s : SessionId) : Daemon :=
  { d with
    sessions := d.sessions.filter (· ≠ s)
    closing := insert (d.session s).tunerId d.closing }

/-- The first critical section of `end`, for `error`: `tokens` are walked in the order `walk`, the
subscribers in `order`. -/
def endFirst (d : Daemon) (s : SessionId) (walk order : List Token) (error : Option String) :
    Daemon :=
  let d := walk.foldl (fun d t => d.retainToken s t) (d.beginEnd s)
  let d := order.foldl (fun d t => d.drain s error t) d
  d.setFanOut s .ending

/-- The last critical section of `end`. -/
def endLast (d : Daemon) (s : SessionId) : Daemon :=
  let id := (d.session s).tunerId
  let d := { d with
    busy := d.busy.erase id
    closing := d.closing.erase id
    handler := fun h => (d.handler h).wake }
  d.setFanOut s .ended

/-- What `release` does to the session `s` of the token `t`. -/
def leave (d : Daemon) (s : SessionId) (t : Token) : Daemon :=
  let d := d.setSubscribers s ((d.session s).subscribers.erase t)
  if (d.session s).subscribers.keys = ∅ then
    -- Out of the running ones at once, so that no one joins it while its fan-out ends it.
    (d.unlist s).setSession s { d.session s with stop := true }
  else d

def release (d : Daemon) (t : Token) : Daemon :=
  let d := d.dropUnattached t
  match d.tokens t with
  | none => d
  | some s => { d with tokens := Function.update d.tokens t none }.leave s t

/-- `list`. -/
def list (d : Daemon) : List DeviceMsg :=
  d.devices.map fun device =>
    { id := device.id
      name := device.name
      tuners := device.tuners.map fun tuner =>
        { id := tuner.id
          systems := tuner.systems.map ofSystem
          busy := decide (tuner.id ∈ d.busy) } }

end Daemon

end Tunelith.Tunelithd

import Mathlib.Data.Fin.Basic
import Mathlib.Data.List.FinRange
import Mathlib.Logic.Function.Basic
import Mathlib.Tactic.Simps.Basic
import Tunelith.Core.Types
import Tunelith.Lib.Fifo
import Tunelith.Lib.Transition
import Tunelith.Px4.Demux

/-!
# The streams of a bridge

`Hub` and its receiver, and `BoardTuner::stream` and `release`, which go through it. A step is
what one task does from one `await` to the next, so a run is an interleaving of the calls for the
tuners of one bridge, of its receivers and of the readers of the streams. How the operations of
the board and the transfers turn out is chosen by the action, and so is where a future of
`stream` is dropped.

Channels, calls and receivers have numbers to tell them apart, as the tasks of the daemon have.
-/

namespace Tunelith.Px4

abbrev Slot := Fin 5
abbrev ChanId := Nat
abbrev CallId := Nat
abbrev ReceiverId := Nat

/-- The transfers a tuner's stream may fall behind by before its data is dropped. -/
def BACKLOG : Nat := 64

/-! ## Channels of packets -/

inductive TrySendError
  | full
  | disconnected
deriving DecidableEq, Repr

/-- An `mpsc::channel(BACKLOG)`; `rx` is whether its receiver is still there. -/
structure Chan where
  made : Bool := false
  queue : Fifo (List UInt8) := .empty
  rx : Bool := false

/-- A channel has room for what it was made for and for one more of each of its senders, of which
a slot has one. -/
def Chan.trySend (k : Chan) (packets : List UInt8) : Except TrySendError Chan :=
  if !k.rx then .error .disconnected
  else if k.queue.queue.length ≤ BACKLOG then .ok { k with queue := k.queue.push packets }
  else .error .full

/-! ## The hub -/

/-- The streams of the tuners on one bridge. -/
structure Hub where
  /-- Whether the bridge tags the packets of each input. -/
  tagged : Bool
  senders : Slot → Option ChanId
  running : Bool

namespace Hub

@[simps] def new (tagged : Bool) : Hub := ⟨tagged, fun _ => none, false⟩

/-- Takes the stream of `slot` as the channel `k`, and whether the reception is to be started. -/
def attach (hub : Hub) (slot : Slot) (k : ChanId) : Hub × Bool :=
  ({ hub with senders := Function.update hub.senders slot (some k), running := true },
    !hub.running)

@[simps] def detach (hub : Hub) (slot : Slot) : Hub :=
  { hub with senders := Function.update hub.senders slot none }

/-- Gives up on the reception `attach` asked to start. -/
@[simps] def abort (hub : Hub) (slot : Slot) : Hub :=
  { hub with senders := Function.update hub.senders slot none, running := false }

/-- `*streams = Streams::default()` -/
@[simps] def reset (hub : Hub) : Hub := { hub with senders := fun _ => none, running := false }

/-- Every slot has let go of its stream. -/
def idle (hub : Hub) : Bool := (List.finRange 5).all fun slot => (hub.senders slot).isNone

end Hub

/-! ## The calls and the receivers -/

/-- Where a call of `BoardTuner::stream` stands. -/
inductive Call
  | absent
  /-- Waiting for the lock of `state`. -/
  | queued (slot : Slot)
  /-- Told to start the reception, in `purge_psb`. -/
  | purging (slot : Slot) (k : ChanId)
  /-- In `set_capture`; `start` is what `attach` answered. -/
  | capturing (slot : Slot) (k : ChanId) (start : Bool)
  | done
deriving DecidableEq, Repr

/-- The call has the lock of `state`. -/
def Call.holds : Call → Bool
  | .purging _ _ | .capturing _ _ _ => true
  | _ => false

/-- The call is yet to start the reception, as `attach` told it. -/
def Call.starts : Call → Bool
  | .purging _ _ => true
  | .capturing _ _ start => start
  | _ => false

/-- The channel a call is to return the stream of. -/
def Call.chan : Call → Option ChanId
  | .purging _ k | .capturing _ k _ => some k
  | _ => none

/-- Where a task of `receive` stands. -/
inductive Receiver
  | absent
  /-- Waiting for a transfer. -/
  | receiving (carry : List UInt8)
  /-- Decided to end. -/
  | done
deriving DecidableEq, Repr

def Receiver.runs : Receiver → Bool
  | .receiving _ => true
  | _ => false

/-- Who has the lock of `state`. -/
inductive Holder
  | call (i : CallId)
  /-- A release, or any other call to the board. -/
  | other
deriving DecidableEq, Repr

/-- A bridge, with the calls to the tuners on it. -/
structure Bridge where
  hub : Hub
  holder : Option Holder
  chan : ChanId → Chan
  call : CallId → Call
  receiver : ReceiverId → Receiver

namespace Bridge

def init (tagged : Bool) : Bridge where
  hub := .new tagged
  holder := none
  chan _ := {}
  call _ := .absent
  receiver _ := .absent

@[simps] def setChan (b : Bridge) (k : ChanId) (K : Chan) : Bridge :=
  { b with chan := Function.update b.chan k K }

@[simps] def setReceiver (b : Bridge) (r : ReceiverId) (R : Receiver) : Bridge :=
  { b with receiver := Function.update b.receiver r R }

@[simps] def goto (b : Bridge) (i : CallId) (c : Call) : Bridge :=
  { b with call := Function.update b.call i c }

/-- The stream of `k` is dropped. -/
@[simps!] def dropStream (b : Bridge) (k : ChanId) : Bridge :=
  b.setChan k { b.chan k with rx := false }

/-- The call `i` returns, and lets go of the lock. -/
@[simps] def finish (b : Bridge) (i : CallId) : Bridge :=
  { b with holder := none, call := Function.update b.call i .done }

/-- `stream` with the lock taken, up to its first `await`. -/
def attach (b : Bridge) (i : CallId) (slot : Slot) (k : ChanId) : Bridge :=
  let (hub, start) := b.hub.attach slot k
  { b with
    hub := hub
    holder := some (.call i)
    chan := Function.update b.chan k { made := true, rx := true }
    call := Function.update b.call i
      (if start then .purging slot k else .capturing slot k false) }

/-- `stream` on an error. -/
def fail (b : Bridge) (i : CallId) (slot : Slot) (k : ChanId) (start : Bool) : Bridge :=
  { b with hub := if start then b.hub.abort slot else b.hub.detach slot }.dropStream k |>.finish i

/-- The end of `stream` once the capture is on: `r` is the receiver started, if it is to start
one and got a queue of transfers. -/
def captured (b : Bridge) (i : CallId) (slot : Slot) (k : ChanId) (start : Bool)
    (queue : Except Error ReceiverId) : Bridge :=
  if start then
    match queue with
    | .ok r => (b.setReceiver r (.receiving [])).finish i
    | .error _ => b.fail i slot k start
  else b.finish i

/-- The future of the call `i` is dropped where it stands. -/
def drop (b : Bridge) (i : CallId) : Bridge :=
  match b.call i with
  | .purging _ k | .capturing _ k _ => (b.dropStream k).finish i
  | _ => b.goto i .done

/-! ## The receiver -/

/-- Hands `packets` over to the stream of `slot`. -/
def deliver (b : Bridge) (slot : Slot) (packets : List UInt8) : Bridge :=
  match b.hub.senders slot with
  | none => b
  | some k =>
    if packets = [] then b
    else match (b.chan k).trySend packets with
      | .ok K => b.setChan k K
      | .error .full => b
      | .error .disconnected => { b with hub := b.hub.detach slot }

/-- The packets of `slot` among `out`. -/
def packetsOf (out : List (Nat × Packet)) (slot : Slot) : List UInt8 :=
  (out.filter (·.1 = slot.val)).flatMap (·.2)

/-- A turn of the loop of `receive`, a transfer of `data` completed. -/
def receive (b : Bridge) (r : ReceiverId) (carry data : List UInt8) : Bridge :=
  let (out, carry) := demux b.hub.tagged carry data
  let b := (List.finRange 5).foldl (fun b slot => b.deliver slot (packetsOf out slot)) b
  if b.hub.idle then { b with hub := { b.hub with running := false } }.setReceiver r .done
  else b.setReceiver r (.receiving carry)

/-- A turn of the loop of `receive`, the transfer failed. -/
@[simps!] def receiveFailed (b : Bridge) (r : ReceiverId) : Bridge :=
  { b with hub := b.hub.reset }.setReceiver r .done

end Bridge

/-! ## Steps -/

inductive Act
  -- `BoardTuner::stream`
  | stream (i : CallId) (slot : Slot)
  | attach (i : CallId) (k : ChanId)
  | purged (i : CallId) (r : Except Error Unit)
  | captured (i : CallId) (r : Except Error (Except Error ReceiverId))
  | drop (i : CallId)
  -- Everything else that takes the lock of `state`.
  | release (slot : Slot)
  | lock
  | unlock
  -- `receive`
  | transfer (r : ReceiverId) (data : Except Error (List UInt8))
  -- The streams.
  | recv (k : ChanId)
  | dropStream (k : ChanId)

/-- `Step b a b'`: one task does `a`. -/
inductive Step : Bridge → Act → Bridge → Prop
  | stream {b : Bridge} {i : CallId} {slot : Slot} (hi : b.call i = .absent) :
      Step b (.stream i slot) (b.goto i (.queued slot))
  | attach {b : Bridge} {i : CallId} {slot : Slot} {k : ChanId} (hi : b.call i = .queued slot)
      (hl : b.holder = none) (hk : (b.chan k).made = false) :
      Step b (.attach i k) (b.attach i slot k)
  | purged {b : Bridge} {i : CallId} {slot : Slot} {k : ChanId}
      (hi : b.call i = .purging slot k) :
      Step b (.purged i (.ok ())) (b.goto i (.capturing slot k true))
  | notPurged {b : Bridge} {i : CallId} {slot : Slot} {k : ChanId} {e : Error}
      (hi : b.call i = .purging slot k) :
      Step b (.purged i (.error e)) (b.fail i slot k true)
  | captured {b : Bridge} {i : CallId} {slot : Slot} {k : ChanId} {start : Bool}
      {queue : Except Error ReceiverId} (hi : b.call i = .capturing slot k start)
      (hr : ∀ r, queue = .ok r → b.receiver r = .absent) :
      Step b (.captured i (.ok queue)) (b.captured i slot k start queue)
  | notCaptured {b : Bridge} {i : CallId} {slot : Slot} {k : ChanId} {start : Bool} {e : Error}
      (hi : b.call i = .capturing slot k start) :
      Step b (.captured i (.error e)) (b.fail i slot k start)
  | drop {b : Bridge} {i : CallId} (hi : b.call i ≠ .absent) : Step b (.drop i) (b.drop i)
  | release {b : Bridge} {slot : Slot} (hl : b.holder = none) :
      Step b (.release slot) { b with hub := b.hub.detach slot, holder := some .other }
  | lock {b : Bridge} (hl : b.holder = none) :
      Step b .lock { b with holder := some .other }
  | unlock {b : Bridge} (hl : b.holder = some .other) : Step b .unlock { b with holder := none }
  | transfer {b : Bridge} {r : ReceiverId} {carry data : List UInt8}
      (hr : b.receiver r = .receiving carry) :
      Step b (.transfer r (.ok data)) (b.receive r carry data)
  | transferFailed {b : Bridge} {r : ReceiverId} {carry : List UInt8} {e : Error}
      (hr : b.receiver r = .receiving carry) :
      Step b (.transfer r (.error e)) (b.receiveFailed r)
  | recv {b : Bridge} {k : ChanId} (hk : ∀ i, (b.call i).chan ≠ some k) :
      Step b (.recv k) (b.setChan k { b.chan k with queue := (b.chan k).queue.pop })
  | dropStream {b : Bridge} {k : ChanId} (hk : ∀ i, (b.call i).chan ≠ some k) :
      Step b (.dropStream k) (b.dropStream k)

end Tunelith.Px4

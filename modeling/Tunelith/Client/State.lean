import Mathlib.Logic.Function.Basic
import Mathlib.Tactic.Simps.Basic
import Tunelith.Core.Proto
import Tunelith.Lib.Fifo

/-!
# The state of a client

`Inner`, which the clones of a `Client`, its calls and its streams share, the two tasks that see
to the control connection, and what each call has of its own; then what the calls and the tasks do
to it: `release`, `endStream` (`Inner::end`), what `call` makes of an answer, and what the reader
makes of a frame.

Every call has a number to tell it apart, and keeps the counter of dropped bytes and the reads of
the stream it returned, if it did. A handle of the client is kept throughout: with the last one
gone the connection closes, and the daemon releases all the client had. The counters that are
`u64` there, `nextId` and `dropped`, never get to 2^64: they are taken as natural numbers.

`took` says what happened rather than what is. No step reads it.
-/

namespace Tunelith.Client

open Proto

abbrev Token := Nat
abbrev RequestId := Nat
abbrev CallId := Nat
abbrev DataId := Nat

/-- How to acquire a stream. -/
structure AcquireOptions where
  tuner : Option String := none
  lnb : Bool := false

def closed : Error := .io .brokenPipe "tunelithd closed the connection"

def unexpected : Error := .io .invalidData "unexpected response from tunelithd"

/-- How a stream ended. -/
inductive End
  /-- Not yet; the call whose stream's read waits to know, if one does. -/
  | pending (waker : Option CallId)
  /-- For the error, if any. -/
  | ended (error : Option String)
deriving DecidableEq, Repr

/-- What a `oneshot::Receiver` holds. -/
inductive Oneshot
  | empty
  | full (body : Body)
  /-- The sender was dropped. -/
  | closed
deriving DecidableEq, Repr

/-- What a call asks for. -/
inductive Request
  | list
  | acquire (request : AcquireRequest)
  | signal (token : Token)
deriving DecidableEq, Repr

def Request.body : Request → Body
  | .list => .listRequest
  | .acquire request => .acquireRequest request
  | .signal token => .signalRequest token

def Request.isAcquire : Request → Bool
  | .acquire _ => true
  | _ => false

/-- A stream handed out, but for what its call keeps for it. -/
structure Stream where
  token : Token
  tuner : String
  format : StreamFormat
  data : DataId
deriving DecidableEq, Repr

/-- Where a call stands. -/
inductive Stage
  | absent
  /-- About to insert its entry into `pending`. -/
  | inserting
  /-- About to give its request to the writer. -/
  | sending
  /-- In `rx.await`. -/
  | waiting
  /-- An acquire with its `Held`, about to insert into `drops`. -/
  | keeping (response : AcquireResponse)
  /-- About to insert into `ends`. -/
  | registering (response : AcquireResponse)
  /-- In `open`, for the data connection. -/
  | opening (response : AcquireResponse) (format : StreamFormat)
  /-- In `connect`, past `open`. -/
  | attaching (response : AcquireResponse) (format : StreamFormat) (data : DataId)
  /-- The acquire returned a stream. -/
  | streaming (stream : Stream)
  | returned (body : Body)
  | failed (e : Error)
  /-- The future of the call, or the stream it returned, was dropped. -/
  | dropped
deriving DecidableEq, Repr

namespace Stage

/-- The receiver of the call's `oneshot` is there. -/
def listens : Stage → Bool
  | inserting | sending | waiting => true
  | _ => false

/-- The token of the `Held` an acquire has. -/
def held : Stage → Option Token
  | keeping response | registering response | opening response _ | attaching response _ _ =>
    some response.streamToken
  | _ => none

/-- The token of the stream a call has returned. -/
def streams : Stage → Option Token
  | streaming stream => some stream.token
  | _ => none

end Stage

structure Call where
  request : Request := .list
  id : RequestId := 0
  oneshot : Oneshot := .empty
  stage : Stage := .absent
  /-- The bytes the stream lost. -/
  dropped : Nat := 0
  /-- What was read from the stream. -/
  read : List UInt8 := []
  /-- A read of the stream found its end and waits to know how it came. -/
  parked : Bool := false

/-- Where the task reading the control connection stands. -/
inductive Reader
  | reading
  /-- Past its loop, about to clear `pending`. -/
  | clearing
  /-- About to collect the tokens of `ends`. -/
  | collecting
  /-- Ending the streams of `left`. -/
  | ending (left : List Token)
  | ended
deriving DecidableEq, Repr

/-- The reader has cleared `pending`. -/
def Reader.swept : Reader → Bool
  | .collecting | .ending _ | .ended => true
  | _ => false

/-- Where the task writing the requests stands. -/
inductive Writer
  | running
  | ended
deriving DecidableEq, Repr

structure Inner where
  requests : Fifo Envelope
  /-- The call each request under way is of. -/
  pending : RequestId → Option CallId
  /-- The call whose counter the drops of each stream go to. -/
  drops : Token → Option CallId
  /-- How each stream ended, once tunelithd says. -/
  ends : Token → Option End
  nextId : Nat
  reader : Reader
  writer : Writer
  call : CallId → Call
  /-- The token of the answer to each acquire the reader has taken. -/
  took : CallId → Option Token

namespace Inner

/-- The client as `connect` makes it. -/
def init : Inner where
  requests := .empty
  pending _ := none
  drops _ := none
  ends _ := none
  nextId := 1
  reader := .reading
  writer := .running
  call _ := {}
  took _ := none

@[simps] def setCall (c : Inner) (i : CallId) (C : Call) : Inner :=
  { c with call := Function.update c.call i C }

/-- The call `i` goes on to `stage`. -/
@[simps!] def goto (c : Inner) (i : CallId) (stage : Stage) : Inner :=
  c.setCall i { c.call i with stage := stage }

/-- The queue of the writer after `requests.send`, which fails once the writer has ended. -/
def queued (c : Inner) (e : Envelope) : Fifo Envelope :=
  match c.writer with
  | .running => c.requests.push e
  | .ended => c.requests

/-- `Inner::forget`. -/
@[simps] def forget (c : Inner) (t : Token) : Inner :=
  { c with
    drops := Function.update c.drops t none
    ends := Function.update c.ends t none }

/-- `Inner::release`, taken as one step: who comes in between only finds the token gone. -/
@[simps] def release (c : Inner) (t : Token) : Inner :=
  { c.forget t with
    nextId := c.nextId + 1
    requests := c.queued (envelope c.nextId (.releaseRequest t)) }

/-- Wakes the read that waits to know how its stream ended. -/
def wake (c : Inner) : End → Inner
  | .pending (some i) => c.setCall i { c.call i with parked := false }
  | _ => c

/-- `Inner::end`. -/
def endStream (c : Inner) (t : Token) (error : Option String) : Inner :=
  match c.ends t with
  | some e => { c with ends := Function.update c.ends t (some (.ended error)) }.wake e
  | none => c

/-- What the reader does with an answer. -/
def deliver (c : Inner) (id : RequestId) (body : Body) : Inner :=
  match c.pending id with
  | none => c
  | some i =>
    let c := { c with pending := Function.update c.pending id none }
    if (c.call i).stage.listens then c.setCall i { c.call i with oneshot := .full body }
    else match body with
      -- The acquire was given up on: nobody is to release the stream but us.
      | .acquireResponse response => c.release response.streamToken
      | _ => c

/-- What the reader does with a frame. -/
def handle (c : Inner) (e : Envelope) : Inner :=
  match e.body with
  | some (.dropEvent t n) =>
    match c.drops t with
    | some i => c.setCall i { c.call i with dropped := (c.call i).dropped + n }
    | none => c
  | some (.streamEndEvent t error) => c.endStream t (if error = "" then none else some error)
  | some body => c.deliver e.id body
  | none => c

/-- The acquire that `e` answers with a token, and the token. -/
def answers (c : Inner) (e : Envelope) : Option (CallId × Token) :=
  match e.body, c.pending e.id with
  | some (.acquireResponse response), some i =>
    if (c.call i).request.isAcquire then some (i, response.streamToken) else none
  | _, _ => none

/-- A turn of the reader's loop. -/
def receive (c : Inner) (e : Envelope) : Inner :=
  { c.handle e with
    took := match c.answers e with
      | some (i, t) => Function.update c.took i (some t)
      | none => c.took }

/-- `pending.clear()` drops the senders in it. -/
@[simps] def clear (c : Inner) : Inner :=
  { c with
    pending := fun _ => none
    reader := .collecting
    call := fun i =>
      if c.pending (c.call i).id = some i then { c.call i with oneshot := .closed } else c.call i }

/-- What a call makes of the body it was answered with. -/
def answered (request : Request) : Body → Stage
  | .error e => .failed (toError e)
  | body =>
    match request, body with
    | .list, .listResponse _ => .returned body
    | .acquire _, .acquireResponse response => .keeping response
    | .signal _, .signalResponse _ => .returned body
    | _, _ => .failed unexpected

/-- `acquire` fails, and its `Held` releases the stream. -/
def fail (c : Inner) (i : CallId) (t : Token) (e : Error) : Inner :=
  (c.release t).goto i (.failed e)

/-- `acquire` inserts into `ends`, and goes on to the data connection. -/
def register (c : Inner) (i : CallId) (response : AcquireResponse) : Inner :=
  let c := { c with
    ends := Function.update c.ends response.streamToken (some (.pending none)) }
  match streamFormat response.format with
  | some format => c.goto i (.opening response format)
  | none => c.fail i response.streamToken unexpected

/-- `poll_read` at the end of the data. -/
def pollEnd (c : Inner) (i : CallId) (t : Token) : Inner × Option (Except String Unit) :=
  match c.ends t with
  | some (.pending _) =>
    ({ c with ends := Function.update c.ends t (some (.pending (some i))) }.setCall i
      { c.call i with parked := true }, none)
  | some (.ended (some error)) => (c, some (.error error))
  | some (.ended none) | none => (c, some (.ok ()))

end Inner

/-- The request of an acquire, unless its parameters are not valid. -/
def acquireRequest (params : TuneParams) (options : AcquireOptions) :
    Except Error AcquireRequest := do
  params.validate
  return ⟨some (ofTuneParams params), options.tuner.getD "", options.lnb⟩

end Tunelith.Client

import Tunelith.Client.State
import Tunelith.Lib.Transition

/-!
# The steps of a client

Each step is what a call or one of the two tasks does from one point where it may be held up (an
`await`, or a lock) to the next. What comes in over the connections, whether they hold, and where
the future of a call is dropped are chosen by the action. A future can only be dropped where it
is suspended: while it waits for its answer, and while its data connection is being made.
-/

namespace Tunelith.Client

open Proto

inductive Act
  -- `list`, `acquire` and `signal`, with `call`.
  | list (i : CallId)
  | acquire (i : CallId) (params : TuneParams) (options : AcquireOptions)
  | signal (i : CallId) (t : Token)
  | insert (i : CallId)
  | send (i : CallId)
  | resume (i : CallId)
  | drop (i : CallId)
  -- The rest of `acquire`.
  | keep (i : CallId)
  | register (i : CallId)
  | openData (i : CallId) (r : Except Error DataId)
  | attached (i : CallId) (r : Except Error Unit)
  -- `Stream`.
  | read (i : CallId) (data : List UInt8)
  /-- `poll_read` at the end of the data, and what it returns. -/
  | pollEnd (i : CallId) (r : Option (Except String Unit))
  | dropStream (i : CallId)
  -- The writer.
  | write (e : Envelope) (ok : Bool)
  -- The reader.
  | receive (e : Envelope)
  | readerEnd
  | clear
  | collect (tokens : List Token)
  | endNext
  | readerDone

/-- `call` up to its first lock. -/
@[simps!] def Inner.begin (c : Inner) (i : CallId) (request : Request) : Inner :=
  { c with nextId := c.nextId + 1 }.setCall i
    { c.call i with request := request, id := c.nextId, stage := .inserting }

open Tunelith.Client.Inner

/-- `Step c a c'`: a call or a task of the client does `a`. -/
inductive Step : Inner → Act → Inner → Prop
  -- `call`
  | list {c : Inner} {i : CallId} (hi : (c.call i).stage = .absent) :
      Step c (.list i) (c.begin i .list)
  | acquire {c : Inner} {i : CallId} {params : TuneParams} {options : AcquireOptions}
      {request : AcquireRequest} (hi : (c.call i).stage = .absent)
      (hr : acquireRequest params options = .ok request) :
      Step c (.acquire i params options) (c.begin i (.acquire request))
  | misasked {c : Inner} {i : CallId} {params : TuneParams} {options : AcquireOptions}
      {e : Error} (hi : (c.call i).stage = .absent)
      (hr : acquireRequest params options = .error e) :
      Step c (.acquire i params options) (c.goto i (.failed e))
  | signal {c : Inner} {i : CallId} {t : Token} (hi : (c.call i).stage = .absent) :
      Step c (.signal i t) (c.begin i (.signal t))
  | insert {c : Inner} {i : CallId} (hi : (c.call i).stage = .inserting) :
      Step c (.insert i)
        ({ c with pending := Function.update c.pending (c.call i).id (some i) }.goto i .sending)
  | send {c : Inner} {i : CallId} (hi : (c.call i).stage = .sending)
      (hw : c.writer = .running) :
      Step c (.send i)
        ({ c with requests := c.queued (envelope (c.call i).id (c.call i).request.body) }.goto i
          .waiting)
  | notSent {c : Inner} {i : CallId} (hi : (c.call i).stage = .sending)
      (hw : c.writer = .ended) :
      Step c (.send i) (c.goto i (.failed closed))
  | resume {c : Inner} {i : CallId} {body : Body} (hi : (c.call i).stage = .waiting)
      (ho : (c.call i).oneshot = .full body) :
      Step c (.resume i) (c.goto i (answered (c.call i).request body))
  | resumeClosed {c : Inner} {i : CallId} (hi : (c.call i).stage = .waiting)
      (ho : (c.call i).oneshot = .closed) :
      Step c (.resume i) (c.goto i (.failed closed))
  | dropWaiting {c : Inner} {i : CallId} (hi : (c.call i).stage = .waiting) :
      Step c (.drop i) (c.goto i .dropped)
  -- `acquire`
  | keep {c : Inner} {i : CallId} {response : AcquireResponse}
      (hi : (c.call i).stage = .keeping response) :
      Step c (.keep i)
        ({ c with drops := Function.update c.drops response.streamToken (some i) }.goto i
          (.registering response))
  | register {c : Inner} {i : CallId} {response : AcquireResponse}
      (hi : (c.call i).stage = .registering response) :
      Step c (.register i) (c.register i response)
  | opened {c : Inner} {i : CallId} {response : AcquireResponse} {format : StreamFormat}
      {x : DataId} (hi : (c.call i).stage = .opening response format) :
      Step c (.openData i (.ok x)) (c.goto i (.attaching response format x))
  | notOpened {c : Inner} {i : CallId} {response : AcquireResponse} {format : StreamFormat}
      {e : Error} (hi : (c.call i).stage = .opening response format) :
      Step c (.openData i (.error e)) (c.fail i response.streamToken e)
  | attached {c : Inner} {i : CallId} {response : AcquireResponse} {format : StreamFormat}
      {x : DataId} (hi : (c.call i).stage = .attaching response format x) :
      Step c (.attached i (.ok ()))
        (c.goto i (.streaming ⟨response.streamToken, response.tuner, format, x⟩))
  | notAttached {c : Inner} {i : CallId} {response : AcquireResponse} {format : StreamFormat}
      {x : DataId} {e : Error} (hi : (c.call i).stage = .attaching response format x) :
      Step c (.attached i (.error e)) (c.fail i response.streamToken e)
  | dropOpening {c : Inner} {i : CallId} {response : AcquireResponse} {format : StreamFormat}
      (hi : (c.call i).stage = .opening response format) :
      Step c (.drop i) ((c.release response.streamToken).goto i .dropped)
  | dropAttaching {c : Inner} {i : CallId} {response : AcquireResponse} {format : StreamFormat}
      {x : DataId} (hi : (c.call i).stage = .attaching response format x) :
      Step c (.drop i) ((c.release response.streamToken).goto i .dropped)
  -- `Stream`
  | read {c : Inner} {i : CallId} {stream : Stream} {data : List UInt8}
      (hi : (c.call i).stage = .streaming stream) :
      Step c (.read i data) (c.setCall i { c.call i with read := (c.call i).read ++ data })
  | pollEnd {c : Inner} {i : CallId} {stream : Stream}
      (hi : (c.call i).stage = .streaming stream) :
      Step c (.pollEnd i (c.pollEnd i stream.token).2) (c.pollEnd i stream.token).1
  | dropStream {c : Inner} {i : CallId} {stream : Stream}
      (hi : (c.call i).stage = .streaming stream) :
      Step c (.dropStream i) ((c.release stream.token).goto i .dropped)
  -- The writer
  | write {c : Inner} {e : Envelope} (hw : c.writer = .running)
      (he : c.requests.next? = some e) :
      Step c (.write e true) { c with requests := c.requests.pop }
  | notWritten {c : Inner} {e : Envelope} (hw : c.writer = .running)
      (he : c.requests.next? = some e) :
      Step c (.write e false) { c with requests := c.requests.pop, writer := .ended }
  -- The reader
  | receive {c : Inner} {e : Envelope} (hr : c.reader = .reading) :
      Step c (.receive e) (c.receive e)
  | readerEnd {c : Inner} (hr : c.reader = .reading) :
      Step c .readerEnd { c with reader := .clearing }
  | clear {c : Inner} (hr : c.reader = .clearing) : Step c .clear c.clear
  | collect {c : Inner} {tokens : List Token} (hr : c.reader = .collecting)
      (ht : ∀ t, t ∈ tokens ↔ c.ends t ≠ none) :
      Step c (.collect tokens) { c with reader := .ending tokens }
  | endNext {c : Inner} {t : Token} {left : List Token} (hr : c.reader = .ending (t :: left)) :
      Step c .endNext
        { c.endStream t (some "tunelithd closed the connection") with reader := .ending left }
  | readerDone {c : Inner} (hr : c.reader = .ending []) :
      Step c .readerDone { c with reader := .ended }

end Tunelith.Client

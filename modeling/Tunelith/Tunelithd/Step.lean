import Tunelith.Lib.Transition
import Tunelith.Tunelithd.State

/-!
# The steps of tunelithd

Each step is what one task does from one point where it may be held up (an `await`, or a lock)
to the next, so a run is an interleaving of the tasks. The outcomes of the driver's futures, the
chunks and the end of a source, the requests of the clients and the order a hash map is walked in
are chosen by the action.

A control connection starts past its hello, and a data connection at the hello that names its
token. `getrandom` failing is the action that draws nothing.
-/

namespace Tunelith.Tunelithd

open Proto

/-! ## What `acquire` and `handle` work out from a request -/

/-- Normalised, so that asking for the same in other words shares it. -/
def acquireParams (request : AcquireRequest) : Except Error TuneParams := do
  let params ← tryTuneParams (request.params.getD {})
  params.normalized.validate
  return params.normalized

def wanted (request : AcquireRequest) (id : TunerId) : Bool :=
  request.tuner = "" || request.tuner = id

/-- The session an acquire may share. -/
def Daemon.shared (d : Daemon) (request : AcquireRequest) (params : TuneParams) :
    Option SessionId :=
  d.sessions.find? fun s => (d.session s).params = params && wanted request (d.session s).tunerId

def Daemon.candidates (d : Daemon) (request : AcquireRequest) (params : TuneParams) :
    List TunerInfo :=
  (d.devices.flatMap (·.tuners)).filter fun info =>
    params.system ∈ info.systems && wanted request info.id

def Daemon.known (d : Daemon) (request : AcquireRequest) : Bool :=
  d.devices.any fun device => device.tuners.any fun info => info.id = request.tuner

def refused (e : Error) : Stage := .responding (.error (ofError e))

/-- How `acquire` goes on once it found no session to share. A tuner being closed is waited for
only once no other is free. -/
def Daemon.search (d : Daemon) (request : AcquireRequest) (params : TuneParams) : Stage :=
  match d.candidates request params with
  | [] => refused (if request.tuner = "" || d.known request then .unsupported params.system
      else .notFound request.tuner)
  | candidates => .trying ⟨request, params⟩
      (candidates.map (⟨·.id, false⟩) ++ candidates.map (⟨·.id, true⟩))

/-- The error of an acquire that has tried every candidate. -/
def busyError (job : Job) : Error :=
  .io .resourceBusy (if job.request.tuner = "" then
      "no free tuner receives " ++ job.params.system.debug
    else "the tuner " ++ job.request.tuner ++ " is busy")

/-- How `handle` starts on a body. -/
def handle : Option Body → Stage
  | some .listRequest => .listing
  | some (.acquireRequest request) => .looking request
  | some (.releaseRequest token) => .disowning token
  | some (.signalRequest token) => .finding token
  | _ => .responding (.error { message := "unexpected request" })

def noStream (t : Token) : Error := .notFound ("stream " ++ toString t)

/-! ## Actions -/

/-- What a step does, with all that is chosen in it. -/
inductive Act
  -- Control connections.
  | accept (c : ConnId)
  | request (c : ConnId) (h : HandlerId) (e : Envelope)
  | hangUp (c : ConnId)
  | cleanUp (c : ConnId) (t : Token)
  | write (c : ConnId) (e : Envelope)
  -- `acquire`, `reserve` and `start`.
  | misasked (h : HandlerId)
  | join (h : HandlerId) (s : SessionId) (draw : Option (Token × ChanId))
  | search (h : HandlerId)
  | reserve (h : HandlerId)
  | retry (h : HandlerId)
  | timeOut (h : HandlerId)
  | openTuner (h : HandlerId)
  | opened (h : HandlerId) (r : Except Error Unit)
  | lnbSet (h : HandlerId) (r : Except Error Unit)
  | tuned (h : HandlerId) (r : Except Error Unit)
  | streamed (h : HandlerId) (r : Except Error StreamFormat)
  | tunerClosed (h : HandlerId)
  | free (h : HandlerId)
  | publish (h : HandlerId) (s : SessionId) (draw : Option (Token × ChanId))
  | giveUp (h : HandlerId)
  -- The rest of `handle`.
  | own (h : HandlerId)
  | forsake (h : HandlerId)
  | disown (h : HandlerId)
  | release (h : HandlerId)
  | find (h : HandlerId)
  | lock (h : HandlerId)
  | measured (h : HandlerId) (r : Except Error SignalResponse)
  | list (h : HandlerId)
  | respond (h : HandlerId)
  -- Data connections.
  | attach (x : DataId) (t : Token)
  | greeted (x : DataId) (ok : Bool)
  | recv (x : DataId) (c : Chunk)
  | dataEnd (x : DataId)
  | dataFail (x : DataId)
  | detach (x : DataId)
  -- `fan_out` and `end`.
  | chunk (s : SessionId) (order : List Token) (c : Chunk)
  | closeIfIdle (s : SessionId)
  | sourceEnd (s : SessionId) (error : Option String)
  | stopped (s : SessionId)
  | endFirst (s : SessionId) (walk order : List Token)
  | takeTuner (s : SessionId)
  | closed (s : SessionId)
  | endLast (s : SessionId)

/-- The token an action draws, if it draws one. -/
def Act.draws : Act → Option Token
  | .join _ _ draw | .publish _ _ draw => draw.map Prod.fst
  | _ => none

/-- The draw of a token has succeeded. -/
def Act.Drew : Act → Prop
  | .join _ _ draw | .publish _ _ draw => draw ≠ none
  | _ => True

/-- The handler whose step an action is, if it is one's. -/
def Act.handler : Act → Option HandlerId
  | .request _ h _ | .misasked h | .join h _ _ | .search h | .reserve h | .retry h | .timeOut h
  | .openTuner h | .opened h _ | .lnbSet h _ | .tuned h _ | .streamed h _ | .tunerClosed h
  | .free h | .publish h _ _ | .giveUp h | .own h | .forsake h | .disown h | .release h
  | .find h | .lock h | .measured h _ | .list h | .respond h => some h
  | _ => none

/-- The token an action releases, if it releases one. -/
def Daemon.released (d : Daemon) : Act → Option Token
  | .cleanUp _ t => some t
  | .forsake h | .release h =>
    match (d.handler h).stage with
    | .forsaking response => some response.streamToken
    | .releasing t => some t
    | _ => none
  | .detach x =>
    match (d.data x).stage with
    | .leaving t _ => some t
    | _ => none
  | _ => none

/-- A token drawn was never drawn before. -/
def Fresh (d : Daemon) (a : Act) : Prop := ∀ t, a.draws = some t → d.drawn t = none

theorem Fresh.of_draws_none {d : Daemon} {a : Act} (ha : a.draws = none) : Fresh d a := by
  intro t ht
  rw [ha] at ht
  cases ht

/-! ## Steps -/

namespace Daemon

/-- What `subscribe` may draw: a token in no use, with a channel of its own. -/
def MayDraw (d : Daemon) (t : Token) (k : ChanId) : Prop :=
  t ≠ 0 ∧ d.tokens t = none ∧ (d.chan k).made = false

/-- The error of `subscribe` when it can draw none. -/
def drawError : Error := .io .other "getrandom"

/-- The end of an acquire that subscribes to `s`, its draw made or failed. -/
def subscribed (d : Daemon) (h : HandlerId) (s : SessionId) : Option (Token × ChanId) → Daemon
  | some (t, k) =>
    (d.subscribe s (d.handler h).conn t k).goto h (.owning (d.acquired s t))
  | none => d.goto h (refused drawError)

/-- The session an acquire makes for the tuner it started. -/
def newSession (job : Job) (id : TunerId) (format : StreamFormat) : Session :=
  { Session.none with
    params := job.params
    tunerId := id
    format := format
    tuner := some id
    fanOut := .running }

/-- No subscriber has the sender of `k`. -/
def NoSender (d : Daemon) (k : ChanId) : Prop :=
  ∀ s t x, (d.session s).subscribers.lookup t = some x → x.tx ≠ k

end Daemon

open Daemon

/-- `Step d a d'`: one task of the daemon does `a`. -/
inductive Step : Daemon → Act → Daemon → Prop
  -- `control`
  | accept {d : Daemon} {c : ConnId} (hc : (d.conn c).accepted = false) :
      Step d (.accept c) (d.setConn c { d.conn c with accepted := true, owned := some ∅ })
  | request {d : Daemon} {c : ConnId} {h : HandlerId} {e : Envelope}
      (hc : (d.conn c).owned ≠ none) (hh : (d.handler h).stage = .absent) :
      Step d (.request c h e)
        { d with handler := Function.update d.handler h ⟨c, e.id, handle e.body⟩ }
  | hangUp {d : Daemon} {c : ConnId} {ts : Finset Token} (hc : (d.conn c).owned = some ts) :
      Step d (.hangUp c) (d.setConn c { d.conn c with owned := none, cleaning := ts })
  | cleanUp {d : Daemon} {c : ConnId} {t : Token} (ht : t ∈ (d.conn c).cleaning) :
      Step d (.cleanUp c t)
        ((d.release t).setConn c { d.conn c with cleaning := (d.conn c).cleaning.erase t })
  | write {d : Daemon} {c : ConnId} {e : Envelope} (he : (d.conn c).events.next? = some e) :
      Step d (.write c e) (d.setConn c { d.conn c with events := (d.conn c).events.pop })
  -- `acquire`
  | misasked {d : Daemon} {h : HandlerId} {request : AcquireRequest} {e : Error}
      (hh : (d.handler h).stage = .looking request) (hp : acquireParams request = .error e) :
      Step d (.misasked h) (d.goto h (refused e))
  | join {d : Daemon} {h : HandlerId} {request : AcquireRequest} {params : TuneParams}
      {s : SessionId} {draw : Option (Token × ChanId)}
      (hh : (d.handler h).stage = .looking request) (hp : acquireParams request = .ok params)
      (hs : d.shared request params = some s) (hd : ∀ t k, draw = some (t, k) → d.MayDraw t k) :
      Step d (.join h s draw) (d.subscribed h s draw)
  | search {d : Daemon} {h : HandlerId} {request : AcquireRequest} {params : TuneParams}
      (hh : (d.handler h).stage = .looking request) (hp : acquireParams request = .ok params)
      (hs : d.shared request params = none) :
      Step d (.search h) (d.goto h (d.search request params))
  | reserve {d : Daemon} {h : HandlerId} {job : Job} {a : Attempt} {left : List Attempt}
      (hh : (d.handler h).stage = .trying job (a :: left)) :
      Step d (.reserve h) (d.reserve h job a.id a.wait left)
  | retry {d : Daemon} {h : HandlerId} {job : Job} {id : TunerId} {left : List Attempt}
      (hh : (d.handler h).stage = .waiting job id left true) :
      Step d (.retry h) (d.reserve h job id true left)
  | timeOut {d : Daemon} {h : HandlerId} {job : Job} {id : TunerId} {left : List Attempt}
      {woken : Bool} (hh : (d.handler h).stage = .waiting job id left woken) :
      Step d (.timeOut h) (d.goto h (.trying job left))
  | giveUp {d : Daemon} {h : HandlerId} {job : Job}
      (hh : (d.handler h).stage = .trying job []) :
      Step d (.giveUp h) (d.goto h (refused (busyError job)))
  -- `start`
  | openTuner {d : Daemon} {h : HandlerId} {job : Job} {id : TunerId} {left : List Attempt}
      (hh : (d.handler h).stage = .holding job id left .reserved) :
      Step d (.openTuner h) (d.goto h (.holding job id left .opening))
  | opened {d : Daemon} {h : HandlerId} {job : Job} {id : TunerId} {left : List Attempt}
      (hh : (d.handler h).stage = .holding job id left .opening) :
      Step d (.opened h (.ok ()))
        ({ d with handles := Function.update d.handles id (d.handles id + 1) }.goto h
          (.holding job id left (if job.request.lnb then .settingLnb else .tuning)))
  | notOpened {d : Daemon} {h : HandlerId} {job : Job} {id : TunerId} {left : List Attempt}
      {e : Error} (hh : (d.handler h).stage = .holding job id left .opening) :
      Step d (.opened h (.error e)) (d.goto h (.holding job id left (.failed e)))
  | lnbSet {d : Daemon} {h : HandlerId} {job : Job} {id : TunerId} {left : List Attempt}
      {r : Except Error Unit} (hh : (d.handler h).stage = .holding job id left .settingLnb) :
      Step d (.lnbSet h r)
        (d.goto h (.holding job id left (match r with
          | .ok () => .tuning
          | .error e => .closing e)))
  | tuned {d : Daemon} {h : HandlerId} {job : Job} {id : TunerId} {left : List Attempt}
      {r : Except Error Unit} (hh : (d.handler h).stage = .holding job id left .tuning) :
      Step d (.tuned h r)
        (d.goto h (.holding job id left (match r with
          | .ok () => .streaming
          | .error e => .closing e)))
  | streamed {d : Daemon} {h : HandlerId} {job : Job} {id : TunerId} {left : List Attempt}
      {r : Except Error StreamFormat}
      (hh : (d.handler h).stage = .holding job id left .streaming) :
      Step d (.streamed h r)
        (d.goto h (.holding job id left (match r with
          | .ok format => .started format
          | .error e => .closing e)))
  | tunerClosed {d : Daemon} {h : HandlerId} {job : Job} {id : TunerId} {left : List Attempt}
      {e : Error} (hh : (d.handler h).stage = .holding job id left (.closing e)) :
      Step d (.tunerClosed h)
        ({ d with handles := Function.update d.handles id (d.handles id - 1) }.goto h
          (.holding job id left (.failed e)))
  | free {d : Daemon} {h : HandlerId} {job : Job} {id : TunerId} {left : List Attempt}
      {e : Error} (hh : (d.handler h).stage = .holding job id left (.failed e)) :
      Step d (.free h)
        ({ d with busy := d.busy.erase id }.goto h
          (if e.isBusy && job.request.tuner = "" then .trying job left else refused e))
  | publish {d : Daemon} {h : HandlerId} {job : Job} {id : TunerId} {left : List Attempt}
      {format : StreamFormat} {s : SessionId} {draw : Option (Token × ChanId)}
      (hh : (d.handler h).stage = .holding job id left (.started format))
      (hs : (d.session s).fanOut = .absent) (hd : ∀ t k, draw = some (t, k) → d.MayDraw t k) :
      Step d (.publish h s draw)
        ((d.addSession s (newSession job id format)).subscribed h s draw)
  -- `handle`
  | own {d : Daemon} {h : HandlerId} {r : AcquireResponse} {ts : Finset Token}
      (hh : (d.handler h).stage = .owning r)
      (hc : (d.conn (d.handler h).conn).owned = some ts) :
      Step d (.own h)
        ((d.setConn (d.handler h).conn
          { d.conn (d.handler h).conn with owned := some (insert r.streamToken ts) }).goto h
          (if r.streamToken ∉ ts then .responding (.acquireResponse r) else .forsaking r))
  | disused {d : Daemon} {h : HandlerId} {r : AcquireResponse}
      (hh : (d.handler h).stage = .owning r)
      (hc : (d.conn (d.handler h).conn).owned = none) :
      Step d (.own h) (d.goto h (.forsaking r))
  | forsake {d : Daemon} {h : HandlerId} {r : AcquireResponse}
      (hh : (d.handler h).stage = .forsaking r) :
      Step d (.forsake h)
        ((d.release r.streamToken).goto h (.responding (.acquireResponse r)))
  | disown {d : Daemon} {h : HandlerId} {t : Token}
      (hh : (d.handler h).stage = .disowning t) :
      Step d (.disown h)
        ((d.setConn (d.handler h).conn
          { d.conn (d.handler h).conn with
            owned := (d.conn (d.handler h).conn).owned.map (·.erase t) }).goto h (.releasing t))
  | release {d : Daemon} {h : HandlerId} {t : Token}
      (hh : (d.handler h).stage = .releasing t) :
      Step d (.release h) ((d.release t).goto h (.responding .releaseResponse))
  | find {d : Daemon} {h : HandlerId} {t : Token} (hh : (d.handler h).stage = .finding t) :
      Step d (.find h)
        (d.goto h (match d.tokens t with
          | some s => .locking t s
          | none => refused (noStream t)))
  | lock {d : Daemon} {h : HandlerId} {t : Token} {s : SessionId}
      (hh : (d.handler h).stage = .locking t s) (hl : (d.session s).tunerLock = none)
      (ht : (d.session s).tuner ≠ none) :
      Step d (.lock h)
        ((d.setSession s { d.session s with tunerLock := some h }).goto h (.measuring t s))
  | noTuner {d : Daemon} {h : HandlerId} {t : Token} {s : SessionId}
      (hh : (d.handler h).stage = .locking t s) (hl : (d.session s).tunerLock = none)
      (ht : (d.session s).tuner = none) :
      Step d (.lock h) (d.goto h (refused (noStream t)))
  | measured {d : Daemon} {h : HandlerId} {t : Token} {s : SessionId}
      {r : Except Error SignalResponse} (hh : (d.handler h).stage = .measuring t s) :
      Step d (.measured h r)
        ((d.setSession s { d.session s with tunerLock := none }).goto h (match r with
          | .ok signal => .responding (.signalResponse signal)
          | .error e => refused e))
  | list {d : Daemon} {h : HandlerId} (hh : (d.handler h).stage = .listing) :
      Step d (.list h) (d.goto h (.responding (.listResponse d.list)))
  | respond {d : Daemon} {h : HandlerId} {body : Body}
      (hh : (d.handler h).stage = .responding body) :
      Step d (.respond h)
        ((d.send (d.handler h).conn (envelope (d.handler h).id body)).goto h .done)
  -- `connection`, for the data of a stream
  | attach {d : Daemon} {x : DataId} {t : Token} {k : ChanId}
      (hx : (d.data x).stage = .absent) (ht : d.unattached t = some k) :
      Step d (.attach x t)
        ({ d with unattached := Function.update d.unattached t none }.setData x
          { d.data x with stage := .greeting t k })
  | unknownStream {d : Daemon} {x : DataId} {t : Token}
      (hx : (d.data x).stage = .absent) (ht : d.unattached t = none) :
      Step d (.attach x t) (d.setData x { d.data x with stage := .done })
  | greeted {d : Daemon} {x : DataId} {t : Token} {k : ChanId} {ok : Bool}
      (hx : (d.data x).stage = .greeting t k) :
      Step d (.greeted x ok)
        (d.setData x { d.data x with
          stage := if ok then .sending t k else .leaving t (some k) })
  | recv {d : Daemon} {x : DataId} {t : Token} {k : ChanId} {c : Chunk}
      (hx : (d.data x).stage = .sending t k) (hc : (d.chan k).queue.next? = some c) :
      Step d (.recv x c)
        ((d.setChan k { d.chan k with queue := (d.chan k).queue.pop }).setData x
          { d.data x with out := (d.data x).out ++ [c] })
  | dataEnd {d : Daemon} {x : DataId} {t : Token} {k : ChanId}
      (hx : (d.data x).stage = .sending t k) (hq : (d.chan k).queue.next? = none)
      (hk : d.NoSender k) :
      Step d (.dataEnd x)
        ((d.dropReceiver k).setData x { d.data x with stage := .leaving t none })
  | dataFail {d : Daemon} {x : DataId} {t : Token} {k : ChanId}
      (hx : (d.data x).stage = .sending t k) :
      Step d (.dataFail x)
        ((d.dropReceiver k).setData x { d.data x with stage := .leaving t none })
  | detach {d : Daemon} {x : DataId} {t : Token} {k : Option ChanId}
      (hx : (d.data x).stage = .leaving t k) :
      Step d (.detach x)
        ((match k with
          | some k => (d.release t).dropReceiver k
          | none => d.release t).setData x { d.data x with stage := .done })
  -- `fan_out`
  | chunk {d : Daemon} {s : SessionId} {order : List Token} {c : Chunk}
      (hs : (d.session s).fanOut = .running) (hn : order.Nodup)
      (ho : order.toFinset = (d.session s).subscribers.keys) :
      Step d (.chunk s order c) (d.fanOutChunk s order c)
  | closeIfIdle {d : Daemon} {s : SessionId} (hs : (d.session s).fanOut = .checking) :
      Step d (.closeIfIdle s) (d.closeIfIdle s)
  | sourceEnd {d : Daemon} {s : SessionId} {error : Option String}
      (hs : (d.session s).fanOut = .running) :
      Step d (.sourceEnd s error) (d.setFanOut s (.left error))
  | stopped {d : Daemon} {s : SessionId} (hs : (d.session s).fanOut = .running)
      (hp : (d.session s).stop = true) :
      Step d (.stopped s)
        (d.setSession s { d.session s with stop := false, fanOut := .left none })
  -- `end`
  | endFirst {d : Daemon} {s : SessionId} {walk order : List Token} {error : Option String}
      (hs : (d.session s).fanOut = .left error) (hw : ∀ t, d.tokens t = some s → t ∈ walk)
      (hn : order.Nodup) (ho : order.toFinset = (d.session s).subscribers.keys) :
      Step d (.endFirst s walk order) (d.endFirst s walk order error)
  | takeTuner {d : Daemon} {s : SessionId} {id : TunerId}
      (hs : (d.session s).fanOut = .ending) (hl : (d.session s).tunerLock = none)
      (ht : (d.session s).tuner = some id) :
      Step d (.takeTuner s)
        (d.setSession s { d.session s with tuner := none, fanOut := .closing })
  | noTunerLeft {d : Daemon} {s : SessionId}
      (hs : (d.session s).fanOut = .ending) (hl : (d.session s).tunerLock = none)
      (ht : (d.session s).tuner = none) :
      Step d (.takeTuner s) (d.setFanOut s .closed)
  | closed {d : Daemon} {s : SessionId} (hs : (d.session s).fanOut = .closing) :
      Step d (.closed s)
        ({ d with
            handles := Function.update d.handles (d.session s).tunerId
              (d.handles (d.session s).tunerId - 1) }.setFanOut s .closed)
  | endLast {d : Daemon} {s : SessionId} (hs : (d.session s).fanOut = .closed) :
      Step d (.endLast s) (d.endLast s)

/-- A step that draws no token draws no old one. -/
theorem Step.fresh {d d' : Daemon} {a : Act} (h : Step d a d') (ha : a.draws = none) :
    Lts.Restrict Step Fresh d a d' := ⟨h, .of_draws_none ha⟩

end Tunelith.Tunelithd

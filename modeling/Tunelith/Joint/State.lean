import Tunelith.Tunelithd.Ending
import Tunelith.Client.Reports

/-!
# tunelithd and a client of it

The daemon and one client, at the two ends of a control connection and of the data connections
the client opens. The control connection is a channel of envelopes either way, and a data
connection one of bytes, past the hello of either side; frames arrive whole. Neither end sees
more of the other than what it takes off them.

The daemon has other clients besides, which do as they like, but for what takes a token they were
not given.
-/

namespace Tunelith

open Proto Lts
open Tunelithd (Daemon ConnId Device Fresh)
open Client (Inner CallId DataId Token Stream)

/-- The daemon has let go of a data connection. -/
def Tunelithd.DataStage.isOver : DataStage → Bool
  | .leaving _ _ | .done => true
  | _ => false

structure Joint where
  daemon : Daemon
  client : Inner
  /-- The control connection, from the daemon to the client. -/
  down : Fifo Envelope
  /-- The control connection, from the client to the daemon. -/
  up : Fifo Envelope
  /-- The token in the hello of each data connection the client has opened. -/
  opened : DataId → Option Token
  /-- The data connections the daemon has sent its hello over. -/
  hello : DataId → Bool

namespace Joint

/-- A daemon and a client of it, not yet accepted. -/
def init (devices : List Device) : Joint where
  daemon := .init devices
  client := .init
  down := .empty
  up := .empty
  opened _ := none
  hello _ := false

inductive Act
  | daemon (a : Tunelithd.Act)
  | client (a : Client.Act)

variable (c₀ : ConnId) (P : Joint)

/-- The data of `stream`, which the call `i` returned, is all read, and there will be no more. -/
def AtEnd (i : CallId) (stream : Stream) : Prop :=
  (P.daemon.data stream.data).stage.isOver = true ∧
    (P.client.call i).read = (P.daemon.data stream.data).out.flatten

/-- The daemon has closed the control connection `c₀`, which it does with the last sender of
events for it, and the client has taken all there was. -/
structure Closed : Prop where
  finished : P.daemon.Finished c₀
  subscribers : ∀ s t x, (P.daemon.session s).subscribers.lookup t = some x → x.events ≠ c₀
  written : (P.daemon.conn c₀).events.next? = none
  drained : P.down.next? = none

/-- What the daemon may come upon. Its requests from `c₀` are what the client sent it, in order;
a data connection of the client names the token the client gave it, and does not fail while the
client has it; and no one else has the client's tokens. -/
def Allows : Tunelithd.Act → Prop
  | .request c _ e => c = c₀ → P.up.next? = some e
  | .attach x t => P.opened x = some t ∨ P.opened x = none ∧ ¬ P.daemon.DrawnFor c₀ t
  | .greeted x false | .dataFail x => ∀ i, (P.client.call i).stage.data ≠ some x
  | .release h => (P.daemon.handler h).conn ≠ c₀ → ∀ t,
      (P.daemon.handler h).stage = .releasing t → ¬ P.daemon.DrawnFor c₀ t
  | _ => True

/-- What the client may come upon: what the daemon sent it, in order. -/
def Permits : Client.Act → Prop
  | .receive e => P.down.next? = some e
  | .readerEnd => P.Closed c₀
  | .openData _ (.ok x) => P.opened x = none ∧ (P.daemon.data x).stage = .absent
  | .attached i (.ok ()) => ∀ x, (P.client.call i).stage.data = some x → P.hello x = true
  | .read i data => ∀ stream, (P.client.call i).stage = .streaming stream →
      (P.client.call i).read ++ data <+: (P.daemon.data stream.data).out.flatten
  | .pollEnd i _ => ∀ stream, (P.client.call i).stage = .streaming stream → P.AtEnd i stream
  | _ => True

/-- The daemon does `a`, and is `d` then. -/
@[simps] def ofDaemon (a : Tunelithd.Act) (d : Daemon) : Joint :=
  { P with
    daemon := d
    down := match a with
      | .write c e => if c = c₀ then P.down.push e else P.down
      | _ => P.down
    up := match a with
      | .request c _ _ => if c = c₀ then P.up.pop else P.up
      | _ => P.up
    hello := match a with
      | .greeted x true => Function.update P.hello x true
      | _ => P.hello }

/-- The client does `a`, and is `c` then. -/
@[simps] def ofClient (a : Client.Act) (c : Inner) : Joint :=
  { P with
    client := c
    down := match a with
      | .receive _ => P.down.pop
      | _ => P.down
    up := match a with
      | .write e true => P.up.push e
      | _ => P.up
    opened := match a with
      | .openData i (.ok x) => Function.update P.opened x (P.client.call i).stage.token
      | _ => P.opened }

/-- `Step c₀ P a P'`: the daemon or the client does `a`, the client's connection being `c₀`. -/
inductive Step (c₀ : ConnId) : Joint → Act → Joint → Prop
  | daemon {P : Joint} {a : Tunelithd.Act} {d : Daemon}
      (hs : Restrict Tunelithd.Step Fresh P.daemon a d) (ha : P.Allows c₀ a) :
      Step c₀ P (.daemon a) (P.ofDaemon c₀ a d)
  | client {P : Joint} {a : Client.Act} {c : Inner} (hs : Client.Step P.client a c)
      (ha : P.Permits c₀ a) : Step c₀ P (.client a) (P.ofClient a c)

end Joint

end Tunelith

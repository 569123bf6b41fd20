import Mathlib.Algebra.BigOperators.Group.List.Basic
import Mathlib.Algebra.Ring.Nat
import Tunelith.Core.Proto

/-!
# What events say about a stream

Of a stream the daemon reports what was lost and that it ended. The events of a connection that
are about one stream are its notices; both ends read them off the same envelopes.
-/

namespace Tunelith.Proto

/-- What an event says about a stream. -/
inductive Notice
  | dropped (bytes : Nat)
  | ended (error : String)
deriving DecidableEq, Repr

/-- The bytes a notice reports as dropped. -/
def Notice.bytes : Notice → Nat
  | .dropped n => n
  | .ended _ => 0

/-- What an envelope says about the stream `t`, if it is an event about it. -/
def notice (t : Nat) (e : Envelope) : Option Notice :=
  match e.body with
  | some (.dropEvent u n) => if u = t then some (.dropped n) else none
  | some (.streamEndEvent u error) => if u = t then some (.ended error) else none
  | _ => none

/-- The bytes some notices report as dropped. -/
def droppedBytes (l : List Notice) : Nat := (l.map Notice.bytes).sum

theorem droppedBytes_map (ns : List Nat) : droppedBytes (ns.map .dropped) = ns.sum := by
  unfold droppedBytes
  rw [List.map_map]
  exact congrArg List.sum (List.map_id ns)

theorem droppedBytes_append (l m : List Notice) :
    droppedBytes (l ++ m) = droppedBytes l + droppedBytes m := by
  unfold droppedBytes
  rw [List.map_append, List.sum_append]

end Tunelith.Proto

import Mathlib.Logic.Function.Basic
import Mathlib.Tactic.Simps.Basic
import Tunelith.Lib.Transition

/-!
# The mark of a tuner of BDA

A tuner is marked as opened from `open_tuner` on. The mark is owned by the closure that builds the
graph, then by the `BdaTuner`, whose fields go one after another: first its share in the graph, then
the mark. The closures of `tune`, `signal` and `set_lnb` have shares in the graph too, and may go on
after their callers gave up on them.

A graph lives as long as anyone has a share in it. The steps come in six kinds, `Effect`, told by
who owns which mark and who has a share in which graph.

* `marked_iff_left` — a graph never outlives the mark of its tuner, exactly if every tuner that is
  dropped had no closures left.
-/

namespace Tunelith.Bda

/-! ## Steps -/

abbrev GraphId := Nat

/-- The closure of an `open_tuner`, or what it made. -/
inductive Opening
  | absent
  | queued (index : Nat)
  | building (index : Nat)
  /-- The graph and the mark, for the caller to take. -/
  | built (index : Nat) (g : GraphId)
  /-- With nothing but the mark left to drop. -/
  | unmarking (index : Nat)
  | ended
deriving DecidableEq, Repr

/-- A `BdaTuner`. -/
inductive Handle
  | absent
  | live (index : Nat) (g : GraphId)
  /-- In the closure of `close`, which drops it. -/
  | closing (index : Nat) (g : GraphId)
  /-- Its `drop` has run, and its fields are to go. -/
  | dropping (index : Nat) (g : GraphId)
  /-- With nothing but the mark left to drop. -/
  | unmarking (index : Nat)
  | gone
deriving DecidableEq, Repr

inductive Call
  | tune
  | signal
  | setLnb
deriving DecidableEq, Repr

/-- The closure of a call. That of `set_lnb` takes the lock on the LNB of the graph. -/
inductive Job
  | absent
  | queued (call : Call) (g : GraphId)
  | running (call : Call) (g : GraphId) (locked : Bool)
  | ended
deriving DecidableEq, Repr

structure BdaDevice where
  opened : Nat → Bool := fun _ => false
  opening : Nat → Opening := fun _ => .absent
  tuner : Nat → Handle := fun _ => .absent
  job : Nat → Job := fun _ => .absent
  /-- The tuner a graph was built for. -/
  graphs : GraphId → Option Nat := fun _ => none

namespace BdaDevice

def setOpened (s : BdaDevice) (i : Nat) (b : Bool) : BdaDevice :=
  { s with opened := Function.update s.opened i b }

def setOpening (s : BdaDevice) (o : Nat) (x : Opening) : BdaDevice :=
  { s with opening := Function.update s.opening o x }

def setTuner (s : BdaDevice) (h : Nat) (x : Handle) : BdaDevice :=
  { s with tuner := Function.update s.tuner h x }

def setJob (s : BdaDevice) (j : Nat) (x : Job) : BdaDevice :=
  { s with job := Function.update s.job j x }

def setGraph (s : BdaDevice) (g : GraphId) (i : Nat) : BdaDevice :=
  { s with graphs := Function.update s.graphs g (some i) }

/-- The lock on the LNB of a graph is free. -/
def LnbFree (s : BdaDevice) (g : GraphId) : Prop := ∀ j, s.job j ≠ .running .setLnb g true

inductive Act
  | openTuner (index o : Nat)
  | busy (index : Nat)
  | build (o : Nat)
  | built (o : Nat) (g : GraphId)
  | failed (o : Nat)
  | giveUpQueued (o : Nat)
  | giveUpBuilt (o : Nat)
  | take (o h : Nat)
  | unmarkOpening (o : Nat)
  | call (h j : Nat) (call : Call)
  | start (j : Nat)
  | lock (j : Nat)
  | unlock (j : Nat)
  | finish (j : Nat)
  | cancel (j : Nat)
  | close (h : Nat)
  | drop (h : Nat)
  | release (h : Nat)
  | unmark (h : Nat)
deriving DecidableEq

/-- The callers are left out: to give up on a call is to leave its closure behind, and one that has
not started yet may be dropped. -/
inductive Step : BdaDevice → Act → BdaDevice → Prop
  | openTuner {s : BdaDevice} {i o : Nat} (ho : s.opening o = .absent) (hi : s.opened i = false) :
      Step s (.openTuner i o) ((s.setOpened i true).setOpening o (.queued i))
  | busy {s : BdaDevice} {i : Nat} (hi : s.opened i = true) : Step s (.busy i) s
  | build {s : BdaDevice} {o i : Nat} (ho : s.opening o = .queued i) :
      Step s (.build o) (s.setOpening o (.building i))
  | built {s : BdaDevice} {o i g : Nat} (ho : s.opening o = .building i) (hg : s.graphs g = none) :
      Step s (.built o g) ((s.setGraph g i).setOpening o (.built i g))
  | failed {s : BdaDevice} {o i : Nat} (ho : s.opening o = .building i) :
      Step s (.failed o) (s.setOpening o (.unmarking i))
  | giveUpQueued {s : BdaDevice} {o i : Nat} (ho : s.opening o = .queued i) :
      Step s (.giveUpQueued o) (s.setOpening o (.unmarking i))
  | giveUpBuilt {s : BdaDevice} {o i g : Nat} (ho : s.opening o = .built i g) :
      Step s (.giveUpBuilt o) (s.setOpening o (.unmarking i))
  | take {s : BdaDevice} {o h i g : Nat} (ho : s.opening o = .built i g)
      (hh : s.tuner h = .absent) :
      Step s (.take o h) ((s.setOpening o .ended).setTuner h (.live i g))
  | unmarkOpening {s : BdaDevice} {o i : Nat} (ho : s.opening o = .unmarking i) :
      Step s (.unmarkOpening o) ((s.setOpened i false).setOpening o .ended)
  | call {s : BdaDevice} {h i g j : Nat} {call : Call} (hh : s.tuner h = .live i g)
      (hj : s.job j = .absent) (hl : call = .setLnb → s.LnbFree g) :
      Step s (.call h j call) (s.setJob j (.queued call g))
  | start {s : BdaDevice} {j g : Nat} {call : Call} (hj : s.job j = .queued call g) :
      Step s (.start j) (s.setJob j (.running call g false))
  | lock {s : BdaDevice} {j g : Nat} (hj : s.job j = .running .setLnb g false) (hl : s.LnbFree g) :
      Step s (.lock j) (s.setJob j (.running .setLnb g true))
  | unlock {s : BdaDevice} {j g : Nat} (hj : s.job j = .running .setLnb g true) :
      Step s (.unlock j) (s.setJob j (.running .setLnb g false))
  | finish {s : BdaDevice} {j g : Nat} {call : Call} (hj : s.job j = .running call g false) :
      Step s (.finish j) (s.setJob j .ended)
  | cancel {s : BdaDevice} {j g : Nat} {call : Call} (hj : s.job j = .queued call g) :
      Step s (.cancel j) (s.setJob j .ended)
  | close {s : BdaDevice} {h i g : Nat} (hh : s.tuner h = .live i g) :
      Step s (.close h) (s.setTuner h (.closing i g))
  | drop {s : BdaDevice} {h i g : Nat} (hh : s.tuner h = .live i g ∨ s.tuner h = .closing i g)
      (hl : s.LnbFree g) : Step s (.drop h) (s.setTuner h (.dropping i g))
  | release {s : BdaDevice} {h i g : Nat} (hh : s.tuner h = .dropping i g) :
      Step s (.release h) (s.setTuner h (.unmarking i))
  | unmark {s : BdaDevice} {h i : Nat} (hh : s.tuner h = .unmarking i) :
      Step s (.unmark h) ((s.setOpened i false).setTuner h .gone)

/-! ## Who owns a mark, and who has a share in a graph -/

inductive Holder
  | opening (o : Nat)
  | tuner (h : Nat)
  | job (j : Nat)
deriving DecidableEq, Repr

end BdaDevice

def Opening.mark : Opening → Option Nat
  | queued i | building i | built i _ | unmarking i => some i
  | absent | ended => none

def Handle.mark : Handle → Option Nat
  | live i _ | closing i _ | dropping i _ | unmarking i => some i
  | absent | gone => none

def Opening.share : Opening → Option GraphId
  | built _ g => some g
  | _ => none

def Handle.share : Handle → Option GraphId
  | live _ g | closing _ g | dropping _ g => some g
  | _ => none

def Job.share : Job → Option GraphId
  | queued _ g | running _ g _ => some g
  | _ => none

namespace BdaDevice

def mark (s : BdaDevice) : Holder → Option Nat
  | .opening o => (s.opening o).mark
  | .tuner h => (s.tuner h).mark
  | .job _ => none

def share (s : BdaDevice) : Holder → Option GraphId
  | .opening o => (s.opening o).share
  | .tuner h => (s.tuner h).share
  | .job j => (s.job j).share

/-- A graph lives as long as anyone has a share in it. -/
def Alive (s : BdaDevice) (g : GraphId) : Prop := ∃ x, s.share x = some g

variable {s s' : BdaDevice} {a : Act} {i o h j g : Nat}

@[simp] theorem mark_setOpened (b : Bool) : (s.setOpened i b).mark = s.mark := rfl

@[simp] theorem share_setOpened (b : Bool) : (s.setOpened i b).share = s.share := rfl

@[simp] theorem mark_setGraph : (s.setGraph g i).mark = s.mark := rfl

@[simp] theorem share_setGraph : (s.setGraph g i).share = s.share := rfl

@[simp] theorem mark_setJob (x : Job) : (s.setJob j x).mark = s.mark := rfl

@[simp] theorem mark_setOpening (x : Opening) :
    (s.setOpening o x).mark = Function.update s.mark (.opening o) x.mark := by
  funext y
  cases y with
  | opening o' => by_cases ho : o' = o <;> simp [mark, setOpening, ho]
  | tuner | job => rfl

@[simp] theorem share_setOpening (x : Opening) :
    (s.setOpening o x).share = Function.update s.share (.opening o) x.share := by
  funext y
  cases y with
  | opening o' => by_cases ho : o' = o <;> simp [share, setOpening, ho]
  | tuner | job => rfl

@[simp] theorem mark_setTuner (x : Handle) :
    (s.setTuner h x).mark = Function.update s.mark (.tuner h) x.mark := by
  funext y
  cases y with
  | tuner h' => by_cases hh : h' = h <;> simp [mark, setTuner, hh]
  | opening | job => rfl

@[simp] theorem share_setTuner (x : Handle) :
    (s.setTuner h x).share = Function.update s.share (.tuner h) x.share := by
  funext y
  cases y with
  | tuner h' => by_cases hh : h' = h <;> simp [share, setTuner, hh]
  | opening | job => rfl

@[simp] theorem share_setJob (x : Job) :
    (s.setJob j x).share = Function.update s.share (.job j) x.share := by
  funext y
  cases y with
  | job j' => by_cases hj : j' = j <;> simp [share, setJob, hj]
  | opening | tuner => rfl

/-- What a step does to the marks and to the shares. -/
inductive Effect (s : BdaDevice) : Act → BdaDevice → Prop
  /-- A tuner is marked for a new owner of the mark. -/
  | marks {s' : BdaDevice} {i o : Nat} (hi : s.opened i = false)
      (ho : s.mark (.opening o) = none) (hopened : s'.opened = Function.update s.opened i true)
      (hmark : s'.mark = Function.update s.mark (.opening o) (some i)) (hshare : s'.share = s.share)
      (hgraphs : s'.graphs = s.graphs) : Effect s (.openTuner i o) s'
  /-- Shares are let go of, at most. -/
  | keeps {s' : BdaDevice} {a : Act} (ha : ∀ h, a ≠ .unmark h) (hb : ∀ o g, a ≠ .built o g)
      (hopened : s'.opened = s.opened) (hmark : s'.mark = s.mark)
      (hshare : ∀ x g, s'.share x = some g → s.share x = some g) (hgraphs : s'.graphs = s.graphs) :
      Effect s a s'
  /-- A graph is built for the tuner whose mark is owned. -/
  | builds {s' : BdaDevice} {i o g : Nat} (hg : s.graphs g = none)
      (ho : s.mark (.opening o) = some i) (hs : s.share (.opening o) = none)
      (hopened : s'.opened = s.opened)
      (hmark : s'.mark = s.mark)
      (hshare : s'.share = Function.update s.share (.opening o) (some g))
      (hgraphs : s'.graphs = Function.update s.graphs g (some i)) : Effect s (.built o g) s'
  /-- The mark and the graph go to a new tuner. -/
  | takes {s' : BdaDevice} {i o h g : Nat} (ho : s.mark (.opening o) = some i)
      (hog : s.share (.opening o) = some g) (hh : s.mark (.tuner h) = none)
      (hopened : s'.opened = s.opened)
      (hmark : s'.mark = Function.update (Function.update s.mark (.opening o) none) (.tuner h)
        (some i))
      (hshare : s'.share = Function.update (Function.update s.share (.opening o) none) (.tuner h)
        (some g)) (hgraphs : s'.graphs = s.graphs) : Effect s (.take o h) s'
  /-- A closure gets a share of that of its tuner. -/
  | shares {s' : BdaDevice} {i h j g : Nat} {c : Call} (hi : s.mark (.tuner h) = some i)
      (hh : s.share (.tuner h) = some g) (hopened : s'.opened = s.opened) (hmark : s'.mark = s.mark)
      (hshare : s'.share = Function.update s.share (.job j) (some g))
      (hgraphs : s'.graphs = s.graphs) : Effect s (.call h j c) s'
  /-- A mark is dropped, its owner without a share. -/
  | unmarks {s' : BdaDevice} {a : Act} {i : Nat} {x : Holder}
      (ha : (∃ o, x = .opening o ∧ a = .unmarkOpening o) ∨ ∃ h, x = .tuner h ∧ a = .unmark h)
      (hx : s.mark x = some i) (hs : s.share x = none)
      (hopened : s'.opened = Function.update s.opened i false)
      (hmark : s'.mark = Function.update s.mark x none) (hshare : s'.share = s.share)
      (hgraphs : s'.graphs = s.graphs) : Effect s a s'

/-- Changing what a holder is without its share changes no share. -/
theorem share_update_of_eq {x : Holder} {g : Option GraphId} (h : s.share x = g) :
    Function.update s.share x g = s.share := Function.update_eq_self_iff.2 h.symm

theorem mark_update_of_eq {x : Holder} {i : Option Nat} (h : s.mark x = i) :
    Function.update s.mark x i = s.mark := Function.update_eq_self_iff.2 h.symm

theorem share_update_none {x y : Holder} (h : Function.update s.share x none y = some g) :
    s.share y = some g := by
  by_cases hy : y = x
  · subst hy
    rw [Function.update_self] at h
    cases h
  · rwa [Function.update_of_ne hy] at h

theorem Step.effect (h : Step s a s') : Effect s a s' := by
  cases h with
  | openTuner ho hi =>
    refine .marks hi (by simp [mark, ho, Opening.mark]) rfl (by simp [Opening.mark]) ?_ rfl
    rw [share_setOpening, share_setOpened]
    exact share_update_of_eq (by simp [share, ho, Opening.share])
  | busy => exact .keeps nofun nofun rfl rfl (fun _ _ h => h) rfl
  | @build o i ho =>
    refine .keeps nofun nofun rfl ?_ ?_ rfl
    · rw [mark_setOpening]
      exact mark_update_of_eq (by simp [mark, ho, Opening.mark])
    · rw [share_setOpening]
      exact fun x g => share_update_none
  | built ho hg =>
    refine .builds hg (by simp [mark, ho, Opening.mark]) (by simp [share, ho, Opening.share]) rfl ?_
      (by simp [Opening.share]) rfl
    rw [mark_setOpening, mark_setGraph]
    exact mark_update_of_eq (by simp [mark, ho, Opening.mark])
  | failed ho | giveUpQueued ho | giveUpBuilt ho =>
    refine .keeps nofun nofun rfl ?_ ?_ rfl
    · rw [mark_setOpening]
      exact mark_update_of_eq (by simp [mark, ho, Opening.mark])
    · rw [share_setOpening]
      exact fun x g => share_update_none
  | @take o h i g ho hh =>
    exact .takes (i := i) (g := g) (by simp [mark, ho, Opening.mark])
      (by simp [share, ho, Opening.share]) (by simp [mark, hh, Handle.mark]) rfl
      (by simp [Opening.mark, Handle.mark])
      (by simp [Opening.share, Handle.share]) rfl
  | @unmarkOpening o i ho =>
    refine .unmarks (.inl ⟨o, rfl, rfl⟩) (by simp [mark, ho, Opening.mark])
      (by simp [share, ho, Opening.share]) rfl (by simp [Opening.mark]) ?_ rfl
    rw [share_setOpening, share_setOpened]
    exact share_update_of_eq (by simp [share, ho, Opening.share])
  | @call h i g j c hh hj hl =>
    exact .shares (i := i) (g := g) (by simp [mark, hh, Handle.mark])
      (by simp [share, hh, Handle.share]) rfl rfl (by simp [Job.share]) rfl
  | start hj | lock hj hl | unlock hj =>
    refine .keeps nofun nofun rfl rfl ?_ rfl
    rw [share_setJob, share_update_of_eq (by simp [share, hj, Job.share])]
    exact fun _ _ h => h
  | finish hj | cancel hj =>
    refine .keeps nofun nofun rfl rfl ?_ rfl
    rw [share_setJob]
    exact fun x g => share_update_none
  | close hh =>
    refine .keeps nofun nofun rfl ?_ ?_ rfl
    · rw [mark_setTuner]
      exact mark_update_of_eq (by simp [mark, hh, Handle.mark])
    · rw [share_setTuner, share_update_of_eq (by simp [share, hh, Handle.share])]
      exact fun _ _ h => h
  | drop hh hl =>
    refine .keeps nofun nofun rfl ?_ ?_ rfl
    · rw [mark_setTuner]
      exact mark_update_of_eq (by rcases hh with hh | hh <;> simp [mark, hh, Handle.mark])
    · rw [share_setTuner, share_update_of_eq (by
        rcases hh with hh | hh <;> simp [share, hh, Handle.share])]
      exact fun _ _ h => h
  | release hh =>
    refine .keeps nofun nofun rfl ?_ ?_ rfl
    · rw [mark_setTuner]
      exact mark_update_of_eq (by simp [mark, hh, Handle.mark])
    · rw [share_setTuner]
      exact fun x g => share_update_none
  | @unmark h i hh =>
    refine .unmarks (.inr ⟨h, rfl, rfl⟩) (by simp [mark, hh, Handle.mark])
      (by simp [share, hh, Handle.share]) rfl (by simp [Handle.mark]) ?_ rfl
    rw [share_setTuner, share_setOpened]
    exact share_update_of_eq (by simp [share, hh, Handle.share])

/-! ## The invariants -/

/-- Each mark has one owner, and what an owner has a share in was built for the tuner marked. -/
structure Owned (s : BdaDevice) : Prop where
  opened : ∀ x i, s.mark x = some i → s.opened i = true
  unique : ∀ x y i, s.mark x = some i → s.mark y = some i → x = y
  built : ∀ x g, s.share x = some g → s.graphs g ≠ none
  index : ∀ x g, (∀ j, x ≠ .job j) → s.share x = some g → s.graphs g = s.mark x

/-- A tuner that is not marked has no graph. -/
def Marked (s : BdaDevice) : Prop :=
  ∀ i g, s.opened i = false → s.graphs g = some i → ¬ s.Alive g

/-- While a graph is built for a tuner, no closure has a share in one of it. -/
def Tended (s : BdaDevice) : Prop :=
  ∀ j g i o, s.share (.job j) = some g → s.graphs g = some i → s.mark (.opening o) ≠ some i

/-- A `BdaTuner` that drops its mark leaves no closure with a share in a graph of its tuner. -/
def LeavesNone (s : BdaDevice) (a : Act) : Prop :=
  ∀ h i, a = .unmark h → s.mark (.tuner h) = some i →
    ∀ j g, s.share (.job j) = some g → s.graphs g ≠ some i

theorem owned_init : Owned {} := by
  constructor <;> intro x <;> cases x <;> exact nofun

theorem owned_step (h : Owned s) (hs : Step s a s') : Owned s' := by
  cases hs.effect with
  | @marks _ i o hi ho hopened hmark hshare hgraphs =>
    have hne : ∀ y, s.mark y ≠ some i := fun y hy => by simp [h.opened y i hy] at hi
    refine ⟨fun x k hx => ?_, fun x y k hx hy => ?_, ?_, fun x g hx hg => ?_⟩
    · rw [hmark, Function.update_apply] at hx
      rw [hopened, Function.update_apply]
      split_ifs at hx with hxo
      · cases hx
        exact if_pos rfl
      · rw [h.opened x k hx, ite_self]
    · rw [hmark, Function.update_apply] at hx hy
      split_ifs at hx hy with hxo hyo hyo
      · rw [hxo, hyo]
      · exact absurd (hy.trans hx.symm) (hne y)
      · exact absurd (hx.trans hy.symm) (hne x)
      · exact h.unique x y k hx hy
    · rw [hshare, hgraphs]
      exact h.built
    · rw [hshare] at hg
      have hindex := h.index x g hx hg
      have hxo : x ≠ .opening o := by
        rintro rfl
        exact h.built _ g hg (hindex.trans ho)
      rw [hgraphs, hmark, Function.update_of_ne hxo, hindex]
  | keeps ha hb hopened hmark hshare hgraphs =>
    refine ⟨?_, ?_, fun x g hg => ?_, fun x g hx hg => ?_⟩
    · rw [hmark, hopened]
      exact h.opened
    · rw [hmark]
      exact h.unique
    · rw [hgraphs]
      exact h.built x g (hshare x g hg)
    · rw [hgraphs, hmark]
      exact h.index x g hx (hshare x g hg)
  | @builds _ i o g hg ho hs hopened hmark hshare hgraphs =>
    have hne : ∀ x k, s.share x = some k → k ≠ g := by
      rintro x _ hx rfl
      exact h.built x _ hx hg
    refine ⟨?_, ?_, fun x k hx => ?_, fun x k hj hx => ?_⟩
    · rw [hmark, hopened]
      exact h.opened
    · rw [hmark]
      exact h.unique
    · rw [hshare, Function.update_apply] at hx
      rw [hgraphs]
      split_ifs at hx with hxo
      · cases hx
        simp
      · rw [Function.update_of_ne (hne x k hx)]
        exact h.built x k hx
    · rw [hshare, Function.update_apply] at hx
      rw [hgraphs, hmark]
      split_ifs at hx with hxo
      · rw [← Option.some.inj hx, Function.update_self, hxo, ho]
      · rw [Function.update_of_ne (hne x k hx)]
        exact h.index x k hj hx
  | @takes _ i o t g ho hog hh hopened hmark hshare hgraphs =>
    refine ⟨fun x k hx => ?_, fun x y k hx hy => ?_, fun x k hx => ?_, fun x k hj hx => ?_⟩
    · rw [hmark, Function.update_apply, Function.update_apply] at hx
      rw [hopened]
      split_ifs at hx with hxt hxo
      · cases hx
        exact h.opened _ i ho
      · exact h.opened x k hx
    · rw [hmark, Function.update_apply, Function.update_apply] at hx hy
      split_ifs at hx hy with hxt hyt hyo hxo hyt hyo
      · rw [hxt, hyt]
      · exact absurd (h.unique y _ i (hy.trans hx.symm) ho) hyo
      · exact absurd (h.unique x _ i (hx.trans hy.symm) ho) hxo
      · exact h.unique x y k hx hy
    · rw [hshare, Function.update_apply, Function.update_apply] at hx
      rw [hgraphs]
      split_ifs at hx with hxt hxo
      · cases hx
        exact h.built _ g hog
      · exact h.built x k hx
    · rw [hshare, Function.update_apply, Function.update_apply] at hx
      rw [hgraphs, hmark, Function.update_apply, Function.update_apply]
      split_ifs at hx ⊢ with hxt hxo
      · cases hx
        rw [h.index _ g (by simp) hog, ho]
      · exact h.index x k hj hx
  | @shares _ i t j g c hi hh hopened hmark hshare hgraphs =>
    refine ⟨?_, ?_, fun x k hx => ?_, fun x k hj hx => ?_⟩
    · rw [hmark, hopened]
      exact h.opened
    · rw [hmark]
      exact h.unique
    · rw [hshare, Function.update_apply] at hx
      rw [hgraphs]
      split_ifs at hx with hxj
      · cases hx
        exact h.built _ g hh
      · exact h.built x k hx
    · rw [hshare, Function.update_of_ne (hj j)] at hx
      rw [hgraphs, hmark]
      exact h.index x k hj hx
  | @unmarks _ _ i x ha hx hs hopened hmark hshare hgraphs =>
    have hold : ∀ y k, s'.mark y = some k → y ≠ x ∧ s.mark y = some k := by
      intro y k hy
      rw [hmark, Function.update_apply] at hy
      split_ifs at hy with hyx
      exact ⟨hyx, hy⟩
    refine ⟨fun y k hy => ?_, fun y z k hy hz => ?_, ?_, fun y g hj hy => ?_⟩
    · obtain ⟨hne, hy⟩ := hold y k hy
      have hk : k ≠ i := by
        rintro rfl
        exact hne (h.unique y x k hy hx)
      rw [hopened, Function.update_of_ne hk]
      exact h.opened y k hy
    · exact h.unique y z k (hold y k hy).2 (hold z k hz).2
    · rw [hshare, hgraphs]
      exact h.built
    · rw [hshare] at hy
      have hne : y ≠ x := by
        rintro rfl
        rw [hs] at hy
        cases hy
      rw [hgraphs, hmark, Function.update_of_ne hne]
      exact h.index y g hj hy

/-- A closure is left only where a tuner was made: its graphs are gone before they are built anew,
unless the mark went before them. -/
theorem tended_step (ho : Owned s) (hm : Marked s) (ht : Tended s) (hs : Step s a s') :
    Tended s' := by
  intro j g i o hj hg hmo
  have hjo : ∀ o, Holder.job j ≠ .opening o := nofun
  have hjt : ∀ t, Holder.job j ≠ .tuner t := nofun
  have hot : ∀ t, Holder.opening o ≠ .tuner t := nofun
  cases hs.effect with
  | @marks _ i' o' hi hno hopened hmark hshare hgraphs =>
    rw [hshare] at hj
    rw [hgraphs] at hg
    rw [hmark, Function.update_apply] at hmo
    split_ifs at hmo
    · cases hmo
      exact hm i g hi hg ⟨_, hj⟩
    · exact ht j g i o hj hg hmo
  | keeps ha hb hopened hmark hshare hgraphs =>
    exact ht j g i o (hshare _ g hj) (hgraphs ▸ hg) (hmark ▸ hmo)
  | @builds _ i' o' g' hg' hmo' hs' hopened hmark hshare hgraphs =>
    rw [hshare, Function.update_of_ne (hjo _)] at hj
    have hne : g ≠ g' := by
      rintro rfl
      exact ho.built _ g hj hg'
    rw [hgraphs, Function.update_of_ne hne] at hg
    exact ht j g i o hj hg (hmark ▸ hmo)
  | takes hmo' hog hh hopened hmark hshare hgraphs =>
    rw [hshare, Function.update_of_ne (hjt _), Function.update_of_ne (hjo _)] at hj
    rw [hmark, Function.update_of_ne (hot _), Function.update_apply] at hmo
    split_ifs at hmo
    exact ht j g i o hj (hgraphs ▸ hg) hmo
  | @shares _ i' t j' g' c hi hh hopened hmark hshare hgraphs =>
    rw [hgraphs] at hg
    rw [hmark] at hmo
    rw [hshare, Function.update_apply] at hj
    split_ifs at hj
    · cases hj
      have hit := ho.index _ g (by simp) hh
      exact Holder.noConfusion (ho.unique _ _ i hmo (hit.symm.trans hg))
    · exact ht j g i o hj hg hmo
  | unmarks ha hx hs' hopened hmark hshare hgraphs =>
    rw [hmark, Function.update_apply] at hmo
    split_ifs at hmo
    exact ht j g i o (hshare ▸ hj) (hgraphs ▸ hg) hmo

/-- Only a closure left behind can have a graph outlive the mark. -/
theorem marked_step (ho : Owned s) (hm : Marked s) (ht : Tended s) (hs : Step s a s') :
    Marked s' ↔ LeavesNone s a := by
  cases hs.effect with
  | @marks _ i o hi hno hopened hmark hshare hgraphs =>
    refine iff_of_true (fun k g hk hg ⟨x, hx⟩ => ?_) fun _ _ ha => nomatch ha
    rw [hopened, Function.update_apply] at hk
    split_ifs at hk
    exact hm k g hk (hgraphs ▸ hg) ⟨x, hshare ▸ hx⟩
  | keeps ha hb hopened hmark hshare hgraphs =>
    refine iff_of_true (fun k g hk hg ⟨x, hx⟩ => ?_) fun h _ hah => absurd hah (ha h)
    exact hm k g (hopened ▸ hk) (hgraphs ▸ hg) ⟨x, hshare x g hx⟩
  | @builds _ i o g hg hmo hs' hopened hmark hshare hgraphs =>
    refine iff_of_true (fun k g' hk hg' ⟨x, hx⟩ => ?_) fun _ _ ha => nomatch ha
    rw [hopened] at hk
    rw [hgraphs, Function.update_apply] at hg'
    rw [hshare, Function.update_apply] at hx
    split_ifs at hg' with hgg
    · cases hg'
      rw [ho.opened _ i hmo] at hk
      cases hk
    · split_ifs at hx
      · exact hgg (Option.some.inj hx).symm
      · exact hm k g' hk hg' ⟨x, hx⟩
  | @takes _ i o h g hmo hog hh hopened hmark hshare hgraphs =>
    refine iff_of_true (fun k g' hk hg' ⟨x, hx⟩ => ?_) fun _ _ ha => nomatch ha
    rw [hshare, Function.update_apply, Function.update_apply] at hx
    refine hm k g' (hopened ▸ hk) (hgraphs ▸ hg') ?_
    split_ifs at hx
    · exact ⟨_, hog.trans hx⟩
    · exact ⟨x, hx⟩
  | @shares _ i h j g c hi hh hopened hmark hshare hgraphs =>
    refine iff_of_true (fun k g' hk hg' ⟨x, hx⟩ => ?_) fun _ _ ha => nomatch ha
    rw [hshare, Function.update_apply] at hx
    refine hm k g' (hopened ▸ hk) (hgraphs ▸ hg') ?_
    split_ifs at hx
    · exact ⟨_, hh.trans hx⟩
    · exact ⟨x, hx⟩
  | @unmarks _ _ i x ha hx hs' hopened hmark hshare hgraphs =>
    constructor
    · intro hm' h k hak hk j g hj hg
      obtain ⟨o, -, rfl⟩ | ⟨h', rfl, rfl⟩ := ha
      · cases hak
      · cases hak
        obtain rfl : i = k := Option.some.inj (hx.symm.trans hk)
        exact hm' i g (by rw [hopened, Function.update_self]) (hgraphs ▸ hg) ⟨.job j, hshare ▸ hj⟩
    · intro hleft k g hk hg ⟨y, hy⟩
      rw [hgraphs] at hg
      rw [hshare] at hy
      rw [hopened, Function.update_apply] at hk
      split_ifs at hk with hki
      · subst hki
        cases y with
        | job j =>
          obtain ⟨o, rfl, rfl⟩ | ⟨h, rfl, rfl⟩ := ha
          · exact ht j g k o hy hg hx
          · exact hleft h k rfl hx j g hy hg
        | opening o | tuner h =>
          -- The mark has one owner, and that one has no share left.
          have hy' := (ho.index _ g (by simp) hy).symm.trans hg
          rw [ho.unique _ _ k hy' hx, hs'] at hy
          cases hy
      · exact hm k g hk hg ⟨y, hy⟩

/-! ## Runs -/

variable {tr : List (BdaDevice × Act)}

theorem owned_of_run (h : Lts.Run Step {} tr s) : Owned s := by
  induction h with
  | nil => exact owned_init
  | snoc _ hs ih => exact owned_step ih hs

theorem marked_init : Marked {} := nofun

theorem tended_init : Tended {} := nofun

theorem always_marked_iff (h : Lts.Run Step {} tr s) :
    (Lts.Always Marked tr s ↔ Lts.AllGood LeavesNone tr) ∧ (Lts.Always Marked tr s → Tended s) := by
  induction h with
  | nil =>
    refine ⟨iff_of_true ⟨marked_init, fun x hx => ?_⟩ fun x hx => ?_, fun _ => tended_init⟩
    · cases hx
    · cases hx
  | @snoc tr t u a hr hs ih =>
    have hsplit : Lts.Always Marked ((t, a) :: tr) u ↔ Marked u ∧ Lts.Always Marked tr t := by
      simp [Lts.Always]
    have hgood : Lts.AllGood LeavesNone ((t, a) :: tr) ↔
        LeavesNone t a ∧ Lts.AllGood LeavesNone tr := by
      simp [Lts.AllGood]
    rw [hsplit, hgood, ← ih.1]
    refine ⟨and_congr_left fun hall => ?_, fun ⟨_, hall⟩ => ?_⟩
    · exact marked_step (owned_of_run hr) hall.1 (ih.2 hall) hs
    · exact tended_step (owned_of_run hr) hall.1 (ih.2 hall) hs

/-- In a state where every unmarked tuner is without a graph, none is built beside another. -/
theorem alone_of_built (ho : Owned s) (ht : Tended s) (hs : Step s (.built o g) s') {i g' : Nat}
    (hi : s.mark (.opening o) = some i) (hg : s.graphs g' = some i) : ¬ s.Alive g' := by
  intro ⟨x, hx⟩
  have hnone : s.share (.opening o) = none := by
    cases hs with
    | built ho hg => simp [share, ho, Opening.share]
  cases x with
  | job j => exact ht j g' i o hx hg hi
  | opening o' | tuner h =>
    have hx' := (ho.index _ g' (by simp) hx).symm.trans hg
    rw [ho.unique _ _ i hx' hi, hnone] at hx
    cases hx

/-- **A graph and the mark of its tuner.** No unmarked tuner has a graph, in any state of a run, if
and only if every tuner that drops its mark has no closures left with a share in its graph; and then
no graph is built for a tuner that has one. -/
theorem marked_iff_left (h : Lts.Run Step {} tr s) :
    (Lts.Always Marked tr s ↔ Lts.AllGood LeavesNone tr) ∧
      (Lts.AllGood LeavesNone tr → ∀ later t o g earlier, tr = later ++ (t, .built o g) :: earlier →
        ∀ i g', t.mark (.opening o) = some i → t.graphs g' = some i → ¬ t.Alive g') := by
  refine ⟨(always_marked_iff h).1, fun hgood later t o g earlier htr i g' hi hg => ?_⟩
  obtain ⟨t', hr, hs, -⟩ := Lts.Run.split (htr ▸ h)
  obtain ⟨hiff, htended⟩ := always_marked_iff hr
  have hearlier : Lts.AllGood LeavesNone earlier := fun x hx =>
    hgood x (htr ▸ List.mem_append_right _ (List.mem_cons_of_mem _ hx))
  exact alone_of_built (owned_of_run hr) (htended (hiff.2 hearlier)) hs hi hg

theorem leavesNone_of_ne (ha : ∀ h, a ≠ .unmark h) : LeavesNone s a := fun h _ hah =>
  absurd hah (ha h)

/-- The tuner 0, once opened. -/
def openedOnce : BdaDevice :=
  (((((({} : BdaDevice).setOpened 0 true).setOpening 0 (.queued 0)).setOpening 0
    (.building 0)).setGraph 0 0).setOpening 0 (.built 0 0)).setOpening 0 .ended |>.setTuner 0
    (.live 0 0)

theorem run_openedOnce : ∃ tr, Lts.Run Step {} tr openedOnce ∧ Lts.AllGood LeavesNone tr := by
  have h₁ := (Lts.Run.nil (s := ({} : BdaDevice))).snoc
    (show Step _ (.openTuner 0 0) _ from .openTuner rfl rfl)
  have h₂ := h₁.snoc (show Step _ (.build 0) _ from .build rfl)
  have h₃ := h₂.snoc (show Step _ (.built 0 0) _ from .built rfl rfl)
  have h₄ := h₃.snoc (show Step _ (.take 0 0) _ from .take rfl rfl)
  refine ⟨_, h₄, fun x hx => leavesNone_of_ne fun h => ?_⟩
  simp only [List.mem_cons, List.not_mem_nil, or_false] at hx
  rcases hx with rfl | rfl | rfl | rfl <;> exact nofun

/-- While a tune of it runs that its caller gave up on, no one has the lock on the LNB. -/
theorem lnbFree_tuning :
    LnbFree ((openedOnce.setJob 0 (.queued .tune 0)).setJob 0 (.running .tune 0 false)) 0 := by
  intro j
  by_cases hj : j = 0
  · subst hj
    nofun
  · simp [setJob, hj, openedOnce, setTuner, setOpening, setGraph, setOpened]

/-- It is dropped while a tune of it runs, and the closure ends before the mark goes: nothing of it
is alive once it can be opened again. -/
theorem marked_after_drop : ∃ tr s, Lts.Run Step {} tr s ∧ s.opened 0 = false ∧
    s.graphs 0 = some 0 ∧ s.job 0 = .ended ∧ ¬ s.Alive 0 := by
  obtain ⟨tr, hr, hgood⟩ := run_openedOnce
  have h₁ := hr.snoc (show Step _ (.call 0 0 .tune) _ from .call rfl rfl nofun)
  have h₂ := h₁.snoc (show Step _ (.start 0) _ from .start rfl)
  have h₃ := h₂.snoc (show Step _ (.drop 0) _ from .drop (.inl rfl) lnbFree_tuning)
  have h₄ := h₃.snoc (show Step _ (.release 0) _ from .release rfl)
  have h₅ := h₄.snoc (show Step _ (.finish 0) _ from .finish rfl)
  have h₆ := h₅.snoc (show Step _ (.unmark 0) _ from .unmark rfl)
  refine ⟨_, _, h₆, rfl, rfl, rfl, ((marked_iff_left h₆).1.2 fun x hx => ?_).1 0 0 rfl rfl⟩
  simp only [List.mem_cons] at hx
  rcases hx with rfl | rfl | rfl | rfl | rfl | rfl | hx
  · intro h i _ _ j g hj
    by_cases hj0 : j = 0
    · subst hj0
      cases hj
    · simp [share, setJob, hj0, setTuner, openedOnce, setOpening, setGraph, setOpened,
        Job.share] at hj
  · exact leavesNone_of_ne nofun
  · exact leavesNone_of_ne nofun
  · exact leavesNone_of_ne nofun
  · exact leavesNone_of_ne nofun
  · exact leavesNone_of_ne nofun
  · exact hgood x hx

/-- The tuner 0 after a tune given up on, and then its own drop. -/
def left : BdaDevice :=
  ((((((openedOnce.setJob 0 (.queued .tune 0)).setJob 0 (.running .tune 0 false)).setTuner 0
    (.dropping 0 0)).setTuner 0 (.unmarking 0)).setOpened 0 false).setTuner 0 .gone)

/-- A call to `tune` is given up on, and the tuner dropped while its closure waits for the lock:
then it can be opened anew, and has two graphs. -/
theorem opened_twice : ∃ tr s, Lts.Run Step {} tr left ∧ ¬ Marked left ∧ Lts.Reachable Step left s ∧
    s.Alive 0 ∧ s.Alive 1 ∧ s.graphs 0 = some 0 ∧ s.graphs 1 = some 0 := by
  obtain ⟨tr, hr, -⟩ := run_openedOnce
  have h₁ := hr.snoc (show Step _ (.call 0 0 .tune) _ from .call rfl rfl nofun)
  have h₂ := h₁.snoc (show Step _ (.start 0) _ from .start rfl)
  have h₃ := h₂.snoc (show Step _ (.drop 0) _ from .drop (.inl rfl) lnbFree_tuning)
  have h₄ := h₃.snoc (show Step _ (.release 0) _ from .release rfl)
  have h₅ := h₄.snoc (show Step _ (.unmark 0) _ from .unmark rfl)
  have h₆ : Lts.Reachable Step left _ :=
    (Lts.Reachable.refl left).snoc (show Step _ (.openTuner 0 1) _ from .openTuner rfl rfl)
  have h₇ := h₆.snoc (show Step _ (.build 1) _ from .build rfl)
  have h₈ := h₇.snoc (show Step _ (.built 1 1) _ from .built rfl rfl)
  exact ⟨_, _, h₅, fun hm => hm 0 0 rfl rfl ⟨.job 0, rfl⟩, h₈, ⟨.job 0, rfl⟩, ⟨.opening 1, rfl⟩,
    rfl, rfl⟩

end BdaDevice

end Tunelith.Bda

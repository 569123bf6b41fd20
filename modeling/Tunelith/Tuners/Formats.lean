import Tunelith.Bda.Tuner
import Tunelith.Dvb.Tuner
import Tunelith.Lib.Transition
import Tunelith.Px4.Tuner

/-!
# The format of a stream

A tuner records what it was last tuned to, for `stream` to tell. The invariant is
`AnyTuner.Recorded`: a format on record is that of the last call to `tune` past the checks of its
parameters, which succeeded. A board and BDA forget what they recorded before they tune; `DvbTuner`
does not, so that a call that fails leaves the record of an earlier one.

* `AnyTuner.Step` — calls to `tune` and `stream`, and whatever happens behind the tuner in between.
* `AnyTuner.recorded_of_run` — the invariant holds as long as no failing call leaves a record.
* `streams_last_tune` — what a stream is given out for, by each kind of tuner.
-/

namespace Tunelith

/-! ## Tuners -/

/-- A tuner `τ` with `ω` behind it, as it is told to tune and stream. -/
structure AnyTuner (ε τ ω : Type) where
  systems : τ → List System
  /-- The format on record. -/
  format : τ → Option StreamFormat
  tune : TuneParams → Eff ε (τ × ω) Unit
  stream : Eff ε (τ × ω) StreamFormat

namespace AnyTuner

variable {ε τ ω : Type} (T : AnyTuner ε τ ω)

/-- The parameters are valid, for a system the tuner receives. -/
def Checks (t : τ) (params : TuneParams) : Prop :=
  params.validate = .ok () ∧ params.system ∈ T.systems t

instance (t : τ) (params : TuneParams) : Decidable (T.Checks t params) :=
  inferInstanceAs (Decidable (_ ∧ _))

/-- A call, with what came of it, or something else. A call given up on at one of its awaits leaves
the tuner as one that fails there. -/
inductive Act (ε ω : Type)
  | tune (params : TuneParams) (r : Except ε Unit)
  | stream (r : Except ε StreamFormat)
  | behind (w : ω)

inductive Step : τ × ω → Act ε ω → τ × ω → Prop
  | tune {s s' : τ × ω} {params : TuneParams} {r : Except ε Unit} (h : T.tune params s = (r, s')) :
      Step s (.tune params r) s'
  | stream {s s' : τ × ω} {r : Except ε StreamFormat} (h : T.stream s = (r, s')) :
      Step s (.stream r) s'
  | behind {s : τ × ω} {w : ω} : Step s (.behind w) (s.1, w)

/-- The last call to `tune` that got past the checks, and what came of it. -/
def lastTune : List ((τ × ω) × Act ε ω) → Option (TuneParams × Except ε Unit)
  | [] => none
  | ((t, _), .tune params r) :: tr => if T.Checks t params then some (params, r) else lastTune tr
  | (_, .stream _) :: tr | (_, .behind _) :: tr => lastTune tr

/-- The last call to `tune` past the checks succeeded, and its stream has this format. -/
def Tuned (tr : List ((τ × ω) × Act ε ω)) (format : StreamFormat) : Prop :=
  ∃ params, T.lastTune tr = some (params, .ok ()) ∧ format = params.streamFormat

/-- A format on record is that of the last call to `tune`. -/
def Recorded (tr : List ((τ × ω) × Act ε ω)) (s : τ × ω) : Prop :=
  ∀ format, T.format s.1 = some format → T.Tuned tr format

/-- What each call does to the record: `tune` leaves it when the checks fail, and sets it when it
succeeds; `stream` gives out what is on record. -/
structure Records : Prop where
  unchecked : ∀ params s, ¬ T.Checks s.1 params → (T.tune params s).2.1 = s.1
  tuned : ∀ params, Eff.Triple (fun s => T.Checks s.1 params) (T.tune params)
    (fun _ s => T.format s.1 = some params.streamFormat) fun _ _ => True
  leaves : Eff.Leaves Prod.fst T.stream
  streams : ∀ t, Eff.Triple (fun s => s.1 = t) T.stream
    (fun format _ => T.format t = some format) fun _ _ => True

/-- No call to `tune` that gets past the checks and fails leaves a record. -/
def Forgets (s : τ × ω) (a : Act ε ω) : Prop :=
  ∀ params e s', a = .tune params (.error e) → T.Checks s.1 params →
    T.tune params s = (.error e, s') → T.format s'.1 = none

variable {T} {tr : List ((τ × ω) × Act ε ω)} {s s₀ s' : τ × ω} {a : Act ε ω}

theorem lastTune_checked {params : TuneParams} {r : Except ε Unit} (h : T.Checks s.1 params) :
    T.lastTune ((s, .tune params r) :: tr) = some (params, r) := if_pos h

theorem lastTune_unchecked {params : TuneParams} {r : Except ε Unit} (h : ¬ T.Checks s.1 params) :
    T.lastTune ((s, .tune params r) :: tr) = T.lastTune tr := if_neg h

theorem recorded_step (hT : T.Records) (h : T.Recorded tr s) (hs : T.Step s a s')
    (hf : T.Forgets s a) : T.Recorded ((s, a) :: tr) s' := by
  intro format hformat
  cases hs with
  | @tune _ params r hr =>
    by_cases hc : T.Checks s.1 params
    · cases r with
      | ok _ =>
        have hset := (hT.tuned params).ends hc hr
        rw [hformat] at hset
        exact ⟨params, lastTune_checked hc, Option.some.inj hset⟩
      | error e =>
        have hnone := hf params e s' rfl hc hr
        rw [hformat] at hnone
        cases hnone
    · have hkept := hT.unchecked params s hc
      rw [hr] at hkept
      obtain ⟨p, hp, he⟩ := h format (hkept ▸ hformat)
      exact ⟨p, (lastTune_unchecked hc).trans hp, he⟩
  | stream hr =>
    have hkept := hT.leaves s
    rw [hr] at hkept
    exact h format (hkept ▸ hformat)
  | behind => exact h format hformat

/-- As long as no call that fails leaves a record, the record is that of the last call. -/
theorem recorded_of_run (hT : T.Records) (h₀ : T.format s₀.1 = none)
    (h : Lts.Run T.Step s₀ tr s) (hf : Lts.AllGood T.Forgets tr) : T.Recorded tr s := by
  induction h with
  | nil =>
    intro format hformat
    rw [h₀] at hformat
    cases hformat
  | snoc _ hs ih =>
    have hrest := ih fun x hx => hf x (List.mem_cons_of_mem _ hx)
    exact recorded_step hT hrest hs (hf _ List.mem_cons_self)

variable (T) in
/-- In every run of a tuner that begins as `t`, a stream is given out only for the last call to
`tune`, in its format. -/
def StreamsLast (t : τ) : Prop :=
  ∀ w tr s, Lts.Run T.Step (t, w) tr s → ∀ format, (T.stream s).1 = .ok format → T.Tuned tr format

/-- In every such run, a stream is given out only for the last call to `tune`. -/
theorem tuned_of_run (hT : T.Records) (h₀ : T.format s₀.1 = none)
    (h : Lts.Run T.Step s₀ tr s) (hf : Lts.AllGood T.Forgets tr) {format : StreamFormat}
    (hs : (T.stream s).1 = .ok format) : T.Tuned tr format :=
  recorded_of_run hT h₀ h hf format ((hT.streams s.1).ends rfl (Prod.ext hs rfl))

end AnyTuner

theorem streamFormat_ts {params : TuneParams} (h : params.system ≠ .isdbS3) :
    params.streamFormat = .ts := by
  unfold TuneParams.streamFormat
  split
  · exact absurd ‹_› h
  · rfl

/-! ## A board -/

namespace Px4.BoardTuner

variable {ι σ : Type} (B : TsBoard ι σ) (source : Source ι σ) (index : ι)

def tuner : AnyTuner Fault BoardTuner σ where
  systems := systems
  format t := t.system.map fun _ => .ts
  tune := tune B index
  stream := stream B source index

theorem tune_unchecked {params : TuneParams} {s : BoardTuner × σ}
    (h : ¬ (tuner B source index).Checks s.1 params) : (tune B index params s).2 = s := by
  rw [tune]
  cases hv : params.validate with
  | error e => rfl
  | ok _ =>
    have hsys : params.system ∉ s.1.systems := fun hsys => h ⟨hv, hsys⟩
    show ((Eff.require (params.system ∈ s.1.systems) _ >>= _ : Eff Fault _ Unit) s).2 = s
    rw [Eff.require, if_neg hsys]
    rfl

theorem triple_onShared {α : Type} {P : BoardTuner → Prop} (m : Eff Fault σ α) :
    Eff.Triple (fun s => P s.1) (onShared m) (fun _ s => P s.1) fun _ s => P s.1 := by
  refine Eff.Triple.zoom fun s hs w _ => ?_
  split <;> exact hs

/-- A call past the checks leaves a record only if it succeeds. -/
theorem tune_triple (params : TuneParams) :
    Eff.Triple (fun s => (tuner B source index).Checks s.1 params) (tune B index params)
      (fun _ s => params.system ≠ .isdbS3 ∧ s.1.system = some params.system)
      fun _ s => s.1.system = none := by
  refine Eff.Triple.bind (Q := fun _ s => (tuner B source index).Checks s.1 params) ?_ fun _ => ?_
  · refine Eff.Triple.mapError (Eff.Triple.ofExcept (fun _ _ _ hs => hs) fun e s he hs => ?_)
    rw [hs.1] at he
    cases he
  refine Eff.Triple.bind (Eff.Triple.get (Q := fun s _ =>
    (tuner B source index).Checks s.1 params ∧ True) fun _ hs => ⟨hs, trivial⟩) fun s => ?_
  refine Eff.Triple.known fun hs => ?_
  have hts : params.system ≠ .isdbS3 := fun h => s.1.systems_ts (h ▸ hs.2)
  refine (Eff.Triple.require (Q := fun _ _ => True) (fun _ _ => id)
    fun _ h => absurd hs.2 h).bind fun _ => ?_
  have hshared {α : Type} (m : Eff Fault σ α) := triple_onShared (P := (·.system = none)) m
  refine Eff.Triple.bind (Q := fun _ s => s.1.system = none) (Eff.Triple.modify fun _ _ => rfl)
    fun _ => ?_
  refine (hshared _).bind fun _ => (hshared _).bind fun locked => ?_
  refine Eff.Triple.bind (Q := fun _ s => s.1.system = none)
    (Eff.Triple.require (fun _ _ h => h) fun _ _ h => h) fun _ => ?_
  exact (hshared _).bind fun _ => Eff.Triple.modify fun _ _ => ⟨hts, rfl⟩

theorem leaves_onShared {α : Type} (m : Eff Fault σ α) :
    Eff.Leaves Prod.fst (onShared m : Eff Fault (BoardTuner × σ) α) := fun _ => rfl

theorem leaves_stream : Eff.Leaves Prod.fst (stream B source index) := by
  apply Eff.Leaves.bind (fun _ => rfl)
  intro s
  dsimp only
  split
  · exact Eff.Leaves.throw _
  apply Eff.Leaves.bind (leaves_onShared _)
  intro start
  have hpurge := (leaves_onShared (source.purgePsb index)).when (p := start = true)
  have hstart := (leaves_onShared (source.start index)).when (p := start = true)
  apply Eff.Leaves.bind (hpurge.bind fun _ => (leaves_onShared _).bind fun _ => hstart).attempt
  intro r
  cases r with
  | ok _ => exact Eff.Leaves.pure _
  | error e =>
    cases start with
    | true => exact (leaves_onShared _).bind fun _ => Eff.Leaves.throw _
    | false => exact (leaves_onShared _).bind fun _ => Eff.Leaves.throw _

/-- A stream is given out for the system on record. -/
theorem stream_triple (t : BoardTuner) :
    Eff.Triple (fun s => s.1 = t) (stream B source index)
      (fun format _ => t.system ≠ none ∧ format = .ts) fun _ _ => True := by
  refine Eff.Triple.bind (Eff.Triple.get (Q := fun s _ => s.1 = t ∧ True)
    fun _ hs => ⟨hs, trivial⟩) fun s => Eff.Triple.known fun hs => ?_
  obtain ⟨t', w⟩ := s
  obtain rfl : t' = t := hs
  cases hsys : t'.system with
  | none =>
    simp only [hsys]
    exact Eff.Triple.throw fun _ => id
  | some system =>
    simp only [hsys]
    refine Eff.Triple.anyway.bind fun start => Eff.Triple.anyway.bind fun r => ?_
    cases r with
    | ok _ => exact Eff.Triple.pure fun _ _ => ⟨nofun, rfl⟩
    | error e =>
      cases start with
      | true => exact Eff.Triple.anyway.bind fun _ => Eff.Triple.throw fun _ => id
      | false => exact Eff.Triple.anyway.bind fun _ => Eff.Triple.throw fun _ => id

theorem records : (tuner B source index).Records where
  unchecked params s h := congrArg Prod.fst (tune_unchecked B source index h)
  tuned params := by
    refine (tune_triple B source index params).conseq (fun _ h => h) (fun _ s hs => ?_)
      fun _ _ _ => trivial
    show s.1.system.map _ = _
    rw [hs.2, streamFormat_ts hs.1]
    rfl
  leaves := leaves_stream B source index
  streams t := by
    refine (stream_triple B source index t).conseq (fun _ h => h) (fun format s hs => ?_)
      fun _ _ _ => trivial
    obtain ⟨system, hsys⟩ := Option.ne_none_iff_exists'.1 hs.1
    show t.system.map _ = _
    rw [hsys, hs.2]
    rfl

theorem forgets (s : BoardTuner × σ) (a : AnyTuner.Act Fault σ) :
    (tuner B source index).Forgets s a := by
  intro params e s' _ hc hr
  have hnone := (tune_triple B source index params).ends hc hr
  show s'.1.system.map _ = _
  rw [hnone]
  rfl

end Px4.BoardTuner

/-! ## BDA -/

namespace Bda.BdaTuner

variable {ω : Type} (graph : Graph ω)

/-- The format of the system on record. -/
def formatOf : System → StreamFormat
  | .isdbS3 => .tlv
  | _ => .ts

def tuner : AnyTuner Error BdaTuner (Running ω) where
  systems := systems
  format t := t.system.map formatOf
  tune := tune graph
  stream := stream

theorem tune_unchecked {params : TuneParams} {s : BdaTuner × Running ω}
    (h : ¬ (tuner graph).Checks s.1 params) : (tune graph params s).2 = s := by
  rw [tune]
  cases hv : params.validate with
  | error e => rfl
  | ok _ =>
    have hsys : params.system ∉ s.1.systems := fun hsys => h ⟨hv, hsys⟩
    show ((Eff.require (params.system ∈ s.1.systems) _ >>= _ : Eff Error _ Unit) s).2 = s
    rw [Eff.require, if_neg hsys]
    rfl

theorem tune_triple (params : TuneParams) :
    Eff.Triple (fun s => (tuner graph).Checks s.1 params) (tune graph params)
      (fun _ s => s.1.system = some params.system) fun _ s => s.1.system = none := by
  refine Eff.Triple.bind (Q := fun _ s => (tuner graph).Checks s.1 params) ?_ fun _ => ?_
  · refine Eff.Triple.ofExcept (fun _ _ _ hs => hs) fun e s he hs => ?_
    rw [hs.1] at he
    cases he
  refine Eff.Triple.bind (Eff.Triple.get (Q := fun s _ => (tuner graph).Checks s.1 params ∧ True)
    fun _ hs => ⟨hs, trivial⟩) fun s => ?_
  refine Eff.Triple.known fun hs => ?_
  refine (Eff.Triple.require (Q := fun _ _ => True) (fun _ _ => id)
    fun _ h => absurd hs.2 h).bind fun _ => ?_
  refine Eff.Triple.bind (Q := fun _ s => s.1.system = none) (Eff.Triple.modify fun _ _ => rfl)
    fun _ => ?_
  refine Eff.Triple.bind (Q := fun _ s => s.1.system = none) ?_ fun _ =>
    Eff.Triple.modify fun _ _ => rfl
  refine Eff.Triple.zoom fun s hs w _ => ?_
  split <;> exact hs

theorem leaves_stream : Eff.Leaves Prod.fst (stream : Eff Error (BdaTuner × Running ω) _) := by
  apply Eff.Leaves.bind (fun _ => rfl)
  intro s
  dsimp only
  split
  · exact Eff.Leaves.throw _
  · exact Eff.Leaves.bind (fun _ => rfl) fun _ => Eff.Leaves.pure _

theorem stream_triple (t : BdaTuner) :
    Eff.Triple (fun s => s.1 = t) (stream : Eff Error (BdaTuner × Running ω) _)
      (fun format _ => t.system.map formatOf = some format) fun _ _ => True := by
  refine Eff.Triple.bind (Eff.Triple.get (Q := fun s _ => s.1 = t ∧ True)
    fun _ hs => ⟨hs, trivial⟩) fun s => Eff.Triple.known fun hs => ?_
  obtain ⟨t', w⟩ := s
  obtain rfl : t' = t := hs
  cases hsys : t'.system with
  | none =>
    simp only [hsys]
    exact Eff.Triple.throw fun _ => id
  | some system =>
    simp only [hsys]
    exact Eff.Triple.anyway.bind fun _ => Eff.Triple.pure fun _ _ => rfl

theorem records : (tuner graph).Records where
  unchecked params s h := congrArg Prod.fst (tune_unchecked graph h)
  tuned params := by
    refine (tune_triple graph params).conseq (fun _ h => h) (fun _ s hs => ?_)
      fun _ _ _ => trivial
    show s.1.system.map _ = _
    rw [hs]
    rfl
  leaves := leaves_stream
  streams := stream_triple

theorem forgets (s : BdaTuner × Running ω) (a : AnyTuner.Act Error (Running ω)) :
    (tuner graph).Forgets s a := by
  intro params e s' _ hc hr
  have hnone := (tune_triple graph params).ends hc hr
  show s'.1.system.map _ = _
  rw [hnone]
  rfl

end Bda.BdaTuner

/-! ## The DVB API -/

namespace Dvb.DvbTuner

variable {ω : Type} (fe : Frontend ω)

def tuner : AnyTuner Error DvbTuner ω where
  systems := systems
  format := format
  tune := tune fe
  stream := stream fe

/-- The record goes on until the end of a call. -/
theorem tune_triple (params : TuneParams) (t : DvbTuner) :
    Eff.Triple (fun s => s.1 = t) (tune fe params)
      (fun _ s => s.1.format = some params.streamFormat) fun _ s => s.1 = t := by
  refine Eff.Triple.bind (Eff.Triple.ofExcept (Q := fun _ s => s.1 = t) (fun _ _ _ hs => hs)
    fun _ _ _ hs => hs) fun _ => ?_
  refine Eff.Triple.bind (Eff.Triple.get (Q := fun _ s => s.1 = t) fun _ hs => hs) fun s => ?_
  refine Eff.Triple.bind (Eff.Triple.require (Q := fun _ (s : DvbTuner × ω) => s.1 = t)
    (fun _ _ h => h) fun _ _ h => h) fun _ => ?_
  refine Eff.Triple.bind (Eff.Triple.ofExcept (Q := fun _ s => s.1 = t) (fun _ _ _ hs => hs)
    fun _ _ _ hs => hs) fun props => ?_
  refine Eff.Triple.bind (Q := fun _ s => s.1 = t) ?_ fun _ => Eff.Triple.modify fun _ _ => rfl
  refine Eff.Triple.zoom fun s hs w _ => ?_
  split <;> exact hs

theorem leaves_stream : Eff.Leaves Prod.fst (stream fe) := by
  apply Eff.Leaves.bind (fun _ => rfl)
  intro s
  dsimp only
  split
  · exact Eff.Leaves.throw _
  · exact Eff.Leaves.bind (fun _ => rfl) fun _ => Eff.Leaves.pure _

theorem stream_triple (t : DvbTuner) :
    Eff.Triple (fun s => s.1 = t) (stream fe) (fun format _ => t.format = some format)
      fun _ _ => True := by
  refine Eff.Triple.bind (Eff.Triple.get (Q := fun s _ => s.1 = t ∧ True)
    fun _ hs => ⟨hs, trivial⟩) fun s => Eff.Triple.known fun hs => ?_
  obtain ⟨t', w⟩ := s
  obtain rfl : t' = t := hs
  cases hf : t'.format with
  | none =>
    simp only [hf]
    exact Eff.Triple.throw fun _ => id
  | some format =>
    simp only [hf]
    exact Eff.Triple.anyway.bind fun _ => Eff.Triple.pure fun _ _ => rfl

theorem tune_unchecked {params : TuneParams} {s : DvbTuner × ω}
    (h : ¬ (tuner fe).Checks s.1 params) : (tune fe params s).2 = s := by
  rw [tune]
  cases hv : params.validate with
  | error e => rfl
  | ok _ =>
    have hsys : params.system ∉ s.1.systems := fun hsys => h ⟨hv, hsys⟩
    show ((Eff.require (params.system ∈ s.1.systems) _ >>= _ : Eff Error _ Unit) s).2 = s
    rw [Eff.require, if_neg hsys]
    rfl

theorem records : (tuner fe).Records where
  unchecked params s h := congrArg Prod.fst (tune_unchecked fe h)
  tuned params := by
    intro s _
    exact (tune_triple fe params s.1).conseq (fun _ h => h) (fun _ _ h => h)
      (fun _ _ _ => trivial) s rfl
  leaves := leaves_stream fe
  streams := stream_triple fe

/-- A call that gets past the checks and fails finds no record: none has succeeded yet. -/
def FailsUnrecorded (s : DvbTuner × ω) (a : AnyTuner.Act Error ω) : Prop :=
  ∀ params e, a = .tune params (.error e) → (tuner fe).Checks s.1 params → s.1.format = none

theorem forgets {s : DvbTuner × ω} {a : AnyTuner.Act Error ω} (h : FailsUnrecorded fe s a) :
    (tuner fe).Forgets s a := by
  intro params e s' ha hc hr
  have hkept : s'.1 = s.1 := (tune_triple fe params s.1).ends rfl hr
  show s'.1.format = none
  rw [hkept]
  exact h params e ha hc

end Dvb.DvbTuner

/-! ## What a stream is given out for -/

/-- **A stream is given out for the last tuning.** From a board and from BDA always, and from a
tuner of the DVB API as long as no call to `tune` fails once one succeeded. -/
theorem streams_last_tune {ι σ ω ω' : Type} (B : Px4.TsBoard ι σ) (source : Px4.Source ι σ) (i : ι)
    (graph : Bda.Graph ω) (fe : Dvb.Frontend ω') (quirks : Dvb.Quirks) (systems : List System) :
    (Px4.BoardTuner.tuner B source i).StreamsLast (Px4.BoardTuner.opened B i) ∧
      (Bda.BdaTuner.tuner graph).StreamsLast { systems } ∧
      ∀ w tr s, Lts.Run (Dvb.DvbTuner.tuner fe).Step ({ systems, quirks }, w) tr s →
        Lts.AllGood (Dvb.DvbTuner.FailsUnrecorded fe) tr →
        ∀ format, ((Dvb.DvbTuner.tuner fe).stream s).1 = .ok format →
          (Dvb.DvbTuner.tuner fe).Tuned tr format := by
  refine ⟨fun w tr s h format hs => ?_, fun w tr s h format hs => ?_,
    fun w tr s h hf format hs => ?_⟩
  · exact AnyTuner.tuned_of_run (Px4.BoardTuner.records B source i) rfl h
      (fun x _ => Px4.BoardTuner.forgets B source i x.1 x.2) hs
  · exact AnyTuner.tuned_of_run (Bda.BdaTuner.records graph) rfl h
      (fun x _ => Bda.BdaTuner.forgets graph x.1 x.2) hs
  · exact AnyTuner.tuned_of_run (Dvb.DvbTuner.records fe) rfl h
      (fun x hx => Dvb.DvbTuner.forgets fe (hf x hx)) hs

/-! ### A tuner that has no satellite signal -/

namespace Dvb.DvbTuner

def noSatellite : Frontend Bool where
  setProperties props _ := (.ok (), decide (⟨DTV_DELIVERY_SYSTEM, SYS_ISDBT⟩ ∈ props))
  readStatus w := (.ok (if w then FE_HAS_LOCK else 0), w)
  tapDvr := pure ()

def terrestrial : TuneParams := ⟨.isdbT, 557143, none, none⟩

def satellite : TuneParams := ⟨.isdbS3, 12034360, some ⟨0xb110⟩, none⟩

/-- As it is opened. -/
def untuned : DvbTuner × Bool := ({ systems := [.isdbT, .isdbS3], quirks := {} }, false)

/-- After the tuning to `terrestrial`. -/
def tuned : DvbTuner × Bool := (tune noSatellite terrestrial untuned).2

theorem run_tuned : Lts.Run (tuner noSatellite).Step untuned
    [(untuned, .tune terrestrial (.ok ()))] tuned :=
  Lts.Run.nil.snoc (.tune rfl)

end Dvb.DvbTuner

open Dvb.DvbTuner in
/-- Its stream after one tuning is that of the tuning. -/
theorem streams_terrestrial :
    (tuner noSatellite).Tuned [(untuned, .tune terrestrial (.ok ()))] .ts := by
  let i2c : I2c Unit := ⟨fun _ _ => pure (), fun _ _ n => pure (.replicate n 0)⟩
  let board := Px4.TsBoard.single ⟨fun _ _ => pure (), fun _ => i2c⟩ .m1ur
  let source : Px4.Source Unit (Px4.Single × Unit) :=
    ⟨fun _ => pure true, fun _ => pure (), fun _ => pure (), fun _ => pure (), fun _ => pure ()⟩
  let graph : Bda.Graph Unit :=
    { selectStream := fun _ _ => pure (), change := fun _ => pure ()
      setTuner := fun _ _ => pure (), setDemodulator := fun _ _ => pure (), signalLocked := pure 1 }
  obtain ⟨-, -, hdvb⟩ :=
    streams_last_tune board source () graph noSatellite {} [.isdbT, .isdbS3]
  refine hdvb false _ tuned run_tuned (fun x hx params e ha _ => ?_) .ts rfl
  rw [List.mem_singleton.1 hx] at ha
  cases ha

open Dvb.DvbTuner in
/-- A tuning to ISDB-S3 finds no lock, and a stream is given out as a TS even so. -/
theorem streams_after_failure : ∃ tr s, Lts.Run (tuner noSatellite).Step untuned tr s ∧
    (tuner noSatellite).lastTune tr = some (satellite, .error .noLock) ∧
    ((tuner noSatellite).stream s).1 = .ok .ts ∧ ¬ (tuner noSatellite).Tuned tr .ts := by
  have hlast : (tuner noSatellite).lastTune [(tuned, .tune satellite (.error .noLock)),
      (untuned, .tune terrestrial (.ok ()))] = some (satellite, .error .noLock) := rfl
  refine ⟨_, (tune noSatellite satellite tuned).2, run_tuned.snoc (.tune rfl), hlast, rfl, ?_⟩
  intro ⟨params, hparams, _⟩
  rw [hlast] at hparams
  cases hparams

end Tunelith

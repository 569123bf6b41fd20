import Tunelith.Bda.Ks

/-!
# Finding the tuners of BDA

`scan` goes through the tuner filters that are present, skips those it cannot describe, and groups
the others by device.

* `refuses_iff` — which replies it takes that no filter makes it panic.
-/

namespace Tunelith.Bda.Ks

/-- A tuner filter, the capture filter it feeds, and what is known of them. -/
structure Filters where
  tuner : String
  capture : String
  name : String
  systems : List System
  input : UInt32
  output : UInt32
  captureInput : UInt32
  captureOutput : UInt32
  medium : Medium
  tunerNode : UInt32
  demodulatorNode : UInt32
deriving DecidableEq

/-- A physical device, with its tuners. -/
structure BdaDevice where
  instanceId : String
  name : String
  tuners : List Filters
deriving DecidableEq

/-- What sets a device model apart from the others. -/
structure Quirks where
  claims : BdaDevice → Bool
  extraSystems : List System := []

/-- The first input and the first output pin so far. -/
def takeFlow (pins : Option UInt32 × Option UInt32) (pin flow : UInt32) :
    Option UInt32 × Option UInt32 :=
  if flow = KSPIN_DATAFLOW_IN then (pins.1.or (some pin), pins.2)
  else if flow = KSPIN_DATAFLOW_OUT then (pins.1, pins.2.or (some pin))
  else pins

/-- The tuner node and the demodulator node so far, with what the latter receives. -/
def takeNode (quirks : Quirks) (nodes : Option UInt32 × Option (UInt32 × List System))
    (node : UInt32 × U128) : Option UInt32 × Option (UInt32 × List System) :=
  if node.2 = KSNODE_BDA_RF_TUNER then (some node.1, nodes.2)
  else if node.2 = KSNODE_BDA_COFDM_DEMODULATOR ∨ node.2 = KSNODE_BDA_ISDB_T_DEMODULATOR then
    (nodes.1, some (node.1, [.isdbT]))
  else if node.2 = KSNODE_BDA_QPSK_DEMODULATOR ∨ node.2 = KSNODE_BDA_8PSK_DEMODULATOR ∨
      node.2 = KSNODE_BDA_ISDB_S_DEMODULATOR then
    (nodes.1, some (node.1, .isdbS :: quirks.extraSystems))
  else nodes

/-- The tuner goes to its device, made if it is the first. -/
def addTuner (tuner : Interface) (filters : Filters) : List BdaDevice → List BdaDevice
  | [] => [{ instanceId := tuner.instanceId, name := tuner.deviceName, tuners := [filters] }]
  | d :: devices =>
    if d.instanceId = tuner.instanceId then { d with tuners := d.tuners ++ [filters] } :: devices
    else d :: addTuner tuner filters devices

namespace Kernel

variable {ω α : Type} (kernel : Kernel ω)

/-- The value, or that there was an error; a panic goes on. -/
def okay (m : Eff Fault ω α) : Eff Fault ω (Option α) := fun s =>
  match m s with
  | (.ok a, s') => (.ok (some a), s')
  | (.error (some _), s') => (.ok none, s')
  | (.error none, s') => (.error none, s')

def flow (filter : Nat) (pins : Option UInt32 × Option UInt32) (pin : Nat) :
    Eff Fault ω (Option UInt32 × Option UInt32) := do
  let flow ← ask (kernel.getU32 filter
    (request KSPROPSETID_PIN KSPROPERTY_PIN_DATAFLOW GET [UInt32.ofNat pin]))
  return takeFlow pins (UInt32.ofNat pin) flow

def pinFactories (filter : Nat) : Eff Fault ω (UInt32 × UInt32) := do
  let count ← ask (kernel.getU32 filter (request KSPROPSETID_PIN KSPROPERTY_PIN_CTYPES GET []))
  let pins ← (List.range count.toNat).foldlM (kernel.flow filter) (none, none)
  match pins with
  | (some input, some output) => return (input, output)
  | _ => Eff.throw (some (other "a filter without an input and an output pin"))

/-- What the capture filter has pins for, if it takes what has the medium. -/
def captureOf (medium : Medium) (c : Interface) :
    Eff Fault ω (Option (String × UInt32 × UInt32)) := do
  let filter ← ask (kernel.opens c.path)
  let pins ← kernel.pinFactories filter
  let mediums ← kernel.mediums filter pins.1
  return if medium ∈ mediums then some (c.path, pins.1, pins.2) else none

/-- The first capture filter that takes what has the medium; those that cannot be asked do not. -/
def findCapture (medium : Medium) : List Interface →
    Eff Fault ω (Option (String × UInt32 × UInt32))
  | [] => return none
  | c :: captures => do
    let found ← okay (kernel.captureOf medium c)
    match found.join with
    | some capture => return some capture
    | none => findCapture medium captures

/-- A value that is there, or an error. -/
def orElse (a : Option α) (message : String) : Eff Fault ω α :=
  match a with
  | some a => return a
  | none => Eff.throw (some (other message))

def describe (captures : List Interface) (quirks : Quirks) (tuner : Interface) :
    Eff Fault ω Filters := do
  let filter ← ask (kernel.opens tuner.path)
  let pins ← kernel.pinFactories filter
  let mediums ← kernel.mediums filter pins.2
  let medium ← orElse mediums.head? "an output pin without a medium"
  let found ← kernel.findCapture medium
    (captures.filter fun c => c.instanceId = tuner.instanceId)
  let capture ← orElse found "no capture filter for the tuner"
  let functions ← kernel.nodeFunctions filter
  match functions.foldl (takeNode quirks) (none, none) with
  | (some tunerNode, some (demodulatorNode, systems)) =>
    return {
      tuner := tuner.path, capture := capture.1, name := tuner.name, systems
      input := pins.1, output := pins.2, captureInput := capture.2.1, captureOutput := capture.2.2
      medium, tunerNode, demodulatorNode }
  | _ => Eff.throw (some (other "not an ISDB tuner"))

/-- Goes through the tuners, with the devices of those so far. -/
def scanFrom (captures : List Interface) (quirks : Quirks) : List Interface → List BdaDevice →
    Eff Fault ω (List BdaDevice)
  | [], devices => return devices
  | tuner :: tuners, devices => do
    let filters ← okay (kernel.describe captures quirks tuner)
    match filters with
    | none => scanFrom captures quirks tuners devices
    | some filters => scanFrom captures quirks tuners (addTuner tuner filters devices)

def scan (quirks : Quirks) : Eff Fault ω (List BdaDevice) := do
  let captures ← ask (kernel.interfaces KSCATEGORY_BDA_RECEIVER_COMPONENT)
  let tuners ← ask (kernel.interfaces KSCATEGORY_BDA_NETWORK_TUNER)
  let devices ← kernel.scanFrom captures quirks tuners []
  return (devices.filter quirks.claims).map fun d =>
    { d with tuners := d.tuners.mergeSort fun a b => decide (a.name ≤ b.name) }

/-! ## What panics -/

/-- It ends in a value or an error. -/
def Calm (m : Eff Fault ω α) : Prop := Eff.Safe (fun _ => True) (fun e => e ≠ none) m

theorem calm_iff {m : Eff Fault ω α} : Calm m ↔ ∀ s, (m s).1 ≠ .error none := by
  constructor
  · intro h s he
    have hr : m s = (.error none, (m s).2) := Prod.ext he rfl
    exact (h.ends trivial hr).1 rfl
  · intro h s _
    cases hr : m s with
    | mk r s' =>
      cases r with
      | ok a => trivial
      | error e =>
        refine ⟨fun he => h s ?_, trivial⟩
        rw [hr, he]

theorem calm_ask (m : Eff Error ω α) : Calm (ask m) := by
  rw [calm_iff]
  intro s
  rw [ask, Eff.mapError_apply]
  cases (m s).1 with
  | ok a => nofun
  | error e => nofun

theorem Calm.okay {m : Eff Fault ω α} (h : Calm m) : Calm (okay m) := by
  rw [calm_iff] at h ⊢
  intro s
  have hs := h s
  rw [Kernel.okay]
  cases hr : m s with
  | mk r s' =>
    rw [hr] at hs
    match r with
    | .ok a => nofun
    | .error (some e) => nofun
    | .error none => exact absurd rfl hs

theorem calm_orElse (a : Option α) (message : String) :
    Calm (orElse a message : Eff Fault ω α) := by
  cases a with
  | none => exact Eff.Safe.throw nofun
  | some a => exact Eff.Safe.pure a

/-- What is made of a reply panics where the reply does not fit. -/
theorem calm_ask_bind {β : Type} {m : Eff Error ω α} {f : α → Except Fault β} :
    Calm (ask m >>= fun b => Eff.ofExcept (f b)) ↔
      ∀ s b, (m s).1 = .ok b → f b ≠ .error none := by
  rw [calm_iff]
  apply forall_congr'
  intro s
  rw [Eff.bind_apply, ask, Eff.mapError_apply]
  cases (m s).1 with
  | ok b =>
    refine ⟨fun h b' hb => ?_, fun h => h b rfl⟩
    cases hb
    exact h
  | error e => exact ⟨fun _ b hb => absurd hb nofun, fun _ => nofun⟩

theorem checked_ne_panic {a : Option α} : checked a ≠ .error none ↔ a.isSome := by
  cases a with
  | none => exact ⟨fun h => absurd rfl h, nofun⟩
  | some a => exact ⟨fun _ => rfl, fun _ => nofun⟩

theorem calm_mediums (filter : Nat) (pin : UInt32) : Calm (kernel.mediums filter pin) ↔
    ∀ s b, (kernel.getVar filter (mediumsRequest pin) s).1 = .ok b → HoldsMediums b := by
  rw [mediums, calm_ask_bind]
  simp only [checked_ne_panic, isSome_mediumsOf]

theorem calm_firstDataRange (filter : Nat) (pin : UInt32) :
    Calm (kernel.firstDataRange filter pin) ↔
      ∀ s b, (kernel.getVar filter (dataRangesRequest pin) s).1 = .ok b → HoldsFlags b := by
  rw [firstDataRange, calm_ask_bind]
  simp only [firstDataRangeOf_ne_panic]

theorem calm_nodeFunctions (filter : Nat) : Calm (kernel.nodeFunctions filter) := by
  rw [nodeFunctions, calm_ask_bind]
  intro s b _
  exact checked_ne_panic.2 (isSome_nodeFunctionsOf b)

theorem calm_frameSize (pin : Nat) : Calm (kernel.frameSize pin) := by
  rw [frameSize]
  refine (Eff.Safe.of_kept fun _ _ => trivial).attempt.bind fun reply => ?_
  cases reply with
  | error e => exact Eff.Safe.pure none
  | ok b =>
    refine Eff.Safe.ofExcept fun e he hnone => ?_
    rw [hnone] at he
    exact checked_ne_panic.2 (isSome_frameSizeOf b) he

theorem calm_pinFactories (filter : Nat) : Calm (kernel.pinFactories filter) := by
  refine (calm_ask _).bind fun count => ?_
  refine Eff.Safe.bind (Eff.Safe.foldlM fun pins pin => ?_) fun pins => ?_
  · exact (calm_ask _).bind fun flow => Eff.Safe.pure _
  · split
    · exact Eff.Safe.pure _
    · exact Eff.Safe.throw nofun

section Scan

variable {kernel} (h : ∀ filter pin, Calm (kernel.mediums filter pin))
include h

theorem calm_findCapture (medium : Medium) (captures : List Interface) :
    Calm (kernel.findCapture medium captures) := by
  induction captures with
  | nil => exact Eff.Safe.pure none
  | cons c captures ih =>
    have hcapture : Calm (kernel.captureOf medium c) := by
      refine (calm_ask _).bind fun filter => ?_
      refine (kernel.calm_pinFactories filter).bind fun pins => ?_
      exact (h filter pins.1).bind fun mediums => Eff.Safe.pure _
    refine hcapture.okay.bind fun found => ?_
    split
    · exact Eff.Safe.pure _
    · exact ih

theorem calm_describe (captures : List Interface) (quirks : Quirks) (tuner : Interface) :
    Calm (kernel.describe captures quirks tuner) := by
  refine (calm_ask _).bind fun filter => ?_
  refine (kernel.calm_pinFactories filter).bind fun pins => ?_
  refine (h filter pins.2).bind fun mediums => ?_
  refine (calm_orElse _ _).bind fun medium => ?_
  refine (calm_findCapture h medium _).bind fun found => ?_
  refine (calm_orElse _ _).bind fun capture => ?_
  refine (kernel.calm_nodeFunctions filter).bind fun functions => ?_
  split
  · exact Eff.Safe.pure _
  · exact Eff.Safe.throw nofun

theorem calm_scanFrom (captures : List Interface) (quirks : Quirks) (tuners : List Interface)
    (devices : List BdaDevice) : Calm (kernel.scanFrom captures quirks tuners devices) := by
  induction tuners generalizing devices with
  | nil => exact Eff.Safe.pure devices
  | cons tuner tuners ih =>
    refine (calm_describe h captures quirks tuner).okay.bind fun filters => ?_
    split
    · exact ih devices
    · exact ih _

theorem calm_scan (quirks : Quirks) : Calm (kernel.scan quirks) := by
  refine (calm_ask _).bind fun captures => ?_
  refine (calm_ask _).bind fun tuners => ?_
  exact (calm_scanFrom h captures quirks tuners []).bind fun devices => Eff.Safe.pure _

end Scan

/-- A tuner that cannot be described is as one that is not there. -/
theorem scanFrom_of_error {captures tuners : List Interface} {quirks : Quirks} {tuner : Interface}
    {devices : List BdaDevice} {s s' : ω} {e : Error}
    (h : kernel.describe captures quirks tuner s = (.error (some e), s')) :
    kernel.scanFrom captures quirks (tuner :: tuners) devices s =
      kernel.scanFrom captures quirks tuners devices s' := by
  have hokay : okay (kernel.describe captures quirks tuner) s = (.ok none, s') := by
    rw [okay, h]
  rw [scanFrom, Eff.bind_of_ok hokay]

/-- The mediums of a reply that holds as many as it announces. -/
theorem mediums_of_records {filter : Nat} {pin : UInt32} {s s' : ω} {b : Bytes}
    (hreply : kernel.getVar filter (mediumsRequest pin) s = (.ok b, s'))
    (hrecords : 8 + announced b 4 * 24 ≤ b.length) :
    ∃ ms, kernel.mediums filter pin s = (.ok ms, s') ∧ ms.length = announced b 4 ∧
      ∀ i (hi : i < ms.length), mediumAt b i = some ms[i] := by
  obtain ⟨ms, hms⟩ := Option.isSome_iff_exists.1
    (isSome_mediumsOf.2 (holdsMediums_of_records hrecords))
  have hask : ask (kernel.getVar filter (mediumsRequest pin)) s = (.ok b, s') := by
    rw [ask, Eff.mapError_apply, hreply]
    rfl
  refine ⟨ms, ?_, mediumsOf_eq_some hms⟩
  rw [mediums, Eff.bind_of_ok hask, hms]
  rfl

/-- Whatever the filters reply is refused or taken, and what is taken is what was written. -/
structure Refuses (kernel : Kernel ω) : Prop where
  mediums : ∀ filter pin s, (kernel.mediums filter pin s).1 ≠ .error none
  firstDataRange : ∀ filter pin s, (kernel.firstDataRange filter pin s).1 ≠ .error none
  nodeFunctions : ∀ filter s, (kernel.nodeFunctions filter s).1 ≠ .error none
  frameSize : ∀ pin s, (kernel.frameSize pin s).1 ≠ .error none
  scan : ∀ quirks s, (kernel.scan quirks s).1 ≠ .error none
  /-- A filter that cannot be described is skipped. -/
  skips : ∀ captures quirks tuner tuners devices s s' e,
    kernel.describe captures quirks tuner s = (.error (some e), s') →
      kernel.scanFrom captures quirks (tuner :: tuners) devices s =
        kernel.scanFrom captures quirks tuners devices s'
  /-- Where the reply holds as many mediums as it announces, that many are given. -/
  records : ∀ filter pin s s' b, kernel.getVar filter (mediumsRequest pin) s = (.ok b, s') →
    8 + announced b 4 * 24 ≤ b.length → ∃ ms, kernel.mediums filter pin s = (.ok ms, s') ∧
      ms.length = announced b 4 ∧ ∀ i (hi : i < ms.length), mediumAt b i = some ms[i]
  written : ∀ size items after, items.length < 2 ^ 32 →
    mediumsOf (mediumsReply size items after) = some (items.map Prod.fst)
  guids : ∀ v, readGuid (guidBytes v) = some v

/-- Every reply about mediums and about data ranges fits what it announces. -/
def HoldsReplies (kernel : Kernel ω) : Prop := ∀ filter pin s b,
  ((kernel.getVar filter (mediumsRequest pin) s).1 = .ok b → HoldsMediums b) ∧
    ((kernel.getVar filter (dataRangesRequest pin) s).1 = .ok b → HoldsFlags b)

/-- No reply makes the driver panic exactly if the mediums are in it as announced, and the flags of
the data range, as nothing else is left unchecked. -/
theorem refuses_iff (kernel : Kernel ω) : Refuses kernel ↔ HoldsReplies kernel := by
  constructor
  · intro h filter pin s b
    have hmediums := (kernel.calm_mediums filter pin).1 (calm_iff.2 (h.mediums filter pin))
    have hranges := (kernel.calm_firstDataRange filter pin).1
      (calm_iff.2 (h.firstDataRange filter pin))
    exact ⟨hmediums s b, hranges s b⟩
  · intro h
    have hmediums : ∀ filter pin, Calm (kernel.mediums filter pin) := by
      intro filter pin
      rw [calm_mediums]
      exact fun s b => (h filter pin s b).1
    have hranges : ∀ filter pin, Calm (kernel.firstDataRange filter pin) := by
      intro filter pin
      rw [calm_firstDataRange]
      exact fun s b => (h filter pin s b).2
    refine ⟨?_, ?_, ?_, ?_, ?_, ?_, ?_, ?_, ?_⟩
    · exact fun filter pin => calm_iff.1 (hmediums filter pin)
    · exact fun filter pin => calm_iff.1 (hranges filter pin)
    · exact fun filter => calm_iff.1 (kernel.calm_nodeFunctions filter)
    · exact fun pin => calm_iff.1 (kernel.calm_frameSize pin)
    · exact fun quirks => calm_iff.1 (calm_scan hmediums quirks)
    · intro captures quirks tuner tuners devices s s' e hdescribe
      exact kernel.scanFrom_of_error hdescribe
    · intro filter pin s s' b hreply hrecords
      exact kernel.mediums_of_records hreply hrecords
    · intro size items after hlength
      exact mediumsOf_mediumsReply size after hlength
    · intro v
      have hread := readGuid_guidBytes v []
      rw [List.append_nil] at hread
      exact hread

/-- A tuner filter with an input and an output pin that replies nothing to what else it is asked. -/
def silent : Kernel Unit where
  interfaces category :=
    return if category = KSCATEGORY_BDA_NETWORK_TUNER then [⟨"tuner", "", "", ""⟩] else []
  opens _ := return 0
  getVar _ _ := return []
  getU32 _ asked := return if asked.length = 24 then 2
    else if asked = request KSPROPSETID_PIN KSPROPERTY_PIN_DATAFLOW GET [0] then KSPIN_DATAFLOW_IN
    else KSPIN_DATAFLOW_OUT

/-- The reply is too short for the count of the mediums. -/
theorem scan_silent (quirks : Quirks) : (silent.scan quirks ()).1 = .error none := by
  rfl

theorem not_refuses_silent : ¬ Refuses silent := by
  intro h
  exact h.scan ⟨fun _ => true, []⟩ () (scan_silent _)

end Kernel

end Tunelith.Bda.Ks

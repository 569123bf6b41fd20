import Tunelith.Core.Types
import Tunelith.Lib.Eff
import Tunelith.Lib.LittleEndian
import Tunelith.Lib.Slices

/-!
# Kernel Streaming

The requests a filter takes as I/O controls, and what is made of its replies. A reply is whatever
the driver of the filter wrote; a `usize` has 64 bits.

* `mediumsOf_eq_none_iff`, `firstDataRangeOf_eq_panic_iff` — which replies are out of range.
* `mediumsOf_eq_some` — the mediums of a reply that holds those it announces, one a record.
* `readGuid_guidBytes` — a GUID is read as it was written.
-/

namespace Tunelith.Bda.Ks

abbrev Bytes := List UInt8
abbrev U128 := BitVec 128

/-- What ends a call: an error, or a panic for `none`. -/
abbrev Fault := Option Error

/-- A value that is there, or a panic. -/
def checked {α : Type} : Option α → Except Fault α
  | some a => .ok a
  | none => .error none

/-- An error of `io::Error::other`. -/
def other (message : String) : Error := .io .other message

/-! ## Requests -/

def GET : UInt32 := 0x1

def KSPROPSETID_PIN : U128 := 0x8c13496051ad11cf878a94f801c10000
def KSPROPERTY_PIN_DATAFLOW : UInt32 := 2
def KSPROPERTY_PIN_DATARANGES : UInt32 := 3
def KSPROPERTY_PIN_MEDIUMS : UInt32 := 6
def KSPROPERTY_PIN_CTYPES : UInt32 := 1
def KSPIN_DATAFLOW_IN : UInt32 := 1
def KSPIN_DATAFLOW_OUT : UInt32 := 2

def KSPROPSETID_CONNECTION : U128 := 0x1d58c920ac9b11cfa5d628db04c10000
def KSPROPERTY_CONNECTION_ALLOCATORFRAMING_EX : UInt32 := 6

def KSNODE_BDA_RF_TUNER : U128 := 0x71985f4c1ca111d39cc800c04f7971e0
def KSNODE_BDA_QPSK_DEMODULATOR : U128 := 0x6390c90527c14d67bdb777c50d079300
def KSNODE_BDA_8PSK_DEMODULATOR : U128 := 0xe957a0e7dd984a3c810b3525157ab62a
def KSNODE_BDA_ISDB_S_DEMODULATOR : U128 := 0xedde230a9086432db8a55670263807e9
def KSNODE_BDA_COFDM_DEMODULATOR : U128 := 0x2dac6e05edbe4b9cb3871b6fad7d6495
def KSNODE_BDA_ISDB_T_DEMODULATOR : U128 := 0xfcea3ae32cb2464d8f5d305c3bb778a2

def KSCATEGORY_BDA_NETWORK_TUNER : U128 := 0x71985f481ca111d39cc800c04f7971e0
def KSCATEGORY_BDA_RECEIVER_COMPONENT : U128 := 0xfd0a5af4b41d11d29c9500c04f7971e0

def KSPROPSETID_BDA_TOPOLOGY : U128 := 0xa14ee8350a2311d39cc700c04f7971e0
def KSPROPERTY_BDA_NODE_DESCRIPTORS : UInt32 := 7

structure Guid where
  data1 : UInt32
  data2 : UInt16
  data3 : UInt16
  data4 : Bytes

def guid (value : U128) : Guid where
  data1 := ⟨(value >>> 96).setWidth 32⟩
  data2 := ⟨(value >>> 80).setWidth 16⟩
  data3 := ⟨(value >>> 64).setWidth 16⟩
  data4 := BigEndian.toBytes 8 (value.setWidth 64).toNat

def guidBytes (value : U128) : Bytes :=
  let g := guid value
  LittleEndian.toBytes 4 g.data1.toNat ++ (LittleEndian.toBytes 2 g.data2.toNat ++
    (LittleEndian.toBytes 2 g.data3.toNat ++ g.data4))

def readGuid (b : Bytes) : Option U128 := do
  let data1 ← Slices.get b 0 4
  let data2 ← Slices.get b 4 6
  let data3 ← Slices.get b 6 8
  let data4 ← Slices.get b 8 16
  return BitVec.ofNat 128 (LittleEndian.ofBytes data1) <<< 96
    ||| BitVec.ofNat 128 (LittleEndian.ofBytes data2) <<< 80
    ||| BitVec.ofNat 128 (LittleEndian.ofBytes data3) <<< 64
    ||| BitVec.ofNat 128 (BigEndian.ofBytes data4)

def readU32 (b : Bytes) (i : Nat) : Option UInt32 := do
  let bytes ← Slices.get b i (i + 4)
  return UInt32.ofNat (LittleEndian.ofBytes bytes)

def u32Bytes (value : UInt32) : Bytes := LittleEndian.toBytes 4 value.toNat

/-- A `KSPROPERTY`, followed by what the request carries and a reserved field if it does. -/
def request (set : U128) (id flags : UInt32) (extra : List UInt32) : Bytes :=
  guidBytes set ++ u32Bytes id ++ u32Bytes flags ++ extra.flatMap u32Bytes ++
    if extra.isEmpty then [] else u32Bytes 0

def mediumsRequest (pin : UInt32) : Bytes :=
  request KSPROPSETID_PIN KSPROPERTY_PIN_MEDIUMS GET [pin]

def dataRangesRequest (pin : UInt32) : Bytes :=
  request KSPROPSETID_PIN KSPROPERTY_PIN_DATARANGES GET [pin]

/-! ## Replies -/

structure Medium where
  set : U128
  id : UInt32
deriving DecidableEq

/-- The medium of the record at `i`. -/
def mediumAt (b : Bytes) (i : Nat) : Option Medium := do
  let m ← Slices.rest b (8 + i * 24)
  let set ← readGuid m
  let id ← readU32 m 16
  return { set, id }

/-- A `KSMULTIPLE_ITEM`, then `KSPIN_MEDIUM`s of 24 bytes. -/
def mediumsOf (b : Bytes) : Option (List Medium) := do
  let count ← readU32 b 4
  (List.range count.toNat).mapM (mediumAt b)

/-- The first of the data ranges, with no flags. -/
def firstDataRangeOf (b : Bytes) : Except Fault Bytes := do
  let size ← checked (readU32 b 8)
  match Slices.get b 8 (8 + size.toNat) with
  | none => .error (some (other "short data range"))
  | some range => do
    let _ ← checked (Slices.get range 4 8)
    return range.take 4 ++ u32Bytes 0 ++ range.drop 8

/-- `BDANODE_DESCRIPTOR`s: the node type, then the function and the name. -/
def nodeFunctionsOf (b : Bytes) : Option (List (UInt32 × U128)) :=
  (Slices.chunks 36 b).mapM fun d => do
    let node ← readU32 d 0
    let function ← readGuid (← Slices.rest d 4)
    return (node, function)

/-- A `KSALLOCATOR_FRAMING_EX`: the least size of a frame is 68 bytes into the item after the
header. -/
def frameSizeOf (b : Bytes) : Option (Option Nat) :=
  match Slices.get b 0 (24 + 72) with
  | none => some none
  | some framing => do
    let min ← readU32 framing (24 + 68)
    let items ← readU32 b 0
    return if 0 < items ∧ 0 < min then some min.toNat else none

/-! ## Filters -/

/-- A device interface of a category, with the device it belongs to. -/
structure Interface where
  path : String
  name : String
  instanceId : String
  deviceName : String
deriving DecidableEq, Repr

/-- What the kernel and the filters do to the state `ω` they have. -/
structure Kernel (ω : Type) where
  /-- The device interfaces of a category that are present. -/
  interfaces : U128 → Eff Error ω (List Interface)
  /-- A handle of the filter at a path. -/
  opens : String → Eff Error ω Nat
  getVar : Nat → Bytes → Eff Error ω Bytes
  getU32 : Nat → Bytes → Eff Error ω UInt32

namespace Kernel

variable {ω : Type} (kernel : Kernel ω)

/-- A reply, or the error. -/
def ask {α : Type} (m : Eff Error ω α) : Eff Fault ω α := m.mapError some

/-- The mediums of a pin factory of `filter`. -/
def mediums (filter : Nat) (pin : UInt32) : Eff Fault ω (List Medium) := do
  let b ← ask (kernel.getVar filter (mediumsRequest pin))
  Eff.ofExcept (checked (mediumsOf b))

/-- The first data range of a pin factory of `filter`. -/
def firstDataRange (filter : Nat) (pin : UInt32) : Eff Fault ω Bytes := do
  let b ← ask (kernel.getVar filter (dataRangesRequest pin))
  Eff.ofExcept (firstDataRangeOf b)

/-- The function of each node type of a BDA filter, by node type. -/
def nodeFunctions (filter : Nat) : Eff Fault ω (List (UInt32 × U128)) := do
  let b ← ask (kernel.getVar filter
    (request KSPROPSETID_BDA_TOPOLOGY KSPROPERTY_BDA_NODE_DESCRIPTORS GET []))
  Eff.ofExcept (checked (nodeFunctionsOf b))

/-- The size of the frames the pin gives out, if it tells. -/
def frameSize (pin : Nat) : Eff Fault ω (Option Nat) := do
  let reply ← Eff.attempt (kernel.getVar pin
    (request KSPROPSETID_CONNECTION KSPROPERTY_CONNECTION_ALLOCATORFRAMING_EX GET []))
  match reply with
  | .error _ => return none
  | .ok b => Eff.ofExcept (checked (frameSizeOf b))

end Kernel

/-! ## GUIDs -/

/-- A field above the bits below it. -/
theorem or_setWidth (v : U128) (n k : Nat) :
    ((v >>> n).setWidth k).setWidth 128 <<< n ||| (v.setWidth n).setWidth 128 =
      (v.setWidth (n + k)).setWidth 128 := by
  apply BitVec.eq_of_getLsbD_eq
  intro i hi
  simp only [BitVec.getLsbD_or, BitVec.getLsbD_shiftLeft, BitVec.getLsbD_setWidth,
    BitVec.getLsbD_ushiftRight, hi, decide_true, Bool.true_and]
  by_cases hn : i < n
  · have hk : i < n + k := by omega
    simp [hn, hk]
  · have hi' : n + (i - n) = i := by omega
    have hsub : i - n < 128 := by omega
    have hiff : i - n < k ↔ i < n + k := by omega
    simp [hn, hi', hsub, hiff]

theorem fields_eq (v : U128) :
    ((v >>> 96).setWidth 32).setWidth 128 <<< 96 ||| ((v >>> 80).setWidth 16).setWidth 128 <<< 80
      ||| ((v >>> 64).setWidth 16).setWidth 128 <<< 64 ||| (v.setWidth 64).setWidth 128 = v := by
  rw [BitVec.or_assoc, or_setWidth, BitVec.or_assoc, or_setWidth, or_setWidth]
  rw [BitVec.setWidth_eq, BitVec.setWidth_eq]

theorem ofBytes_u32 (x : BitVec 32) :
    BitVec.ofNat 128 (LittleEndian.ofBytes (LittleEndian.toBytes 4 (UInt32.ofBitVec x).toNat)) =
      x.setWidth 128 := by
  rw [LittleEndian.ofBytes_toBytes (UInt32.toNat_lt _)]
  exact BitVec.ofNat_toNat 128 x

theorem ofBytes_u16 (x : BitVec 16) :
    BitVec.ofNat 128 (LittleEndian.ofBytes (LittleEndian.toBytes 2 (UInt16.ofBitVec x).toNat)) =
      x.setWidth 128 := by
  rw [LittleEndian.ofBytes_toBytes (UInt16.toNat_lt _)]
  exact BitVec.ofNat_toNat 128 x

theorem ofBytes_u64 (x : BitVec 64) :
    BitVec.ofNat 128 (BigEndian.ofBytes (BigEndian.toBytes 8 x.toNat)) = x.setWidth 128 := by
  rw [BigEndian.ofBytes_toBytes x.isLt]
  exact BitVec.ofNat_toNat 128 x

theorem length_guidBytes (v : U128) : (guidBytes v).length = 16 := by
  simp [guidBytes, guid]

/-- A GUID is read as it was written, whatever follows. -/
theorem readGuid_guidBytes (v : U128) (after : Bytes) :
    readGuid (guidBytes v ++ after) = some v := by
  generalize hb : guidBytes v ++ after = b
  have h₁ : Slices.get b 0 4 = some (LittleEndian.toBytes 4 (guid v).data1.toNat) := by
    rw [← hb, guidBytes, List.append_assoc]
    exact Slices.get_zero_append (LittleEndian.length_toBytes _ _)
  have h₂ : Slices.get b 4 6 = some (LittleEndian.toBytes 2 (guid v).data2.toNat) := by
    rw [← hb, guidBytes, List.append_assoc, List.append_assoc]
    exact Slices.get_append (by simp) (by simp)
  have h₃ : Slices.get b 6 8 = some (LittleEndian.toBytes 2 (guid v).data3.toNat) := by
    rw [← hb, guidBytes, List.append_assoc, List.append_assoc, List.append_assoc,
      ← List.append_assoc]
    exact Slices.get_append (by simp) (by simp)
  have h₄ : Slices.get b 8 16 = some (guid v).data4 := by
    rw [← hb, guidBytes, List.append_assoc, List.append_assoc, List.append_assoc,
      ← List.append_assoc, ← List.append_assoc]
    exact Slices.get_append (by simp) (by simp [guid])
  rw [readGuid, h₁, h₂, h₃, h₄]
  show some (_ ||| _ ||| _ ||| _) = some v
  rw [guid, ofBytes_u32, ofBytes_u16, ofBytes_u16, ofBytes_u64, fields_eq]

theorem readGuid_eq_none_iff {b : Bytes} : readGuid b = none ↔ b.length < 16 := by
  constructor
  · intro h
    by_contra hlt
    rw [readGuid, Slices.get_of_le (by decide) (by omega), Slices.get_of_le (by decide) (by omega),
      Slices.get_of_le (by decide) (by omega), Slices.get_of_le (by decide) (by omega)] at h
    exact absurd h nofun
  · intro h
    have hlast : Slices.get b 8 16 = none := Slices.get_eq_none_iff.2 fun _ => h
    simp [readGuid, hlast]

/-! ## Numbers -/

/-- The number in the four bytes at an index. -/
def announced (b : Bytes) (i : Nat) : Nat := LittleEndian.ofBytes ((b.drop i).take 4)

theorem readU32_eq_none_iff {b : Bytes} {i : Nat} :
    readU32 b i = none ↔ b.length < i + 4 := by
  rw [readU32, Option.bind_eq_bind, Option.bind_eq_none_iff]
  constructor
  · intro h
    apply Slices.get_eq_none_iff.1 ?_ (Nat.le_add_right i 4)
    exact Option.eq_none_iff_forall_ne_some.2 fun c hc => absurd (h c hc) nofun
  · intro h c hc
    rw [Slices.get_eq_none_iff.2 fun _ => h] at hc
    exact absurd hc nofun

theorem readU32_eq_some {b : Bytes} {i : Nat} (h : i + 4 ≤ b.length) :
    ∃ value, readU32 b i = some value ∧ value.toNat = announced b i := by
  have hget := Slices.get_of_le (Nat.le_add_right i 4) h
  have hbytes : (b.take (i + 4)).drop i = (b.drop i).take 4 := by
    rw [List.drop_take, Nat.add_sub_cancel_left]
  rw [hbytes] at hget
  refine ⟨UInt32.ofNat (announced b i), ?_, ?_⟩
  · rw [readU32, hget]
    rfl
  · apply UInt32.toNat_ofNat_of_lt'
    have hlt := LittleEndian.ofBytes_lt ((b.drop i).take 4)
    rw [List.length_take, List.length_drop, Nat.min_eq_left (by omega)] at hlt
    exact hlt

/-- A number is read as it was written. -/
theorem readU32_append {before after : Bytes} {i : Nat} (value : UInt32)
    (h : before.length = i) : readU32 (before ++ (u32Bytes value ++ after)) i = some value := by
  have hget : Slices.get (before ++ (u32Bytes value ++ after)) i (i + 4) =
      some (u32Bytes value) := Slices.get_append h (by simp [u32Bytes])
  rw [readU32, hget]
  show some (UInt32.ofNat (LittleEndian.ofBytes (u32Bytes value))) = some value
  rw [u32Bytes, LittleEndian.ofBytes_toBytes value.toNat_lt, UInt32.ofNat_toNat]

/-! ## Which replies are out of range -/

theorem mediumAt_eq_none_iff {b : Bytes} {i : Nat} :
    mediumAt b i = none ↔ b.length < 8 + i * 24 + 20 := by
  by_cases hrest : b.length < 8 + i * 24
  · have hnone := Slices.rest_eq_none_iff.2 hrest
    rw [mediumAt, hnone]
    exact ⟨fun _ => by omega, fun _ => rfl⟩
  · have hsome := Slices.rest_of_le (Nat.le_of_not_lt hrest)
    have hlength : (b.drop (8 + i * 24)).length = b.length - (8 + i * 24) := List.length_drop
    have hset := readGuid_eq_none_iff (b := b.drop (8 + i * 24))
    have hid := readU32_eq_none_iff (b := b.drop (8 + i * 24)) (i := 16)
    rw [mediumAt, hsome]
    rw [hlength] at hset hid
    show (readGuid _).bind (fun set => (readU32 _ 16).bind fun id => some (Medium.mk set id)) = none
      ↔ _
    cases hg : readGuid (b.drop (8 + i * 24)) with
    | none =>
      have := hset.1 hg
      exact ⟨fun _ => by omega, fun _ => rfl⟩
    | some set =>
      cases hn : readU32 (b.drop (8 + i * 24)) 16 with
      | none =>
        have := hid.1 hn
        exact ⟨fun _ => by omega, fun _ => rfl⟩
      | some id =>
        have : ¬ b.length - (8 + i * 24) < 16 + 4 := by
          intro hlt
          exact absurd (hn.symm.trans (hid.2 hlt)) nofun
        exact ⟨nofun, fun h => by omega⟩

/-- The reply holds the mediums it announces, the last one up to its id. -/
def HoldsMediums (b : Bytes) : Prop :=
  8 ≤ b.length ∧ (announced b 4 = 0 ∨ 8 + (announced b 4 - 1) * 24 + 20 ≤ b.length)

theorem isSome_mediumsOf {b : Bytes} : (mediumsOf b).isSome ↔ HoldsMediums b := by
  by_cases hlen : 8 ≤ b.length
  · obtain ⟨count, hcount, hannounced⟩ := readU32_eq_some (i := 4) hlen
    have hmapM : mediumsOf b = (List.range count.toNat).mapM (mediumAt b) := by
      rw [mediumsOf, hcount]
      rfl
    rw [hmapM, Slices.isSome_mapM, HoldsMediums, ← hannounced]
    have hrecord : ∀ i, (mediumAt b i).isSome ↔ 8 + i * 24 + 20 ≤ b.length := by
      intro i
      rw [Option.isSome_iff_ne_none, ne_eq, mediumAt_eq_none_iff, Nat.not_lt]
    constructor
    · intro h
      refine ⟨hlen, ?_⟩
      by_cases hzero : count.toNat = 0
      · exact .inl hzero
      · exact .inr ((hrecord _).1 (h _ (List.mem_range.2 (Nat.sub_one_lt hzero))))
    · intro h i hi
      have hlt := List.mem_range.1 hi
      rw [hrecord]
      have hlast := h.2
      omega
  · rw [mediumsOf, readU32_eq_none_iff.2 (Nat.lt_of_not_le hlen)]
    exact ⟨nofun, fun h => absurd h.1 hlen⟩

/-- The reply is refused for its size, or holds the flags of the data range. -/
def HoldsFlags (b : Bytes) : Prop :=
  12 ≤ b.length ∧ (8 ≤ announced b 8 ∨ b.length < 8 + announced b 8)

theorem firstDataRangeOf_of_short {b : Bytes} {size : UInt32} (h : readU32 b 8 = some size)
    (hrange : Slices.get b 8 (8 + size.toNat) = none) :
    firstDataRangeOf b = .error (some (other "short data range")) := by
  rw [firstDataRangeOf, h]
  dsimp only [checked, bind, Except.bind]
  rw [hrange]

theorem firstDataRangeOf_of_range {b range : Bytes} {size : UInt32} (h : readU32 b 8 = some size)
    (hrange : Slices.get b 8 (8 + size.toNat) = some range) :
    firstDataRangeOf b = (checked (Slices.get range 4 8)).map fun _ =>
      range.take 4 ++ u32Bytes 0 ++ range.drop 8 := by
  rw [firstDataRangeOf, h]
  dsimp only [checked, bind, Except.bind]
  rw [hrange]
  rfl

theorem firstDataRangeOf_ne_panic {b : Bytes} :
    firstDataRangeOf b ≠ .error none ↔ HoldsFlags b := by
  by_cases hlen : 12 ≤ b.length
  · obtain ⟨size, hsize, hannounced⟩ := readU32_eq_some (i := 8) hlen
    rw [HoldsFlags, ← hannounced]
    cases hrange : Slices.get b 8 (8 + size.toNat) with
    | none =>
      have hshort := Slices.get_eq_none_iff.1 hrange (Nat.le_add_right _ _)
      rw [firstDataRangeOf_of_short hsize hrange]
      exact ⟨fun _ => ⟨hlen, .inr hshort⟩, fun _ => nofun⟩
    | some range =>
      have hlength := Slices.length_of_get hrange
      rw [Nat.add_sub_cancel_left] at hlength
      have hin : ¬ b.length < 8 + size.toNat := by
        intro hlt
        rw [Slices.get_eq_none_iff.2 fun _ => hlt] at hrange
        exact absurd hrange nofun
      rw [firstDataRangeOf_of_range hsize hrange]
      cases hflags : Slices.get range 4 8 with
      | none =>
        have hshort := Slices.get_eq_none_iff.1 hflags (by decide)
        exact ⟨fun h => absurd rfl h, fun h => by omega⟩
      | some flags =>
        have hlong : 8 ≤ size.toNat := by
          by_contra hlt
          rw [Slices.get_eq_none_iff.2 fun _ => by omega] at hflags
          exact absurd hflags nofun
        exact ⟨fun _ => ⟨hlen, .inl hlong⟩, fun _ => nofun⟩
  · rw [firstDataRangeOf, readU32_eq_none_iff.2 (Nat.lt_of_not_le hlen)]
    exact ⟨fun h => absurd rfl h, fun h => absurd h.1 hlen⟩

/-- A descriptor is 36 bytes long, and what is read of it within. -/
theorem isSome_nodeFunctionsOf (b : Bytes) : (nodeFunctionsOf b).isSome := by
  rw [nodeFunctionsOf, Slices.isSome_mapM]
  intro d hd
  have hlength := Slices.length_of_mem_chunks hd
  obtain ⟨node, hnode, -⟩ := readU32_eq_some (b := d) (i := 0) (by omega)
  have hrest := Slices.rest_of_le (b := d) (i := 4) (by omega)
  have hfunction : readGuid (d.drop 4) ≠ none := by
    rw [ne_eq, readGuid_eq_none_iff, List.length_drop]
    omega
  obtain ⟨function, hsome⟩ := Option.ne_none_iff_exists'.1 hfunction
  rw [hnode]
  show ((Slices.rest d 4).bind _).isSome
  rw [hrest]
  show ((readGuid (d.drop 4)).bind _).isSome
  rw [hsome]
  rfl

theorem isSome_frameSizeOf (b : Bytes) : (frameSizeOf b).isSome := by
  rw [frameSizeOf]
  cases hframing : Slices.get b 0 (24 + 72) with
  | none => rfl
  | some framing =>
    have hlength := Slices.length_of_get hframing
    have hlen : 24 + 72 ≤ b.length := by
      by_contra hlt
      rw [Slices.get_eq_none_iff.2 fun _ => by omega] at hframing
      exact absurd hframing nofun
    obtain ⟨min, hmin, -⟩ := readU32_eq_some (b := framing) (i := 24 + 68) (by omega)
    obtain ⟨items, hitems, -⟩ := readU32_eq_some (b := b) (i := 0) (by omega)
    show ((readU32 framing (24 + 68)).bind _).isSome
    rw [hmin]
    show ((readU32 b 0).bind _).isSome
    rw [hitems]
    rfl

/-! ## The mediums of a reply -/

/-- As many mediums as are announced, each from a record of its own. -/
theorem mediumsOf_eq_some {b : Bytes} {ms : List Medium} (h : mediumsOf b = some ms) :
    ms.length = announced b 4 ∧ ∀ i (hi : i < ms.length), mediumAt b i = some ms[i] := by
  have hlen : 4 + 4 ≤ b.length := by
    by_contra hlt
    rw [mediumsOf, readU32_eq_none_iff.2 (Nat.lt_of_not_le hlt)] at h
    exact absurd h nofun
  obtain ⟨count, hcount, hannounced⟩ := readU32_eq_some hlen
  rw [mediumsOf, hcount] at h
  have hmap := Slices.mapM_eq_some_iff.1 (show (List.range count.toNat).mapM _ = some ms from h)
  have hlength := congrArg List.length hmap
  rw [List.length_map, List.length_map, List.length_range] at hlength
  refine ⟨hlength.symm.trans hannounced, fun i hi => ?_⟩
  have hget : ((List.range count.toNat).map (mediumAt b))[i]? = (ms.map some)[i]? := by rw [hmap]
  rw [List.getElem?_map, List.getElem?_map, List.getElem?_range (by omega),
    List.getElem?_eq_getElem hi] at hget
  exact Option.some.inj hget

theorem holdsMediums_of_records {b : Bytes} (h : 8 + announced b 4 * 24 ≤ b.length) :
    HoldsMediums b := by
  refine ⟨by omega, ?_⟩
  omega

/-- A `KSPIN_MEDIUM`. -/
def mediumBytes (m : Medium) (flags : UInt32) : Bytes :=
  guidBytes m.set ++ (u32Bytes m.id ++ u32Bytes flags)

/-- A reply with the mediums, whatever its size field says and whatever is behind them. -/
def mediumsReply (size : UInt32) (items : List (Medium × UInt32)) (after : Bytes) : Bytes :=
  u32Bytes size ++ (u32Bytes (UInt32.ofNat items.length) ++
    (items.flatMap (fun x => mediumBytes x.1 x.2) ++ after))

theorem length_u32Bytes (value : UInt32) : (u32Bytes value).length = 4 :=
  LittleEndian.length_toBytes _ _

theorem length_mediumBytes (x : Medium × UInt32) : (mediumBytes x.1 x.2).length = 24 := by
  rw [mediumBytes, List.length_append, List.length_append, length_guidBytes, length_u32Bytes,
    length_u32Bytes]

theorem mediumAt_append {before after : Bytes} {i : Nat} (m : Medium) (flags : UInt32)
    (h : before.length = 8 + i * 24) :
    mediumAt (before ++ (mediumBytes m flags ++ after)) i = some m := by
  have hrest : Slices.rest (before ++ (mediumBytes m flags ++ after)) (8 + i * 24) =
      some (mediumBytes m flags ++ after) := by
    rw [Slices.rest_of_le (by rw [List.length_append]; omega), ← h, List.drop_left]
  have hset : readGuid (mediumBytes m flags ++ after) = some m.set := by
    rw [mediumBytes, List.append_assoc]
    exact readGuid_guidBytes m.set _
  have hid : readU32 (mediumBytes m flags ++ after) 16 = some m.id := by
    rw [mediumBytes, List.append_assoc, List.append_assoc]
    exact readU32_append m.id (length_guidBytes m.set)
  rw [mediumAt, hrest, Option.bind_eq_bind, Option.bind_some, hset, Option.bind_eq_bind,
    Option.bind_some, hid]
  rfl

/-- The mediums are read as they were written. -/
theorem mediumsOf_mediumsReply (size : UInt32) {items : List (Medium × UInt32)} (after : Bytes)
    (h : items.length < 2 ^ 32) :
    mediumsOf (mediumsReply size items after) = some (items.map Prod.fst) := by
  have hcount : readU32 (mediumsReply size items after) 4 = some (UInt32.ofNat items.length) :=
    readU32_append _ (length_u32Bytes size)
  rw [mediumsOf, hcount]
  show (List.range (UInt32.ofNat items.length).toNat).mapM _ = _
  rw [UInt32.toNat_ofNat_of_lt' h, Slices.mapM_eq_some_iff]
  apply List.ext_getElem
  · simp
  · intro i hi _
    rw [List.length_map, List.length_range] at hi
    obtain ⟨before, behind, hsplit, hlength⟩ := Slices.flatMap_split length_mediumBytes hi
    have hreply : mediumsReply size items after =
        (u32Bytes size ++ (u32Bytes (UInt32.ofNat items.length) ++ before)) ++
          (mediumBytes items[i].1 items[i].2 ++ (behind ++ after)) := by
      rw [mediumsReply, hsplit]
      simp only [List.append_assoc]
    rw [List.getElem_map, List.getElem_range, List.getElem_map, List.getElem_map, hreply]
    apply mediumAt_append
    rw [List.length_append, List.length_append, length_u32Bytes, length_u32Bytes, hlength]
    omega

end Tunelith.Bda.Ks

import Tunelith.Lib.Shelves
import Tunelith.Px4.Single

/-!
# Finding the devices

`scan` goes through the USB devices there are and makes devices of those whose model is known, told
apart by their ids. The id is the serial number, or the port path if there is none; the boards of a
Q model, two on one card, lose the last character of a serial number of 15 bytes, in which alone
they differ.

A string is the list of its characters, each of so many bytes in UTF-8; a slice that does not end
between two of them is a panic.

* `founds_right` — the devices of `Shelves` are the right ones where no two names clash.
* `scan_right_iff` — the lists for which `scan` finds the right devices.
-/

namespace Tunelith.Px4.Px4Driver

/-! ## Strings -/

abbrev Str : Type := List Char

namespace Str

/-- The bytes of a string. -/
def len (s : Str) : Nat := (s.map Char.utf8Size).sum

/-- `&s[..n]`, `none` for a panic. -/
def slice : Str → Nat → Option Str
  | _, 0 => some []
  | [], _ + 1 => none
  | c :: s, n + 1 =>
    if c.utf8Size ≤ n + 1 then (slice s (n + 1 - c.utf8Size)).map (c :: ·) else none

/-- The order of strings, which is that of their characters one by one. -/
def le : Str → Str → Bool
  | [], _ => true
  | _ :: _, [] => false
  | c :: s, d :: t => decide (c.toNat < d.toNat) || (decide (c.toNat = d.toNat) && le s t)

theorem len_eq_zero {s : Str} (h : s.len = 0) : s = [] := by
  cases s with
  | nil => rfl
  | cons c s =>
    have := c.utf8Size_pos
    rw [len, List.map_cons, List.sum_cons] at h
    omega

/-- The string before its last character, if that has one byte. -/
theorem slice_pred {s : Str} {n : Nat} (h : s.len = n + 1) {t : Str} :
    slice s n = some t ↔ ∃ c, s = t ++ [c] ∧ c.utf8Size = 1 := by
  induction s generalizing n t with
  | nil => simp [len] at h
  | cons c s ih =>
    have hpos := c.utf8Size_pos
    have hlen : c.utf8Size + len s = n + 1 := by rwa [len, List.map_cons, List.sum_cons] at h
    cases n with
    | zero =>
      obtain rfl : s = [] := len_eq_zero (by omega)
      have hone : c.utf8Size = 1 := by omega
      constructor
      · intro ht
        cases ht
        exact ⟨c, rfl, hone⟩
      · intro ⟨d, hd, _⟩
        cases t with
        | nil => rfl
        | cons e t => cases t <;> cases hd
    | succ n =>
      by_cases hle : c.utf8Size ≤ n + 1
      · have hs : len s = (n + 1 - c.utf8Size) + 1 := by omega
        rw [slice, if_pos hle, Option.map_eq_some_iff]
        constructor
        · intro ⟨t', ht', htt⟩
          obtain ⟨d, hd, hone⟩ := (ih hs).1 ht'
          exact ⟨d, by rw [← htt, hd, List.cons_append], hone⟩
        · intro ⟨d, hd, hone⟩
          cases t with
          | nil =>
            cases hd
            exact absurd hs (Nat.succ_ne_zero _).symm
          | cons e t =>
            cases hd
            exact ⟨t, (ih hs).2 ⟨d, rfl, hone⟩, rfl⟩
      · -- The character takes up all of the string, and more than one byte.
        obtain rfl : s = [] := len_eq_zero (by omega)
        rw [slice, if_neg hle]
        refine iff_of_false nofun ?_
        rintro ⟨d, hd, hone⟩
        cases t with
        | nil =>
          cases hd
          omega
        | cons e t => cases t <;> cases hd

theorem le_total (s t : Str) : (s.le t || t.le s) = true := by
  induction s generalizing t with
  | nil => simp [le]
  | cons c s ih =>
    cases t with
    | nil => simp [le]
    | cons d t =>
      have := ih t
      simp only [le, Bool.or_eq_true, decide_eq_true_eq, Bool.and_eq_true] at this ⊢
      rcases Nat.lt_trichotomy c.toNat d.toNat with h | h | h
      · exact .inl (.inl h)
      · exact this.imp (fun hs => .inr ⟨h, hs⟩) fun hs => .inr ⟨h.symm, hs⟩
      · exact .inr (.inl h)

theorem le_trans {s t u : Str} (hst : s.le t = true) (htu : t.le u = true) : s.le u = true := by
  induction s generalizing t u with
  | nil => rfl
  | cons c s ih =>
    cases t with
    | nil => cases hst
    | cons d t =>
      cases u with
      | nil => cases htu
      | cons e u =>
        simp only [le, Bool.or_eq_true, decide_eq_true_eq, Bool.and_eq_true] at hst htu ⊢
        rcases hst with hst | ⟨hcd, hst⟩
        · exact .inl (htu.elim (Nat.lt_trans hst) fun h => h.1 ▸ hst)
        · rw [hcd]
          exact htu.imp id (And.imp id (ih hst))

end Str

/-! ## The models -/

inductive Kind
  /-- The addresses and buses of the chips, and the inputs of the bridge. -/
  | pxMlt (layout : List (UInt8 × UInt8 × UInt8))
  /-- A PX4/PX5 board; `quad` for the Q models, two boards on one card. -/
  | px4 (quad : Bool)
  | single (model : Single.Model)
deriving DecidableEq, Repr

structure Model where
  productId : UInt16
  name : String
  kind : Kind
deriving DecidableEq, Repr

def VENDOR_ID : UInt16 := 0x0511

def MLT5PE : List (UInt8 × UInt8 × UInt8) :=
  [(0x65, 3, 0), (0x6c, 1, 1), (0x64, 1, 2), (0x6c, 3, 3), (0x64, 3, 4)]

def MODELS : List Model :=
  [⟨0x083f, "PLEX PX-W3U4", .px4 false⟩,
    ⟨0x023f, "PLEX PX-W3PE4", .px4 false⟩,
    ⟨0x073f, "PLEX PX-W3PE5", .px4 false⟩,
    ⟨0x084a, "PLEX PX-Q3U4", .px4 true⟩,
    ⟨0x024a, "PLEX PX-Q3PE4", .px4 true⟩,
    ⟨0x074a, "PLEX PX-Q3PE5", .px4 true⟩,
    ⟨0x084e, "PLEX PX-MLT5U",
      .pxMlt [(0x65, 3, 4), (0x6c, 1, 3), (0x64, 1, 1), (0x6c, 3, 2), (0x64, 3, 0)]⟩,
    ⟨0x024e, "PLEX PX-MLT5PE", .pxMlt MLT5PE⟩,
    -- A PX-MLT5PE but for the product id.
    ⟨0x924e, "e-better DTV02A-5TS-P", .pxMlt MLT5PE⟩,
    ⟨0x0252, "PLEX PX-MLT8PE (3 tuners)", .pxMlt [(0x65, 3, 0), (0x6c, 3, 3), (0x64, 3, 4)]⟩,
    ⟨0x0253, "PLEX PX-MLT8PE (5 tuners)",
      .pxMlt [(0x65, 1, 0), (0x64, 1, 1), (0x6c, 1, 2), (0x6c, 3, 3), (0x64, 3, 4)]⟩,
    ⟨0x0254, "Digibest ISDB6014 V2.0 (4TS) / e-better DTV02A-4TS-P",
      .pxMlt [(0x65, 3, 0), (0x6c, 1, 1), (0x64, 1, 2), (0x64, 3, 4)]⟩,
    ⟨0x0854, "PLEX PX-M1UR", .single .m1ur⟩,
    ⟨0x0855, "PLEX PX-S1UR", .single .s1ur⟩,
    ⟨0x004b, "Digibest ISDB2056 / e-better DTV02A-1T1S-U", .single .isdb2056⟩,
    ⟨0x084b, "Digibest ISDB2056N / e-better DTV02A-1T1S-U", .single .isdb2056n⟩,
    ⟨0x0052, "Digibest ISDBT2071 / e-better DTV03A-1TU", .single .isdbt2071⟩]

/-- Whether two boards make one device of the model. -/
def Model.quad (m : Model) : Bool :=
  match m.kind with
  | .px4 quad => quad
  | _ => false

/-! ## The scan -/

structure UsbDeviceInfo where
  vendorId : UInt16
  productId : UInt16
  serial : Option Str
  portPath : Str
deriving DecidableEq, Repr

namespace UsbDeviceInfo

def model (usb : UsbDeviceInfo) : Option Model :=
  MODELS.find? fun m => usb.vendorId = VENDOR_ID ∧ m.productId = usb.productId

/-- What stands for the serial number where there is none. -/
def serialOrPath (usb : UsbDeviceInfo) : Str := usb.serial.getD usb.portPath

/-- The order of serial numbers; none comes first. -/
def serialLe (a b : UsbDeviceInfo) : Bool :=
  match a.serial, b.serial with
  | none, _ => true
  | some _, none => false
  | some s, some t => s.le t

theorem serialLe_total (a b : UsbDeviceInfo) : (a.serialLe b || b.serialLe a) = true := by
  unfold serialLe
  cases a.serial with
  | none => rfl
  | some s =>
    cases b.serial with
    | none => rfl
    | some t => exact s.le_total t

theorem serialLe_trans (a b c : UsbDeviceInfo) (hab : a.serialLe b = true)
    (hbc : b.serialLe c = true) : a.serialLe c = true := by
  unfold serialLe at *
  cases ha : a.serial with
  | none => rfl
  | some s =>
    cases hb : b.serial with
    | none => simp [ha, hb] at hab
    | some t =>
      cases hc : c.serial with
      | none => simp [hb, hc] at hbc
      | some u =>
        simp only [ha, hb, hc] at hab hbc ⊢
        exact Str.le_trans hab hbc

end UsbDeviceInfo

structure DeviceInfo where
  id : Str
  name : String
deriving DecidableEq, Repr

/-- A device as the driver sees it: the USB devices of its bridges. -/
structure Found where
  usbs : List UsbDeviceInfo
  model : Model
  info : DeviceInfo
deriving DecidableEq, Repr

def SCHEME : Str := ['p', 'x', '4', ':']

/-- The id of a device, `none` for a panic. -/
def deviceId (model : Model) (serial : Str) : Option Str :=
  match model.kind with
  | .px4 true =>
    if serial.len = 15 then (serial.slice 14).map (SCHEME ++ ·) else some (SCHEME ++ serial)
  | _ => some (SCHEME ++ serial)

namespace Found

def new (usb : UsbDeviceInfo) (model : Model) (id : Str) : Found := ⟨[usb], model, ⟨id, model.name⟩⟩

def push (f : Found) (usb : UsbDeviceInfo) : Found :=
  { f with usbs := (f.usbs ++ [usb]).mergeSort UsbDeviceInfo.serialLe }

/-- Adds the USB device to the first device of its id, or makes one. -/
def add (usb : UsbDeviceInfo) (model : Model) (id : Str) : List Found → List Found
  | [] => [new usb model id]
  | f :: found => if f.info.id = id then f.push usb :: found else f :: add usb model id found

end Found

/-- `scan` over the USB devices there are, with what it found before; `none` for a panic. -/
def scan : List UsbDeviceInfo → List Found → Option (List Found)
  | [], found => some found
  | usb :: usbs, found =>
    match usb.model with
    | none => scan usbs found
    | some model => do
      let id ← deviceId model usb.serialOrPath
      scan usbs (Found.add usb model id found)

/-! ## What a device is told by -/

/-- A USB device of a model known here. -/
structure KnownDevice where
  usb : UsbDeviceInfo
  model : Model
  known : usb.model = some model

namespace KnownDevice

/-- All there are. -/
def ofList : List UsbDeviceInfo → List KnownDevice
  | [] => []
  | usb :: usbs =>
    match h : usb.model with
    | none => ofList usbs
    | some model => ⟨usb, model, h⟩ :: ofList usbs

/-- The name of the device: the serial number, or the port path if there is none, without the last
character for a Q model if it has 15 bytes. -/
def stem (d : KnownDevice) : Str :=
  if d.model.quad = true ∧ d.usb.serialOrPath.len = 15 then d.usb.serialOrPath.dropLast
  else d.usb.serialOrPath

/-- That last character, where there is one to lose, has one byte. -/
def Sliceable (d : KnownDevice) : Prop :=
  d.model.quad = true → d.usb.serialOrPath.len = 15 →
    ∃ s c, d.usb.serialOrPath = s ++ [c] ∧ c.utf8Size = 1

/-- Two boards of Q models whose serial numbers of 15 bytes are the same but for the last
character. -/
def SameCard (d e : KnownDevice) : Prop :=
  d.model.quad = true ∧ e.model.quad = true ∧ ∃ s t : Str, d.usb.serial = some s ∧
    e.usb.serial = some t ∧ s.len = 15 ∧ t.len = 15 ∧ s.dropLast = t.dropLast

theorem ext_usb {d e : KnownDevice} (h : d.usb = e.usb) : d = e := by
  obtain ⟨usb, m, hm⟩ := d
  obtain ⟨usb', m', hm'⟩ := e
  obtain rfl : usb = usb' := h
  obtain rfl : m = m' := Option.some.inj (hm.symm.trans hm')
  rfl

theorem stem_of_sameCard {d e : KnownDevice} (h : SameCard d e) : d.stem = e.stem := by
  obtain ⟨hd, he, s, t, hs, ht, hsl, htl, hst⟩ := h
  simp [stem, UsbDeviceInfo.serialOrPath, hd, he, hs, ht, hsl, htl, hst]

theorem deviceId_eq (m : Model) (serial : Str) : deviceId m serial =
    if m.quad = true ∧ serial.len = 15 then (serial.slice 14).map (SCHEME ++ ·)
    else some (SCHEME ++ serial) := by
  unfold deviceId Model.quad
  cases m.kind with
  | px4 quad => cases quad <;> simp
  | pxMlt | single => simp

/-- There is an id where the name can be sliced, and it is made of that. -/
theorem deviceId_eq_some (d : KnownDevice) {id : Str} :
    deviceId d.model d.usb.serialOrPath = some id ↔ d.Sliceable ∧ id = SCHEME ++ d.stem := by
  rw [deviceId_eq, Sliceable, stem]
  by_cases h : d.model.quad = true ∧ d.usb.serialOrPath.len = 15
  · rw [if_pos h, if_pos h, Option.map_eq_some_iff]
    constructor
    · intro ⟨s, hs, hid⟩
      obtain ⟨c, hsc, hone⟩ := (Str.slice_pred h.2).1 hs
      refine ⟨fun _ _ => ⟨s, c, hsc, hone⟩, ?_⟩
      rw [← hid, hsc, List.dropLast_concat]
    · intro ⟨hslice, hid⟩
      obtain ⟨s, c, hsc, hone⟩ := hslice h.1 h.2
      refine ⟨s, (Str.slice_pred h.2).2 ⟨c, hsc, hone⟩, ?_⟩
      rw [hid, hsc, List.dropLast_concat]
  · rw [if_neg h, if_neg h, Option.some.injEq]
    exact ⟨fun hid => ⟨fun hq hl => absurd ⟨hq, hl⟩ h, hid.symm⟩, fun hid => hid.2.symm⟩

/-! ## The devices as shelves -/

def shelves : Shelves KnownDevice Found UsbDeviceInfo Str where
  key d := SCHEME ++ d.stem
  item := usb
  label f := f.info.id
  items := Found.usbs
  new d := Found.new d.usb d.model (SCHEME ++ d.stem)
  add f d := f.push d.usb
  label_new _ := rfl
  label_add _ _ := rfl
  items_new _ := rfl
  items_add _ _ := (List.mergeSort_perm _ _).trans (List.perm_append_singleton _ _)

theorem add_eq_place (d : KnownDevice) (found : List Found) :
    Found.add d.usb d.model (SCHEME ++ d.stem) found = shelves.place found d := by
  induction found with
  | nil => rfl
  | cons f found ih =>
    rw [Found.add, Shelves.place, ih]
    rfl

theorem ofList_of_none {usb : UsbDeviceInfo} {usbs : List UsbDeviceInfo} (h : usb.model = none) :
    ofList (usb :: usbs) = ofList usbs := by
  rw [ofList]
  split
  · rfl
  · next h' => exact absurd (h.symm.trans h') nofun

theorem ofList_of_some {usbs : List UsbDeviceInfo} (d : KnownDevice) :
    ofList (d.usb :: usbs) = d :: ofList usbs := by
  rw [ofList]
  split
  · next h => exact absurd (h.symm.trans d.known) nofun
  · exact congrArg (· :: _) (ext_usb rfl)

/-- There is no panic where every name can be sliced, and then the devices are put on shelves. -/
theorem scan_eq_some {usbs : List UsbDeviceInfo} {found r : List Found} :
    scan usbs found = some r ↔ (∀ d ∈ ofList usbs, d.Sliceable) ∧
      r = (ofList usbs).foldl shelves.place found := by
  induction usbs generalizing found with
  | nil => simp [scan, ofList, eq_comm]
  | cons usb usbs ih =>
    cases hm : usb.model with
    | none =>
      rw [scan, hm, ofList_of_none hm]
      exact ih
    | some model =>
      obtain ⟨d, rfl, rfl⟩ : ∃ d : KnownDevice, d.usb = usb ∧ d.model = model :=
        ⟨⟨usb, model, hm⟩, rfl, rfl⟩
      rw [scan, hm, ofList_of_some d, List.forall_mem_cons, List.foldl_cons, ← add_eq_place]
      show (deviceId d.model d.usb.serialOrPath >>= fun id => scan usbs (Found.add _ _ id found)) =
        some r ↔ _
      rw [Option.bind_eq_bind, Option.bind_eq_some_iff]
      constructor
      · intro h
        obtain ⟨id, hid, hr⟩ := h
        obtain ⟨hslice, rfl⟩ := d.deviceId_eq_some.1 hid
        exact ⟨⟨hslice, (ih.1 hr).1⟩, (ih.1 hr).2⟩
      · intro h
        obtain ⟨⟨hslice, hall⟩, hr⟩ := h
        exact ⟨_, d.deviceId_eq_some.2 ⟨hslice, rfl⟩, ih.2 ⟨hall, hr⟩⟩

end KnownDevice

/-! ## The right devices -/

open KnownDevice

/-- The devices found are the right ones for the USB devices there are. -/
structure Right (usbs : List UsbDeviceInfo) (found : List Found) : Prop where
  /-- Each USB device of a known model is in one of them, once, and nothing else is. -/
  perm : (found.flatMap Found.usbs).Perm ((ofList usbs).map KnownDevice.usb)
  one : ∀ d ∈ ofList usbs, ∃! f, f ∈ found ∧ d.usb ∈ f.usbs
  model : ∀ f ∈ found, ∀ d ∈ ofList usbs, d.usb ∈ f.usbs → f.model = d.model
  together : ∀ d ∈ ofList usbs, ∀ e ∈ ofList usbs, d.usb ≠ e.usb →
    ((∃ f ∈ found, d.usb ∈ f.usbs ∧ e.usb ∈ f.usbs) ↔ SameCard d e)
  sorted : ∀ f ∈ found, f.usbs.Pairwise fun a b => a.serialLe b = true

/-- Only boards of one card have one name, and they are of one model. -/
def Apart (usbs : List UsbDeviceInfo) : Prop :=
  ∀ d ∈ ofList usbs, ∀ e ∈ ofList usbs, d.usb ≠ e.usb → d.stem = e.stem →
    d.model = e.model ∧ SameCard d e

section

variable {usbs : List UsbDeviceInfo}

theorem key_eq_iff {d e : KnownDevice} : shelves.key d = shelves.key e ↔ d.stem = e.stem :=
  List.append_right_inj SCHEME

theorem mem_together {d e : KnownDevice} (hd : d ∈ ofList usbs) (he : e ∈ ofList usbs) :
    (∃ f ∈ shelves.sort (ofList usbs), d.usb ∈ f.usbs ∧ e.usb ∈ f.usbs) ↔ d.stem = e.stem :=
  (Shelves.together_iff (S := shelves) (fun a b h => by rw [ext_usb h]) hd he).trans key_eq_iff

theorem found_sorted : ∀ f ∈ shelves.sort (ofList usbs),
    f.usbs.Pairwise fun a b => a.serialLe b = true := by
  refine Shelves.forall_sort (fun d => List.pairwise_singleton _ _) fun d f _ _ => ?_
  exact List.pairwise_mergeSort UsbDeviceInfo.serialLe_trans UsbDeviceInfo.serialLe_total _

/-- A device has the model of one of its USB devices. -/
theorem found_model : ∀ f ∈ shelves.sort (ofList usbs), ∃ d : KnownDevice, d.usb ∈ f.usbs ∧
    d.model = f.model := by
  refine Shelves.forall_sort (fun d => ⟨d, List.mem_singleton_self _, rfl⟩) fun d f ⟨e, he, hm⟩ _ =>
    ⟨e, ?_, hm⟩
  exact (shelves.items_add f d).symm.subset (List.mem_cons_of_mem _ he)

theorem mem_of_found {f : Found} (hf : f ∈ shelves.sort (ofList usbs)) {d : KnownDevice}
    (hd : d.usb ∈ f.usbs) : d ∈ ofList usbs := by
  have hmem : d.usb ∈ (shelves.sort (ofList usbs)).flatMap shelves.items :=
    List.mem_flatMap.2 ⟨f, hf, hd⟩
  obtain ⟨e, he, hed⟩ := List.mem_map.1 ((shelves.sort_perm _).subset hmem)
  rwa [← ext_usb (show e.usb = d.usb from hed)]

theorem founds_right (h : Apart usbs) : Right usbs (shelves.sort (ofList usbs)) where
  perm := shelves.sort_perm _
  one d hd := by
    obtain ⟨f, hf, hdf⟩ := Shelves.exists_shelf (S := shelves) hd
    refine ⟨f, ⟨hf, hdf⟩, fun f' ⟨hf', hdf'⟩ => ?_⟩
    refine Shelves.eq_of_label (S := shelves) hf' hf ?_
    obtain ⟨a, ha, hk⟩ := Shelves.key_of_items (S := shelves) f hf _ hdf
    obtain ⟨a', ha', hk'⟩ := Shelves.key_of_items (S := shelves) f' hf' _ hdf'
    rw [← hk, ← hk', ext_usb (ha.trans ha'.symm)]
  model f hf d hd hdf := by
    obtain ⟨e, hef, hm⟩ := found_model f hf
    have he : e ∈ ofList usbs := mem_of_found hf hef
    by_cases hde : d.usb = e.usb
    · rw [ext_usb hde, hm]
    · have hstem := (mem_together hd he).1 ⟨f, hf, hdf, hef⟩
      rw [(h d hd e he hde hstem).1, hm]
  together d hd e he hne := by
    rw [mem_together hd he]
    exact ⟨fun hs => (h d hd e he hne hs).2, stem_of_sameCard⟩
  sorted := found_sorted

/-- **Which lists are scanned as they should be.** There is no panic, and every USB device of a
known model is in the right device, if and only if every name can be sliced that is, and no two are
the same but those of boards of one card. -/
theorem scan_right_iff (usbs : List UsbDeviceInfo) :
    (∃ found, scan usbs [] = some found ∧ Right usbs found) ↔
      (∀ d ∈ ofList usbs, d.Sliceable) ∧ Apart usbs := by
  constructor
  · intro ⟨found, hscan, hright⟩
    obtain ⟨hslice, rfl⟩ := scan_eq_some.1 hscan
    refine ⟨hslice, fun d hd e he hne hstem => ?_⟩
    have htogether := (mem_together hd he).2 hstem
    refine ⟨?_, (hright.together d hd e he hne).1 htogether⟩
    obtain ⟨f, hf, hdf, hef⟩ := htogether
    rw [← hright.model f hf d hd hdf, hright.model f hf e he hef]
  · intro ⟨hslice, hapart⟩
    exact ⟨_, scan_eq_some.2 ⟨hslice, rfl⟩, founds_right hapart⟩

end

/-- A PX-Q3U4 whose serial number of 15 bytes ends in a character of three. -/
def kana : UsbDeviceInfo where
  vendorId := VENDOR_ID
  productId := 0x084a
  serial := some (List.replicate 12 '0' ++ ['あ'])
  portPath := ['1', '-', '1']

/-- A PX-M1UR and a PX-W3U4 with the same serial number. -/
def m1ur : KnownDevice where
  usb := ⟨VENDOR_ID, 0x0854, some ['1'], ['1', '-', '1']⟩
  model := ⟨0x0854, "PLEX PX-M1UR", .single .m1ur⟩
  known := rfl

def w3u4 : KnownDevice where
  usb := ⟨VENDOR_ID, 0x083f, some ['1'], ['1', '-', '2']⟩
  model := ⟨0x083f, "PLEX PX-W3U4", .px4 false⟩
  known := rfl

/-- The one is a panic, and of the other two one device is made. -/
theorem scan_goes_wrong : scan [kana] [] = none ∧
    ∃ found, scan [m1ur.usb, w3u4.usb] [] = some found ∧ ¬ Right [m1ur.usb, w3u4.usb] found := by
  obtain ⟨found, hscan⟩ : ∃ found, scan [m1ur.usb, w3u4.usb] [] = some found := ⟨_, rfl⟩
  refine ⟨by decide, found, hscan, fun hright => ?_⟩
  obtain rfl := (scan_eq_some.1 hscan).2
  have hm : m1ur ∈ ofList [m1ur.usb, w3u4.usb] := by
    rw [ofList_of_some]
    exact List.mem_cons_self
  have hw : w3u4 ∈ ofList [m1ur.usb, w3u4.usb] := by
    rw [ofList_of_some, ofList_of_some]
    exact List.mem_cons_of_mem _ List.mem_cons_self
  have hsame := (hright.together _ hm _ hw (by decide)).1 ((mem_together hm hw).2 rfl)
  exact absurd hsame.1 (by decide)

end Tunelith.Px4.Px4Driver

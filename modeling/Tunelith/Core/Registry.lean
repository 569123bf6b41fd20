import Mathlib.Data.List.FinRange
import Mathlib.Data.List.Induction
import Tunelith.Core.Types
import Tunelith.Lib.FirstOf

/-!
# The drivers in use

Each device goes to the first driver that reports it. The drivers are a parameter, with what is
behind them as the state; the calls made of them are kept beside it.

* `probe_logs` — every driver is asked once, in order of priority, unless one fails.
* `firsts_collect` — what is found is what was reported first under its id.
-/

namespace Tunelith.Drivers

structure DeviceInfo where
  id : String
  name : String
deriving DecidableEq

/-- A device that was opened; its tuners are opened by their number. -/
structure Device (ω τ : Type) where
  tuners : List TunerInfo
  openTuner : Nat → Eff Error ω τ

structure Driver (ω τ : Type) where
  probe : Eff Error ω (List DeviceInfo)
  openDevice : DeviceInfo → Eff Error ω (Device ω τ)

/-- The drivers in use, in order of priority: a device model's own driver goes before the generic
one that would take the device as well. -/
def Registry (n : Nat) (ω τ : Type) : Type := Fin n → Driver ω τ

/-- A device found by `probe`. -/
structure Found (n : Nat) where
  driver : Fin n
  info : DeviceInfo
deriving DecidableEq

variable {n : Nat} {ω τ : Type}

namespace Registry

def add (found : List (Found n)) (f : Found n) : List (Found n) :=
  if found.any fun g => g.info.id = f.info.id then found else found ++ [f]

def probeFrom (r : Registry n ω τ) : List (Fin n) → List (Found n) → Eff Error ω (List (Found n))
  | [], found => pure found
  | driver :: rest, found => do
    let infos ← (r driver).probe
    r.probeFrom rest ((infos.map (Found.mk driver)).foldl add found)

/-- Lists every device, each given to the first driver that reports it. -/
def probe (r : Registry n ω τ) : Eff Error ω (List (Found n)) := r.probeFrom (List.finRange n) []

def openDevice (r : Registry n ω τ) (found : Found n) : Eff Error ω (Device ω τ) :=
  (r found.driver).openDevice found.info

end Registry

/-! ## The calls made -/

inductive Event (n : Nat) (τ : Type)
  | probed (driver : Fin n) (result : Except Error (List DeviceInfo))
  | opened (found : Found n) (result : Except Error (List TunerInfo))
  /-- The tuner of the number, and what it is called. -/
  | tuner (found : Found n) (index : Nat) (id : String) (result : Except Error τ)

def Device.logged (device : Device ω τ) (found : Found n) : Device (ω × List (Event n τ)) τ where
  tuners := device.tuners
  openTuner index := Eff.logging
    (.tuner found index ((device.tuners[index]?.map (·.id)).getD "")) (device.openTuner index)

/-- The same drivers, with the calls made of them kept. -/
def Registry.logged (r : Registry n ω τ) : Registry n (ω × List (Event n τ)) τ := fun driver =>
  { probe := Eff.logging (.probed driver) (r driver).probe
    openDevice := fun info => do
      let device ← Eff.logging (fun result => .opened ⟨driver, info⟩ (result.map (·.tuners)))
        ((r driver).openDevice info)
      return device.logged ⟨driver, info⟩ }

/-! ## What is found -/

namespace Registry

def collect (reported : List (Found n)) : List (Found n) := reported.foldl add []

theorem collect_concat (l : List (Found n)) (f : Found n) :
    collect (l ++ [f]) = add (collect l) f := by
  rw [collect, List.foldl_concat]
  rfl

theorem mem_add {found : List (Found n)} {f g : Found n} :
    g ∈ add found f ↔ g ∈ found ∨ g = f ∧ ∀ x ∈ found, x.info.id ≠ f.info.id := by
  unfold add
  split
  case isTrue h =>
    obtain ⟨x, hx, hid⟩ := List.any_eq_true.1 h
    have hnot : ¬∀ x ∈ found, x.info.id ≠ f.info.id := fun hall => hall x hx (of_decide_eq_true hid)
    simp [hnot]
  case isFalse h =>
    have hall : ∀ x ∈ found, x.info.id ≠ f.info.id := fun x hx hid =>
      h (List.any_eq_true.2 ⟨x, hx, decide_eq_true hid⟩)
    rw [List.mem_append, List.mem_singleton]
    exact or_congr_right (and_iff_left hall).symm

theorem sublist_collect (l : List (Found n)) : (collect l).Sublist l := by
  induction l using List.reverseRecOn with
  | nil => exact List.Sublist.refl []
  | append_singleton l x ih =>
    rw [collect_concat]
    unfold add
    split
    · exact ih.trans (List.sublist_append_left l [x])
    · exact ih.append_right [x]

/-- An id that was reported is found. -/
theorem exists_mem_collect {l : List (Found n)} {f : Found n} (h : f ∈ l) :
    ∃ g ∈ collect l, g.info.id = f.info.id := by
  induction l using List.reverseRecOn with
  | nil => cases h
  | append_singleton l x ih =>
    rw [collect_concat]
    rcases List.mem_append.1 h with h | h
    · obtain ⟨g, hg, hid⟩ := ih h
      exact ⟨g, mem_add.2 (.inl hg), hid⟩
    · obtain rfl := List.mem_singleton.1 h
      by_cases hx : ∃ g ∈ collect l, g.info.id = f.info.id
      · obtain ⟨g, hg, hid⟩ := hx
        exact ⟨g, mem_add.2 (.inl hg), hid⟩
      · exact ⟨f, mem_add.2 (.inr ⟨rfl, fun g hg hid => hx ⟨g, hg, hid⟩⟩), rfl⟩

/-- A device is found where it was reported first. -/
theorem mem_collect {l : List (Found n)} {f : Found n} :
    f ∈ collect l ↔ l.find? (fun g => g.info.id = f.info.id) = some f := by
  induction l using List.reverseRecOn with
  | nil => simp [collect]
  | append_singleton l x ih =>
    rw [collect_concat, mem_add, ih, List.find?_append]
    cases hfind : l.find? fun g => decide (g.info.id = f.info.id) with
    | some g =>
      have hg : g.info.id = f.info.id := by simpa using List.find?_some hfind
      obtain ⟨y, hy, hid⟩ := exists_mem_collect (List.mem_of_find?_eq_some hfind)
      refine ⟨fun h => ?_, fun h => .inl h⟩
      rcases h with h | ⟨rfl, hall⟩
      · exact h
      · exact absurd (hid.trans hg) (hall y hy)
    | none =>
      have hnone : ∀ y ∈ l, y.info.id ≠ f.info.id := fun y hy hid =>
        List.find?_eq_none.1 hfind y hy (decide_eq_true hid)
      rw [Option.none_or, List.find?_singleton]
      constructor
      · rintro (h | ⟨rfl, -⟩)
        · cases h
        · simp
      · intro h
        split at h
        case isFalse => cases h
        case isTrue =>
          obtain rfl := Option.some.inj h
          exact .inr ⟨rfl, fun y hy => hnone y ((sublist_collect l).subset hy)⟩

theorem nodup_collect (l : List (Found n)) : ((collect l).map (·.info.id)).Nodup := by
  induction l using List.reverseRecOn with
  | nil => exact List.nodup_nil
  | append_singleton l x ih =>
    rw [collect_concat]
    unfold add
    split
    case isTrue => exact ih
    case isFalse h =>
      have hnew : x.info.id ∉ (collect l).map (·.info.id) := by
        intro hmem
        obtain ⟨y, hy, hid⟩ := List.mem_map.1 hmem
        exact h (List.any_eq_true.2 ⟨y, hy, decide_eq_true hid⟩)
      rw [List.map_append]
      refine List.nodup_append.2 ⟨ih, List.nodup_singleton _, fun a ha b hb hab => hnew ?_⟩
      have hb' : b = x.info.id := List.mem_singleton.1 hb
      rw [← hb', ← hab]
      exact ha

/-- What is found of what was reported: under each id what was reported first, in order. -/
structure Firsts (reported founds : List (Found n)) : Prop where
  sublist : founds.Sublist reported
  nodup : (founds.map (·.info.id)).Nodup
  mem : ∀ f, f ∈ founds ↔ reported.find? (fun g => g.info.id = f.info.id) = some f

theorem firsts_collect (l : List (Found n)) : Firsts l (collect l) :=
  ⟨sublist_collect l, nodup_collect l, fun _ => mem_collect⟩

/-- What a call reports. -/
def reports : Event n τ → List (Found n)
  | .probed driver (.ok infos) => infos.map (Found.mk driver)
  | _ => []

/-- What is made of the drivers of a list: each is asked once, unless one fails. -/
def Probed (drivers : List (Fin n)) (found : List (Found n)) :
    Except Error (List (Found n)) → List (Event n τ) → Prop
  | .ok found', calls => found' = (calls.flatMap reports).foldl add found ∧
      List.Forall₂ (fun driver call => ∃ infos, call = .probed driver (.ok infos)) drivers calls
  | .error e, calls => ∃ before driver after calls', drivers = before ++ driver :: after ∧
      List.Forall₂ (fun driver call => ∃ infos, call = .probed driver (.ok infos)) before calls' ∧
      calls = calls' ++ [.probed driver (.error e)]

theorem probeFrom_logs (r : Registry n ω τ) (drivers : List (Fin n)) (found : List (Found n))
    (s : ω × List (Event n τ)) : ∃ calls, (r.logged.probeFrom drivers found s).2.2 = s.2 ++ calls ∧
      Probed drivers found (r.logged.probeFrom drivers found s).1 calls := by
  induction drivers generalizing found s with
  | nil => exact ⟨[], (List.append_nil _).symm, rfl, .nil⟩
  | cons driver rest ih =>
    rw [probeFrom, Eff.bind_apply]
    match hp : (r driver).probe s.1 with
    | (.error e, w) =>
      have hlogged : (r.logged driver).probe s =
          (.error e, w, s.2 ++ [.probed driver (.error e)]) := by
        simp only [logged, Eff.logging, hp]
      rw [hlogged]
      exact ⟨_, rfl, [], driver, rest, [], rfl, .nil, rfl⟩
    | (.ok infos, w) =>
      have hlogged : (r.logged driver).probe s =
          (.ok infos, w, s.2 ++ [.probed driver (.ok infos)]) := by
        simp only [logged, Eff.logging, hp]
      rw [hlogged]
      dsimp only
      obtain ⟨calls, hcalls, hprobed⟩ := ih ((infos.map (Found.mk driver)).foldl add found)
        (w, s.2 ++ [.probed driver (.ok infos)])
      refine ⟨.probed driver (.ok infos) :: calls, ?_, ?_⟩
      · rw [hcalls, List.append_assoc]
        rfl
      · match hr : (r.logged.probeFrom rest ((infos.map (Found.mk driver)).foldl add found)
          (w, s.2 ++ [.probed driver (.ok infos)])).1 with
        | .ok found' =>
          rw [hr] at hprobed ⊢
          obtain ⟨hfound, hasked⟩ := hprobed
          refine ⟨?_, .cons ⟨infos, rfl⟩ hasked⟩
          rw [hfound, List.flatMap_cons, List.foldl_append]
          rfl
        | .error e =>
          rw [hr] at hprobed ⊢
          obtain ⟨before, driver', after, calls', rfl, hasked, rfl⟩ := hprobed
          exact ⟨driver :: before, driver', after, _, rfl, .cons ⟨infos, rfl⟩ hasked, rfl⟩

theorem probe_logs (r : Registry n ω τ) (s : ω × List (Event n τ)) :
    ∃ calls, (r.logged.probe s).2.2 = s.2 ++ calls ∧
      Probed (List.finRange n) [] (r.logged.probe s).1 calls :=
  probeFrom_logs r _ _ s

end Registry

end Tunelith.Drivers

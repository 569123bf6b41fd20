import Tunelith.Core.Registry

/-!
# Tuning without the daemon

`open_tuner` looks for a tuner in all devices, and passes over what cannot be opened.

* `openTuner_logs` — every call made on the way, and what it comes to.
* `opens_the_first` — the tuner opened is the first of those asked for that can be, and no other one
  is left open.
-/

namespace Tunelith.Cli

open Drivers

variable {n : Nat} {ω τ : Type} (id : Option String) (system : System)

/-- Goes on with the last reason if the tuner is not asked for, or cannot be opened. -/
def tryTuner (device : Device ω τ) (tuner : TunerInfo × Nat) (last : Option String) :
    Eff String ω (τ ⊕ Option String) :=
  match id with
  | some id =>
    if id = tuner.1.id then do
      let opened ← Eff.mapError Error.toString (device.openTuner tuner.2)
      return .inl opened
    else return .inr last
  | none =>
    if system ∈ tuner.1.systems then do
      match ← Eff.attempt (device.openTuner tuner.2) with
      | .ok opened => return .inl opened
      | .error e => return .inr (some (tuner.1.id ++ ": " ++ e.toString))
    else return .inr last

def tryDevice (r : Registry n ω τ) (found : Found n) (last : Option String) :
    Eff String ω (τ ⊕ Option String) := do
  match ← Eff.attempt (r.openDevice found) with
  | .error e => return .inr (some (found.info.id ++ ": " ++ e.toString))
  | .ok device => Eff.firstOf (tryTuner id system device) device.tuners.zipIdx last

def message : String :=
  match id with
  | some id => "no such tuner: " ++ id
  | none => "no free tuner receives " ++ system.debug

/-- Opens the tuner asked for, or else the first free one receiving the system. A device or a tuner
that cannot be opened is passed over; the last reason is told if none can. -/
def openTuner (r : Registry n ω τ) : Eff String ω τ := do
  let found ← Eff.mapError Error.toString r.probe
  match ← Eff.firstOf (tryDevice id system r) found none with
  | .inl tuner => return tuner
  | .inr (some e) => Eff.throw (message id system ++ " (last: " ++ e ++ ")")
  | .inr none => Eff.throw (message id system)

/-! ## What is passed over, and what is the end -/

/-- The tuner is the one asked for, or one that receives the system. -/
def Wanted (info : TunerInfo) : Prop :=
  match id with
  | some id => id = info.id
  | none => system ∈ info.systems

def reason : Event n τ → Option String
  | .opened found (.error e) => some (found.info.id ++ ": " ++ e.toString)
  | .tuner _ _ id (.error e) => some (id ++ ": " ++ e.toString)
  | _ => none

def lastReason (calls : List (Event n τ)) : Option String := (calls.filterMap reason).getLast?

theorem lastReason_append (calls calls' : List (Event n τ)) :
    lastReason (calls ++ calls') = (lastReason calls').or (lastReason calls) := by
  rw [lastReason, List.filterMap_append, List.getLast?_append]
  rfl

def TunerPassed (found : Found n) (tuner : TunerInfo × Nat) (last last' : Option String)
    (calls : List (Event n τ)) : Prop :=
  last' = (lastReason calls).or last ∧
    ((¬Wanted id system tuner.1 ∧ calls = []) ∨
      id = none ∧ ∃ e, calls = [.tuner found tuner.2 tuner.1.id (.error e)])

def TunerEnds (found : Found n) (tuner : TunerInfo × Nat) (result : Except String τ)
    (calls : List (Event n τ)) : Prop :=
  Wanted id system tuner.1 ∧ ∃ called : Except Error τ, result = called.mapError Error.toString ∧
    calls = [.tuner found tuner.2 tuner.1.id called] ∧ (id = none → called.isOk)

def DevicePassed (found : Found n) (last last' : Option String) (calls : List (Event n τ)) : Prop :=
  last' = (lastReason calls).or last ∧
    ((∃ e, calls = [.opened found (.error e)]) ∨
      ∃ tuners calls', calls = .opened found (.ok tuners) :: calls' ∧
        Eff.Passed (TunerPassed id system found) tuners.zipIdx last last' calls')

def DeviceEnds (found : Found n) (result : Except String τ) (calls : List (Event n τ)) : Prop :=
  ∃ tuners last calls', calls = .opened found (.ok tuners) :: calls' ∧
    Eff.Ends (TunerPassed id system found) (TunerEnds id system found) tuners.zipIdx last result
      calls'

theorem tryTuner_logs (device : Device ω τ) (found : Found n) (tuner : TunerInfo × Nat)
    (ht : tuner ∈ device.tuners.zipIdx) (last : Option String) (s : ω × List (Event n τ)) :
    ∃ calls, (tryTuner id system (device.logged found) tuner last s).2.2 = s.2 ++ calls ∧
      Eff.Logs (TunerPassed id system found tuner) (TunerEnds id system found tuner) last
        (tryTuner id system (device.logged found) tuner last s).1 calls := by
  have hrun : (device.logged found).openTuner tuner.2 s = ((device.openTuner tuner.2 s.1).1,
      (device.openTuner tuner.2 s.1).2,
      s.2 ++ [.tuner found tuner.2 tuner.1.id (device.openTuner tuner.2 s.1).1]) := by
    have hid : (device.tuners[tuner.2]?.map (·.id)).getD "" = tuner.1.id := by
      rw [List.mem_zipIdx_iff_getElem?.1 ht]
      rfl
    simp only [Device.logged, Eff.logging, hid]
  unfold tryTuner
  cases id with
  | some id =>
    dsimp only
    split
    case isTrue hid =>
      rw [Eff.bind_apply, Eff.mapError_apply, hrun]
      refine ⟨[.tuner found tuner.2 tuner.1.id (device.openTuner tuner.2 s.1).1], ?_, ?_⟩
      · cases (device.openTuner tuner.2 s.1).1 <;> rfl
      · cases (device.openTuner tuner.2 s.1).1 with
        | ok t => exact ⟨hid, .ok t, rfl, rfl, fun h => absurd h (Option.some_ne_none id)⟩
        | error e => exact ⟨hid, .error e, rfl, rfl, fun h => absurd h (Option.some_ne_none id)⟩
    case isFalse hid => exact ⟨[], (List.append_nil _).symm, rfl, .inl ⟨hid, rfl⟩⟩
  | none =>
    dsimp only
    split
    case isTrue hsys =>
      rw [Eff.bind_apply, Eff.attempt_apply, hrun]
      dsimp only
      cases (device.openTuner tuner.2 s.1).1 with
      | ok t => exact ⟨_, rfl, hsys, .ok t, rfl, rfl, fun _ => rfl⟩
      | error e => exact ⟨_, rfl, rfl, .inr ⟨rfl, e, rfl⟩⟩
    case isFalse hsys => exact ⟨[], (List.append_nil _).symm, rfl, .inl ⟨hsys, rfl⟩⟩

/-- What is kept is the last reason there was. -/
theorem lastReason_passed {α : Type}
    {P : α → Option String → Option String → List (Event n τ) → Prop}
    (hP : ∀ a last last' calls, P a last last' calls → last' = (lastReason calls).or last)
    {as : List α} {last last' : Option String} {calls : List (Event n τ)}
    (h : Eff.Passed P as last last' calls) : last' = (lastReason calls).or last := by
  induction h with
  | nil => rfl
  | cons h _ ih => rw [ih, hP _ _ _ _ h, lastReason_append, Option.or_assoc]

theorem tryDevice_logs (r : Registry n ω τ) (found : Found n) (last : Option String)
    (s : ω × List (Event n τ)) :
    ∃ calls, (tryDevice id system r.logged found last s).2.2 = s.2 ++ calls ∧
      Eff.Logs (DevicePassed id system found) (DeviceEnds id system found) last
        (tryDevice id system r.logged found last s).1 calls := by
  rw [tryDevice, Eff.bind_apply, Eff.attempt_apply]
  match ho : (r found.driver).openDevice found.info s.1 with
  | (.error e, w) =>
    have hrun : r.logged.openDevice found s = (.error e, w, s.2 ++ [.opened found (.error e)]) := by
      simp only [Registry.openDevice, Registry.logged, Eff.bind_apply, Eff.logging, ho]
      rfl
    rw [hrun]
    exact ⟨_, rfl, rfl, .inl ⟨e, rfl⟩⟩
  | (.ok device, w) =>
    have hrun : r.logged.openDevice found s =
        (.ok (device.logged found), w, s.2 ++ [.opened found (.ok device.tuners)]) := by
      simp only [Registry.openDevice, Registry.logged, Eff.bind_apply, Eff.logging, ho]
      rfl
    rw [hrun]
    dsimp only
    obtain ⟨calls, hcalls, hlogs⟩ := Eff.firstOf_logs
      (f := tryTuner id system (device.logged found)) device.tuners.zipIdx
      (fun t ht => tryTuner_logs id system device found t ht) last
      (w, s.2 ++ [.opened found (.ok device.tuners)])
    refine ⟨.opened found (.ok device.tuners) :: calls, ?_, ?_⟩
    · refine hcalls.trans ?_
      rw [List.append_assoc]
      rfl
    · have hdevice : ∀ result : Except String (τ ⊕ Option String),
          Eff.Logs (Eff.Passed (TunerPassed id system found) device.tuners.zipIdx)
            (Eff.Ends (TunerPassed id system found) (TunerEnds id system found)
              device.tuners.zipIdx last) last result calls →
          Eff.Logs (DevicePassed id system found) (DeviceEnds id system found) last result
            (.opened found (.ok device.tuners) :: calls) := by
        intro result h
        rcases result with e | t | last'
        · exact ⟨_, _, _, rfl, h⟩
        · exact ⟨_, _, _, rfl, h⟩
        · have hlast : last' = (lastReason calls).or last :=
            lastReason_passed (fun _ _ _ _ h => h.1) h
          exact ⟨hlast, .inr ⟨_, _, rfl, h⟩⟩
      exact hdevice _ hlogs

/-- What is told if no tuner can be opened. -/
def told : Option String → String
  | some e => message id system ++ " (last: " ++ e ++ ")"
  | none => message id system

theorem openTuner_logs (r : Registry n ω τ) (s : ω × List (Event n τ)) : ∃ probes tries,
    (openTuner id system r.logged s).2.2 = s.2 ++ (probes ++ tries) ∧
      ((∃ e, Registry.Probed (List.finRange n) [] (.error e) probes ∧ tries = [] ∧
        (openTuner id system r.logged s).1 = .error e.toString) ∨
      ∃ found, Registry.Probed (List.finRange n) [] (.ok found) probes ∧
        ((∃ last, Eff.Passed (DevicePassed id system) found none last tries ∧
          (openTuner id system r.logged s).1 = .error (told id system last)) ∨
        Eff.Ends (DevicePassed id system) (DeviceEnds id system) found none
          (openTuner id system r.logged s).1 tries)) := by
  obtain ⟨probes, hprobes, hprobed⟩ := r.probe_logs s
  rw [openTuner, Eff.bind_apply, Eff.mapError_apply]
  match hp : r.logged.probe s with
  | (.error e, s') =>
    rw [hp] at hprobes hprobed
    exact ⟨probes, [], by rw [List.append_nil]; exact hprobes, .inl ⟨e, hprobed, rfl, rfl⟩⟩
  | (.ok found, s') =>
    rw [hp] at hprobes hprobed
    dsimp only [Except.mapError]
    obtain ⟨tries, htries, hlogs⟩ := Eff.firstOf_logs (f := tryDevice id system r.logged) found
      (fun f _ => tryDevice_logs id system r f) none s'
    have hcalls : (Eff.firstOf (tryDevice id system r.logged) found none s').2.2 =
        s.2 ++ (probes ++ tries) := by
      rw [htries, ← List.append_assoc]
      exact congrArg (· ++ tries) hprobes
    rw [Eff.bind_apply]
    match hf : Eff.firstOf (tryDevice id system r.logged) found none s' with
    | (.error e, s'') =>
      rw [hf] at hcalls hlogs
      exact ⟨probes, tries, hcalls, .inr ⟨found, hprobed, .inr hlogs⟩⟩
    | (.ok (.inl t), s'') =>
      rw [hf] at hcalls hlogs
      exact ⟨probes, tries, hcalls, .inr ⟨found, hprobed, .inr hlogs⟩⟩
    | (.ok (.inr none), s'') =>
      rw [hf] at hcalls hlogs
      exact ⟨probes, tries, hcalls, .inr ⟨found, hprobed, .inl ⟨none, hlogs, rfl⟩⟩⟩
    | (.ok (.inr (some e)), s'') =>
      rw [hf] at hcalls hlogs
      exact ⟨probes, tries, hcalls, .inr ⟨found, hprobed, .inl ⟨some e, hlogs, rfl⟩⟩⟩

/-! ## What it comes to -/

/-- No tuner was opened by any of the calls. -/
def NoneOpen (calls : List (Event n τ)) : Prop :=
  ∀ found index id t, .tuner found index id (.ok t) ∉ calls

/-- A tuner could not be opened, or was not asked for. -/
def TunerRefused (found : Found n) (info : TunerInfo) (index : Nat) (calls : List (Event n τ)) :
    Prop :=
  Wanted id system info → id = none ∧ ∃ e, .tuner found index info.id (.error e) ∈ calls

/-- The device could not be opened, or none of its tuners could that was asked for. -/
def Refused (found : Found n) (calls : List (Event n τ)) : Prop :=
  (∃ e, .opened found (.error e) ∈ calls) ∨ ∃ tuners, .opened found (.ok tuners) ∈ calls ∧
    ∀ info index, (info, index) ∈ tuners.zipIdx → TunerRefused id system found info index calls

section

variable {id system} {found : Found n} {calls calls' : List (Event n τ)}

theorem TunerRefused.mono {info : TunerInfo} {index : Nat}
    (h : TunerRefused id system found info index calls) (hsub : ∀ x ∈ calls, x ∈ calls') :
    TunerRefused id system found info index calls' := by
  intro hwanted
  obtain ⟨hid, e, he⟩ := h hwanted
  exact ⟨hid, e, hsub _ he⟩

theorem Refused.mono (h : Refused id system found calls) (hsub : ∀ x ∈ calls, x ∈ calls') :
    Refused id system found calls' := by
  rcases h with ⟨e, he⟩ | ⟨tuners, ht, hall⟩
  · exact .inl ⟨e, hsub _ he⟩
  · exact .inr ⟨tuners, hsub _ ht, fun info index hmem => (hall info index hmem).mono hsub⟩

theorem refused_of_passed {tuners : List (TunerInfo × Nat)} {last last' : Option String}
    (h : Eff.Passed (TunerPassed id system found) tuners last last' calls) {info : TunerInfo}
    {index : Nat} (hmem : (info, index) ∈ tuners) :
    TunerRefused id system found info index calls := by
  intro hwanted
  obtain ⟨_, _, m, ⟨-, htuner⟩, hm⟩ := h.of_mem hmem
  rcases htuner with ⟨hnot, -⟩ | ⟨hid, e, rfl⟩
  · exact absurd hwanted hnot
  · exact ⟨hid, e, hm _ (List.mem_singleton.2 rfl)⟩

theorem noneOpen_of_tuners {tuners : List (TunerInfo × Nat)} {last last' : Option String}
    (h : Eff.Passed (TunerPassed id system found) tuners last last' calls) : NoneOpen calls := by
  intro f index called t ht
  obtain ⟨_, -, _, _, m, ⟨-, htuner⟩, hm⟩ := h.of_logged ht
  rcases htuner with ⟨-, rfl⟩ | ⟨-, e, rfl⟩
  · cases hm
  · cases List.mem_singleton.1 hm

theorem refused_of_devices {founds : List (Found n)} {last last' : Option String}
    (h : Eff.Passed (DevicePassed id system) founds last last' calls) (hmem : found ∈ founds) :
    Refused id system found calls := by
  obtain ⟨_, _, m, ⟨-, hdevice⟩, hm⟩ := h.of_mem hmem
  refine Refused.mono ?_ hm
  rcases hdevice with ⟨e, rfl⟩ | ⟨tuners, m', rfl, htuners⟩
  · exact .inl ⟨e, List.mem_singleton.2 rfl⟩
  · refine .inr ⟨tuners, List.mem_cons_self, fun info index hmem => ?_⟩
    exact (refused_of_passed htuners hmem).mono fun x hx => List.mem_cons_of_mem _ hx

theorem noneOpen_of_devices {founds : List (Found n)} {last last' : Option String}
    (h : Eff.Passed (DevicePassed id system) founds last last' calls) : NoneOpen calls := by
  intro f index called t ht
  obtain ⟨_, -, _, _, m, ⟨-, hdevice⟩, hm⟩ := h.of_logged ht
  rcases hdevice with ⟨e, rfl⟩ | ⟨tuners, m', rfl, htuners⟩
  · cases List.mem_singleton.1 hm
  · rcases List.mem_cons.1 hm with hm | hm
    · cases hm
    · exact noneOpen_of_tuners htuners f index called t hm

end

/-- The devices before are gone through in their order, then the device is opened, and then its
tuners before are gone through in theirs. -/
def InOrder (before : List (Found n)) (found : Found n) (tuners : List TunerInfo)
    (earlier : List (TunerInfo × Nat)) (calls : List (Event n τ)) : Prop :=
  ∃ last last₁ last₂ devices others, calls = devices ++ .opened found (.ok tuners) :: others ∧
    Eff.Passed (DevicePassed id system) before none last devices ∧
    Eff.Passed (TunerPassed id system found) earlier last₁ last₂ others

/-- A tuner is opened, or not, after all that go before were refused in their order. -/
def Sought (founds : List (Found n)) (result : Except String τ) (tries : List (Event n τ)) : Prop :=
  (∃ before found after tuners earlier info index later called refused,
    founds = before ++ found :: after ∧ tuners.zipIdx = earlier ++ (info, index) :: later ∧
      Wanted id system info ∧ tries = refused ++ [.tuner found index info.id called] ∧
      result = called.mapError Error.toString ∧ (id = none → called.isOk) ∧ NoneOpen refused ∧
      InOrder id system before found tuners earlier refused ∧
      (∀ f ∈ before, Refused id system f refused) ∧
      ∀ info' index', (info', index') ∈ earlier →
        TunerRefused id system found info' index' refused) ∨
  Eff.Passed (DevicePassed id system) founds none (lastReason tries) tries ∧
    (∀ f ∈ founds, Refused id system f tries) ∧ NoneOpen tries ∧
    result = .error (told id system (lastReason tries))

/-- **The tuner opened is the first that can be, and no other one is left open.** The drivers are
asked once each, and what they report first under an id is gone through in order. -/
theorem opens_the_first (r : Registry n ω τ) (w : ω) : ∃ probes tries,
    (openTuner id system r.logged (w, [])).2.2 = probes ++ tries ∧
      ((∃ e, Registry.Probed (List.finRange n) [] (.error e) probes ∧ tries = [] ∧
        (openTuner id system r.logged (w, [])).1 = .error e.toString) ∨
      ∃ founds, Registry.Firsts (probes.flatMap Registry.reports) founds ∧
        Registry.Probed (List.finRange n) [] (.ok founds) probes ∧
        Sought id system founds (openTuner id system r.logged (w, [])).1 tries) := by
  obtain ⟨probes, tries, hcalls, hresult⟩ := openTuner_logs id system r (w, [])
  refine ⟨probes, tries, hcalls, ?_⟩
  rcases hresult with hfailed | ⟨founds, hprobed, hresult⟩
  · exact .inl hfailed
  have hfirsts : Registry.Firsts (probes.flatMap Registry.reports) founds :=
    hprobed.1 ▸ Registry.firsts_collect _
  rcases hresult with hpassed | hends
  · obtain ⟨last, hpassed, hresult⟩ := hpassed
    have hlast : last = lastReason tries :=
      (lastReason_passed (fun _ _ _ _ h => h.1) hpassed).trans Option.or_none
    subst hlast
    exact .inr ⟨founds, hfirsts, hprobed, .inr ⟨hpassed, fun f hf => refused_of_devices hpassed hf,
      noneOpen_of_devices hpassed, hresult⟩⟩
  · refine .inr ⟨founds, hfirsts, hprobed, .inl ?_⟩
    obtain ⟨before, found, after, _, n₁, n₂, hfounds, rfl, hpassed, tuners, _, m, rfl, hdevice⟩ :=
      hends
    obtain ⟨earlier, ⟨info, index⟩, later, _, m₁, m₂, htuners, rfl, hearlier, hwanted, called,
      hresult, rfl, hok⟩ := hdevice
    refine ⟨before, found, after, tuners, earlier, info, index, later, called,
      n₁ ++ .opened found (.ok tuners) :: m₁, hfounds, htuners, hwanted, ?_, hresult, hok, ?_,
      ⟨_, _, _, n₁, m₁, rfl, hpassed, hearlier⟩, fun f hf => ?_, fun info' index' hmem => ?_⟩
    · rw [List.append_assoc, List.cons_append]
    · intro f i called t ht
      rcases List.mem_append.1 ht with ht | ht
      · exact noneOpen_of_devices hpassed f i called t ht
      · rcases List.mem_cons.1 ht with ht | ht
        · cases ht
        · exact noneOpen_of_tuners hearlier f i called t ht
    · exact (refused_of_devices hpassed hf).mono fun x hx => List.mem_append_left _ hx
    · exact (refused_of_passed hearlier hmem).mono fun x hx =>
        List.mem_append_right _ (List.mem_cons_of_mem _ hx)

end Tunelith.Cli

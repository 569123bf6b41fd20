import Tunelith.Joint.Serving
import Tunelith.Lib.Utf16

/-!
# The configuration of the BonDriver

A TOML file has the tuning spaces and their channels. What the reader of TOML makes of a text is a
parameter; what the driver makes of that is here, and what the host is shown of it.

* `load_eq` — the spaces and channels as they stand in the file, unless one does not go together.
* `lists_what_it_tunes` — the host is shown the names of the file, and a channel is tuned to what
  stands beside its name.
-/

namespace Tunelith.Bondriver

/-! ## The file -/

inductive SystemName
  | isdbT
  | isdbS
  | isdbS3

inductive PolarizationName
  | right
  | left

structure ChannelEntry where
  name : String
  /-- In kHz; for a satellite, before the LNB converts it. -/
  frequency : UInt32
  streamId : Option UInt16 := none
  polarization : Option PolarizationName := none

structure SpaceEntry where
  name : String
  system : SystemName
  channel : List ChannelEntry := []

structure File where
  socket : Option String := none
  lnb : Bool := false
  space : List SpaceEntry := []

/-! ## What is made of it -/

structure Channel where
  name : List UInt16
  params : TuneParams

/-- The names are NUL-terminated UTF-16, as the host takes them. -/
structure Space where
  name : List UInt16
  channels : List Channel

structure Config where
  /-- The socket of tunelithd; that of the user's or the system's if `none`. -/
  socket : Option String
  /-- Powers the LNB of the antenna. -/
  lnb : Bool
  spaces : List Space

def wide (s : String) : List UInt16 := Utf16.encode s.toList ++ [0]

def SystemName.system : SystemName → System
  | isdbT => .isdbT
  | isdbS => .isdbS
  | isdbS3 => .isdbS3

def PolarizationName.polarization : PolarizationName → Polarization
  | right => .right
  | left => .left

namespace SpaceEntry

def params (space : SpaceEntry) (channel : ChannelEntry) : TuneParams where
  system := space.system.system
  frequencyKhz := channel.frequency
  streamId := channel.streamId.map .mk
  polarization := channel.polarization.map (·.polarization)

def parseChannel (space : SpaceEntry) (channel : ChannelEntry) : Except String Channel := do
  let params := space.params channel
  params.validate.mapError fun e => space.name ++ " / " ++ channel.name ++ ": " ++ e.toString
  return ⟨wide channel.name, params⟩

def parse (space : SpaceEntry) : Except String Space := do
  let channels ← space.channel.mapM space.parseChannel
  return ⟨wide space.name, channels⟩

end SpaceEntry

section

variable {ι ε : Type} [ToString ι] [ToString ε] (readToString : String → Except ι String)
  (fromStr : String → Except ε File)

namespace Config

def parse (text : String) : Except String Config := do
  let file ← (fromStr text).mapError toString
  let spaces ← file.space.mapM (·.parse)
  return ⟨file.socket, file.lnb, spaces⟩

def load (path : String) : Except String Config := do
  let text ← (readToString path).mapError fun e => "cannot read " ++ path ++ ": " ++ toString e
  (parse fromStr text).mapError fun e => path ++ ": " ++ e

/-! ## What the host gets of it -/

variable (config : Config)

/-- The name pointed to; `none` is null. -/
def enumTuningSpace (space : UInt32) : Option (List UInt16) :=
  config.spaces[space.toNat]?.map (·.name)

def channelAt (space channel : UInt32) : Option Channel :=
  config.spaces[space.toNat]?.bind fun s => s.channels[channel.toNat]?

def enumChannelName (space channel : UInt32) : Option (List UInt16) :=
  (config.channelAt space channel).map (·.name)

/-- What `set_channel` acquires of the daemon, if the tuner is open. -/
def acquires (space channel : UInt32) : Except String (TuneParams × Client.AcquireOptions) :=
  match config.channelAt space channel with
  | none => .error "no such channel"
  | some c => .ok (c.params, { lnb := config.lnb })

end Config

/-! ## What stands in a file -/

namespace File

variable (file : File)

/-- The channels in the order they stand in, each with its space. -/
def channels : List (SpaceEntry × ChannelEntry) :=
  file.space.flatMap fun s => s.channel.map (s, ·)

def channelAt (space channel : UInt32) : Option (SpaceEntry × ChannelEntry) :=
  file.space[space.toNat]?.bind fun s => s.channel[channel.toNat]?.map (s, ·)

/-- What a file comes to if all its channels go together. -/
def config : Config where
  socket := file.socket
  lnb := file.lnb
  spaces := file.space.map fun s =>
    ⟨wide s.name, s.channel.map fun c => ⟨wide c.name, s.params c⟩⟩

end File

/-- What is read of a name: all before the first NUL of it. -/
def shown (name : String) : List Char := name.toList.takeWhile (· ≠ '\x00')

/-- The host is shown the file, and a channel is asked of the daemon as it stands there. -/
structure Lists (file : File) (config : Config) : Prop where
  spaces : ∀ space, (config.enumTuningSpace space).map Utf16.read =
    file.space[space.toNat]?.map fun s => some (shown s.name)
  channels : ∀ space channel, (config.enumChannelName space channel).map Utf16.read =
    (file.channelAt space channel).map fun p => some (shown p.2.name)
  absent : ∀ space channel, file.channelAt space channel = none →
    config.acquires space channel = .error "no such channel"
  acquired : ∀ space channel s c, file.channelAt space channel = some (s, c) →
    config.acquires space channel = .ok (s.params c, { lnb := file.lnb }) ∧
      ∃ request, Client.acquireRequest (s.params c) { lnb := file.lnb } = .ok request ∧
        Tunelithd.acquireParams request = .ok (s.params c).normalized

/-! ## Loading -/

/-- Each of a list is made something of, unless there is something against one of them. -/
theorem mapM_of_against {α β : Type} {f : α → Except String β} {against : α → Option String}
    {g : α → β} (h : ∀ a, f a = (against a).elim (.ok (g a)) .error) (l : List α) :
    l.mapM f = (l.findSome? against).elim (.ok (l.map g)) .error := by
  induction l with
  | nil => rfl
  | cons a l ih =>
    rw [List.mapM_cons, h, ih, List.findSome?_cons]
    cases against a with
    | some e => rfl
    | none => cases l.findSome? against <;> rfl

namespace SpaceEntry

/-- What is said against a channel of a space. -/
def against (space : SpaceEntry) (channel : ChannelEntry) : Option String :=
  match (space.params channel).validate with
  | .ok _ => none
  | .error e => some (space.name ++ " / " ++ channel.name ++ ": " ++ e.toString)

theorem parseChannel_eq (space : SpaceEntry) (channel : ChannelEntry) :
    space.parseChannel channel = (space.against channel).elim
      (.ok ⟨wide channel.name, space.params channel⟩) .error := by
  unfold parseChannel against
  dsimp only
  cases (space.params channel).validate <;> rfl

theorem parse_eq (space : SpaceEntry) :
    space.parse = (space.channel.findSome? space.against).elim
      (.ok ⟨wide space.name, space.channel.map fun c => ⟨wide c.name, space.params c⟩⟩)
      .error := by
  rw [parse, mapM_of_against space.parseChannel_eq]
  cases space.channel.findSome? space.against <;> rfl

end SpaceEntry

theorem findSome?_channels (file : File) :
    file.channels.findSome? (fun p => p.1.against p.2) =
      file.space.findSome? fun s => s.channel.findSome? s.against := by
  unfold File.channels
  induction file.space with
  | nil => rfl
  | cons s rest ih =>
    rw [List.flatMap_cons, List.findSome?_append, List.findSome?_map, ih, List.findSome?_cons]
    cases h : s.channel.findSome? s.against <;> simp [Function.comp_def, h]

variable {readToString fromStr} {path text : String} {file : File}

theorem load_eq (hread : readToString path = .ok text) (hfile : fromStr text = .ok file) :
    Config.load readToString fromStr path =
      (file.channels.findSome? fun p => p.1.against p.2).elim (.ok file.config)
        fun e => .error (path ++ ": " ++ e) := by
  have hparse : Config.parse fromStr text = (file.channels.findSome? fun p => p.1.against p.2).elim
      (.ok file.config) .error := by
    rw [Config.parse, hfile, findSome?_channels]
    change (file.space.mapM SpaceEntry.parse >>= fun spaces =>
      pure (Config.mk file.socket file.lnb spaces)) = _
    rw [mapM_of_against SpaceEntry.parse_eq]
    cases file.space.findSome? fun s => s.channel.findSome? s.against <;> rfl
  rw [Config.load, hread]
  refine (congrArg (Except.mapError _) hparse).trans ?_
  cases file.channels.findSome? fun p => p.1.against p.2 <;> rfl

/-! ## What is listed -/

theorem channelAt_config (file : File) (space channel : UInt32) :
    file.config.channelAt space channel = (file.channelAt space channel).map fun p =>
      ⟨wide p.2.name, p.1.params p.2⟩ := by
  rw [Config.channelAt, File.config, List.getElem?_map, File.channelAt]
  cases file.space[space.toNat]? with
  | none => rfl
  | some s => simp [Function.comp_def]

theorem mem_of_channelAt {space channel : UInt32} {p : SpaceEntry × ChannelEntry}
    (h : file.channelAt space channel = some p) : p ∈ file.channels := by
  obtain ⟨s, hs, hp⟩ := Option.bind_eq_some_iff.1 h
  obtain ⟨c, hc, rfl⟩ := Option.map_eq_some_iff.1 hp
  refine List.mem_flatMap.2 ⟨s, List.mem_of_getElem? hs, List.mem_map.2 ⟨c, ?_, rfl⟩⟩
  exact List.mem_of_getElem? hc

theorem valid_of_against {s : SpaceEntry} {c : ChannelEntry} (h : s.against c = none) :
    (s.params c).validate = .ok () := by
  unfold SpaceEntry.against at h
  cases hv : (s.params c).validate with
  | ok _ => rfl
  | error e =>
    rw [hv] at h
    cases h

theorem lists_config (hvalid : ∀ p ∈ file.channels, (p.1.params p.2).validate = .ok ()) :
    Lists file file.config where
  spaces space := by
    rw [Config.enumTuningSpace, File.config, List.getElem?_map, Option.map_map, Option.map_map]
    exact congrArg (Option.map · _) (funext fun s => Utf16.read_encode s.name.toList)
  channels space channel := by
    rw [Config.enumChannelName, channelAt_config, Option.map_map, Option.map_map]
    exact congrArg (Option.map · _) (funext fun p => Utf16.read_encode p.2.name.toList)
  absent space channel h := by
    rw [Config.acquires, channelAt_config, h]
    rfl
  acquired space channel s c h := by
    have hacquires : file.config.acquires space channel =
        .ok (s.params c, { lnb := file.lnb }) := by
      rw [Config.acquires, channelAt_config, h]
      rfl
    have hrequest : Client.acquireRequest (s.params c) { lnb := file.lnb } =
        .ok ⟨some (Proto.ofTuneParams (s.params c)), "", file.lnb⟩ := by
      rw [Client.acquireRequest, hvalid _ (mem_of_channelAt h)]
      rfl
    exact ⟨hacquires, _, hrequest, (Joint.acquireParams_of_acquireRequest hrequest).1⟩

/-- **What a host is shown is what it tunes to.** Either every channel of a file goes together, and
the host is shown all of them and asks the daemon for what stands there; or the first that does not
is what loading ends with. -/
theorem lists_what_it_tunes (hread : readToString path = .ok text)
    (hfile : fromStr text = .ok file) :
    (∃ config, Config.load readToString fromStr path = .ok config ∧ Lists file config ∧
      ∀ p ∈ file.channels, (p.1.params p.2).validate = .ok ()) ∨
    ∃ before s c after e, file.channels = before ++ (s, c) :: after ∧
      (∀ p ∈ before, (p.1.params p.2).validate = .ok ()) ∧ (s.params c).validate = .error e ∧
      Config.load readToString fromStr path =
        .error (path ++ ": " ++ (s.name ++ " / " ++ c.name ++ ": " ++ e.toString)) := by
  have hload := load_eq hread hfile
  cases hagainst : file.channels.findSome? fun p => p.1.against p.2 with
  | none =>
    rw [hagainst] at hload
    have hvalid : ∀ p ∈ file.channels, (p.1.params p.2).validate = .ok () := fun p hp =>
      valid_of_against (List.findSome?_eq_none_iff.1 hagainst p hp)
    exact .inl ⟨file.config, hload, lists_config hvalid, hvalid⟩
  | some what =>
    rw [hagainst] at hload
    obtain ⟨before, ⟨s, c⟩, after, hchannels, hwhat, hbefore⟩ :=
      List.findSome?_eq_some_iff.1 hagainst
    refine .inr ⟨before, s, c, after, ?_⟩
    have hvalid : ∀ p ∈ before, (p.1.params p.2).validate = .ok () := fun p hp =>
      valid_of_against (hbefore p hp)
    unfold SpaceEntry.against at hwhat
    cases hv : (s.params c).validate with
    | ok _ =>
      rw [hv] at hwhat
      cases hwhat
    | error e =>
      rw [hv] at hwhat
      obtain rfl := Option.some.inj hwhat
      exact ⟨e, hchannels, hvalid, rfl, hload⟩

end

/-! A file of a space of each kind. -/

def uhfBs : String :=
  "lnb = true\n" ++
  "[[space]]\nname = \"UHF\"\nsystem = \"isdb-t\"\n" ++
  "[[space.channel]]\nname = \"13ch\"\nfrequency = 473143\n" ++
  "[[space]]\nname = \"BS\"\nsystem = \"isdb-s\"\n" ++
  "[[space.channel]]\nname = \"BS01/TS0\"\nfrequency = 11727480\nstream_id = 0x4010\n"

def uhfBsFile : File where
  lnb := true
  space := [⟨"UHF", .isdbT, [{ name := "13ch", frequency := 473143 }]⟩,
    ⟨"BS", .isdbS, [{ name := "BS01/TS0", frequency := 11727480, streamId := some 0x4010 }]⟩]

def readUhfBs (_ : String) : Except String String := .ok uhfBs

def tomlUhfBs (text : String) : Except String File :=
  if text = uhfBs then .ok uhfBsFile else .error "another file"

theorem lists_what_it_tunes_uhf_bs : ∃ config,
    Config.load readUhfBs tomlUhfBs "BonDriver_Tunelith.toml" = .ok config ∧
      Lists uhfBsFile config ∧ (config.enumChannelName 1 0).map Utf16.read =
        some (some ['B', 'S', '0', '1', '/', 'T', 'S', '0']) := by
  have hread : readUhfBs "BonDriver_Tunelith.toml" = .ok uhfBs := rfl
  have hfile : tomlUhfBs uhfBs = .ok uhfBsFile := by rw [tomlUhfBs, if_pos rfl]
  rcases lists_what_it_tunes hread hfile with ⟨config, hload, hlists, -⟩ |
    ⟨before, s, c, after, e, hchannels, -, hinvalid, -⟩
  · exact ⟨config, hload, hlists, hlists.channels 1 0⟩
  · have hmem : (s, c) ∈ uhfBsFile.channels := hchannels ▸ by simp
    rcases List.mem_pair.1 hmem with h | h
    · cases h
      cases hinvalid
    · cases h
      cases hinvalid

end Tunelith.Bondriver

import Tunelith.Lib.Longest
import Tunelith.Px4.Control

/-!
# The firmware

The firmware is a run of blocks: 0x03, two bytes, the number of segments, then three bytes per
segment, the last of them its length, then the data of the segments. `loadFirmware` cuts it into
blocks, and writes them one after the other.

* `nextBlock_of_isBlock`, `nextBlock_ok` — what is cut off is a block, and every block is.
* `loadFirmware_blocks` — what is written is the longest run of blocks that fit a message, and the
  bridge is booted if nothing is left.
-/

namespace Tunelith.Px4

/-- The length of the data of so many segments, a length that is missing counting as 0. -/
def dataOf (rest : List UInt8) (segments : Nat) : Nat :=
  ((List.range segments).map fun i => (rest[6 + i * 3]?.map UInt8.toNat).getD 0).sum

/-- The block the firmware begins with, and what follows. -/
def nextBlock (rest : List UInt8) : Except Halt (List UInt8 × List UInt8) := do
  if (← index rest 0) ≠ 0x03 ∨ rest.length < 4 then .error (.own "invalid firmware block")
  else
    let segments := (← index rest 3).toNat
    let header := 4 + segments * 3
    let data := dataOf rest segments
    if rest.length < header + data then .error (.own "truncated firmware block")
    else .ok (rest.splitAt (header + data))

/-! ## Blocks -/

abbrev Segment : Type := UInt8 × UInt8 × UInt8

def Segment.bytes (t : Segment) : List UInt8 := [t.1, t.2.1, t.2.2]

/-- The data of so many segments. -/
def dataLength (segments : List Segment) : Nat := (segments.map fun t => t.2.2.toNat).sum

/-- A block, whole. -/
def IsBlock (block : List UInt8) : Prop :=
  ∃ x y n, ∃ segments : List Segment, ∃ data,
    block = 3 :: x :: y :: n :: segments.flatMap Segment.bytes ++ data ∧
    segments.length = n.toNat ∧ data.length = dataLength segments

theorem length_flatMap_bytes (segments : List Segment) :
    (segments.flatMap Segment.bytes).length = segments.length * 3 := by
  induction segments with
  | nil => rfl
  | cons t segments ih =>
    rw [List.flatMap_cons, List.length_append, ih, List.length_cons]
    show 3 + _ = _
    omega

/-- Bytes that are enough for so many segments begin with them. -/
theorem exists_segments {n : Nat} {bytes : List UInt8} (h : n * 3 ≤ bytes.length) :
    ∃ (segments : List Segment) (data : List UInt8),
      bytes = segments.flatMap Segment.bytes ++ data ∧ segments.length = n := by
  induction n generalizing bytes with
  | zero => exact ⟨[], bytes, rfl, rfl⟩
  | succ n ih =>
    obtain ⟨a, b, c, bytes, rfl⟩ : ∃ a b c bytes', bytes = a :: b :: c :: bytes' := by
      match bytes with
      | a :: b :: c :: bytes => exact ⟨a, b, c, bytes, rfl⟩
      | [] | [_] | [_, _] =>
        simp only [List.length_cons, List.length_nil] at h
        omega
    simp only [List.length_cons] at h
    have hn : n * 3 ≤ bytes.length := by omega
    obtain ⟨segments, data, hbytes, hlen⟩ := ih hn
    refine ⟨(a, b, c) :: segments, data, ?_, congrArg (· + 1) hlen⟩
    rw [hbytes]
    rfl

/-- The third bytes are where the lengths are summed. -/
theorem sum_lengths (head : List UInt8) (segments : List Segment) (data : List UInt8) :
    ((List.range segments.length).map fun i =>
      ((head ++ (segments.flatMap Segment.bytes ++ data))[head.length + 2 + i * 3]?.map
        UInt8.toNat).getD 0).sum = dataLength segments := by
  induction segments generalizing head with
  | nil => rfl
  | cons t segments ih =>
    have hbytes : head ++ ((t :: segments).flatMap Segment.bytes ++ data) =
        (head ++ t.bytes) ++ (segments.flatMap Segment.bytes ++ data) := by
      rw [List.flatMap_cons, List.append_assoc, List.append_assoc]
    have hlen : (head ++ t.bytes).length = head.length + 3 := List.length_append
    have hrest := ih (head ++ t.bytes)
    rw [hlen] at hrest
    rw [hbytes, List.length_cons, List.range_succ_eq_map, List.map_cons, List.sum_cons,
      List.map_map]
    show _ = t.2.2.toNat + dataLength segments
    congr 1
    · have hthird : ((head ++ t.bytes) ++ (segments.flatMap Segment.bytes ++ data))[
          head.length + 2 + 0 * 3]? = some t.2.2 := by
        rw [List.getElem?_append_left (by omega), List.getElem?_append_right (by omega)]
        simp [Segment.bytes]
      rw [hthird]
      rfl
    · rw [← hrest]
      congr 1
      apply List.map_congr_left
      intro i _
      have hi : head.length + 2 + (i + 1) * 3 = head.length + 3 + 2 + i * 3 := by omega
      show ((_ : List UInt8)[head.length + 2 + (i + 1) * 3]?.map _).getD 0 = _
      rw [hi]

theorem dataOf_segments (x y n : UInt8) (segments : List Segment) (tail : List UInt8) :
    dataOf (3 :: x :: y :: n :: (segments.flatMap Segment.bytes ++ tail)) segments.length =
      dataLength segments := by
  rw [← sum_lengths [3, x, y, n] segments tail]
  exact congrArg List.sum (List.map_congr_left fun i _ => rfl)

theorem nextBlock_header (x y n : UInt8) (tail : List UInt8) :
    nextBlock (3 :: x :: y :: n :: tail) =
      if tail.length < n.toNat * 3 + dataOf (3 :: x :: y :: n :: tail) n.toNat then
        .error (.own "truncated firmware block")
      else .ok ((3 :: x :: y :: n :: tail).splitAt
        (4 + n.toNat * 3 + dataOf (3 :: x :: y :: n :: tail) n.toNat)) := by
  generalize hrest : 3 :: x :: y :: n :: tail = rest
  have hlen : rest.length = tail.length + 4 := by rw [← hrest]; rfl
  have hfirst : index rest 0 = .ok 3 := by rw [← hrest]; rfl
  have hn : index rest 3 = .ok n := by rw [← hrest]; rfl
  have hblock : ¬ ((3 : UInt8) ≠ 0x03 ∨ rest.length < 4) := by
    rw [hlen]
    simp
  have hshort : rest.length < 4 + n.toNat * 3 + dataOf rest n.toNat ↔
      tail.length < n.toNat * 3 + dataOf rest n.toNat := by omega
  rw [nextBlock, hfirst]
  show (if (3 : UInt8) ≠ 0x03 ∨ rest.length < 4 then _ else _) = _
  rw [if_neg hblock, hn]
  exact if_congr hshort rfl rfl

/-- What is made of a header with all its segments. -/
theorem nextBlock_segments (x y : UInt8) {n : UInt8} {segments : List Segment}
    (h : segments.length = n.toNat) (tail : List UInt8) :
    nextBlock (3 :: x :: y :: n :: (segments.flatMap Segment.bytes ++ tail)) =
      if tail.length < dataLength segments then .error (.own "truncated firmware block")
      else .ok (3 :: x :: y :: n :: segments.flatMap Segment.bytes ++
        tail.take (dataLength segments), tail.drop (dataLength segments)) := by
  have hlen := length_flatMap_bytes segments
  rw [nextBlock_header, ← h, dataOf_segments]
  generalize segments.flatMap Segment.bytes = bytes at hlen ⊢
  have hshort : (bytes ++ tail).length < segments.length * 3 + dataLength segments ↔
      tail.length < dataLength segments := by
    rw [List.length_append]
    omega
  have hhead : (3 :: x :: y :: n :: bytes).length = 4 + segments.length * 3 := by
    simp only [List.length_cons, hlen]
    omega
  apply if_congr hshort rfl
  rw [← hhead, List.splitAt_eq]
  show Except.ok (((3 :: x :: y :: n :: bytes) ++ tail).take _,
    ((3 :: x :: y :: n :: bytes) ++ tail).drop _) = _
  rw [List.take_length_add_append, List.drop_length_add_append]

/-- A block is cut off what it begins. -/
theorem nextBlock_of_isBlock {block : List UInt8} (h : IsBlock block) (next : List UInt8) :
    nextBlock (block ++ next) = .ok (block, next) := by
  obtain ⟨x, y, n, segments, data, rfl, hn, hdata⟩ := h
  have heq : 3 :: x :: y :: n :: segments.flatMap Segment.bytes ++ data ++ next =
      3 :: x :: y :: n :: (segments.flatMap Segment.bytes ++ (data ++ next)) := by simp
  rw [heq, nextBlock_segments x y hn, if_neg (by simp [hdata]), ← hdata, List.take_left,
    List.drop_left]

theorem nextBlock_invalid {c : UInt8} {rest : List UInt8} (h : c ≠ 3 ∨ (c :: rest).length < 4) :
    nextBlock (c :: rest) = .error (.own "invalid firmware block") := if_pos h

/-- Bytes are refused, or begin with a block, which is cut off. -/
theorem nextBlock_cases {rest : List UInt8} (h : rest ≠ []) :
    (∃ e, nextBlock rest = .error (.err e)) ∨
      ∃ block next, nextBlock rest = .ok (block, next) ∧ IsBlock block ∧ block ++ next = rest := by
  obtain ⟨c, rest, rfl⟩ := List.exists_cons_of_ne_nil h
  by_cases hblock : c ≠ 3 ∨ (c :: rest).length < 4
  · exact .inl ⟨_, nextBlock_invalid hblock⟩
  rw [not_or, not_not] at hblock
  obtain ⟨rfl, hlen⟩ := hblock
  obtain ⟨x, y, n, tail, rfl⟩ : ∃ x y n tail, rest = x :: y :: n :: tail := by
    match rest with
    | x :: y :: n :: tail => exact ⟨x, y, n, tail, rfl⟩
    | [] | [_] | [_, _] =>
      simp only [List.length_cons, List.length_nil] at hlen
      omega
  by_cases hheader : n.toNat * 3 ≤ tail.length
  · obtain ⟨segments, tail, rfl, hn⟩ := exists_segments hheader
    rw [nextBlock_segments x y hn]
    by_cases hdata : tail.length < dataLength segments
    · exact .inl ⟨_, if_pos hdata⟩
    · refine .inr ⟨_, _, if_neg hdata, ⟨x, y, n, segments, _, rfl, hn, ?_⟩, ?_⟩
      · exact List.length_take_of_le (Nat.le_of_not_lt hdata)
      · simp
  · left
    rw [nextBlock_header, if_pos (by omega)]
    exact ⟨_, rfl⟩

/-- No block begins with another. -/
theorem delimits_isBlock : Longest.Delimits IsBlock := by
  intro b c x y hb hc heq
  have h := nextBlock_of_isBlock hb x
  rw [heq, nextBlock_of_isBlock hc y] at h
  exact (congrArg Prod.fst (Except.ok.inj h)).symm

theorem IsBlock.ne_nil {block : List UInt8} (h : IsBlock block) : block ≠ [] := by
  obtain ⟨x, y, n, segments, data, rfl, -⟩ := h
  exact List.cons_ne_nil _ _

/-- What is left after a block is shorter. -/
theorem nextBlock_shorter {rest block next : List UInt8} (hrest : rest ≠ [])
    (h : nextBlock rest = .ok (block, next)) : next.length < rest.length := by
  obtain ⟨e, he⟩ | ⟨block', next', heq, hblock, rfl⟩ := nextBlock_cases hrest
  · rw [he] at h
    exact absurd h nofun
  · rw [heq] at h
    cases h
    have := List.length_pos_iff.2 hblock.ne_nil
    rw [List.length_append]
    omega

/-! ## Loading -/

namespace It930x

variable {ω : Type} (usb : Usb ω)

/-- The loop of `load_firmware`, which ends as what is left gets shorter. -/
def writeBlocks (rest : List UInt8) : Eff Halt (It930x × ω) Unit :=
  if _hrest : rest = [] then pure ()
  else
    match _h : nextBlock rest with
    | .error e => Eff.throw e
    | .ok (block, next) => do
      let _ ← ctrl usb CMD_FW_SCATTER_WRITE block
      writeBlocks next
termination_by rest.length
decreasing_by exact nextBlock_shorter _hrest _h

theorem writeBlocks_nil : writeBlocks usb [] = pure () := by
  rw [writeBlocks, dif_pos rfl]

theorem writeBlocks_error {rest : List UInt8} {e : Halt} (hrest : rest ≠ [])
    (h : nextBlock rest = .error e) : writeBlocks usb rest = Eff.throw e := by
  rw [writeBlocks, dif_neg hrest]
  split
  · next h' =>
    rw [h] at h'
    cases h'
    rfl
  · next h' =>
    rw [h] at h'
    exact absurd h' nofun

theorem writeBlocks_ok {rest block next : List UInt8} (hrest : rest ≠ [])
    (h : nextBlock rest = .ok (block, next)) :
    writeBlocks usb rest =
      ctrl usb CMD_FW_SCATTER_WRITE block >>= fun _ => writeBlocks usb next := by
  rw [writeBlocks, dif_neg hrest]
  split
  · next h' =>
    rw [h] at h'
    exact absurd h' nofun
  · next h' =>
    rw [h] at h'
    cases h'
    rfl

/-- Loads the firmware unless the bridge has one running. -/
def loadFirmware (firmware : List UInt8) : Eff Halt (It930x × ω) Unit := do
  let version ← firmwareVersion usb
  if version ≠ 0 then return ()
  else
    writeReg usb 0xf103 I2C_SPEED
    writeBlocks usb firmware
    let _ ← ctrl usb CMD_BOOT []
    let version ← firmwareVersion usb
    Eff.require (version ≠ 0) (.own "the firmware did not boot")

/-! ## What is sent -/

/-- What went out, and where. -/
def outs (log : List Traffic) : List (UInt8 × List UInt8) :=
  log.filterMap fun
    | .sent ep data => some (ep, data)
    | .received _ _ => none

/-- The messages of so many commands, numbered from `seq` on. -/
def messages (seq : UInt8) : List (UInt16 × List UInt8) → List (UInt8 × List UInt8)
  | [] => []
  | (cmd, payload) :: commands =>
    (EP_CTRL_OUT, frame cmd seq payload) :: messages (seq + 1) commands

/-- The messages of these commands went out, and no others. -/
structure Sent (commands : List (UInt16 × List UInt8)) (s s' : It930x × List Traffic × ω) :
    Prop where
  outs : outs s'.2.1 = outs s.2.1 ++ messages s.1.seq commands
  seq : s'.1.seq = s.1.seq + UInt8.ofNat commands.length

theorem messages_append (seq : UInt8) (as bs : List (UInt16 × List UInt8)) :
    messages seq (as ++ bs) = messages seq as ++ messages (seq + UInt8.ofNat as.length) bs := by
  induction as generalizing seq with
  | nil =>
    show _ = messages (seq + 0) bs
    rw [UInt8.add_zero]
    rfl
  | cons a as ih =>
    have hseq : seq + 1 + UInt8.ofNat as.length = seq + UInt8.ofNat (as.length + 1) := by
      rw [UInt8.ofNat_add, UInt8.add_assoc, UInt8.add_comm 1]
      rfl
    show _ :: messages (seq + 1) (as ++ bs) =
      _ :: (_ ++ messages (seq + UInt8.ofNat (as.length + 1)) bs)
    rw [ih, hseq]

theorem Sent.nil (s : It930x × List Traffic × ω) : Sent [] s s :=
  ⟨(List.append_nil _).symm, (UInt8.add_zero _).symm⟩

theorem Sent.append {as bs : List (UInt16 × List UInt8)} {s t u : It930x × List Traffic × ω}
    (h : Sent as s t) (h' : Sent bs t u) : Sent (as ++ bs) s u where
  outs := by rw [h'.outs, h.outs, h.seq, messages_append, List.append_assoc]
  seq := by rw [h'.seq, h.seq, List.length_append, UInt8.ofNat_add, UInt8.add_assoc]

theorem Told.sent {cmd : UInt16} {payload data : List UInt8} {s s' : It930x × List Traffic × ω}
    (h : Told cmd payload data s s') : Sent [(cmd, payload)] s s' := by
  obtain ⟨buf, -, hnext, hlog⟩ := h
  refine ⟨?_, by rw [hnext]; rfl⟩
  rw [hlog, It930x.outs, List.filterMap_append]
  rfl

/-- The state without the record. -/
def bare (s : It930x × List Traffic × ω) : It930x × ω := (s.1, s.2.2)

/-- Keeping a record changes nothing. -/
theorem does_ctrl (cmd : UInt16) (payload : List UInt8) :
    Eff.Does bare (ctrl usb.recorded cmd payload) (ctrl usb cmd payload) := by
  intro s
  by_cases h : payload.length ≤ 250
  · rw [ctrl_short usb h, ctrl_short usb.recorded h]
    simp only [bare, Usb.recorded]
    cases usb.bulkOut EP_CTRL_OUT (frame cmd s.1.seq payload) s.2.2 with
    | mk r w =>
      cases r with
      | error e => rfl
      | ok _ =>
        simp only
        cases usb.bulkIn EP_CTRL_IN 256 w with
        | mk r w' => cases r <;> rfl
  · rw [ctrl_long _ (Nat.lt_of_not_le h), ctrl_long _ (Nat.lt_of_not_le h)]

/-- From a state with `I` every command that fits a message succeeds, in a state with `I` again. -/
structure Obliges (usb : Usb ω) (I : It930x × ω → Prop) : Prop where
  ok : ∀ cmd payload s, I s → payload.length ≤ 250 → ∃ data, (ctrl usb cmd payload s).1 = .ok data
  keeps : ∀ cmd payload s, I s → payload.length ≤ 250 → I (ctrl usb cmd payload s).2

/-- A block a message has room for. -/
def Fits (block : List UInt8) : Prop := IsBlock block ∧ block.length ≤ 250

theorem delimits_fits : Longest.Delimits Fits :=
  fun _ _ _ _ hb hc heq => delimits_isBlock hb.1 hc.1 heq

/-- How the loop goes: the blocks that are written, and what is left. -/
structure Loop (I : It930x × ω → Prop) (rest : List UInt8) (s : It930x × List Traffic × ω)
    (r : Except Halt Unit) (s' : It930x × List Traffic × ω) (blocks : List (List UInt8))
    (left : List UInt8) : Prop where
  run : Longest.Run Fits rest blocks left
  sent : Sent (blocks.map fun b => (CMD_FW_SCATTER_WRITE, b)) s s'
  whole : left = [] → r = .ok () ∧ I (bare s')
  cut : left ≠ [] → ∃ e, r = .error (.err e)

section Load

variable {usb} {I : It930x × ω → Prop} (hob : Obliges usb I)

include hob

theorem Obliges.told (cmd : UInt16) {payload : List UInt8} {s : It930x × List Traffic × ω}
    (hs : I (bare s)) (h : payload.length ≤ 250) : ∃ data s',
    ctrl usb.recorded cmd payload s = (.ok data, s') ∧ Told cmd payload data s s' ∧
      I (bare s') := by
  have hdoes := does_ctrl usb cmd payload s
  obtain ⟨data, hdata⟩ := hob.ok cmd payload _ hs h
  have hI := hob.keeps cmd payload _ hs h
  rw [hdoes] at hdata hI
  have hctrl : ctrl usb.recorded cmd payload s =
      (.ok data, (ctrl usb.recorded cmd payload s).2) := Prod.ext hdata rfl
  exact ⟨data, _, hctrl, (ctrl_ok usb hctrl).2, hI⟩

omit hob in
/-- Where no block that fits begins what is left, the loop ends with nothing written. -/
theorem Loop.stop {rest : List UInt8} {e : Error} (s : It930x × List Traffic × ω)
    (hrest : rest ≠ []) (hnone : ∀ b x, Fits b → b ++ x ≠ rest) :
    Loop I rest s (.error (.err e)) s [] rest where
  run := Longest.Run.nil hnone
  sent := Sent.nil s
  whole hnil := absurd hnil hrest
  cut _ := ⟨e, rfl⟩

/-- The loop writes the longest run of blocks that fit, and fails if something is left. -/
theorem writeBlocks_run (rest : List UInt8) (s : It930x × List Traffic × ω) (hs : I (bare s)) :
    ∃ blocks left r s', writeBlocks usb.recorded rest s = (r, s') ∧
      Loop I rest s r s' blocks left := by
  induction hn : rest.length using Nat.strong_induction_on generalizing rest s with
  | _ n ih =>
  by_cases hrest : rest = []
  · subst hrest
    refine ⟨[], [], .ok (), s, ?_, Longest.Run.nil ?_, Sent.nil s, fun _ => ⟨rfl, hs⟩, nofun⟩
    · rw [writeBlocks_nil]
      rfl
    · intro b x hb h
      exact hb.1.ne_nil (List.append_eq_nil_iff.1 h).1
  obtain ⟨e, he⟩ | ⟨block, next, hok, hblock, heq⟩ := nextBlock_cases hrest
  · rw [writeBlocks_error _ hrest he]
    refine ⟨[], rest, _, s, rfl, Loop.stop s hrest ?_⟩
    intro b x hb h
    rw [← h, nextBlock_of_isBlock hb.1] at he
    exact absurd he nofun
  rw [writeBlocks_ok _ hrest hok]
  by_cases hlen : block.length ≤ 250
  · obtain ⟨data, t, hctrl, htold, ht⟩ := hob.told CMD_FW_SCATTER_WRITE hs hlen
    have hshort : next.length < n := hn ▸ nextBlock_shorter hrest hok
    obtain ⟨blocks, left, r, s', hloop, hrun⟩ := ih next.length hshort next t ht rfl
    refine ⟨block :: blocks, left, r, s', ?_, ?_, htold.sent.append hrun.sent, hrun.whole, hrun.cut⟩
    · rw [Eff.bind_of_ok hctrl, hloop]
    · exact heq ▸ hrun.run.cons delimits_fits ⟨hblock, hlen⟩
  · rw [Eff.bind_of_error (ctrl_long _ (Nat.lt_of_not_le hlen) s)]
    refine ⟨[], rest, _, s, rfl, Loop.stop s hrest ?_⟩
    intro b x hb h
    exact hlen (delimits_isBlock hblock hb.1 (heq.trans h.symm) ▸ hb.2)

end Load

/-! ## All of it -/

theorem firmwareVersion_snd (s : It930x × ω) :
    (firmwareVersion usb s).2 = (ctrl usb CMD_QUERYINFO [1] s).2 := by
  rw [firmwareVersion, Eff.bind_apply]
  split
  · next data t hctrl =>
    rw [hctrl]
    split <;> rfl
  · next hctrl => rw [hctrl]

theorem does_firmwareVersion :
    Eff.Does bare (firmwareVersion usb.recorded) (firmwareVersion usb) := by
  apply Eff.Does.bind (does_ctrl usb _ _)
  intro data s
  split <;> rfl

theorem inRange_firmwareVersion : InRange (firmwareVersion usb) := by
  apply (inRange_ctrl usb).bind
  intro data
  split
  · exact Eff.Safe.throw nofun
  · exact Eff.Safe.pure _

theorem inRange_writeBlocks (rest : List UInt8) : InRange (writeBlocks usb rest) := by
  induction hn : rest.length using Nat.strong_induction_on generalizing rest with
  | _ n ih =>
  by_cases hrest : rest = []
  · rw [hrest, writeBlocks_nil]
    exact Eff.Safe.pure ()
  obtain ⟨e, he⟩ | ⟨block, next, hok, -, -⟩ := nextBlock_cases hrest
  · rw [writeBlocks_error _ hrest he]
    exact Eff.Safe.throw nofun
  · rw [writeBlocks_ok _ hrest hok]
    apply (inRange_ctrl usb).bind
    intro _
    exact ih _ (hn ▸ nextBlock_shorter hrest hok) next rfl

theorem inRange_loadFirmware (firmware : List UInt8) : InRange (loadFirmware usb firmware) := by
  apply (inRange_firmwareVersion usb).bind
  intro version
  split
  · exact Eff.Safe.pure ()
  apply (inRange_writeRegs usb _ _).bind
  intro _
  apply (inRange_writeBlocks usb firmware).bind
  intro _
  apply (inRange_ctrl usb).bind
  intro _
  apply (inRange_firmwareVersion usb).bind
  intro _
  exact Eff.Safe.require nofun

/-- The commands of `load_firmware` around those of the blocks: one asks for the version, one sets
the speed of the I2C buses. -/
def query : UInt16 × List UInt8 := (CMD_QUERYINFO, [1])

def speed : UInt16 × List UInt8 := (CMD_REG_WRITE, [1, 2, 0x00, 0x00, 0xf1, 0x03, I2C_SPEED])

/-- The commands that load these blocks, which the bridge is booted after if they are all. -/
def loading (blocks : List (List UInt8)) (whole : Bool) : List (UInt16 × List UInt8) :=
  query :: speed :: blocks.map (fun b => (CMD_FW_SCATTER_WRITE, b)) ++
    if whole then [(CMD_BOOT, []), query] else []

/-- On a bridge that obliges and has no firmware running: the longest run of blocks that fit is
written, the bridge is booted if that was all, and it is an error if it was not. Nothing panics,
whatever the bridge does. -/
theorem loads_blocks {usb : Usb ω} {I : It930x × ω → Prop} (hob : Obliges usb I)
    (firmware : List UInt8) {s : It930x × List Traffic × ω} (hs : I (bare s))
    (hversion : (firmwareVersion usb (bare s)).1 = .ok 0) :
    (∃ blocks rest r s', loadFirmware usb.recorded firmware s = (r, s') ∧
      Longest.Run Fits firmware blocks rest ∧
      Sent (loading blocks (blocks.flatten = firmware)) s s' ∧
      (blocks.flatten ≠ firmware → ∃ e, r = .error (.err e))) ∧
    ∀ (usb : Usb ω) t, (loadFirmware usb firmware t).1 ≠ .error .panic := by
  refine ⟨?_, fun usb t => (inRange_loadFirmware usb firmware).ne_panic t⟩
  have hshort : ∀ payload : List UInt8, payload.length ≤ 7 → payload.length ≤ 250 :=
    fun _ h => Nat.le_trans h (by decide)
  obtain ⟨_, t, hquery, hasked, ht⟩ := hob.told CMD_QUERYINFO hs (hshort [1] (by decide))
  have hfirst : firmwareVersion usb.recorded s = (.ok 0, t) := by
    apply Prod.ext
    · have hdoes := congrArg Prod.fst (does_firmwareVersion usb s)
      exact hdoes.symm.trans hversion
    · rw [firmwareVersion_snd, hquery]
  obtain ⟨_, u, hspeed, hset, hu⟩ := hob.told CMD_REG_WRITE ht (hshort speed.2 (by decide))
  have hwrite : writeReg usb.recorded 0xf103 I2C_SPEED t = (.ok (), u) := Eff.bind_of_ok hspeed
  obtain ⟨blocks, left, r, v, hblocks, hloop⟩ := writeBlocks_run hob firmware u hu
  have hsent : Sent (query :: speed :: blocks.map fun b => (CMD_FW_SCATTER_WRITE, b)) s v :=
    hasked.sent.append (hset.sent.append hloop.sent)
  rw [loadFirmware, Eff.bind_of_ok hfirst, if_neg (not_not_intro rfl), Eff.bind_of_ok hwrite]
  by_cases hleft : left = []
  · obtain ⟨rfl, hv⟩ := hloop.whole hleft
    obtain ⟨_, w, hctrl, hbooted, hw⟩ := hob.told CMD_BOOT hv (hshort [] (by decide))
    obtain ⟨_, s', hquery', hasked', -⟩ := hob.told CMD_QUERYINFO hw (hshort [1] (by decide))
    have hwhole := hloop.run.flatten_eq_iff.2 hleft
    rw [Eff.bind_of_ok hblocks, Eff.bind_of_ok hctrl]
    refine ⟨blocks, left, _, _, Prod.mk.eta.symm, hloop.run, ?_, fun h => absurd hwhole h⟩
    have hend : ((firmwareVersion usb.recorded >>= fun version =>
        Eff.require (version ≠ 0) (.own "the firmware did not boot")) w).2 = s' := by
      refine (Eff.Leaves.after (f := id) (fun _ => Eff.Leaves.require) w).trans ?_
      rw [firmwareVersion_snd, hquery']
      rfl
    rw [hend, loading, decide_eq_true hwhole, if_pos rfl]
    exact hsent.append (hbooted.sent.append hasked'.sent)
  · obtain ⟨e, rfl⟩ := hloop.cut hleft
    have hcut := mt hloop.run.flatten_eq_iff.1 hleft
    rw [Eff.bind_of_error hblocks]
    refine ⟨blocks, left, _, _, rfl, hloop.run, ?_, fun _ => ⟨e, rfl⟩⟩
    rw [loading, decide_eq_false hcut, if_neg Bool.false_ne_true, List.append_nil]
    exact hsent

/-- A bridge that does as it is told, and answers four zeros; its state is the number of the message
it was last sent. -/
def obliging : Usb UInt8 where
  bulkOut _ data _ := (.ok (), data.getD 3 0)
  bulkIn _ _ seq := (.ok (response 0 seq 0 [0, 0, 0, 0]), seq)

theorem ctrl_obliging (cmd : UInt16) {payload : List UInt8} (h : payload.length ≤ 250)
    (s : It930x × UInt8) :
    ctrl obliging cmd payload s = (.ok [0, 0, 0, 0], s.1.next, s.1.seq) := by
  have hseq : (frame cmd s.1.seq payload).getD 3 0 = s.1.seq := by
    obtain ⟨hi, lo, hcmd, -⟩ := WordSum.toBytes_eq cmd
    rw [frame, hcmd]
    rfl
  rw [ctrl_short obliging h]
  simp only [obliging, hseq, parse_response]

theorem obliges_obliging : Obliges obliging fun _ => True where
  ok cmd _ s _ h := ⟨_, congrArg Prod.fst (ctrl_obliging cmd h s)⟩
  keeps _ _ _ _ _ := trivial

theorem loads_blocks_obliging : ∃ blocks rest r s',
    loadFirmware obliging.recorded [3, 0, 0, 1, 0x41, 0, 2, 7, 7, 3, 0, 0, 0] ({}, [], 0) =
        (r, s') ∧
      Longest.Run Fits [3, 0, 0, 1, 0x41, 0, 2, 7, 7, 3, 0, 0, 0] blocks rest ∧
      Sent (loading blocks (blocks.flatten = [3, 0, 0, 1, 0x41, 0, 2, 7, 7, 3, 0, 0, 0]))
        ({}, [], 0) s' ∧
      (blocks.flatten ≠ [3, 0, 0, 1, 0x41, 0, 2, 7, 7, 3, 0, 0, 0] → ∃ e, r = .error (.err e)) :=
  (loads_blocks obliges_obliging _ trivial
    (congrArg Prod.fst (Eff.bind_of_ok (ctrl_obliging _ (by decide) _)))).1

end It930x

end Tunelith.Px4

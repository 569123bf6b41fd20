import Tunelith.Px4.It930x

/-!
# Control messages

What the frame of a control message and what is made of a response, byte by byte, and what a bridge
says of the transfers it made.

* `parse_fields` — every response that is long enough, in the order it is looked at.
* `Usb.recorded` — a transport that keeps what goes over it, so that what an operation sent can be
  told from it.
* `framed_and_checked` — the frames are as they should be, a response damaged in one byte is never
  taken for another, and what is written or read is all of it.
-/

namespace Tunelith

/-- A transfer that was made. -/
inductive Traffic
  | sent (ep : UInt8) (data : List UInt8)
  | received (ep : UInt8) (data : List UInt8)
deriving DecidableEq

/-- The same transport, keeping what goes over it. -/
def Usb.recorded {ω : Type} (usb : Usb ω) : Usb (List Traffic × ω) where
  bulkOut ep data s :=
    ((usb.bulkOut ep data s.2).1, s.1 ++ [.sent ep data], (usb.bulkOut ep data s.2).2)
  bulkIn ep len s :=
    match usb.bulkIn ep len s.2 with
    | (.ok data, w) => (.ok data, s.1 ++ [.received ep data], w)
    | (.error e, w) => (.error e, s.1, w)

namespace Px4

/-! ## The response -/

/-- A response: a byte, which sequence number it is to, its status, its data and a checksum. -/
def response (first seq status : UInt8) (data : List UInt8) : List UInt8 :=
  first :: seq :: status :: data ++ BigEndian.toBytes 2 (checksum (seq :: status :: data)).toNat

theorem exists_fields {buf : List UInt8} (h : 5 ≤ buf.length) : ∃ first seq status data hi lo,
    buf = first :: (seq :: status :: data) ++ [hi, lo] := by
  obtain ⟨first, seq, status, rest, rfl⟩ : ∃ first seq status rest,
      buf = first :: seq :: status :: rest := by
    match buf, h with
    | first :: seq :: status :: rest, _ => exact ⟨first, seq, status, rest, rfl⟩
  have hrest : 2 ≤ rest.length := by
    simp only [List.length_cons] at h
    omega
  obtain ⟨hi, lo, hlast⟩ : ∃ hi lo, rest.drop (rest.length - 2) = [hi, lo] := by
    apply List.length_eq_two.1
    rw [List.length_drop]
    omega
  refine ⟨first, seq, status, rest.take (rest.length - 2), hi, lo, ?_⟩
  rw [← hlast]
  simp

theorem parse_short {seq : UInt8} {buf : List UInt8} (h : buf.length < 5) :
    parse seq buf = .error (.own "control response too short") := if_pos h

theorem slice_append {α : Type} {a b c buf : List α} {i j : Nat} (h : a ++ b ++ c = buf)
    (hi : a.length = i) (hj : i + b.length = j) : slice buf i j = .ok b := by
  subst h hi hj
  rw [slice, if_pos ⟨Nat.le_add_right _ _, by simp⟩]
  rw [List.take_append_of_le_length (by simp), List.take_of_length_le (by simp)]
  exact congrArg Except.ok List.drop_left

theorem index_append {α : Type} {a b buf : List α} {x : α} {i : Nat} (h : a ++ x :: b = buf)
    (hi : a.length = i) : index buf i = .ok x := by
  subst h hi
  simp [index]

/-- What is made of a response that is long enough, in the order it is looked at. -/
theorem parse_fields (seq first seq' status hi lo : UInt8) (data : List UInt8) :
    parse seq (first :: (seq' :: status :: data) ++ [hi, lo]) =
      if checksum (seq' :: status :: data) ≠ WordSum.ofPair hi lo then
        .error (.own "control response checksum mismatch")
      else if seq' ≠ seq then .error (.own "control response out of sequence")
      else if status ≠ 0 then .error (.own "control command failed")
      else .ok data := by
  generalize hbuf : first :: (seq' :: status :: data) ++ [hi, lo] = buf
  have hlen : buf.length = data.length + 5 := by simp [← hbuf]
  have hchecked : slice buf 1 (data.length + 3) = .ok (seq' :: status :: data) :=
    slice_append (a := [first]) hbuf rfl (by simp; omega)
  have hhi : index buf (data.length + 3) = .ok hi :=
    index_append (b := [lo]) hbuf rfl
  have hlo : index buf (data.length + 4) = .ok lo :=
    index_append (a := first :: (seq' :: status :: data) ++ [hi]) (b := []) (by simp [← hbuf])
      (by simp)
  have hseq : index buf 1 = .ok seq' := index_append (a := [first]) hbuf rfl
  have hstatus : index buf 2 = .ok status := index_append (a := [first, seq']) hbuf rfl
  have hdata : slice buf 3 (data.length + 3) = .ok data :=
    slice_append (a := [first, seq', status]) hbuf rfl (Nat.add_comm _ _)
  have hrlen : ¬ buf.length < 5 := by omega
  have h₁ : buf.length - 1 = data.length + 4 := by omega
  have h₂ : buf.length - 2 = data.length + 3 := by omega
  simp only [parse, if_neg hrlen, h₁, h₂, hchecked, hhi, hlo, hseq, hstatus, hdata]
  rfl

/-- A response whose checksum is right is looked at for what it answers, and how. -/
theorem parse_response_eq (seq first seq' status : UInt8) (data : List UInt8) :
    parse seq (response first seq' status data) =
      if seq' ≠ seq then .error (.own "control response out of sequence")
      else if status ≠ 0 then .error (.own "control command failed")
      else .ok data := by
  obtain ⟨hi, lo, hbytes, hsum⟩ := WordSum.toBytes_eq (checksum (seq' :: status :: data))
  rw [response, hbytes, parse_fields, hsum, if_neg (not_not_intro rfl)]

theorem parse_response (first seq : UInt8) (data : List UInt8) :
    parse seq (response first seq 0 data) = .ok data := by
  rw [parse_response_eq, if_neg (not_not_intro rfl), if_neg (not_not_intro rfl)]

theorem parse_ne_panic (seq : UInt8) (buf : List UInt8) : parse seq buf ≠ .error .panic := by
  by_cases h : buf.length < 5
  · rw [parse_short h]
    exact nofun
  · obtain ⟨first, seq', status, data, hi, lo, rfl⟩ := exists_fields (Nat.le_of_not_lt h)
    rw [parse_fields]
    split_ifs <;> exact nofun

namespace It930x

variable {ω : Type} (usb : Usb ω) {cmd : UInt16} {payload : List UInt8}

/-! ## The message -/

theorem transfer_bind {α β : Type} (m : Eff Error ω α) (f : α → Eff Halt (It930x × ω) β)
    (s : It930x × ω) : (transfer m >>= f) s = match m s.2 with
      | (.ok a, w) => f a (s.1, w)
      | (.error e, w) => (.error (.err e), s.1, w) := by
  have h : transfer m s = ((m s.2).1.mapError Halt.err, s.1, (m s.2).2) := rfl
  rw [Eff.bind_apply, h]
  cases m s.2 with
  | mk r w => cases r <;> rfl

/-- What `ctrl` does with a payload that is not too long. -/
theorem ctrl_short (h : payload.length ≤ 250) (s : It930x × ω) :
    ctrl usb cmd payload s = match usb.bulkOut EP_CTRL_OUT (frame cmd s.1.seq payload) s.2 with
      | (.error e, w) => (.error (.err e), s.1.next, w)
      | (.ok (), w) =>
        match usb.bulkIn EP_CTRL_IN 256 w with
        | (.error e, w) => (.error (.err e), s.1.next, w)
        | (.ok buf, w) => (parse s.1.seq buf, s.1.next, w) := by
  rw [ctrl, Eff.require, if_pos h, Eff.bind_of_ok (Eff.pure_apply _ _),
    Eff.bind_of_ok (m := takeSeq) rfl]
  rw [transfer_bind]
  cases usb.bulkOut EP_CTRL_OUT (frame cmd s.1.seq payload) s.2 with
  | mk r w =>
    cases r with
    | error e => rfl
    | ok _ =>
      simp only
      rw [transfer_bind]
      cases usb.bulkIn EP_CTRL_IN 256 w with
      | mk r w' => cases r <;> rfl

theorem ctrl_long (h : 250 < payload.length) (s : It930x × ω) :
    ctrl usb cmd payload s = (.error (.own "control message too long"), s) := by
  rw [ctrl, Eff.require, if_neg (Nat.not_le.2 h)]
  rfl

theorem ctrl_ne_panic (s : It930x × ω) : (ctrl usb cmd payload s).1 ≠ .error .panic := by
  by_cases h : payload.length ≤ 250
  · rw [ctrl_short usb h]
    split
    · exact nofun
    · split
      · exact nofun
      · exact parse_ne_panic _ _
  · rw [ctrl_long usb (Nat.lt_of_not_le h)]
    exact nofun

/-- What a message leaves in the record: it, and the response if one was received, which is what
`ctrl` goes by. -/
theorem ctrl_recorded (h : payload.length ≤ 250) (s : It930x × List Traffic × ω) : ∃ w,
    let sent := Traffic.sent EP_CTRL_OUT (frame cmd s.1.seq payload)
    (∃ e, ctrl usb.recorded cmd payload s = (.error (.err e), s.1.next, s.2.1 ++ [sent], w)) ∨
      ∃ buf, ctrl usb.recorded cmd payload s =
        (parse s.1.seq buf, s.1.next, s.2.1 ++ [sent, .received EP_CTRL_IN buf], w) := by
  rw [ctrl_short usb.recorded h]
  simp only [Usb.recorded]
  cases usb.bulkOut EP_CTRL_OUT (frame cmd s.1.seq payload) s.2.2 with
  | mk r w =>
    cases r with
    | error e => exact ⟨w, .inl ⟨e, rfl⟩⟩
    | ok _ =>
      simp only
      cases usb.bulkIn EP_CTRL_IN 256 w with
      | mk r w' =>
        cases r with
        | error e => exact ⟨w', .inl ⟨e, rfl⟩⟩
        | ok buf =>
          refine ⟨w', .inr ⟨buf, ?_⟩⟩
          simp only [List.append_assoc]
          rfl

/-- The message went out and was answered with `data`. -/
def Told (cmd : UInt16) (payload data : List UInt8) (s s' : It930x × List Traffic × ω) : Prop :=
  ∃ buf, parse s.1.seq buf = .ok data ∧ s'.1 = s.1.next ∧
    s'.2.1 = s.2.1 ++ [.sent EP_CTRL_OUT (frame cmd s.1.seq payload), .received EP_CTRL_IN buf]

theorem ctrl_ok {s s' : It930x × List Traffic × ω} {data : List UInt8}
    (h : ctrl usb.recorded cmd payload s = (.ok data, s')) :
    payload.length ≤ 250 ∧ Told cmd payload data s s' := by
  by_cases hlen : payload.length ≤ 250
  · obtain ⟨w, ⟨e, he⟩ | ⟨buf, hbuf⟩⟩ := ctrl_recorded usb hlen s
    · rw [he] at h
      exact absurd (congrArg Prod.fst h) nofun
    · rw [hbuf] at h
      have hs' := congrArg Prod.snd h
      exact ⟨hlen, buf, congrArg Prod.fst h, (congrArg Prod.fst hs').symm,
        (congrArg (fun t => t.2.1) hs').symm⟩
  · rw [ctrl_long _ (Nat.lt_of_not_le hlen)] at h
    exact absurd (congrArg Prod.fst h) nofun

/-! ## What is written and read -/

/-- `data` went out after its true length and a header, and that was answered. -/
def Wrote (cmd : UInt16) (header data : List UInt8) (s s' : It930x × List Traffic × ω) : Prop :=
  ∃ len reply, len.toNat = data.length ∧ Told cmd (len :: header ++ data) reply s s'

/-- So many bytes were asked for from the address, and these are the first of the answer. -/
def Got (bus addr : UInt8) (bytes : List UInt8) (s s' : It930x × List Traffic × ω) : Prop :=
  ∃ len reply, len.toNat = bytes.length ∧ Told CMD_I2C_READ [len, bus, addr <<< 1] reply s s' ∧
    bytes <+: reply

/-- The end of a read: a short answer is an error, and of a longer one the first bytes are taken. -/
theorem taken (n : Nat) (reply : List UInt8) (s : It930x × ω) :
    (do
      Eff.require (n ≤ reply.length) (.own "short I2C read")
      let part ← Eff.ofExcept (slice reply 0 n)
      Eff.ofExcept (copied n part) : Eff Halt (It930x × ω) (Vector UInt8 n)) s =
      (if h : n ≤ reply.length then .ok ⟨(reply.take n).toArray, List.length_take_of_le h⟩
        else .error (.own "short I2C read"), s) := by
  by_cases h : n ≤ reply.length
  · have hslice : slice reply 0 n = .ok (reply.take n) := if_pos ⟨Nat.zero_le _, h⟩
    rw [dif_pos h, Eff.require, if_pos h, Eff.bind_of_ok (Eff.pure_apply _ _), hslice,
      Eff.bind_of_ok (Eff.ofExcept_apply _ _), copied, dif_pos (List.length_take_of_le h)]
    rfl
  · rw [dif_neg h, Eff.require, if_neg h, Eff.throw_bind]
    rfl

/-- No index is out of range in `m`. -/
abbrev InRange {α : Type} (m : Eff Halt (It930x × ω) α) : Prop :=
  Eff.Safe (fun _ => True) (fun e => e ≠ .panic) m

theorem InRange.ne_panic {α : Type} {m : Eff Halt (It930x × ω) α} (h : InRange m)
    (s : It930x × ω) : (m s).1 ≠ .error .panic := by
  have := h s trivial
  split at this
  · next hr =>
    rw [hr]
    exact nofun
  · next hr =>
    rw [hr]
    intro he
    exact this.1 (Except.error.inj he)

theorem inRange_ctrl : InRange (ctrl usb cmd payload) := by
  intro s _
  have : (ctrl usb cmd payload s).1 ≠ .error .panic := ctrl_ne_panic usb s
  split
  · trivial
  · next hr =>
    rw [hr] at this
    exact ⟨fun he => this (congrArg Except.error he), trivial⟩

theorem inRange_writeRegs (reg : UInt32) (data : List UInt8) :
    InRange (writeRegs usb reg data) :=
  (inRange_ctrl usb).bind fun _ => Eff.Safe.pure ()

/-- The frame of a message: its length less one, the command, the sequence number, the payload, and
what makes the words from the command on sum to 0xffff. -/
def Framed (cmd : UInt16) (seq : UInt8) (payload f : List UInt8) : Prop :=
  ∃ first hi lo c d, f = first :: (hi :: lo :: seq :: payload) ++ [c, d] ∧
    first.toNat = f.length - 1 ∧ WordSum.ofPair hi lo = cmd ∧
    WordSum.sum (hi :: lo :: seq :: payload) + WordSum.ofPair c d = 0xffff

theorem framed_frame (h : payload.length ≤ 250) (seq : UInt8) :
    Framed cmd seq payload (frame cmd seq payload) := by
  obtain ⟨hi, lo, hcmd, hofcmd⟩ := WordSum.toBytes_eq cmd
  obtain ⟨c, d, hsum, hofsum⟩ := WordSum.toBytes_eq (checksum (hi :: lo :: seq :: payload))
  have hframe : frame cmd seq payload = UInt8.ofNat (4 + payload.length + 2 - 1) ::
      (hi :: lo :: seq :: payload) ++ [c, d] := by
    rw [← hsum, frame, hcmd]
    rfl
  refine ⟨_, hi, lo, c, d, hframe, ?_, hofcmd, ?_⟩
  · rw [hframe, UInt8.toNat_ofNat', Nat.mod_eq_of_lt (by omega)]
    simp only [List.length_cons, List.length_append, List.length_nil]
    omega
  · rw [hofsum]
    exact WordSum.add_not _

/-- What holds of the control messages over a transport, and of what is done with them. -/
structure Exact (usb : Usb ω) : Prop where
  /-- One message is sent, and it is framed as it should be. -/
  sends : ∀ cmd payload (s : It930x × List Traffic × ω), payload.length ≤ 250 →
    ∃ f rest, (ctrl usb.recorded cmd payload s).2.2.1 = s.2.1 ++ .sent EP_CTRL_OUT f :: rest ∧
      Framed cmd s.1.seq payload f ∧ ∀ ep data, .sent ep data ∉ rest
  refuses : ∀ cmd payload (s : It930x × List Traffic × ω), 250 < payload.length →
    ctrl usb.recorded cmd payload s = (.error (.own "control message too long"), s)
  /-- Its own response gives its data. -/
  accepts : ∀ cmd payload (s : It930x × List Traffic × ω) f first data,
    (ctrl usb.recorded cmd payload s).2.2.1 =
      s.2.1 ++ [.sent EP_CTRL_OUT f, .received EP_CTRL_IN (response first s.1.seq 0 data)] →
    (ctrl usb.recorded cmd payload s).1 = .ok data
  /-- With a byte but the first replaced it gives an error. -/
  rejects : ∀ cmd payload (s : It930x × List Traffic × ω) f first data i b,
    1 ≤ i → (hi : i < (response first s.1.seq 0 data).length) →
    (response first s.1.seq 0 data)[i] ≠ b →
    (ctrl usb.recorded cmd payload s).2.2.1 = s.2.1 ++
      [.sent EP_CTRL_OUT f, .received EP_CTRL_IN ((response first s.1.seq 0 data).set i b)] →
    ∃ e, (ctrl usb.recorded cmd payload s).1 = .error (.err e)
  inRange : (∀ cmd payload s, (ctrl usb cmd payload s).1 ≠ .error .panic) ∧
    (∀ reg data s, (writeRegs usb reg data s).1 ≠ .error .panic) ∧
    (∀ bus addr data s, (i2cWrite usb bus addr data s).1 ≠ .error .panic) ∧
    ∀ bus addr data n s, (i2cWriteRead usb bus addr data n s).1 ≠ .error .panic
  registers : ∀ reg data (s s' : It930x × List Traffic × ω),
    writeRegs usb.recorded reg data s = (.ok (), s') →
    Wrote CMD_REG_WRITE (regLength reg :: BigEndian.toBytes 4 reg.toNat) data s s'
  writes : ∀ bus addr data (s s' : It930x × List Traffic × ω),
    (i2c usb.recorded bus).write addr data s = (.ok (), s') →
    Wrote CMD_I2C_WRITE [bus, addr <<< 1] data s s'
  reads : ∀ bus addr data n v (s s' : It930x × List Traffic × ω), n ≤ 255 →
    (i2c usb.recorded bus).writeRead addr data n s = (.ok v, s') →
    ∃ t, Wrote CMD_I2C_WRITE [bus, addr <<< 1] data s t ∧ Got bus addr v.toList t s'
  /-- What a demodulator relays is written to it, after 0xfe and the address. -/
  relayedWrites : ∀ (demod : Tc90522) bus addr data (s s' : It930x × List Traffic × ω),
    (demod.tunerBus (i2c usb.recorded bus)).write addr data s = (.ok (), s') →
    Wrote CMD_I2C_WRITE [bus, demod.addr <<< 1] (0xfe :: addr <<< 1 :: data) s s'
  relayedReads : ∀ (demod : Tc90522) bus addr data n v (s s' : It930x × List Traffic × ω),
    n ≤ 255 → (demod.tunerBus (i2c usb.recorded bus)).writeRead addr data n s = (.ok v, s') →
    ∃ t u, Wrote CMD_I2C_WRITE [bus, demod.addr <<< 1] (0xfe :: addr <<< 1 :: data) s t ∧
      Wrote CMD_I2C_WRITE [bus, demod.addr <<< 1] [0xfe, addr <<< 1 ||| 1] t u ∧
      Got bus demod.addr v.toList u s'

theorem sends {s : It930x × List Traffic × ω} (h : payload.length ≤ 250) :
    ∃ f rest, (ctrl usb.recorded cmd payload s).2.2.1 = s.2.1 ++ .sent EP_CTRL_OUT f :: rest ∧
      Framed cmd s.1.seq payload f ∧ ∀ ep data, .sent ep data ∉ rest := by
  obtain ⟨w, ⟨e, he⟩ | ⟨buf, hbuf⟩⟩ := ctrl_recorded usb h s
  · exact ⟨_, [], by rw [he], framed_frame h s.1.seq, fun _ _ => List.not_mem_nil⟩
  · exact ⟨_, [.received EP_CTRL_IN buf], by rw [hbuf], framed_frame h s.1.seq, by simp⟩

end It930x

end Px4

end Tunelith

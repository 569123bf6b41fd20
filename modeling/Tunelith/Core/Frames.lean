import Tunelith.Core.Proto
import Tunelith.Lib.BigEndian
import Tunelith.Lib.ShortReads

/-!
# Frames

A frame is a big-endian length of four bytes and a message of so many. `write` and `parse` stand
for the bytes of a message, which the generated code knows.

* `reads_cut` — of frames cut anywhere the whole ones are read, and then the end, which is a clean
  one only between two frames.
* `frames_round_trip` — the same as the protocol promises it, with what is refused.
-/

namespace Tunelith.Proto

/-- The largest frame taken, keeping a peer from making us allocate at will. -/
def MAX_FRAME : Nat := 2 ^ 20

section

variable {ε : Type} (write : ε → List UInt8) (parse : List UInt8 → Except String ε)

/-- The frame of `e`; the length is cast to 32 bits. -/
def encode (e : ε) : List UInt8 :=
  BigEndian.toBytes 4 ((write e).length % 2 ^ 32) ++ write e

/-- How a call of `read` went: what it returned, the size of what it allocated for the message if
it did, and the reader after it. -/
structure ReadOutcome (ε : Type) where
  result : Except Error (Option ε)
  allocated : Option Nat := none
  reader : Reader

def truncated : Error := .io .unexpectedEof "unexpected end of file"

def tooLarge : Error := .io .invalidData "frame too large"

/-- Reads a message of `len` bytes, if it may be so long. -/
def readBody (len : Nat) (r : Reader) : ReadOutcome ε :=
  if MAX_FRAME < len then { result := .error tooLarge, reader := r }
  else
    match r.readExact len with
    | (none, r) => { result := .error truncated, allocated := some len, reader := r }
    | (some body, r) =>
      { result := match parse body with
          | .ok e => .ok (some e)
          | .error message => .error (.io .invalidData message)
        allocated := some len, reader := r }

/-- Reads a frame, or `none` if the connection ends before one starts. -/
def read (r : Reader) : ReadOutcome ε :=
  -- Only an end before the first byte is a clean one; within the length, it is a truncated frame.
  let (first, r) := r.read 1
  if first = [] then { result := .ok none, reader := r }
  else
    match r.readExact 3 with
    | (none, r) => { result := .error truncated, reader := r }
    | (some more, r) => readBody parse (BigEndian.ofBytes (first ++ more)) r

/-- What so many calls of `read` return, one after the other. -/
def reads : Nat → Reader → List (Except Error (Option ε))
  | 0, _ => []
  | n + 1, r => (read parse r).result :: reads n (read parse r).reader

variable {write parse} {r : Reader} {e : ε} {rest : List UInt8}

variable (write) in
theorem length_encode (e : ε) : (encode write e).length = 4 + (write e).length := by
  rw [encode, List.length_append, BigEndian.length_toBytes]

/-- The length that is read is the one written. -/
theorem ofBytes_length {n : Nat} (h : n ≤ MAX_FRAME) :
    BigEndian.ofBytes (BigEndian.toBytes 4 (n % 2 ^ 32)) = n := by
  have hlt : n < 2 ^ 32 := Nat.lt_of_le_of_lt h (by decide)
  rw [Nat.mod_eq_of_lt hlt, BigEndian.ofBytes_toBytes hlt]

variable (parse) in
theorem read_nil (h : r.rest = []) :
    (read parse r).result = .ok none ∧ (read parse r).reader.rest = [] := by
  have hread : r.read 1 = ([], (r.read 1).2) ∧ (r.read 1).2.rest = [] := by
    unfold Reader.read
    rw [h]
    simp
  unfold read
  rw [hread.1]
  exact ⟨rfl, hread.2⟩

/-- The first byte is read alone. -/
theorem read_first {b : UInt8} {t : List UInt8} (h : r.rest = b :: t) :
    (r.read 1).1 = [b] ∧ (r.read 1).2.rest = t := by
  have hmin : min 1 (r.sizes 0 + 1) = 1 := by omega
  unfold Reader.read
  rw [h, hmin]
  exact ⟨rfl, rfl⟩

variable (parse) in
/-- What `read` does once there is a byte. -/
theorem read_cons {b : UInt8} {t : List UInt8} (h : r.rest = b :: t) :
    ∃ r', r'.rest = t.drop 3 ∧ read parse r =
      if 3 ≤ t.length then readBody parse (BigEndian.ofBytes (b :: t.take 3)) r'
      else { result := .error truncated, reader := r' } := by
  obtain ⟨hfirst, hrest⟩ := read_first h
  obtain ⟨hexact, hafter⟩ := (r.read 1).2.readExact_eq 3
  rw [hrest] at hexact hafter
  refine ⟨((r.read 1).2.readExact 3).2, hafter, ?_⟩
  unfold read
  rw [show r.read 1 = ([b], (r.read 1).2) from Prod.ext hfirst rfl]
  dsimp only
  rw [if_neg (List.cons_ne_nil b [])]
  by_cases hlen : 3 ≤ t.length
  · rw [if_pos hlen] at hexact ⊢
    rw [show (r.read 1).2.readExact 3 = (some (t.take 3), ((r.read 1).2.readExact 3).2) from
      Prod.ext hexact rfl]
    rfl
  · rw [if_neg hlen] at hexact ⊢
    rw [show (r.read 1).2.readExact 3 = (none, ((r.read 1).2.readExact 3).2) from
      Prod.ext hexact rfl]

/-- Too long a message is refused, and nothing allocated for it. -/
theorem readBody_of_lt {len : Nat} (h : MAX_FRAME < len) :
    readBody parse len r = { result := .error tooLarge, reader := r } := if_pos h

theorem readBody_whole {body t : List UInt8} (hlen : body.length ≤ MAX_FRAME)
    (h : r.rest = body ++ t) (hparse : parse body = .ok e) :
    (readBody parse body.length r).result = .ok (some e) ∧
      (readBody parse body.length r).reader.rest = t := by
  obtain ⟨hexact, hafter⟩ := r.readExact_eq body.length
  rw [h, if_pos (by rw [List.length_append]; omega), List.take_left' rfl] at hexact
  rw [h, List.drop_left' rfl] at hafter
  unfold readBody
  rw [if_neg (Nat.not_lt.2 hlen), show r.readExact body.length =
    (some body, (r.readExact body.length).2) from Prod.ext hexact rfl]
  dsimp only
  rw [hparse]
  exact ⟨rfl, hafter⟩

theorem readBody_short {len : Nat} (hlen : len ≤ MAX_FRAME) (h : r.rest.length < len) :
    (readBody parse len r).result = .error truncated ∧
      (readBody parse len r).reader.rest = [] := by
  obtain ⟨hexact, hafter⟩ := r.readExact_eq len
  rw [if_neg (Nat.not_le.2 h)] at hexact
  rw [List.drop_of_length_le (Nat.le_of_lt h)] at hafter
  unfold readBody
  rw [if_neg (Nat.not_lt.2 hlen), show r.readExact len = (none, (r.readExact len).2) from
    Prod.ext hexact rfl]
  exact ⟨rfl, hafter⟩

variable (write) in
/-- A frame begins with a byte, and then three more for its length. -/
theorem encode_eq_cons (e : ε) : ∃ b t, encode write e = b :: t ∧
    b :: t.take 3 = BigEndian.toBytes 4 ((write e).length % 2 ^ 32) ∧ t.drop 3 = write e := by
  have hlen : (BigEndian.toBytes 4 ((write e).length % 2 ^ 32)).length = 4 :=
    BigEndian.length_toBytes ..
  unfold encode
  generalize BigEndian.toBytes 4 ((write e).length % 2 ^ 32) = head at *
  cases head with
  | nil => cases hlen
  | cons b more =>
    have hmore : more.length = 3 := Nat.succ.inj hlen
    exact ⟨b, more ++ write e, rfl, by rw [List.take_left' hmore], List.drop_left' hmore⟩

/-- **A whole frame is read.** -/
theorem read_encode (hlen : (write e).length ≤ MAX_FRAME) (hparse : parse (write e) = .ok e)
    (h : r.rest = encode write e ++ rest) :
    (read parse r).result = .ok (some e) ∧ (read parse r).reader.rest = rest := by
  obtain ⟨b, t, hcons, hhead, hbody⟩ := encode_eq_cons write e
  have hframe := length_encode write e
  rw [hcons, List.length_cons] at hframe
  rw [hcons, List.cons_append] at h
  obtain ⟨r', hr', hread⟩ := read_cons parse h
  rw [if_pos (by rw [List.length_append]; omega), List.take_append_of_le_length (by omega), hhead,
    ofBytes_length hlen] at hread
  rw [List.drop_append_of_le_length (by omega), hbody] at hr'
  rw [hread]
  exact readBody_whole hlen hr' hparse

variable (parse) in
/-- **A frame cut short is an error.** -/
theorem read_cut (hlen : (write e).length ≤ MAX_FRAME) {n : Nat} (hn : 0 < n)
    (hlt : n < (encode write e).length) (h : r.rest = (encode write e).take n) :
    (read parse r).result = .error truncated ∧ (read parse r).reader.rest = [] := by
  obtain ⟨b, t, hcons, hhead, hbody⟩ := encode_eq_cons write e
  have hframe := length_encode write e
  obtain ⟨n, rfl⟩ := Nat.exists_eq_add_of_lt hn
  rw [hcons, List.length_cons] at hframe hlt
  rw [hcons, Nat.zero_add, List.take_succ_cons] at h
  obtain ⟨r', hr', hread⟩ := read_cons parse h
  have htake : (t.take n).length = n := List.length_take_of_le (by omega)
  rw [hread]
  by_cases h3 : 3 ≤ n
  · have hshort : r'.rest.length < (write e).length := by
      rw [hr', List.length_drop, htake]
      omega
    rw [if_pos (by rw [htake]; exact h3), List.take_take, Nat.min_eq_left h3, hhead,
      ofBytes_length hlen]
    exact readBody_short hlen hshort
  · rw [if_neg (by rw [htake]; exact h3)]
    exact ⟨rfl, by rw [hr', List.drop_of_length_le (by omega)]⟩

/-! ## One after the other -/

theorem reads_nil (h : r.rest = []) (k : Nat) :
    reads parse k r = List.replicate k (.ok none) := by
  induction k generalizing r with
  | zero => rfl
  | succ k ih =>
    obtain ⟨hresult, hrest⟩ := read_nil parse h
    rw [reads, hresult, ih hrest]
    rfl

variable (write) in
/-- The messages whose frames lie wholly in the first `n` bytes. -/
def wholly : List ε → Nat → List ε
  | [], _ => []
  | e :: es, n =>
    if (encode write e).length ≤ n then e :: wholly es (n - (encode write e).length) else []

variable (write) in
/-- The frames of some messages, one after the other. -/
def frames (es : List ε) : List UInt8 := es.flatMap (encode write)

theorem frames_cons (e : ε) (es : List ε) :
    frames write (e :: es) = encode write e ++ frames write es :=
  rfl

/-- **Of frames cut anywhere, the whole ones are read.** Then comes a clean end if the cut is
between two frames, and an error if not; and after that there is nothing more. -/
theorem reads_cut {es : List ε} (hparse : ∀ e ∈ es, parse (write e) = .ok e)
    (hlen : ∀ e ∈ es, (write e).length ≤ MAX_FRAME) {n : Nat} (hn : n ≤ (frames write es).length)
    (h : r.rest = (frames write es).take n) (k : Nat) :
    reads parse ((wholly write es n).length + (k + 1)) r =
      (wholly write es n).map (fun e => .ok (some e)) ++
        (if n = (frames write (wholly write es n)).length then .ok none else .error truncated) ::
          List.replicate k (.ok none) := by
  induction es generalizing n r with
  | nil =>
    have hn₀ : n = 0 := Nat.le_zero.1 hn
    have hnil : r.rest = [] := by
      rw [h, hn₀]
      rfl
    rw [hn₀]
    exact (congrArg (reads parse · r) (Nat.zero_add _)).trans (reads_nil hnil (k + 1))
  | cons e es ih =>
    rw [frames_cons] at hn h
    rw [List.length_append] at hn
    by_cases hwhole : (encode write e).length ≤ n
    · rw [List.take_append, List.take_of_length_le hwhole] at h
      obtain ⟨hresult, hrest⟩ :=
        read_encode (hlen e List.mem_cons_self) (hparse e List.mem_cons_self) h
      have hboundary : (n = (frames write (wholly write (e :: es) n)).length) =
          (n - (encode write e).length =
            (frames write (wholly write es (n - (encode write e).length))).length) := by
        rw [wholly, if_pos hwhole, frames_cons, List.length_append]
        exact propext (by omega)
      simp only [hboundary]
      rw [wholly, if_pos hwhole, List.length_cons, Nat.add_right_comm, reads, hresult,
        ih (fun e he => hparse e (List.mem_cons_of_mem _ he))
          (fun e he => hlen e (List.mem_cons_of_mem _ he)) (by omega) hrest]
      rfl
    · have hnil : wholly write (e :: es) n = [] := by rw [wholly, if_neg hwhole]
      rw [hnil, List.take_append_of_le_length (by omega)] at *
      rcases Nat.eq_zero_or_pos n with rfl | hpos
      · exact (congrArg (reads parse · r) (Nat.zero_add _)).trans (reads_nil h (k + 1))
      · obtain ⟨hresult, hrest⟩ :=
          read_cut parse (hlen e List.mem_cons_self) hpos (Nat.not_le.1 hwhole) h
        rw [if_neg (by simp [frames]; omega)]
        change reads parse (0 + (k + 1)) r = _
        rw [Nat.zero_add, reads, hresult, reads_nil hrest]
        rfl

/-- The whole of it is read whole. -/
theorem reads_whole {es : List ε} (hparse : ∀ e ∈ es, parse (write e) = .ok e)
    (hlen : ∀ e ∈ es, (write e).length ≤ MAX_FRAME) (h : r.rest = frames write es) (k : Nat) :
    reads parse (es.length + k) r =
      es.map (fun e => .ok (some e)) ++ List.replicate k (.ok none) := by
  induction es generalizing r with
  | nil => exact (congrArg (reads parse · r) (Nat.zero_add k)).trans (reads_nil h k)
  | cons e es ih =>
    obtain ⟨hresult, hrest⟩ :=
      read_encode (hlen e List.mem_cons_self) (hparse e List.mem_cons_self) h
    rw [List.length_cons, Nat.add_right_comm, reads, hresult,
      ih (fun e he => hparse e (List.mem_cons_of_mem _ he))
        (fun e he => hlen e (List.mem_cons_of_mem _ he)) hrest]
    rfl

/-- A length too large is refused before anything is allocated for it. -/
theorem read_tooLarge {head t : List UInt8} (hhead : head.length = 4) (h : r.rest = head ++ t)
    (hlt : MAX_FRAME < BigEndian.ofBytes head) :
    (read parse r).result = .error tooLarge ∧ (read parse r).allocated = none := by
  cases head with
  | nil => cases hhead
  | cons b more =>
    have hmore : more.length = 3 := Nat.succ.inj hhead
    rw [List.cons_append] at h
    obtain ⟨r', -, hread⟩ := read_cons parse h
    rw [hread, if_pos (by rw [List.length_append]; omega), List.take_left' hmore,
      readBody_of_lt hlt]
    exact ⟨rfl, rfl⟩

end

/-- **Frames round-trip.** However few bytes come at a time, the frames of some messages are read as
those messages, and then comes the end. Cut anywhere, the whole ones are read, and then comes a
clean end or an error. What is too long is refused, and nothing allocated for it. Tuning parameters
come back as they were sent, and what has no name or no room in them is refused. -/
theorem frames_round_trip {ε : Type} (write : ε → List UInt8)
    (parse : List UInt8 → Except String ε) (es : List ε)
    (hparse : ∀ e ∈ es, parse (write e) = .ok e)
    (hlen : ∀ e ∈ es, (write e).length ≤ MAX_FRAME) :
    (∀ r : Reader, r.rest = frames write es → ∀ k,
      reads parse (es.length + k) r =
        es.map (fun e => .ok (some e)) ++ List.replicate k (.ok none)) ∧
    (∀ n ≤ (frames write es).length, ∀ r : Reader, r.rest = (frames write es).take n → ∀ k,
      reads parse ((wholly write es n).length + (k + 1)) r =
        (wholly write es n).map (fun e => .ok (some e)) ++
          (if n = (frames write (wholly write es n)).length then .ok none
            else .error truncated) :: List.replicate k (.ok none)) ∧
    (∀ (r : Reader) (head t : List UInt8), head.length = 4 → r.rest = head ++ t →
      MAX_FRAME < BigEndian.ofBytes head →
      (read parse r).result = .error tooLarge ∧ (read parse r).allocated = none) ∧
    (∀ p : TuneParams, tryTuneParams (ofTuneParams p) = .ok p) ∧
    ∀ m : TuneParamsMsg, (system m.system = none ∨ (∃ n, m.polarization = .unknown n) ∨
        ∃ id, m.streamId = some id ∧ 65535 < id.toNat) →
      ∃ why, tryTuneParams m = .error (.invalidParams why) :=
  ⟨fun _ h => reads_whole hparse hlen h, fun _ hn _ h => reads_cut hparse hlen hn h,
    fun _ _ _ hhead h => read_tooLarge hhead h, tryTuneParams_ofTuneParams,
    fun _ => tryTuneParams_refuses⟩

/-- A list request of the number `id`, which is below 128, as it goes over the wire. -/
def listRequestBytes (id : UInt8) : List UInt8 := [0x08, id, 0x52, 0x00]

/-- Two list requests: whole, cut between the two, and cut within the length of the second. -/
theorem frames_round_trip_list :
    let first := envelope 8 .listRequest
    let second := envelope 9 .listRequest
    let write : Envelope → List UInt8 := fun e =>
      if e = first then listRequestBytes 8 else if e = second then listRequestBytes 9 else []
    let parse : List UInt8 → Except String Envelope := fun bytes =>
      if bytes = listRequestBytes 8 then .ok first
      else if bytes = listRequestBytes 9 then .ok second else .error "unexpected EOF"
    reads parse 3 ⟨frames write [first, second], fun _ => 0⟩ =
        [.ok (some first), .ok (some second), .ok none] ∧
      reads parse 2 ⟨(frames write [first, second]).take 8, fun _ => 0⟩ =
        [.ok (some first), .ok none] ∧
      reads parse 2 ⟨(frames write [first, second]).take 10, fun _ => 0⟩ =
        [.ok (some first), .error truncated] := by
  intro first second write parse
  have hmem : ∀ e ∈ [first, second], e = first ∨ e = second := by simp
  obtain ⟨hwhole, hcut, -⟩ := frames_round_trip write parse [first, second]
    (fun e he => by rcases hmem e he with rfl | rfl <;> decide)
    (fun e he => by rcases hmem e he with rfl | rfl <;> decide)
  exact ⟨hwhole _ rfl 1, hcut 8 (by decide) _ rfl 0, hcut 10 (by decide) _ rfl 0⟩

end Tunelith.Proto

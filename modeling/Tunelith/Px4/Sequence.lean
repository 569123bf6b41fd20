import Tunelith.Lib.Transition
import Tunelith.Px4.Control

/-!
# Answers that come late

`ctrl` sends a command and reads one answer, which is the first that is queued at the endpoint. A
command is given up on by dropping the future or after CTRL_TIMEOUT; the bridge answers it all the
same, and what was not read stays queued.

A step here is one of `ctrl` between its await points, or of the bridge. Every command has a number
of its own beside its sequence number, which wraps. A payload that is too long changes nothing and
is left out.

* `answered_iff` — no command takes the answer to another for its own; and those whose answers are
  there get them, exactly if nothing was left over when they were sent.
* `behind_forever` — once something is left over, no command gets its answer any more; and that is
  so once a command is given up on (`given_up_forever`).
-/

namespace Tunelith.Px4.Sequence

/-- A command, and the sequence number it went out with. -/
@[ext] structure Command where
  number : Nat
  seq : UInt8
deriving DecidableEq

structure Answer where
  command : Command
  first : UInt8
  status : UInt8
  data : List UInt8
deriving DecidableEq

/-- The bytes of an answer, which has the sequence number of its command. -/
def Answer.bytes (a : Answer) : List UInt8 := response a.first a.command.seq a.status a.data

/-- The bridge, and `ctrl` on it. -/
structure Line where
  seq : UInt8 := 0
  count : Nat := 0
  /-- The commands the bridge has yet to answer. -/
  unanswered : List Command := []
  /-- The answers queued at the endpoint. -/
  queue : List Answer := []
  /-- The command whose `ctrl` is about to read. -/
  call : Option Command := none
  /-- Whether nothing was left over when it was sent. -/
  clean : Bool := false

namespace Line

/-- The command `ctrl` sends next. -/
def command (s : Line) : Command := ⟨s.count, s.seq⟩

/-- The commands whose answers are still to be read. -/
def unread (s : Line) : List Command := s.queue.map Answer.command ++ s.unanswered

/-- What `ctrl` returns if it reads now. -/
def outcome (s : Line) : Option (Except Halt (List UInt8)) :=
  match s.call, s.queue with
  | some c, a :: _ => some (parse c.seq a.bytes)
  | _, _ => none

end Line

inductive Act
  | send
  | sendFails (delivered : Bool)
  | answer (first status : UInt8) (data : List UInt8)
  | read
  | giveUp
deriving DecidableEq

inductive Step : Line → Act → Line → Prop
  | send {s : Line} (h : s.call = none) :
      Step s .send { s with
        seq := s.seq + 1, count := s.count + 1, unanswered := s.unanswered ++ [s.command]
        call := some s.command, clean := s.unread.isEmpty }
  /-- The transfer fails, or the future is dropped during it; the bridge may have the command. -/
  | sendFails {s : Line} {delivered : Bool} (h : s.call = none) :
      Step s (.sendFails delivered) { s with
        seq := s.seq + 1, count := s.count + 1
        unanswered := s.unanswered ++ if delivered then [s.command] else [] }
  | answer {s : Line} {c : Command} {rest : List Command} {first status : UInt8}
      {data : List UInt8} (h : s.unanswered = c :: rest) :
      Step s (.answer first status data) { s with
        unanswered := rest, queue := s.queue ++ [⟨c, first, status, data⟩] }
  | read {s : Line} {c : Command} {a : Answer} {rest : List Answer} (h : s.call = some c)
      (hq : s.queue = a :: rest) : Step s .read { s with queue := rest, call := none }
  /-- It times out, or fails, or is dropped. -/
  | giveUp {s : Line} {c : Command} (h : s.call = some c) :
      Step s .giveUp { s with call := none }

/-! ## What is asked of a read -/

/-- The answer that is read is to one of the last 256 commands. -/
def Young (s : Line) (a : Act) : Prop :=
  a = .read → ∀ c x rest, s.call = some c → s.queue = x :: rest →
    c.number < x.command.number + 256

/-- What is returned as a success is the data of its own answer. -/
def NeverAnothers (s : Line) : Prop :=
  ∀ c data, s.call = some c → s.outcome = some (.ok data) →
    ∃ a ∈ s.queue, a.command = c ∧ a.status = 0 ∧ a.data = data

/-- The command's own answer is queued, and says that it succeeded. -/
def OwnQueued (s : Line) (a : Answer) : Prop :=
  s.call = some a.command ∧ a ∈ s.queue ∧ a.status = 0

/-- If it is queued it is what is returned. -/
def Answered (s : Line) : Prop := ∀ a, OwnQueued s a → s.outcome = some (.ok a.data)

/-! ## What is left over -/

/-- The commands whose answers are still to be read are in the order of their numbers, and the one
whose `ctrl` is about to read is the last. -/
structure Ordered (s : Line) : Prop where
  seq : s.seq = UInt8.ofNat s.count
  seqs : ∀ c ∈ s.unread, c.seq = UInt8.ofNat c.number
  below : ∀ c ∈ s.unread, c.number < s.count
  sorted : s.unread.Pairwise fun c d => c.number < d.number
  last : ∀ c, s.call = some c → ∃ older, s.unread = older ++ [c] ∧ (s.clean = true ↔ older = [])

theorem unread_of_queue {s : Line} {a : Answer} {rest : List Answer} (h : s.queue = a :: rest) :
    s.unread = a.command :: (rest.map Answer.command ++ s.unanswered) := by
  rw [Line.unread, h]
  rfl

theorem ordered_init : Ordered {} where
  seq := rfl
  seqs _ h := absurd h List.not_mem_nil
  below _ h := absurd h List.not_mem_nil
  sorted := List.Pairwise.nil
  last _ h := absurd h nofun

/-- A command is sent, if it gets out. -/
theorem Ordered.issue {s t : Line} (out : List Command) (h : Ordered s)
    (hseq : t.seq = s.seq + 1) (hcount : t.count = s.count + 1)
    (hunread : t.unread = s.unread ++ out) (hout : ∀ c ∈ out, c = s.command) (hone : out.length ≤ 1)
    (hlast : ∀ c, t.call = some c → out = [c] ∧ t.clean = s.unread.isEmpty) : Ordered t := by
  have hcommand : s.command.seq = UInt8.ofNat s.command.number := h.seq
  refine ⟨?_, ?_, ?_, ?_, ?_⟩
  · rw [hseq, hcount, h.seq, UInt8.ofNat_add]
    rfl
  · intro c hc
    rw [hunread] at hc
    obtain hc | hc := List.mem_append.1 hc
    · exact h.seqs c hc
    · rw [hout c hc, hcommand]
  · intro c hc
    rw [hunread] at hc
    rw [hcount]
    obtain hc | hc := List.mem_append.1 hc
    · exact Nat.lt_succ_of_lt (h.below c hc)
    · rw [hout c hc]
      exact Nat.lt_succ_self _
  · rw [hunread]
    apply List.pairwise_append.2 ⟨h.sorted, ?_, ?_⟩
    · match out, hone with
      | [], _ => exact List.Pairwise.nil
      | [c], _ => exact List.pairwise_singleton _ c
    · intro c hc d hd
      rw [hout d hd]
      exact h.below c hc
  · intro c hc
    obtain ⟨rfl, hclean⟩ := hlast c hc
    refine ⟨s.unread, hunread, ?_⟩
    rw [hclean, List.isEmpty_iff]

theorem Ordered.step {s t : Line} {a : Act} (h : Ordered s) (hs : Step s a t) : Ordered t := by
  cases hs with
  | send hcall =>
    apply Ordered.issue [s.command] h rfl rfl
    · exact (List.append_assoc _ _ _).symm
    · exact fun c hc => List.mem_singleton.1 hc
    · exact Nat.le_refl 1
    · intro c hc
      cases hc
      exact ⟨rfl, rfl⟩
  | @sendFails delivered hcall =>
    apply Ordered.issue (if delivered then [s.command] else []) h rfl rfl
    · exact (List.append_assoc _ _ _).symm
    · cases delivered
      · exact fun c hc => absurd hc List.not_mem_nil
      · exact fun c hc => List.mem_singleton.1 hc
    · cases delivered
      · exact Nat.zero_le 1
      · exact Nat.le_refl 1
    · intro c hc
      rw [show s.call = none from hcall] at hc
      exact absurd hc nofun
  | @answer c rest first status data hq =>
    have hunread : s.queue.map Answer.command ++ s.unanswered =
        (s.queue ++ [Answer.mk c first status data]).map Answer.command ++ rest := by
      rw [hq, List.map_append, List.append_assoc]
      rfl
    obtain ⟨hseq, hseqs, hbelow, hsorted, hlast⟩ := h
    rw [Line.unread, hunread] at hseqs hbelow hsorted
    refine ⟨hseq, hseqs, hbelow, hsorted, fun c hc => ?_⟩
    obtain ⟨older, holder, hclean⟩ := hlast c hc
    exact ⟨older, hunread.symm.trans holder, hclean⟩
  | @read c a rest hcall hq =>
    obtain ⟨hseq, hseqs, hbelow, hsorted, -⟩ := h
    rw [unread_of_queue hq] at hseqs hbelow hsorted
    exact ⟨hseq, fun d hd => hseqs d (List.mem_cons_of_mem _ hd),
      fun d hd => hbelow d (List.mem_cons_of_mem _ hd), hsorted.of_cons, nofun⟩
  | giveUp hcall => exact ⟨h.seq, h.seqs, h.below, h.sorted, nofun⟩

/-! ## Reading -/

/-- What is made of the first answer in the queue. -/
theorem outcome_eq {s : Line} {c : Command} {a : Answer} {rest : List Answer} (hc : s.call = some c)
    (hq : s.queue = a :: rest) : s.outcome = some (
      if a.command.seq ≠ c.seq then .error (.own "control response out of sequence")
      else if a.status ≠ 0 then .error (.own "control command failed")
      else .ok a.data) := by
  rw [Line.outcome, hc, hq]
  exact congrArg some (parse_response_eq _ _ _ _ _)

theorem outcome_ok {s : Line} {c : Command} {a : Answer} {rest : List Answer} {data : List UInt8}
    (hc : s.call = some c) (hq : s.queue = a :: rest) (h : s.outcome = some (.ok data)) :
    a.command.seq = c.seq ∧ a.status = 0 ∧ a.data = data := by
  rw [outcome_eq hc hq, Option.some.injEq] at h
  by_cases hseq : a.command.seq = c.seq
  · rw [if_neg (not_not_intro hseq)] at h
    by_cases hstatus : a.status = 0
    · rw [if_neg (not_not_intro hstatus)] at h
      exact ⟨hseq, hstatus, Except.ok.inj h⟩
    · rw [if_pos hstatus] at h
      exact absurd h nofun
  · rw [if_pos hseq] at h
    exact absurd h nofun

/-- Two commands that are not too far apart have the same sequence number only if they are one. -/
theorem Ordered.eq_of_seq {s : Line} {c : Command} {a : Answer} {rest : List Answer} (h : Ordered s)
    (hc : s.call = some c) (hq : s.queue = a :: rest) (hyoung : c.number < a.command.number + 256)
    (hseq : a.command.seq = c.seq) : a.command = c := by
  obtain ⟨older, holder, -⟩ := h.last c hc
  have hunread := unread_of_queue hq
  have ha : a.command ∈ s.unread := hunread ▸ List.mem_cons_self
  have hmem : c ∈ s.unread := holder ▸ List.mem_append_right _ List.mem_cons_self
  have hle : a.command.number ≤ c.number := by
    have hsorted := h.sorted
    rw [hunread] at hsorted
    obtain hmem | hmem := List.mem_cons.1 (hunread ▸ hmem)
    · exact Nat.le_of_eq (congrArg Command.number hmem.symm)
    · exact Nat.le_of_lt ((List.pairwise_cons.1 hsorted).1 c hmem)
  have hnumber : a.command.number = c.number := by
    have hmod := congrArg UInt8.toNat hseq
    rw [h.seqs _ ha, h.seqs _ hmem, UInt8.toNat_ofNat', UInt8.toNat_ofNat'] at hmod
    omega
  exact Command.ext hnumber hseq

theorem Ordered.neverAnothers {s : Line} (h : Ordered s) (hyoung : Young s .read) :
    NeverAnothers s := by
  intro c data hc hdata
  match hq : s.queue with
  | [] =>
    rw [Line.outcome, hc, hq] at hdata
    exact absurd hdata nofun
  | a :: rest =>
    obtain ⟨hseq, hstatus, hdata⟩ := outcome_ok hc hq hdata
    refine ⟨a, List.mem_cons_self, ?_, hstatus, hdata⟩
    exact h.eq_of_seq hc hq (hyoung rfl c a rest hc hq) hseq

/-- What succeeds was sent with nothing left over. -/
theorem Ordered.clean_of_ok {s : Line} {c : Command} {data : List UInt8} (h : Ordered s)
    (hyoung : Young s .read) (hc : s.call = some c) (hout : s.outcome = some (.ok data)) :
    s.clean = true := by
  match hq : s.queue with
  | [] =>
    rw [Line.outcome, hc, hq] at hout
    exact absurd hout nofun
  | a :: rest =>
    obtain ⟨hseq, -, -⟩ := outcome_ok hc hq hout
    have ha := h.eq_of_seq hc hq (hyoung rfl c a rest hc hq) hseq
    obtain ⟨older, holder, hclean⟩ := h.last c hc
    -- What is read first is its own answer, so there is nothing older.
    apply hclean.2
    cases older with
    | nil => rfl
    | cons d older =>
      have hsorted := h.sorted
      have hd : d = a.command := (List.cons.inj ((unread_of_queue hq).symm.trans holder)).1.symm
      rw [holder] at hsorted
      have hlt := (List.pairwise_cons.1 hsorted).1 c (List.mem_append_right _ List.mem_cons_self)
      rw [hd, ha] at hlt
      exact absurd hlt (Nat.lt_irrefl _)

/-- A command whose answer is queued gets it exactly if nothing was left over when it was sent. -/
theorem Ordered.answered_iff_clean {s : Line} (h : Ordered s) (hyoung : Young s .read) :
    Answered s ↔ ∀ a, OwnQueued s a → s.clean = true := by
  apply Iff.intro
  · intro hanswered a ha
    exact h.clean_of_ok hyoung ha.1 (hanswered a ha)
  · intro hclean a ha
    obtain ⟨hc, hmem, hstatus⟩ := ha
    obtain ⟨older, holder, holder'⟩ := h.last _ hc
    obtain rfl := holder'.1 (hclean a ⟨hc, hmem, hstatus⟩)
    obtain ⟨b, rest, hq⟩ := List.exists_cons_of_ne_nil (List.ne_nil_of_mem hmem)
    -- There is one answer to be read, which is its own.
    have hone := (unread_of_queue hq).symm.trans holder
    rw [List.nil_append] at hone
    have hrest := List.append_eq_nil_iff.1 (List.cons.inj hone).2
    rw [hq, List.map_eq_nil_iff.1 hrest.1] at hmem
    obtain rfl := List.mem_singleton.1 hmem
    rw [outcome_eq hc hq, if_neg (not_not_intro rfl), if_neg (not_not_intro hstatus)]

/-! ## Runs -/

theorem ordered_of_run {tr : List (Line × Act)} {s : Line} (h : Lts.Run Step {} tr s) :
    Lts.Always Ordered tr s := by
  have hstep : ∀ t a u, Lts.Reachable Step {} t → Ordered t → True → Step t a u → Ordered u :=
    fun _ _ _ _ ht _ hs => ht.step hs
  exact h.always_of_allGood ordered_init hstep fun _ _ => trivial

/-- No command takes the answer to another for its own. One whose own answer is queued when it
reads, and says that it succeeded, gets it, exactly if nothing was left over when it was sent. -/
theorem answered_iff {tr : List (Line × Act)} {s : Line} (h : Lts.Run Step {} tr s)
    (hyoung : Lts.AllGood Young tr) :
    (∀ x ∈ tr, x.2 = .read → NeverAnothers x.1) ∧
      ((∀ x ∈ tr, x.2 = .read → Answered x.1) ↔
        ∀ x ∈ tr, x.2 = .read → ∀ a, OwnQueued x.1 a → x.1.clean = true) := by
  have hordered := (ordered_of_run h).2
  have hread : ∀ x ∈ tr, x.2 = .read → Young x.1 .read := fun x hx hr => hr ▸ hyoung x hx
  apply And.intro
  · intro x hx hr
    exact (hordered x hx).neverAnothers (hread x hx hr)
  · apply Iff.intro
    · intro hanswered x hx hr
      exact ((hordered x hx).answered_iff_clean (hread x hx hr)).1 (hanswered x hx hr)
    · intro hclean x hx hr
      exact ((hordered x hx).answered_iff_clean (hread x hx hr)).2 (hclean x hx hr)

/-! A command that is answered at once. -/

def prompt : List (Line × Act) :=
  [({ seq := 1, count := 1, queue := [⟨⟨0, 0⟩, 0, 0, [7]⟩], call := some ⟨0, 0⟩, clean := true },
      .read),
    ({ seq := 1, count := 1, unanswered := [⟨0, 0⟩], call := some ⟨0, 0⟩, clean := true },
      .answer 0 0 [7]),
    ({}, .send)]

theorem run_prompt : Lts.Run Step {} prompt { seq := 1, count := 1, clean := true } :=
  ((Lts.Run.nil.snoc (.send rfl)).snoc (.answer rfl)).snoc (.read rfl rfl)

theorem young_of_ne {s : Line} {a : Act} (h : a ≠ .read) : Young s a := fun hr => absurd hr h

theorem young_prompt : Lts.AllGood Young prompt := by
  intro x hx
  rcases hx with _ | ⟨_, hx⟩
  · intro _ c a rest hc hq
    cases hc
    cases hq
    decide
  · apply young_of_ne
    rcases hx with _ | ⟨_, _ | ⟨_, hx⟩⟩
    · exact nofun
    · exact nofun
    · cases hx

theorem answered_iff_prompt :
    (∀ x ∈ prompt, x.2 = .read → NeverAnothers x.1) ∧
      ((∀ x ∈ prompt, x.2 = .read → Answered x.1) ↔
        ∀ x ∈ prompt, x.2 = .read → ∀ a, OwnQueued x.1 a → x.1.clean = true) :=
  answered_iff run_prompt young_prompt

/-! The first command times out and is answered after that; the second is answered too, but reads
the answer to the first. -/

def behind : Line where
  seq := 2
  count := 2
  queue := [⟨⟨0, 0⟩, 0, 0, [7]⟩, ⟨⟨1, 1⟩, 0, 0, [8]⟩]
  call := some ⟨1, 1⟩

def late : List (Line × Act) :=
  [(behind, .read),
    ({ behind with queue := [⟨⟨0, 0⟩, 0, 0, [7]⟩], unanswered := [⟨1, 1⟩] }, .answer 0 0 [8]),
    ({ seq := 1, count := 1, queue := [⟨⟨0, 0⟩, 0, 0, [7]⟩], clean := true }, .send),
    ({ seq := 1, count := 1, unanswered := [⟨0, 0⟩], clean := true }, .answer 0 0 [7]),
    ({ seq := 1, count := 1, unanswered := [⟨0, 0⟩], call := some ⟨0, 0⟩, clean := true }, .giveUp),
    ({}, .send)]

theorem run_late : Lts.Run Step {} late
    { behind with queue := [⟨⟨1, 1⟩, 0, 0, [8]⟩], call := none } :=
  (((((Lts.Run.nil.snoc (.send rfl)).snoc (.giveUp rfl)).snoc (.answer rfl)).snoc
    (.send rfl)).snoc (.answer rfl)).snoc (.read rfl rfl)

theorem young_late : Lts.AllGood Young late := by
  intro x hx
  rcases hx with _ | ⟨_, hx⟩
  · intro _ c a rest hc hq
    cases hc
    cases hq
    decide
  · apply young_of_ne
    rcases hx with _ | ⟨_, _ | ⟨_, _ | ⟨_, _ | ⟨_, _ | ⟨_, hx⟩⟩⟩⟩⟩
    · exact nofun
    · exact nofun
    · exact nofun
    · exact nofun
    · exact nofun
    · cases hx

theorem out_of_sequence : ¬ ∀ tr s, Lts.Run Step {} tr s → Lts.AllGood Young tr →
    (∀ x ∈ tr, x.2 = .read → NeverAnothers x.1) ∧ ∀ x ∈ tr, x.2 = .read → Answered x.1 := by
  intro h
  have hread : Answered behind :=
    (h late _ run_late young_late).2 (behind, .read) List.mem_cons_self rfl
  have hown := hread ⟨⟨1, 1⟩, 0, 0, [8]⟩ ⟨rfl, List.mem_cons_of_mem _ List.mem_cons_self, rfl⟩
  exact absurd (outcome_ok (s := behind) rfl rfl hown).1 (by decide)

/-! ## Ever after -/

/-- An answer is left over, or will be. -/
def Behind (s : Line) : Prop :=
  match s.call with
  | none => s.unread ≠ []
  | some _ => s.clean = false

theorem behind_step {s t : Line} {a : Act} (h : Ordered s) (hb : Behind s) (hs : Step s a t) :
    Behind t := by
  cases hs with
  | send hcall =>
    rw [Behind, hcall] at hb
    exact List.isEmpty_eq_false_iff.2 hb
  | @sendFails delivered hcall =>
    rw [Behind, hcall] at hb
    rw [Behind, hcall]
    show s.queue.map Answer.command ++ (s.unanswered ++ _) ≠ []
    rw [← List.append_assoc]
    exact List.append_ne_nil_of_left_ne_nil hb _
  | @answer c rest first status data hq =>
    rw [Behind] at hb ⊢
    cases hcall : s.call with
    | none =>
      rw [hcall] at hb
      show (s.queue ++ [_]).map Answer.command ++ rest ≠ []
      simp
    | some _ =>
      rw [hcall] at hb
      exact hb
  | @read c a rest hcall hq =>
    rw [Behind, hcall] at hb
    obtain ⟨older, holder, hclean⟩ := h.last c hcall
    have hcons := (unread_of_queue hq).symm.trans holder
    cases older with
    | nil => exact absurd (hclean.2 rfl) (hb ▸ Bool.false_ne_true)
    | cons d older =>
      show rest.map Answer.command ++ s.unanswered ≠ []
      rw [(List.cons.inj hcons).2]
      exact List.append_ne_nil_of_right_ne_nil _ (List.cons_ne_nil _ _)
  | @giveUp c hcall =>
    obtain ⟨older, holder, -⟩ := h.last c hcall
    show s.unread ≠ []
    rw [holder]
    exact List.append_ne_nil_of_right_ne_nil _ (List.cons_ne_nil _ _)

/-- Once an answer is left over, no command succeeds any more. -/
theorem behind_forever {s₀ s : Line} {tr : List (Line × Act)} (h₀ : Ordered s₀) (hb : Behind s₀)
    (h : Lts.Run Step s₀ tr s) (hyoung : Lts.AllGood Young tr) :
    ∀ x ∈ tr, x.2 = .read → ∀ data, x.1.outcome ≠ some (.ok data) := by
  have hstep : ∀ t a u, Lts.Reachable Step s₀ t → Ordered t ∧ Behind t → True → Step t a u →
      Ordered u ∧ Behind u :=
    fun _ _ _ _ ht _ hs => ⟨ht.1.step hs, behind_step ht.1 ht.2 hs⟩
  have hall := h.always_of_allGood ⟨h₀, hb⟩ hstep fun _ _ => trivial
  intro x hx hr data hout
  obtain ⟨hordered, hbehind⟩ := hall.2 x hx
  cases hc : x.1.call with
  | none =>
    rw [Line.outcome, hc] at hout
    exact absurd hout nofun
  | some c =>
    rw [Behind, hc] at hbehind
    have hclean := hordered.clean_of_ok (hr ▸ hyoung x hx) hc hout
    rw [hbehind] at hclean
    exact absurd hclean Bool.false_ne_true

/-- **What giving up costs.** Once a command is given up on, or fails to be sent after all the
bridge had it, no later command succeeds, however long the bridge goes on answering. -/
theorem given_up_forever {s t : Line} {a : Act} {later earlier : List (Line × Act)}
    (h : Lts.Run Step {} (later ++ (t, a) :: earlier) s) (ha : a = .giveUp ∨ a = .sendFails true)
    (hyoung : Lts.AllGood Young later) :
    ∀ x ∈ later, x.2 = .read → ∀ data, x.1.outcome ≠ some (.ok data) := by
  obtain ⟨u, hearlier, hstep, hlater⟩ := h.split
  have hordered : Ordered t := (ordered_of_run hearlier).1
  refine behind_forever (hordered.step hstep) ?_ hlater hyoung
  cases hstep with
  | @giveUp c hcall =>
    obtain ⟨older, holder, -⟩ := hordered.last c hcall
    show t.unread ≠ []
    rw [holder]
    exact List.append_ne_nil_of_right_ne_nil _ (List.cons_ne_nil _ _)
  | @sendFails delivered hcall =>
    have hdelivered : delivered = true := by simpa using ha
    subst hdelivered
    rw [Behind, hcall]
    show t.queue.map Answer.command ++ (t.unanswered ++ [t.command]) ≠ []
    simp
  | send | answer | read => simp at ha

theorem given_up_forever_late : ∃ s tr t, Lts.Run Step {} (late.take 4 ++ (s, .giveUp) :: tr) t ∧
    ∀ x ∈ late.take 4, x.2 = .read → ∀ data, x.1.outcome ≠ some (.ok data) := by
  have hrun : Lts.Run Step {} (late.take 4 ++ (_, .giveUp) :: _) _ := run_late
  exact ⟨_, _, _, hrun,
    given_up_forever hrun (.inl rfl) fun x hx => young_late x (List.mem_of_mem_take hx)⟩

end Tunelith.Px4.Sequence

import Mathlib.Data.List.Basic

/-!
# Slices that may be out of range

* `Slices.get` — the elements from an index up to another one, if both are in range.
* `isSome_mapM` — a list is gone through to its end exactly if no element stops it.
* `flatMap_split` — where a record of a fixed size stands among others.
-/

namespace Slices

variable {α β : Type}

/-- The elements from `i` up to `j`. -/
def get (b : List α) (i j : Nat) : Option (List α) :=
  if i ≤ j ∧ j ≤ b.length then some ((b.take j).drop i) else none

/-- The elements from `i` on. -/
def rest (b : List α) (i : Nat) : Option (List α) := get b i b.length

/-- The chunks of `n` elements, without those left over. -/
def chunks (n : Nat) (b : List α) : List (List α) :=
  (List.range (b.length / n)).map fun i => (b.drop (i * n)).take n

variable {b c : List α} {i j n : Nat}

theorem get_of_le (h : i ≤ j) (hj : j ≤ b.length) : get b i j = some ((b.take j).drop i) :=
  if_pos ⟨h, hj⟩

theorem get_eq_none_iff : get b i j = none ↔ i ≤ j → b.length < j := by
  rw [get]
  split
  · next h =>
    refine ⟨nofun, fun hlt => ?_⟩
    exact absurd (hlt h.1) (Nat.not_lt.2 h.2)
  · next h =>
    refine ⟨fun _ hij => ?_, fun _ => rfl⟩
    exact Nat.lt_of_not_le fun hj => h ⟨hij, hj⟩

theorem length_of_get (h : get b i j = some c) : c.length = j - i := by
  rw [get] at h
  split at h
  · next hin =>
    cases h
    rw [List.length_drop, List.length_take, Nat.min_eq_left hin.2]
  · exact absurd h nofun

/-- The part in the middle. -/
theorem get_append {before after : List α} (hi : before.length = i) (hj : i + c.length = j) :
    get (before ++ (c ++ after)) i j = some c := by
  subst hi hj
  rw [get_of_le (Nat.le_add_right _ _) (by simp)]
  rw [← List.append_assoc, List.take_append_of_le_length (by simp),
    List.take_of_length_le (by simp), List.drop_left]

theorem get_zero_append {after : List α} (h : c.length = n) : get (c ++ after) 0 n = some c := by
  have hget : get ([] ++ (c ++ after)) 0 n = some c := get_append rfl (by rw [Nat.zero_add, h])
  exact hget

theorem rest_of_le (h : i ≤ b.length) : rest b i = some (b.drop i) := by
  rw [rest, get_of_le h (Nat.le_refl _), List.take_length]

theorem rest_eq_none_iff : rest b i = none ↔ b.length < i := by
  rw [rest, get_eq_none_iff]
  constructor
  · intro h
    exact Nat.lt_of_not_le fun hi => absurd (h hi) (Nat.lt_irrefl _)
  · intro h hi
    exact absurd hi (Nat.not_le.2 h)

theorem length_of_mem_chunks (h : c ∈ chunks n b) : c.length = n := by
  obtain ⟨i, hi, rfl⟩ := List.mem_map.1 h
  have hmul : (i + 1) * n ≤ b.length :=
    Nat.le_trans (Nat.mul_le_mul_right n (List.mem_range.1 hi)) (Nat.div_mul_le_self b.length n)
  rw [Nat.add_mul, Nat.one_mul] at hmul
  rw [List.length_take, List.length_drop]
  omega

/-! ## Going through a list -/

theorem mapM_cons_eq {f : α → Option β} {a : α} {as : List α} :
    (a :: as).mapM f = (f a).bind fun b => (as.mapM f).map (b :: ·) := by
  rw [List.mapM_cons]
  cases f a with
  | none => rfl
  | some b =>
    show (as.mapM f).bind (fun bs => some (b :: bs)) = _
    cases as.mapM f <;> rfl

theorem isSome_mapM {f : α → Option β} {as : List α} :
    (as.mapM f).isSome ↔ ∀ a ∈ as, (f a).isSome := by
  induction as with
  | nil => exact ⟨fun _ a ha => absurd ha List.not_mem_nil, fun _ => rfl⟩
  | cons a as ih =>
    rw [mapM_cons_eq, List.forall_mem_cons, ← ih]
    cases f a with
    | none => simp
    | some b => simp

theorem mapM_eq_some_iff {f : α → Option β} {as : List α} {bs : List β} :
    as.mapM f = some bs ↔ as.map f = bs.map some := by
  induction as generalizing bs with
  | nil =>
    cases bs with
    | nil => exact ⟨fun _ => rfl, fun _ => rfl⟩
    | cons b bs => exact ⟨nofun, nofun⟩
  | cons a as ih =>
    rw [mapM_cons_eq]
    cases bs with
    | nil => cases f a <;> simp
    | cons b bs =>
      rw [List.map_cons, List.map_cons, List.cons.injEq, ← ih]
      cases f a with
      | none => exact ⟨nofun, fun h => absurd h.1 nofun⟩
      | some b' =>
        show (as.mapM f).map (b' :: ·) = some (b :: bs) ↔ _
        cases as.mapM f with
        | none => exact ⟨nofun, fun h => absurd h.2 nofun⟩
        | some bs' => simp

/-! ## Records -/

theorem length_flatMap_of_const {f : α → List β} (hf : ∀ a, (f a).length = n) (as : List α) :
    (as.flatMap f).length = as.length * n := by
  induction as with
  | nil => exact (Nat.zero_mul n).symm
  | cons a as ih =>
    rw [List.flatMap_cons, List.length_append, ih, hf a, List.length_cons, Nat.succ_mul,
      Nat.add_comm]

/-- Among records of `n` elements each, the one at `i`. -/
theorem flatMap_split {f : α → List β} (hf : ∀ a, (f a).length = n) {as : List α}
    (h : i < as.length) : ∃ before after, as.flatMap f = before ++ (f as[i] ++ after) ∧
      before.length = i * n := by
  refine ⟨(as.take i).flatMap f, (as.drop (i + 1)).flatMap f, ?_, ?_⟩
  · rw [← List.flatMap_cons, ← List.drop_eq_getElem_cons h, ← List.flatMap_append,
      List.take_append_drop]
  · rw [length_flatMap_of_const hf, List.length_take, Nat.min_eq_left (Nat.le_of_lt h)]

end Slices

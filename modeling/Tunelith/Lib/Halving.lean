import Mathlib.Data.List.Basic

/-!
# Where a list turns

In a list that is split by a predicate, those that have it coming first, the place where it turns is
found by halving.

* `turn` — the place found, in any list.
* `turn_spec` — in a list that is split, what is before it has the predicate and the rest has not.
-/

namespace Halving

variable {α : Type*} (p : α → Bool)

/-- The place where `q` turns among the `size` places from `base` on, or right after the first. -/
def search (q : Nat → Bool) (base size : Nat) : Nat :=
  if size ≤ 1 then if q base then base + 1 else base
  else
    let half := size / 2
    search q (if q (base + half) then base + half else base) (size - half)
termination_by size

/-- The place where `p` turns. -/
def turn (l : List α) : Nat :=
  if l.length = 0 then 0 else search (fun i => (l[i]?).any p) 0 l.length

/-- Those that have `p` come first. -/
def Split (l : List α) : Prop :=
  ∀ i j : Nat, i ≤ j → (l[j]?).any p = true → (l[i]?).any p = true

variable {p} {l : List α} {q : Nat → Bool} {base size k : Nat}

theorem search_spec (hq : ∀ i j, i ≤ j → q j = true → q i = true) (hs : 0 < size)
    (hlow : ∀ i, i < base → q i = true) (hhigh : ∀ i, base + size ≤ i → q i = false) :
    (∀ i, i < search q base size → q i = true) ∧ ∀ i, search q base size ≤ i → q i = false := by
  induction size using Nat.strongRecOn generalizing base with
  | ind size ih =>
    unfold search
    split
    · next h1 =>
      obtain rfl : size = 1 := by omega
      split
      · next hb => exact ⟨fun i hi => hq i base (by omega) hb, hhigh⟩
      · next hb =>
        refine ⟨hlow, fun i hi => ?_⟩
        rw [← Bool.not_eq_true]
        exact fun hqi => hb (hq base i hi hqi)
    · next h1 =>
      have hhalf : 0 < size / 2 ∧ size / 2 < size := by omega
      refine ih (size - size / 2) (by omega) (by omega) (fun i hi => ?_) fun i hi => ?_
      · split at hi
        · next hb => exact hq i _ (by omega) hb
        · exact hlow i hi
      · split at hi
        · exact hhigh i (by omega)
        · next hb =>
          rw [← Bool.not_eq_true]
          exact fun hqi => hb (hq _ i (by omega) hqi)

/-- **The turn.** What is before it has `p`, and what is there or after has not. -/
theorem turn_spec (h : Split p l) :
    (∀ i, i < turn p l → (l[i]?).any p = true) ∧ ∀ i, turn p l ≤ i → (l[i]?).any p = false := by
  unfold turn
  split
  · next hl =>
    obtain rfl := List.length_eq_zero_iff.1 hl
    exact ⟨nofun, fun i _ => rfl⟩
  · next hl =>
    refine search_spec h (by omega) nofun fun i hi => ?_
    rw [List.getElem?_eq_none (by omega)]
    rfl

theorem turn_le (h : Split p l) : turn p l ≤ l.length := by
  by_contra hn
  have := (turn_spec h).1 l.length (by omega)
  rw [List.getElem?_eq_none (Nat.le_refl _)] at this
  cases this

/-- It turns later by a weaker predicate. -/
theorem turn_mono {p' : α → Bool} (h : Split p l) (h' : Split p' l)
    (hp : ∀ a, p a = true → p' a = true) : turn p l ≤ turn p' l := by
  by_contra hn
  have hk := (turn_spec h).1 (turn p' l) (by omega)
  have hk' := (turn_spec h').2 (turn p' l) (Nat.le_refl _)
  cases ha : l[turn p' l]? with
  | none =>
    rw [ha] at hk
    cases hk
  | some a =>
    rw [ha, Option.any_some] at hk hk'
    rw [hp a hk] at hk'
    cases hk'

/-- A list is split by what holds of one whenever it holds of the next. -/
theorem split_of_isChain {r : α → α → Prop} (h : l.IsChain r)
    (hr : ∀ a b, r a b → p b = true → p a = true) : Split p l := by
  intro i j hij hj
  obtain ⟨d, rfl⟩ := Nat.exists_eq_add_of_le hij
  induction d with
  | zero => exact hj
  | succ d ih =>
    refine ih (Nat.le_add_right i d) ?_
    have hlt : i + d + 1 < l.length := by
      by_contra hn
      rw [← Nat.add_assoc, List.getElem?_eq_none (by omega)] at hj
      cases hj
    rw [← Nat.add_assoc, List.getElem?_eq_getElem hlt] at hj
    rw [List.getElem?_eq_getElem (by omega)]
    exact hr _ _ (List.isChain_iff_getElem.1 h (i + d) hlt) hj

end Halving

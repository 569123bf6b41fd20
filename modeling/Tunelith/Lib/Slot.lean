import Mathlib.Logic.ExistsUnique

/-!
# A slot that names who is at it

A lock's holder, or the one whose turn it is, is kept in a cell apart from the parties' own states.

* `Names` — the cell is right: it holds exactly the one of whom `P` is true.
* `Names.put`, `.leave`, `.take` — one comes, one goes, and whoever is there is sent away.
-/

namespace Slot

variable {ι : Type*} {slot : Option ι} {P Q : ι → Prop} {i j : ι}

/-- The slot holds exactly the one of whom `P` is true. -/
def Names (slot : Option ι) (P : ι → Prop) : Prop := ∀ i, slot = some i ↔ P i

theorem Names.empty (h : ∀ i, ¬ P i) : Names none P := by
  intro i
  exact ⟨fun hi => absurd hi nofun, fun hi => absurd hi (h i)⟩

theorem Names.unique (h : Names slot P) (hi : P i) (hj : P j) : i = j :=
  Option.some.inj (((h i).2 hi).symm.trans ((h j).2 hj))

theorem Names.isSome_iff (h : Names slot P) : slot.isSome ↔ ∃! i, P i := by
  constructor
  · intro hs
    obtain ⟨i, hi⟩ := Option.isSome_iff_exists.1 hs
    exact ⟨i, (h i).1 hi, fun j hj => h.unique hj ((h i).1 hi)⟩
  · intro hex
    obtain ⟨i, hi, -⟩ := hex
    rw [(h i).2 hi]
    rfl

theorem Names.not_of_none (h : Names none P) (i : ι) : ¬ P i := by
  intro hi
  exact absurd ((h i).2 hi) nofun

theorem Names.congr (h : Names slot P) (hQ : ∀ i, Q i ↔ P i) : Names slot Q := by
  intro i
  rw [hQ i]
  exact h i

/-- One comes to an empty slot. -/
theorem Names.put (h : Names none P) (hi : Q i) (hQ : ∀ j, j ≠ i → (Q j ↔ P j)) :
    Names (some i) Q := by
  intro j
  by_cases hj : j = i
  · rw [hj]
    exact ⟨fun _ => hi, fun _ => rfl⟩
  · rw [hQ j hj]
    exact ⟨fun he => absurd (Option.some.inj he).symm hj, fun hP => absurd hP (h.not_of_none j)⟩

/-- The one who is there goes. -/
theorem Names.clear (h : Names slot P) (hi : P i) (hnot : ¬ Q i)
    (hQ : ∀ j, j ≠ i → (Q j ↔ P j)) : Names none Q := by
  apply Names.empty
  intro j hj
  by_cases he : j = i
  · exact hnot (he ▸ hj)
  · exact he (h.unique ((hQ j he).1 hj) hi)

/-- One goes who may be there. -/
theorem Names.leave [DecidableEq ι] (h : Names slot P) (hnot : ¬ Q i)
    (hQ : ∀ j, j ≠ i → (Q j ↔ P j)) : Names (if slot = some i then none else slot) Q := by
  by_cases hi : slot = some i
  · rw [if_pos hi]
    exact h.clear ((h i).1 hi) hnot hQ
  · rw [if_neg hi]
    apply h.congr
    intro j
    by_cases hj : j = i
    · rw [hj]
      exact ⟨fun hq => absurd hq hnot, fun hp => absurd ((h i).2 hp) hi⟩
    · exact hQ j hj

/-- Whoever is there is sent away. -/
theorem Names.take (h : Names slot P) (hQ : ∀ i, Q i → P i ∧ slot ≠ some i) : Names none Q := by
  apply Names.empty
  intro i hi
  exact (hQ i hi).2 ((h i).2 (hQ i hi).1)

end Slot

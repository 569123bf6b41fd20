import Mathlib.Data.Finset.Basic
import Mathlib.Logic.Function.Basic
import Mathlib.Logic.ExistsUnique

/-!
# Exclusive leases

Items are lent to holders one at a time. A set `busy` records the items lent, `holds` says what
each holder has, and whether it is using it right now, and `uses` counts the uses in progress of
each item.

* `Exclusive` — the record is right: an item is busy exactly if one holder has it.
* `Exclusive.take`, `.set`, `.pass`, `.free` — the four things that may happen to a lease keep
  the record right.
-/

namespace Lease

variable {H ι : Type*}

/-- The items in `busy` are those held, each by one holder, and `uses` counts its use. -/
structure Exclusive (busy : Finset ι) (holds : H → Option (ι × Bool)) (uses : ι → Nat) :
    Prop where
  busy_of_holds : ∀ {h i b}, holds h = some (i, b) → i ∈ busy
  held_of_busy : ∀ {i}, i ∈ busy → ∃ h b, holds h = some (i, b)
  unique : ∀ {h h' i b b'}, holds h = some (i, b) → holds h' = some (i, b') → h = h'
  uses_of_holds : ∀ {h i b}, holds h = some (i, b) → uses i = b.toNat
  uses_of_free : ∀ {i}, i ∉ busy → uses i = 0

variable {busy : Finset ι} {holds : H → Option (ι × Bool)} {uses : ι → Nat}

theorem Exclusive.nothing : Exclusive (∅ : Finset ι) (fun _ : H => none) (fun _ => 0) where
  busy_of_holds h := by cases h
  held_of_busy h := absurd h (Finset.notMem_empty _)
  unique h := by cases h
  uses_of_holds h := by cases h
  uses_of_free _ := rfl

/-- An item is busy if and only if exactly one holder has it. -/
theorem Exclusive.busy_iff (hE : Exclusive busy holds uses) (i : ι) :
    i ∈ busy ↔ ∃! h, ∃ b, holds h = some (i, b) := by
  constructor
  · intro hi
    obtain ⟨h, b, hh⟩ := hE.held_of_busy hi
    exact ⟨h, ⟨b, hh⟩, fun h' ⟨_, hh'⟩ => hE.unique hh' hh⟩
  · rintro ⟨h, ⟨b, hh⟩, -⟩
    exact hE.busy_of_holds hh

variable [DecidableEq H] [DecidableEq ι]

/-- A free item is taken, not used yet. -/
theorem Exclusive.take (hE : Exclusive busy holds uses) {h : H} {i : ι} (hi : i ∉ busy)
    (hh : holds h = none) :
    Exclusive (insert i busy) (Function.update holds h (some (i, false))) uses := by
  have hno : ∀ {h' b}, holds h' ≠ some (i, b) := fun hh' => hi (hE.busy_of_holds hh')
  refine ⟨fun {h' j b} hj => ?_, fun {j} hj => ?_, fun {h₁ h₂ j b b'} h₁j h₂j => ?_,
    fun {h' j b} hj => ?_, fun {j} hj => hE.uses_of_free fun hm => hj (Finset.mem_insert_of_mem hm)⟩
  · rw [Function.update_apply] at hj
    split_ifs at hj
    · cases hj
      exact Finset.mem_insert_self _ _
    · exact Finset.mem_insert_of_mem (hE.busy_of_holds hj)
  · rcases Finset.mem_insert.1 hj with rfl | hj
    · exact ⟨h, false, Function.update_self ..⟩
    · obtain ⟨h', b, hh'⟩ := hE.held_of_busy hj
      refine ⟨h', b, ?_⟩
      rw [Function.update_of_ne, hh']
      rintro rfl
      rw [hh] at hh'
      cases hh'
  · rw [Function.update_apply] at h₁j h₂j
    split_ifs at h₁j h₂j with e₁ e₂ e₂
    · rw [e₁, e₂]
    · cases h₁j
      exact absurd h₂j hno
    · cases h₂j
      exact absurd h₁j hno
    · exact hE.unique h₁j h₂j
  · rw [Function.update_apply] at hj
    split_ifs at hj
    · cases hj
      exact hE.uses_of_free hi
    · exact hE.uses_of_holds hj

/-- A holder starts or stops using its item. -/
theorem Exclusive.set (hE : Exclusive busy holds uses) {h : H} {i : ι} {b : Bool}
    (hh : holds h = some (i, b)) (b' : Bool) :
    Exclusive busy (Function.update holds h (some (i, b')))
      (Function.update uses i b'.toNat) := by
  have hsame : ∀ {h' j c}, Function.update holds h (some (i, b')) h' = some (j, c) →
      ∃ c', holds h' = some (j, c') := by
    intro h' j c hj
    rw [Function.update_apply] at hj
    split_ifs at hj with e
    · cases hj
      exact ⟨b, e ▸ hh⟩
    · exact ⟨c, hj⟩
  refine ⟨fun {h' j c} hj => ?_, fun {j} hj => ?_, fun {h₁ h₂ j c c'} h₁j h₂j => ?_,
    fun {h' j c} hj => ?_, fun {j} hj => ?_⟩
  · obtain ⟨c', hc'⟩ := hsame hj
    exact hE.busy_of_holds hc'
  · obtain ⟨h', c, hh'⟩ := hE.held_of_busy hj
    by_cases e : h' = h
    · subst e
      rw [hh] at hh'
      cases hh'
      exact ⟨h', b', Function.update_self ..⟩
    · exact ⟨h', c, by rw [Function.update_of_ne e, hh']⟩
  · obtain ⟨d, hd⟩ := hsame h₁j
    obtain ⟨d', hd'⟩ := hsame h₂j
    exact hE.unique hd hd'
  · by_cases e : h' = h
    · subst e
      rw [Function.update_self] at hj
      cases hj
      exact Function.update_self ..
    · rw [Function.update_of_ne e] at hj
      rw [Function.update_of_ne, hE.uses_of_holds hj]
      rintro rfl
      exact e (hE.unique hj hh)
  · rw [Function.update_of_ne, hE.uses_of_free hj]
    rintro rfl
    exact hj (hE.busy_of_holds hh)

omit [DecidableEq ι] in
/-- A holder hands its item on to another. -/
theorem Exclusive.pass (hE : Exclusive busy holds uses) {h h' : H} {i : ι} {b : Bool}
    (hh : holds h = some (i, b)) (hh' : holds h' = none) :
    Exclusive busy (Function.update (Function.update holds h none) h' (some (i, b))) uses := by
  have hne : h' ≠ h := by
    rintro rfl
    rw [hh] at hh'
    cases hh'
  -- What is held afterwards was held before, by the giver for the one who got it.
  have hsame : ∀ {g j c},
      Function.update (Function.update holds h none) h' (some (i, b)) g = some (j, c) →
      holds (if g = h' then h else g) = some (j, c) := by
    intro g j c hj
    rw [Function.update_apply] at hj
    split_ifs at hj ⊢ with e
    · cases hj
      exact hh
    · rw [Function.update_apply] at hj
      split_ifs at hj
      exact hj
  refine ⟨fun hj => hE.busy_of_holds (hsame hj), fun {j} hj => ?_, fun {g₁ g₂ j c c'} h₁ h₂ => ?_,
    fun hj => hE.uses_of_holds (hsame hj), fun hj => hE.uses_of_free hj⟩
  · obtain ⟨g, c, hg⟩ := hE.held_of_busy hj
    by_cases e : g = h
    · subst e
      rw [hh] at hg
      cases hg
      exact ⟨h', b, Function.update_self ..⟩
    · refine ⟨g, c, ?_⟩
      rw [Function.update_of_ne, Function.update_of_ne e, hg]
      rintro rfl
      rw [hh'] at hg
      cases hg
  · have hu := hE.unique (hsame h₁) (hsame h₂)
    -- The giver has nothing left, so neither of the two is it.
    have hgone : ∀ {g j c},
        Function.update (Function.update holds h none) h' (some (i, b)) g = some (j, c) →
        g ≠ h := by
      rintro g j c hj rfl
      rw [Function.update_of_ne hne.symm, Function.update_self] at hj
      cases hj
    split_ifs at hu with e₁ e₂ e₂
    · rw [e₁, e₂]
    · exact absurd hu.symm (hgone h₂)
    · exact absurd hu (hgone h₁)
    · exact hu

/-- A holder not using its item gives it back. -/
theorem Exclusive.free (hE : Exclusive busy holds uses) {h : H} {i : ι}
    (hh : holds h = some (i, false)) :
    Exclusive (busy.erase i) (Function.update holds h none) uses := by
  have hold : ∀ {g j c}, Function.update holds h none g = some (j, c) →
      holds g = some (j, c) ∧ g ≠ h := by
    intro g j c hj
    rw [Function.update_apply] at hj
    split_ifs at hj with e
    exact ⟨hj, e⟩
  refine ⟨fun {g j c} hj => ?_, fun {j} hj => ?_,
    fun h₁ h₂ => hE.unique (hold h₁).1 (hold h₂).1, fun hj => hE.uses_of_holds (hold hj).1,
    fun {j} hj => ?_⟩
  · obtain ⟨hg, hne⟩ := hold hj
    refine Finset.mem_erase.2 ⟨?_, hE.busy_of_holds hg⟩
    rintro rfl
    exact hne (hE.unique hg hh)
  · obtain ⟨hji, hj⟩ := Finset.mem_erase.1 hj
    obtain ⟨g, c, hg⟩ := hE.held_of_busy hj
    refine ⟨g, c, ?_⟩
    rw [Function.update_of_ne, hg]
    rintro rfl
    rw [hh] at hg
    cases hg
    exact hji rfl
  · by_cases e : j = i
    · subst e
      exact hE.uses_of_holds hh
    · exact hE.uses_of_free fun hm => hj (Finset.mem_erase.2 ⟨e, hm⟩)

end Lease

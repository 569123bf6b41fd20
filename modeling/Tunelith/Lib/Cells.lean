import Mathlib.Data.Set.Basic

/-!
# What a change leaves of the cells of a store

A store is seen as cells. A change of it touches some of them, and settles some: these hold after it
what the change has for them, whatever they held before.

* `Sets` — the cells a change touches at most, and those it settles; each cell goes by itself.
* `Sets.forgets` — two stores that differ only in cells that are touched agree after a change on
  those it settles and on those that are never touched.
-/

namespace Cells

variable {σ ι β : Type*} {view : σ → ι → β}

/-- `f` touches no cells but those of `K`, and settles those of `T`. -/
structure Sets (view : σ → ι → β) (K T : Set ι) (f : σ → σ) : Prop where
  keeps : ∀ s i, i ∉ K → view (f s) i = view s i
  settles : ∀ s t i, i ∈ T ∨ view s i = view t i → view (f s) i = view (f t) i

/-- `s` is as `b` but in cells of `K`. -/
def Alike (view : σ → ι → β) (K : Set ι) (s b : σ) : Prop := ∀ i, i ∉ K → view s i = view b i

variable {K K' T T' : Set ι} {f g : σ → σ} {s t b : σ}

theorem Alike.refl (s : σ) : Alike view K s s := fun _ _ => rfl

/-- What touches no other cells keeps the likeness. -/
theorem Alike.step (h : Alike view K s b) (hf : Sets view K' T f) (hK : K' ⊆ K) :
    Alike view K (f s) b := by
  intro i hi
  rw [hf.keeps s i fun hi' => hi (hK hi')]
  exact h i hi

namespace Sets

theorem refl : Sets view ∅ ∅ fun s => s :=
  ⟨fun _ _ _ => rfl, fun _ _ _ h => h.resolve_left fun hi => hi⟩

theorem mono (h : Sets view K T f) (hK : K ⊆ K') (hT : T' ⊆ T) : Sets view K' T' f where
  keeps s i hi := h.keeps s i fun hi' => hi (hK hi')
  settles s t i hi := h.settles s t i (hi.imp_left fun hi => hT hi)

/-- One change after another touches what either does, and settles what either does. -/
theorem comp (hg : Sets view K' T' g) (hf : Sets view K T f) :
    Sets view (K' ∪ K) (T' ∪ T) fun s => g (f s) where
  keeps s i hi := by
    rw [hg.keeps _ i fun h => hi (.inl h)]
    exact hf.keeps s i fun h => hi (.inr h)
  settles s t i hi := by
    rcases hi with (hi | hi) | hi
    · exact hg.settles _ _ i (.inl hi)
    · exact hg.settles _ _ i (.inr (hf.settles s t i (.inl hi)))
    · exact hg.settles _ _ i (.inr (hf.settles s t i (.inr hi)))

theorem ite {p : Prop} [Decidable p] (hf : Sets view K T f) (hg : Sets view K T g) :
    Sets view K T fun s => if p then f s else g s := by
  by_cases hp : p
  · simpa [hp] using hf
  · simpa [hp] using hg

/-- What was touched before is forgotten but where the change does not settle it. -/
theorem forgets (hf : Sets view K' T f) (hs : Alike view K s b) (ht : Alike view K t b) {i : ι}
    (hi : i ∈ T ∨ i ∉ K) : view (f s) i = view (f t) i := by
  refine hf.settles s t i (hi.imp_right fun hi => ?_)
  rw [hs i hi, ht i hi]

end Sets

end Cells

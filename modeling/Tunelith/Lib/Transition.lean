import Mathlib.Logic.Relation
import Mathlib.Data.List.Basic

/-!
# Runs of a labelled transition system

A system is a relation `step s a t`: in the state `s` the action `a` leads to `t`. A run keeps
the states it left and the actions it took there, the latest first.

* `Run.invariant` — what the first state has and every step keeps, every state reached has.
* `Run.always_iff` — a property that exactly the good steps keep holds all along a run if and
  only if every step of the run is good.
-/

namespace Lts

variable {σ α : Type*}

/-- `Run step s tr t`: a run from `s` to `t`, with the states left and the actions taken. -/
inductive Run (step : σ → α → σ → Prop) (s : σ) : List (σ × α) → σ → Prop
  | nil : Run step s [] s
  | snoc {tr : List (σ × α)} {t u : σ} {a : α} :
      Run step s tr t → step t a u → Run step s ((t, a) :: tr) u

/-- `t` is reached from `s` by some run. -/
def Reachable (step : σ → α → σ → Prop) (s t : σ) : Prop := ∃ tr, Run step s tr t

/-- The steps of `step` that meet `good`, a condition on the state before the step and the
action. -/
def Restrict (step : σ → α → σ → Prop) (good : σ → α → Prop) (s : σ) (a : α) (t : σ) : Prop :=
  step s a t ∧ good s a

variable {step : σ → α → σ → Prop} {good : σ → α → Prop} {s t u : σ} {a : α}

/-! ## Reachability -/

theorem Reachable.refl (s : σ) : Reachable step s s := ⟨[], .nil⟩

theorem Reachable.snoc (h : Reachable step s t) (hs : step t a u) : Reachable step s u := by
  obtain ⟨tr, hr⟩ := h
  exact ⟨_, hr.snoc hs⟩

theorem Run.reachable {tr : List (σ × α)} (h : Run step s tr t) : Reachable step s t := ⟨tr, h⟩

theorem Run.mono {step' : σ → α → σ → Prop} (hsub : ∀ s a t, step s a t → step' s a t)
    {tr : List (σ × α)} (h : Run step s tr t) : Run step' s tr t := by
  induction h with
  | nil => exact .nil
  | snoc _ hs ih => exact ih.snoc (hsub _ _ _ hs)

/-- A run goes through each of its steps. -/
theorem Run.split {later earlier : List (σ × α)} (h : Run step s (later ++ (t, a) :: earlier) u) :
    ∃ t', Run step s earlier t ∧ step t a t' ∧ Run step t' later u := by
  induction later generalizing u with
  | nil =>
    cases h with
    | snoc hr hs => exact ⟨u, hr, hs, .nil⟩
  | cons x later ih =>
    cases h with
    | snoc hr hs =>
      obtain ⟨t', hr, ht, hl⟩ := ih hr
      exact ⟨t', hr, ht, hl.snoc hs⟩

/-- A run with conditions is a run. -/
theorem Reachable.of_restrict (h : Reachable (Restrict step good) s t) : Reachable step s t := by
  obtain ⟨tr, hr⟩ := h
  exact ⟨tr, hr.mono fun _ _ _ hs => hs.1⟩

/-- A run with conditions meets weaker ones. -/
theorem Reachable.mono {good' : σ → α → Prop} (h : Reachable (Restrict step good) s t)
    (hsub : ∀ s a, good s a → good' s a) : Reachable (Restrict step good') s t := by
  obtain ⟨tr, hr⟩ := h
  exact ⟨tr, hr.mono fun s a _ hs => ⟨hs.1, hsub s a hs.2⟩⟩

theorem Reachable.trans (h₁ : Reachable step s t) (h₂ : Reachable step t u) :
    Reachable step s u := by
  obtain ⟨tr, hr⟩ := h₂
  induction hr with
  | nil => exact h₁
  | snoc _ hs ih => exact ih.snoc hs

/-- A part of a system runs by itself: each step of the system is one of its own, or leaves it as
it is. -/
theorem Reachable.project {τ β : Type*} {step' : τ → β → τ → Prop} (f : σ → τ)
    (hstep : ∀ s a t, step s a t → f t = f s ∨ ∃ b, step' (f s) b (f t))
    (h : Reachable step s t) : Reachable step' (f s) (f t) := by
  obtain ⟨tr, hr⟩ := h
  induction hr with
  | nil => exact .refl _
  | snoc _ hs ih =>
    rcases hstep _ _ _ hs with he | ⟨b, hb⟩
    · rw [he]
      exact ih
    · exact ih.snoc hb

/-- So does the run of the part, whose actions are read off those of the system. -/
theorem Run.project {τ β : Type*} {step' : τ → β → τ → Prop} (f : σ → τ) (g : α → Option β)
    (hstep : ∀ s a t, step s a t → match g a with
      | none => f t = f s
      | some b => step' (f s) b (f t))
    {tr : List (σ × α)} (h : Run step s tr t) :
    Run step' (f s) (tr.filterMap fun x => (g x.2).map fun b => (f x.1, b)) (f t) := by
  induction h with
  | nil => exact .nil
  | @snoc tr t u a _ hs ih =>
    have := hstep t a u hs
    cases hg : g a with
    | none =>
      rw [hg] at this
      rw [List.filterMap_cons_none (by rw [hg]; rfl), this]
      exact ih
    | some b =>
      rw [hg] at this
      rw [List.filterMap_cons_some (by rw [hg]; rfl)]
      exact ih.snoc this

/-! ## Invariants -/

/-- The invariant rule: a step may use that the state it leaves is reached. -/
theorem Reachable.invariant {I : σ → Prop} (h₀ : I s)
    (hstep : ∀ t a u, Reachable step s t → I t → step t a u → I u)
    (h : Reachable step s t) : I t := by
  obtain ⟨tr, hr⟩ := h
  induction hr with
  | nil => exact h₀
  | snoc hr hs ih => exact hstep _ _ _ hr.reachable ih hs

/-! ## Runs whose steps are all good -/

/-- Every state of the run, the last one included, has `P`. -/
def Always (P : σ → Prop) (tr : List (σ × α)) (t : σ) : Prop := P t ∧ ∀ x ∈ tr, P x.1

/-- Every step of the run meets `good`. -/
def AllGood (good : σ → α → Prop) (tr : List (σ × α)) : Prop := ∀ x ∈ tr, good x.1 x.2

/-- A property that the first state has, that good steps keep and that the others break, holds
all along a run exactly when all its steps are good. -/
theorem Run.always_iff {P : σ → Prop} (h₀ : P s)
    (hgood : ∀ t a u, Reachable step s t → P t → step t a u → (P u ↔ good t a))
    {tr : List (σ × α)} (h : Run step s tr t) : Always P tr t ↔ AllGood good tr := by
  induction h with
  | nil => exact ⟨fun _ x hx => absurd hx List.not_mem_nil,
      fun _ => ⟨h₀, fun x hx => absurd hx List.not_mem_nil⟩⟩
  | @snoc tr t u a hr hs ih =>
    constructor
    · rintro ⟨hu, hall⟩
      have ht : P t := hall (t, a) List.mem_cons_self
      have hrest := ih.1 ⟨ht, fun x hx => hall x (List.mem_cons_of_mem _ hx)⟩
      intro x hx
      rcases List.mem_cons.1 hx with rfl | hx
      · exact (hgood t a u hr.reachable ht hs).1 hu
      · exact hrest x hx
    · intro hall
      obtain ⟨ht, hrest⟩ := ih.2 fun x hx => hall x (List.mem_cons_of_mem _ hx)
      refine ⟨(hgood t a u hr.reachable ht hs).2 (hall (t, a) List.mem_cons_self), fun x hx => ?_⟩
      rcases List.mem_cons.1 hx with rfl | hx
      · exact ht
      · exact hrest x hx

/-- In a run whose steps are all good, what good steps keep holds of every state. -/
theorem Run.always_of_allGood {P : σ → Prop} (h₀ : P s)
    (hgood : ∀ t a u, Reachable step s t → P t → good t a → step t a u → P u)
    {tr : List (σ × α)} (h : Run step s tr t) (hall : AllGood good tr) : Always P tr t := by
  induction h with
  | nil => exact ⟨h₀, fun x hx => absurd hx List.not_mem_nil⟩
  | @snoc tr t u a hr hs ih =>
    obtain ⟨ht, hrest⟩ := ih fun x hx => hall x (List.mem_cons_of_mem _ hx)
    refine ⟨hgood t a u hr.reachable ht (hall (t, a) List.mem_cons_self) hs, fun x hx => ?_⟩
    rcases List.mem_cons.1 hx with rfl | hx
    · exact ht
    · exact hrest x hx

end Lts

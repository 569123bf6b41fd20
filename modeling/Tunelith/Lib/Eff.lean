import Mathlib.Logic.Basic

/-!
# Computations that may fail

A computation on a state that may fail half-way, what it did to the state until then being done.

* `Eff` — such computations; `attempt` goes on whether one fails or not, and `zoom` runs one on a
  part of the state.
* `Triple` — what holds after it, however it ended; and a rule for each way to make one.
* `Safe` — what is kept, and how it may fail, whatever the state is.
-/

/-- A computation that gives an `α` or fails with an `ε`, and the state after it either way. -/
def Eff (ε σ α : Type) : Type := σ → Except ε α × σ

namespace Eff

variable {ε ε' σ τ α β : Type}

instance : Monad (Eff ε σ) where
  pure a s := (.ok a, s)
  bind m f s :=
    match m s with
    | (.ok a, s') => f a s'
    | (.error e, s') => (.error e, s')

def throw (e : ε) : Eff ε σ α := fun s => (.error e, s)

def get : Eff ε σ σ := fun s => (.ok s, s)

def modify (f : σ → σ) : Eff ε σ Unit := fun s => (.ok (), f s)

/-- What has been found out already. -/
def ofExcept (r : Except ε α) : Eff ε σ α := fun s => (r, s)

/-- Fails with `e` unless `p`. -/
def require (p : Prop) [Decidable p] (e : ε) : Eff ε σ Unit := if p then pure () else throw e

/-- Does `m` if `p`. -/
def when (p : Prop) [Decidable p] (m : Eff ε σ Unit) : Eff ε σ Unit := if p then m else pure ()

/-- Goes on whether `m` fails or not. -/
def attempt (m : Eff ε σ α) : Eff ε' σ (Except ε α) := fun s => (.ok (m s).1, (m s).2)

def mapError (f : ε → ε') (m : Eff ε σ α) : Eff ε' σ α := fun s => ((m s).1.mapError f, (m s).2)

/-- Runs `m` on a part of the state. -/
def zoom (part : σ → τ) (put : σ → τ → σ) (m : Eff ε τ α) : Eff ε σ α :=
  fun s => ((m (part s)).1, put s (m (part s)).2)

/-- One after the other, up to the first that fails. -/
def forEach : List α → (α → Eff ε σ Unit) → Eff ε σ Unit
  | [], _ => pure ()
  | a :: as, f => do
    f a
    forEach as f

@[simp] theorem pure_apply (a : α) (s : σ) : (pure a : Eff ε σ α) s = (.ok a, s) := rfl

@[simp] theorem throw_apply (e : ε) (s : σ) : (throw e : Eff ε σ α) s = (.error e, s) := rfl

@[simp] theorem get_apply (s : σ) : (get : Eff ε σ σ) s = (.ok s, s) := rfl

@[simp] theorem modify_apply (f : σ → σ) (s : σ) :
    (modify f : Eff ε σ Unit) s = (.ok (), f s) := rfl

@[simp] theorem ofExcept_apply (r : Except ε α) (s : σ) : (ofExcept r : Eff ε σ α) s = (r, s) := rfl

@[simp] theorem attempt_apply (m : Eff ε σ α) (s : σ) :
    (attempt m : Eff ε' σ _) s = (.ok (m s).1, (m s).2) := rfl

@[simp] theorem mapError_apply (f : ε → ε') (m : Eff ε σ α) (s : σ) :
    mapError f m s = ((m s).1.mapError f, (m s).2) := rfl

@[simp] theorem zoom_apply (part : σ → τ) (put : σ → τ → σ) (m : Eff ε τ α) (s : σ) :
    zoom part put m s = ((m (part s)).1, put s (m (part s)).2) := rfl

theorem bind_apply (m : Eff ε σ α) (f : α → Eff ε σ β) (s : σ) :
    (m >>= f) s = match m s with
      | (.ok a, s') => f a s'
      | (.error e, s') => (.error e, s') := rfl

theorem throw_bind (e : ε) (f : α → Eff ε σ β) : (throw e >>= f) = throw e := rfl

theorem bind_assoc {γ : Type} (m : Eff ε σ α) (f : α → Eff ε σ β) (g : β → Eff ε σ γ) :
    (m >>= f) >>= g = m >>= fun a => f a >>= g := by
  funext s
  simp only [bind_apply]
  cases m s with
  | mk r t => cases r <;> rfl

theorem bind_of_ok {m : Eff ε σ α} {f : α → Eff ε σ β} {s s' : σ} {a : α}
    (h : m s = (.ok a, s')) : (m >>= f) s = f a s' := by
  rw [bind_apply, h]

theorem bind_of_error {m : Eff ε σ α} {f : α → Eff ε σ β} {s s' : σ} {e : ε}
    (h : m s = (.error e, s')) : (m >>= f) s = (.error e, s') := by
  rw [bind_apply, h]

theorem bind_eq_ok {m : Eff ε σ α} {f : α → Eff ε σ β} {s s' : σ} {b : β} :
    (m >>= f) s = (.ok b, s') ↔ ∃ a t, m s = (.ok a, t) ∧ f a t = (.ok b, s') := by
  rw [bind_apply]
  cases hm : m s with
  | mk r t =>
    cases r with
    | ok a => exact ⟨fun h => ⟨a, t, rfl, h⟩, fun ⟨_, _, hr, h⟩ => by cases hr; exact h⟩
    | error e => exact ⟨nofun, fun ⟨_, _, hr, _⟩ => nomatch hr⟩

theorem forEach_ok {as : List α} {f : α → Eff ε σ Unit} (h : ∀ a s, (f a s).1 = .ok ()) (s : σ) :
    (forEach as f s).1 = .ok () := by
  induction as generalizing s with
  | nil => rfl
  | cons a as ih =>
    have ha : f a s = (.ok (), (f a s).2) := Prod.ext (h a s) rfl
    rw [forEach, bind_of_ok ha]
    exact ih _

/-! ## What holds after -/

/-- From a state with `P`, `m` ends in one with `Q`, or with `E` if it fails. -/
def Triple (P : σ → Prop) (m : Eff ε σ α) (Q : α → σ → Prop) (E : ε → σ → Prop) : Prop :=
  ∀ s, P s → match m s with
    | (.ok a, s') => Q a s'
    | (.error e, s') => E e s'

/-- What a run that is known ends in. -/
theorem Triple.ends {P : σ → Prop} {m : Eff ε σ α} {Q : α → σ → Prop} {E : ε → σ → Prop}
    (h : Triple P m Q E) {s s' : σ} {r : Except ε α} (hs : P s) (hr : m s = (r, s')) :
    match r with
      | .ok a => Q a s'
      | .error e => E e s' := by
  have := h s hs
  rw [hr] at this
  cases r <;> exact this

section Rules

variable {P P' : σ → Prop} {m : Eff ε σ α} {Q Q' : α → σ → Prop} {E E' : ε → σ → Prop}
  {f : α → Eff ε σ β} {R : β → σ → Prop}

theorem Triple.conseq (h : Triple P m Q E) (hP : ∀ s, P' s → P s) (hQ : ∀ a s, Q a s → Q' a s)
    (hE : ∀ e s, E e s → E' e s) : Triple P' m Q' E' := by
  intro s hs
  have := h s (hP s hs)
  split at this
  · exact hQ _ _ this
  · exact hE _ _ this

/-- Nothing is said of what holds after. -/
theorem Triple.anyway : Triple P m (fun _ _ => True) fun _ _ => True := by
  intro s _
  split <;> trivial

/-- What does not fail may be said to fail in any way. -/
theorem Triple.of_ok (h : Triple P m Q E) (hok : ∀ s, P s → ∃ a, (m s).1 = .ok a) :
    Triple P m Q E' := by
  intro s hs
  have := h s hs
  obtain ⟨a, ha⟩ := hok s hs
  split at this
  · exact this
  · next hr => exact absurd (congrArg Prod.fst hr ▸ ha) nofun

theorem Triple.pure {a : α} (h : ∀ s, P s → Q a s) : Triple P (pure a) Q E := h

theorem Triple.throw {e : ε} (h : ∀ s, P s → E e s) : Triple P (throw e : Eff ε σ α) Q E := h

theorem Triple.require {p : Prop} [Decidable p] {e : ε} {Q : Unit → σ → Prop}
    (hok : ∀ s, p → P s → Q () s) (herr : ∀ s, ¬ p → P s → E e s) :
    Triple P (Eff.require p e) Q E := by
  unfold Eff.require
  split
  · exact fun s hs => hok s ‹_› hs
  · exact fun s hs => herr s ‹_› hs

theorem Triple.when {p : Prop} [Decidable p] {m : Eff ε σ Unit} {Q : Unit → σ → Prop}
    (hm : p → Triple P m Q E) (hskip : ∀ s, ¬ p → P s → Q () s) : Triple P (Eff.when p m) Q E := by
  unfold Eff.when
  split
  · exact hm ‹_›
  · exact fun s hs => hskip s ‹_› hs

theorem Triple.get {Q : σ → σ → Prop} (h : ∀ s, P s → Q s s) : Triple P (get : Eff ε σ σ) Q E := h

theorem Triple.modify {g : σ → σ} {Q : Unit → σ → Prop} (h : ∀ s, P s → Q () (g s)) :
    Triple P (modify g : Eff ε σ Unit) Q E := h

theorem Triple.ofExcept {r : Except ε α} (hok : ∀ a s, r = .ok a → P s → Q a s)
    (herr : ∀ e s, r = .error e → P s → E e s) : Triple P (ofExcept r) Q E := by
  intro s hs
  cases r with
  | ok a => exact hok a s rfl hs
  | error e => exact herr e s rfl hs

theorem Triple.bind (hm : Triple P m Q E) (hf : ∀ a, Triple (Q a) (f a) R E) :
    Triple P (m >>= f) R E := by
  intro s hs
  have := hm s hs
  cases hr : m s with
  | mk r s' =>
    rw [hr] at this
    cases r with
    | ok a =>
      rw [bind_of_ok hr]
      exact hf a s' this
    | error e =>
      rw [bind_of_error hr]
      exact this

/-- What does not hang on the state is known before. -/
theorem Triple.known {p : Prop} (h : p → Triple P m Q E) : Triple (fun s => p ∧ P s) m Q E :=
  fun s hs => h hs.1 s hs.2

theorem Triple.attempt {Q : Except ε α → σ → Prop} {E : ε' → σ → Prop}
    (h : Triple P m (fun a => Q (.ok a)) fun e => Q (.error e)) :
    Triple P (attempt m : Eff ε' σ _) Q E := by
  intro s hs
  have := h s hs
  change Q (m s).1 (m s).2
  cases hr : m s with
  | mk r s' =>
    rw [hr] at this
    cases r <;> exact this

theorem Triple.mapError {g : ε → ε'} {E : ε' → σ → Prop} (h : Triple P m Q fun e => E (g e)) :
    Triple P (mapError g m) Q E := by
  intro s hs
  have := h s hs
  rw [mapError_apply]
  cases hr : m s with
  | mk r s' =>
    rw [hr] at this
    cases r <;> exact this

theorem Triple.zoom {part : σ → τ} {put : σ → τ → σ} {m : Eff ε τ α} {P : σ → Prop}
    (h : ∀ s₀, P s₀ →
      Triple (· = part s₀) m (fun a t => Q a (put s₀ t)) fun e t => E e (put s₀ t)) :
    Triple P (zoom part put m) Q E := by
  intro s hs
  have := h s hs (part s) rfl
  rw [zoom_apply]
  cases hr : m (part s) with
  | mk r t =>
    rw [hr] at this
    cases r <;> exact this

end Rules

/-! ## What is kept -/

/-- `m` keeps `I` however it ends, and fails with what has `F` only. -/
def Safe (I : σ → Prop) (F : ε → Prop) (m : Eff ε σ α) : Prop :=
  Triple I m (fun _ => I) fun e s => F e ∧ I s

section Safe

variable {I : σ → Prop} {F F' : ε → Prop} {m : Eff ε σ α} {f : α → Eff ε σ β}

/-- What is kept however it ends, when nothing is said of how it fails. -/
theorem Safe.of_kept (h : ∀ s, I s → I (m s).2) : Safe I (fun _ => True) m := by
  intro s hs
  have hm := h s hs
  split
  · next hr => rwa [hr] at hm
  · next hr =>
    rw [hr] at hm
    exact ⟨trivial, hm⟩

theorem Safe.kept (h : Safe I F m) {s : σ} (hs : I s) : I (m s).2 := by
  have := h s hs
  split at this
  · next hr => rwa [hr]
  · next hr =>
    rw [hr]
    exact this.2

theorem Safe.pure (a : α) : Safe I F (pure a : Eff ε σ α) := Triple.pure fun _ h => h

theorem Safe.throw {e : ε} (h : F e) : Safe I F (throw e : Eff ε σ α) :=
  Triple.throw fun _ hs => ⟨h, hs⟩

theorem Safe.require {p : Prop} [Decidable p] {e : ε} (h : F e) :
    Safe I F (Eff.require p e : Eff ε σ Unit) :=
  Triple.require (fun _ _ hs => hs) fun _ _ hs => ⟨h, hs⟩

theorem Safe.when {p : Prop} [Decidable p] {m : Eff ε σ Unit} (h : p → Safe I F m) :
    Safe I F (Eff.when p m) :=
  Triple.when h fun _ _ hs => hs

theorem Safe.modify {g : σ → σ} (h : ∀ s, I s → I (g s)) : Safe I F (modify g : Eff ε σ Unit) :=
  Triple.modify h

theorem Safe.ofExcept {r : Except ε α} (h : ∀ e, r = .error e → F e) :
    Safe I F (ofExcept r : Eff ε σ α) :=
  Triple.ofExcept (fun _ _ _ hs => hs) fun e _ he hs => ⟨h e he, hs⟩

theorem Safe.bind (hm : Safe I F m) (hf : ∀ a, Safe I F (f a)) : Safe I F (m >>= f) :=
  Triple.bind hm hf

/-- What may fail is gone on after. -/
theorem Safe.attempt {E : ε' → σ → Prop} (hm : Safe I F m) :
    Triple I (attempt m : Eff ε' σ _) (fun _ => I) E :=
  Triple.attempt (hm.conseq (fun _ h => h) (fun _ _ h => h) fun _ _ h => h.2)

theorem Safe.forEach {as : List α} {f : α → Eff ε σ Unit} (h : ∀ a ∈ as, Safe I F (f a)) :
    Safe I F (forEach as f) := by
  induction as with
  | nil => exact Safe.pure ()
  | cons a as ih =>
    exact (h a List.mem_cons_self).bind fun _ => ih fun b hb => h b (List.mem_cons_of_mem a hb)

theorem Safe.foldlM {as : List α} {b : β} {f : β → α → Eff ε σ β} (h : ∀ b a, Safe I F (f b a)) :
    Safe I F (as.foldlM f b) := by
  induction as generalizing b with
  | nil => exact Safe.pure b
  | cons a as ih =>
    rw [List.foldlM_cons]
    exact (h b a).bind fun b => ih

end Safe

/-! ## What is left alone -/

/-- `m` leaves `f` of the state as it is, however it ends. -/
def Leaves (f : σ → τ) (m : Eff ε σ α) : Prop := ∀ s, f (m s).2 = f s

section Leaves

variable {f : σ → τ} {m : Eff ε σ α}

theorem Leaves.pure (a : α) : Leaves f (pure a : Eff ε σ α) := fun _ => rfl

theorem Leaves.throw (e : ε) : Leaves f (throw e : Eff ε σ α) := fun _ => rfl

theorem Leaves.ofExcept (r : Except ε α) : Leaves f (ofExcept r) := fun _ => rfl

theorem Leaves.modify {g : σ → σ} (h : ∀ s, f (g s) = f s) : Leaves f (modify g : Eff ε σ Unit) := h

/-- What comes after and leaves it alone changes nothing. -/
theorem Leaves.after {g : α → Eff ε σ β} (hg : ∀ a, Leaves f (g a)) (s : σ) :
    f ((m >>= g) s).2 = f (m s).2 := by
  rw [bind_apply]
  split
  · next a s' hr =>
    rw [hr]
    exact hg a s'
  · next hr => rw [hr]

theorem Leaves.bind {g : α → Eff ε σ β} (hm : Leaves f m) (hg : ∀ a, Leaves f (g a)) :
    Leaves f (m >>= g) := fun s => (Leaves.after hg s).trans (hm s)

theorem Leaves.attempt (hm : Leaves f m) : Leaves f (attempt m : Eff ε' σ _) := hm

theorem Leaves.require {p : Prop} [Decidable p] {e : ε} :
    Leaves f (require p e : Eff ε σ Unit) := by
  unfold Eff.require
  split <;> exact fun _ => rfl

theorem Leaves.when {p : Prop} [Decidable p] {m : Eff ε σ Unit} (hm : Leaves f m) :
    Leaves f (when p m) := by
  unfold Eff.when
  split
  · exact hm
  · exact Leaves.pure ()

theorem Leaves.forEach {as : List α} {g : α → Eff ε σ Unit} (h : ∀ a ∈ as, Leaves f (g a)) :
    Leaves f (forEach as g) := by
  induction as with
  | nil => exact Leaves.pure ()
  | cons a as ih =>
    apply Leaves.bind (h a List.mem_cons_self)
    intro _
    exact ih fun b hb => h b (List.mem_cons_of_mem a hb)

theorem Leaves.forIn {as : List α} {b : β} {g : α → β → Eff ε σ (ForInStep β)}
    (h : ∀ a b, Leaves f (g a b)) : Leaves f (forIn as b g) := by
  induction as generalizing b with
  | nil => exact Leaves.pure b
  | cons a as ih =>
    rw [List.forIn_cons]
    apply Leaves.bind (h a b)
    intro step
    cases step with
    | done b => exact Leaves.pure b
    | yield b => exact ih

end Leaves

/-! ## What is done to a part -/

/-- `m` ends as `m₀` does on a part of the state, and does to that part what `m₀` does. -/
def Does (part : σ → τ) (m : Eff ε σ α) (m₀ : Eff ε τ α) : Prop :=
  ∀ s, m₀ (part s) = ((m s).1, part (m s).2)

section Does

variable {part : σ → τ} {m : Eff ε σ α} {m₀ : Eff ε τ α}

theorem Does.ok_iff (h : Does part m m₀) (s : σ) (a : α) :
    (∃ t, m₀ (part s) = (.ok a, t)) ↔ (m s).1 = .ok a := by
  rw [h s]
  exact ⟨fun ⟨_, ht⟩ => congrArg Prod.fst ht, fun ha => ⟨_, Prod.ext ha rfl⟩⟩

theorem Does.pure (a : α) : Does part (pure a : Eff ε σ α) (pure a) := fun _ => rfl

theorem Does.bind {g : α → Eff ε σ β} {g₀ : α → Eff ε τ β} (hm : Does part m m₀)
    (hg : ∀ a, Does part (g a) (g₀ a)) : Does part (m >>= g) (m₀ >>= g₀) := by
  intro s
  cases hr : m s with
  | mk r t =>
    have hm := hm s
    rw [hr] at hm
    cases r with
    | ok a =>
      rw [bind_of_ok hr, bind_of_ok hm]
      exact hg a t
    | error e => rw [bind_of_error hr, bind_of_error hm]

theorem Does.forEach {as : List β} {g : β → Eff ε σ Unit} {g₀ : β → Eff ε τ Unit}
    (h : ∀ a, Does part (g a) (g₀ a)) : Does part (forEach as g) (forEach as g₀) := by
  induction as with
  | nil => exact Does.pure ()
  | cons a as ih => exact (h a).bind fun _ => ih

end Does

end Eff

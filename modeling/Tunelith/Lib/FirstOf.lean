import Tunelith.Lib.Eff

/-!
# Until one gives a result

A list is gone through until one of it gives a result or fails; what each does is seen in a log.

* `firstOf_logs` — what each logs, and comes to, makes what the whole does.
* `Passed` and `Ends` — all of the list passed over, or one of it the end.
-/

namespace Eff

variable {ε σ τ α β E : Type}

/-- Goes through a list until one gives a result; what is kept otherwise goes from each to the
next. -/
def firstOf (f : α → β → Eff ε σ (τ ⊕ β)) : List α → β → Eff ε σ (τ ⊕ β)
  | [], b => pure (.inr b)
  | a :: as, b => do
    match ← f a b with
    | .inl t => return .inl t
    | .inr b => firstOf f as b

/-- Does `m`, and logs what it comes to. -/
def logging (event : Except ε α → E) (m : Eff ε σ α) : Eff ε (σ × List E) α :=
  fun s => ((m s.1).1, (m s.1).2, s.2 ++ [event (m s.1).1])

/-- Each of a list is passed over, at what it logs and what it makes of what is kept. -/
inductive Passed (P : α → β → β → List E → Prop) : List α → β → β → List E → Prop
  | nil (b : β) : Passed P [] b b []
  | cons {a : α} {as : List α} {b b' b'' : β} {n n' : List E} (h : P a b b' n)
      (hs : Passed P as b' b'' n') : Passed P (a :: as) b b'' (n ++ n')

/-- What one of a list logs and comes to: it is passed over, or the end. -/
def Logs (P : β → β → List E → Prop) (G : Except ε τ → List E → Prop) (b : β) :
    Except ε (τ ⊕ β) → List E → Prop
  | .ok (.inl t), n => G (.ok t) n
  | .ok (.inr b'), n => P b b' n
  | .error e, n => G (.error e) n

/-- One of the list is the end, all before it being passed over. -/
def Ends (P : α → β → β → List E → Prop) (G : α → Except ε τ → List E → Prop) (as : List α) (b : β)
    (r : Except ε τ) (n : List E) : Prop :=
  ∃ before a after b' n₁ n₂, as = before ++ a :: after ∧ n = n₁ ++ n₂ ∧ Passed P before b b' n₁ ∧
    G a r n₂

variable {P : α → β → β → List E → Prop} {G : α → Except ε τ → List E → Prop}

theorem Ends.head {a : α} {as : List α} {b : β} {r : Except ε τ} {n : List E} (h : G a r n) :
    Ends P G (a :: as) b r n :=
  ⟨[], a, as, b, [], n, rfl, rfl, .nil b, h⟩

theorem Ends.cons {a : α} {as : List α} {b b' : β} {r : Except ε τ} {n n' : List E}
    (h : P a b b' n) (hs : Ends P G as b' r n') : Ends P G (a :: as) b r (n ++ n') := by
  obtain ⟨before, x, after, b'', n₁, n₂, rfl, rfl, hpassed, hends⟩ := hs
  exact ⟨a :: before, x, after, b'', n ++ n₁, n₂, rfl, (List.append_assoc ..).symm,
    .cons h hpassed, hends⟩

/-- What each does to the log makes what the whole does to it. -/
theorem firstOf_logs {f : α → β → Eff ε σ (τ ⊕ β)} {log : σ → List E} (as : List α)
    (h : ∀ a ∈ as, ∀ b s, ∃ n, log (f a b s).2 = log s ++ n ∧
      Logs (P a) (G a) b (f a b s).1 n) (b : β) (s : σ) :
    ∃ n, log (firstOf f as b s).2 = log s ++ n ∧
      Logs (Passed P as) (Ends P G as b) b (firstOf f as b s).1 n := by
  induction as generalizing b s with
  | nil => exact ⟨[], (List.append_nil _).symm, .nil b⟩
  | cons a as ih =>
    obtain ⟨n, hn, hlogs⟩ := h a List.mem_cons_self b s
    rw [firstOf, bind_apply]
    match hf : f a b s with
    | (.error e, s') =>
      rw [hf] at hn hlogs
      exact ⟨n, hn, Ends.head hlogs⟩
    | (.ok (.inl t), s') =>
      rw [hf] at hn hlogs
      exact ⟨n, hn, Ends.head hlogs⟩
    | (.ok (.inr b'), s') =>
      rw [hf] at hn hlogs
      obtain ⟨n', hn', hlogs'⟩ := ih (fun x hx => h x (List.mem_cons_of_mem _ hx)) b' s'
      refine ⟨n ++ n', ?_, ?_⟩
      · dsimp only
        rw [hn', hn, List.append_assoc]
      · dsimp only
        match hr : (firstOf f as b' s').1 with
        | .error e =>
          rw [hr] at hlogs'
          exact Ends.cons hlogs hlogs'
        | .ok (.inl t) =>
          rw [hr] at hlogs'
          exact Ends.cons hlogs hlogs'
        | .ok (.inr b'') =>
          rw [hr] at hlogs'
          exact Passed.cons hlogs hlogs'

/-- Each that was passed over logged a part of what all did. -/
theorem Passed.of_mem {as : List α} {b b' : β} {n : List E} (h : Passed P as b b' n) {a : α}
    (ha : a ∈ as) : ∃ c c' m, P a c c' m ∧ ∀ x ∈ m, x ∈ n := by
  induction h with
  | nil => cases ha
  | cons h hs ih =>
    rcases List.mem_cons.1 ha with rfl | ha
    · exact ⟨_, _, _, h, fun x hx => List.mem_append_left _ hx⟩
    · obtain ⟨c, c', m, hP, hm⟩ := ih ha
      exact ⟨c, c', m, hP, fun x hx => List.mem_append_right _ (hm x hx)⟩

/-- What was logged, one that was passed over did. -/
theorem Passed.of_logged {as : List α} {b b' : β} {n : List E} (h : Passed P as b b' n) {x : E}
    (hx : x ∈ n) : ∃ a ∈ as, ∃ c c' m, P a c c' m ∧ x ∈ m := by
  induction h with
  | nil => cases hx
  | cons h hs ih =>
    rcases List.mem_append.1 hx with hx | hx
    · exact ⟨_, List.mem_cons_self, _, _, _, h, hx⟩
    · obtain ⟨a, ha, hrest⟩ := ih hx
      exact ⟨a, List.mem_cons_of_mem _ ha, hrest⟩

end Eff

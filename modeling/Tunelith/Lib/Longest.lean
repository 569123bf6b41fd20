import Mathlib.Data.List.Basic

/-!
# The longest run of blocks

Where no block begins with another, a string begins with one block at most, and so with one longest
run of them.
-/

namespace Longest

variable {α : Type} {P : List α → Prop}

/-- At most one block begins a string. -/
def Delimits (P : List α → Prop) : Prop := ∀ ⦃b c x y⦄, P b → P c → b ++ x = c ++ y → b = c

/-- `blocks` is the longest run of blocks from the start of `s`, and `rest` is left. -/
structure Run (P : List α → Prop) (s : List α) (blocks : List (List α)) (rest : List α) : Prop where
  whole : blocks.flatten ++ rest = s
  all : ∀ b ∈ blocks, P b
  longest : ∀ cs rest', cs.flatten ++ rest' = s → (∀ c ∈ cs, P c) → cs <+: blocks

theorem Run.nil {s : List α} (h : ∀ b x, P b → b ++ x ≠ s) : Run P s [] s where
  whole := rfl
  all _ hb := absurd hb List.not_mem_nil
  longest := by
    intro cs rest' heq hcs
    cases cs with
    | nil => exact List.prefix_rfl
    | cons c cs =>
      rw [List.flatten_cons, List.append_assoc] at heq
      exact absurd heq (h c _ (hcs c List.mem_cons_self))

theorem Run.cons (hP : Delimits P) {b s : List α} {blocks : List (List α)} {rest : List α}
    (hb : P b) (h : Run P s blocks rest) : Run P (b ++ s) (b :: blocks) rest where
  whole := by rw [List.flatten_cons, List.append_assoc, h.whole]
  all := by
    intro c hc
    cases hc with
    | head => exact hb
    | tail _ hc => exact h.all c hc
  longest := by
    intro cs rest' heq hcs
    cases cs with
    | nil => exact List.nil_prefix
    | cons c cs =>
      rw [List.flatten_cons, List.append_assoc] at heq
      obtain rfl : c = b := hP (hcs c List.mem_cons_self) hb heq
      apply List.cons_prefix_cons.2 ⟨rfl, _⟩
      exact h.longest cs rest' (List.append_cancel_left heq)
        fun d hd => hcs d (List.mem_cons_of_mem c hd)

/-- Nothing is left if the blocks are the whole string, and only then. -/
theorem Run.flatten_eq_iff {s : List α} {blocks : List (List α)} {rest : List α}
    (h : Run P s blocks rest) : blocks.flatten = s ↔ rest = [] := by
  rw [← h.whole]
  exact List.self_eq_append_right

end Longest

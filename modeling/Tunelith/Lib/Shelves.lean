import Mathlib.Data.List.Perm.Basic
import Mathlib.Data.List.Nodup
import Mathlib.Data.List.Induction

/-!
# Sorting things onto labelled shelves

One thing after another is put on the shelf labelled with its key, the first one if there were more;
for the first of a key a new shelf is made, after the others.

* `Shelves.sort_perm` — each thing is on a shelf, once.
* `Shelves.together_iff` — two things are on one shelf if and only if they have the same key.
* `Shelves.forall_sort` — what a new shelf has, and every addition keeps, all shelves have.
-/

/-- Shelves `β` with the labels `κ` for things `α`, of each of which a shelf shows an item `γ`. -/
structure Shelves (α β γ κ : Type*) where
  key : α → κ
  item : α → γ
  label : β → κ
  items : β → List γ
  new : α → β
  add : β → α → β
  label_new : ∀ a, label (new a) = key a
  label_add : ∀ b a, label (add b a) = label b
  items_new : ∀ a, items (new a) = [item a]
  items_add : ∀ b a, (items (add b a)).Perm (item a :: items b)

namespace Shelves

variable {α β γ κ : Type*} [DecidableEq κ] (S : Shelves α β γ κ)

def place : List β → α → List β
  | [], a => [S.new a]
  | b :: bs, a => if S.label b = S.key a then S.add b a :: bs else b :: place bs a

def sort (as : List α) : List β := as.foldl S.place []

theorem sort_concat (as : List α) (a : α) : S.sort (as ++ [a]) = S.place (S.sort as) a := by
  simp [sort]

/-! ## One thing -/

variable {S} {a a' : α} {b : β} {bs : List β} {as : List α} {P : β → Prop}

theorem forall_place (hnew : P (S.new a)) (hadd : ∀ b, P b → S.label b = S.key a → P (S.add b a))
    (h : ∀ b ∈ bs, P b) : ∀ b ∈ S.place bs a, P b := by
  induction bs with
  | nil => exact List.forall_mem_singleton.2 hnew
  | cons b bs ih =>
    obtain ⟨hb, hbs⟩ := List.forall_mem_cons.1 h
    rw [place]
    split
    · next hk => exact List.forall_mem_cons.2 ⟨hadd b hb hk, hbs⟩
    · exact List.forall_mem_cons.2 ⟨hb, ih hbs⟩

theorem place_perm (bs : List β) (a : α) :
    ((S.place bs a).flatMap S.items).Perm (S.item a :: bs.flatMap S.items) := by
  induction bs with
  | nil => simp [place, S.items_new]
  | cons b bs ih =>
    rw [place]
    split
    · simpa using (S.items_add b a).append_right (bs.flatMap S.items)
    · simp only [List.flatMap_cons]
      exact (ih.append_left _).trans List.perm_middle

/-- No label is there twice, and only that of the thing is new. -/
theorem nodup_place (h : (bs.map S.label).Nodup) :
    ((S.place bs a).map S.label).Nodup ∧
      ∀ k ∈ (S.place bs a).map S.label, k = S.key a ∨ k ∈ bs.map S.label := by
  induction bs with
  | nil => simp [place, S.label_new]
  | cons b bs ih =>
    obtain ⟨hb, hbs⟩ := List.nodup_cons.1 h
    obtain ⟨hnodup, hlabels⟩ := ih hbs
    rw [place]
    split
    · rw [List.map_cons, S.label_add]
      exact ⟨h, fun k hk => .inr hk⟩
    · next hk =>
      rw [List.map_cons]
      refine ⟨List.nodup_cons.2 ⟨fun hmem => ?_, hnodup⟩, fun k hmem => ?_⟩
      · exact (hlabels _ hmem).elim hk hb
      · rcases List.mem_cons.1 hmem with rfl | hmem
        · exact .inr List.mem_cons_self
        · exact (hlabels k hmem).imp id (List.mem_cons_of_mem _)

/-! ## All of them -/

theorem forall_sort (hnew : ∀ a, P (S.new a))
    (hadd : ∀ a b, P b → S.label b = S.key a → P (S.add b a)) : ∀ b ∈ S.sort as, P b := by
  induction as using List.reverseRecOn with
  | nil => exact fun b hb => absurd hb List.not_mem_nil
  | append_singleton as a ih =>
    rw [sort_concat]
    exact forall_place (hnew a) (hadd a) ih

theorem sort_perm (as : List α) : ((S.sort as).flatMap S.items).Perm (as.map S.item) := by
  induction as using List.reverseRecOn with
  | nil => exact .nil
  | append_singleton as a ih =>
    rw [sort_concat, List.map_append]
    exact (place_perm _ a).trans ((ih.cons _).trans (List.perm_append_singleton _ _).symm)

theorem nodup_sort (as : List α) : ((S.sort as).map S.label).Nodup := by
  induction as using List.reverseRecOn with
  | nil => exact List.nodup_nil
  | append_singleton as a ih =>
    rw [sort_concat]
    exact (nodup_place ih).1

/-- What is on a shelf has its label for a key. -/
theorem key_of_items :
    ∀ b ∈ S.sort as, ∀ c ∈ S.items b, ∃ a, S.item a = c ∧ S.key a = S.label b := by
  refine forall_sort (fun a c hc => ?_) fun a b hb hk c hc => ?_
  · rw [S.items_new, List.mem_singleton] at hc
    exact ⟨a, hc.symm, (S.label_new a).symm⟩
  · rcases List.mem_cons.1 ((S.items_add b a).subset hc) with rfl | hc
    · exact ⟨a, rfl, by rw [S.label_add, hk]⟩
    · obtain ⟨a', ha, hk'⟩ := hb c hc
      exact ⟨a', ha, by rw [hk', S.label_add]⟩

theorem exists_shelf (ha : a ∈ as) : ∃ b ∈ S.sort as, S.item a ∈ S.items b := by
  have hmem : S.item a ∈ (S.sort as).flatMap S.items :=
    (sort_perm as).symm.subset (List.mem_map_of_mem ha)
  exact List.mem_flatMap.1 hmem

/-- Shelves with one label are one. -/
theorem eq_of_label {b' : β} (hb : b ∈ S.sort as) (hb' : b' ∈ S.sort as)
    (h : S.label b = S.label b') : b = b' := List.inj_on_of_nodup_map (nodup_sort as) hb hb' h

/-- Where an item tells the key, two things are together if and only if they have the same one. -/
theorem together_iff (hkey : ∀ a a', S.item a = S.item a' → S.key a = S.key a') (ha : a ∈ as)
    (ha' : a' ∈ as) :
    (∃ b ∈ S.sort as, S.item a ∈ S.items b ∧ S.item a' ∈ S.items b) ↔ S.key a = S.key a' := by
  have hlabel : ∀ {a b}, b ∈ S.sort as → S.item a ∈ S.items b → S.key a = S.label b := by
    intro a b hb hab
    obtain ⟨a'', hitem, hk⟩ := key_of_items (S := S) b hb _ hab
    exact (hkey a a'' hitem.symm).trans hk
  constructor
  · intro ⟨b, hb, hab, hab'⟩
    rw [hlabel hb hab, hlabel hb hab']
  · intro hk
    obtain ⟨b, hb, hab⟩ := exists_shelf (S := S) ha
    obtain ⟨b', hb', hab'⟩ := exists_shelf (S := S) ha'
    have hbb : S.label b = S.label b' := by rw [← hlabel hb hab, ← hlabel hb' hab', hk]
    obtain rfl : b = b' := eq_of_label hb hb' hbb
    exact ⟨b, hb, hab, hab'⟩

end Shelves

import Mathlib.Data.List.TakeWhile
import RasterTensor.Text.Blank

/-!
# Trimming

A text is what trimming leaves of it with what was taken off around it. What has no character to be
taken off is left as it is, whatever of these characters stands around it.
-/

namespace RasterTensor.Text

variable {α : Type} {p : α → Bool} {xs front body back : List α}

theorem dropWhile_eq_self (h : ∀ x ∈ xs, p x = false) : xs.dropWhile p = xs := by
  cases xs with
  | nil => rfl
  | cons x rest => rw [List.dropWhile_cons_of_neg (by simp [h x List.mem_cons_self])]

theorem dropWhile_append (hfront : ∀ x ∈ front, p x = true) (hbody : ∀ x ∈ body, p x = false)
    (hback : ∀ x ∈ back, p x = true) :
    (front ++ (body ++ back)).dropWhile p = if body = [] then [] else body ++ back := by
  rw [List.dropWhile_append_of_pos hfront]
  cases body with
  | nil => exact List.dropWhile_eq_nil_iff.mpr hback
  | cons x rest =>
      have hx := hbody x List.mem_cons_self
      rw [if_neg (List.cons_ne_nil x rest), List.cons_append,
        List.dropWhile_cons_of_neg (by simp [hx])]

theorem trimBy_append (hfront : ∀ x ∈ front, p x = true) (hbody : ∀ x ∈ body, p x = false)
    (hback : ∀ x ∈ back, p x = true) : trimBy p (front ++ (body ++ back)) = body := by
  rw [trimBy, dropWhile_append hfront hbody hback]
  split
  · next hnil => rw [hnil]; rfl
  · have hbody' : ∀ x ∈ body.reverse, p x = false := fun x hx => hbody x (List.mem_reverse.mp hx)
    have hback' : ∀ x ∈ back.reverse, p x = true := fun x hx => hback x (List.mem_reverse.mp hx)
    rw [List.reverse_append, List.dropWhile_append_of_pos hback', dropWhile_eq_self hbody',
      List.reverse_reverse]

theorem exists_trimBy (p : α → Bool) (xs : List α) :
    ∃ front back, xs = front ++ (trimBy p xs ++ back) ∧ (∀ x ∈ front, p x = true) ∧
      ∀ x ∈ back, p x = true := by
  refine ⟨xs.takeWhile p, ((xs.dropWhile p).reverse.takeWhile p).reverse, ?_, ?_, ?_⟩
  · rw [trimBy, ← List.reverse_append, List.takeWhile_append_dropWhile, List.reverse_reverse,
      List.takeWhile_append_dropWhile]
  · intro x hx
    exact List.mem_takeWhile_imp hx
  · intro x hx
    exact List.mem_takeWhile_imp (List.mem_reverse.mp hx)

end RasterTensor.Text

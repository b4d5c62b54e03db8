/-!
# Totals

* `totalOf` — what the items of a list count together. It splits over `++`, does not depend on the
  order, and adds up over counts.
-/

namespace ShopTraffic

/-- The sum over a list of what each item counts. -/
def totalOf {α : Type} (count : α → Nat) : List α → Nat
  | [] => 0
  | x :: xs => count x + totalOf count xs

@[simp] theorem totalOf_nil {α : Type} (count : α → Nat) : totalOf count [] = 0 := rfl

@[simp] theorem totalOf_cons {α : Type} (count : α → Nat) (x : α) (xs : List α) :
    totalOf count (x :: xs) = count x + totalOf count xs := rfl

@[simp] theorem totalOf_append {α : Type} (count : α → Nat) (xs ys : List α) :
    totalOf count (xs ++ ys) = totalOf count xs + totalOf count ys := by
  induction xs with
  | nil => simp
  | cons x xs ih => simp only [List.cons_append, totalOf_cons, ih]; omega

theorem length_flatMap_eq_totalOf {α β : Type} (f : α → List β) (xs : List α) :
    (xs.flatMap f).length = totalOf (fun x => (f x).length) xs := by
  induction xs with
  | nil => rfl
  | cons x xs ih => simp [ih]

theorem totalOf_perm {α : Type} (count : α → Nat) {xs ys : List α} (h : xs.Perm ys) :
    totalOf count xs = totalOf count ys := by
  induction h with
  | nil => rfl
  | cons x _ ih => simp [ih]
  | swap x y l => simp only [totalOf_cons]; omega
  | trans _ _ ih₁ ih₂ => exact ih₁.trans ih₂

theorem totalOf_congr {α : Type} {count other : α → Nat} {xs : List α}
    (h : ∀ x ∈ xs, count x = other x) : totalOf count xs = totalOf other xs := by
  induction xs with
  | nil => rfl
  | cons x xs ih =>
    obtain ⟨hx, hxs⟩ := List.forall_mem_cons.1 h
    rw [totalOf_cons, totalOf_cons, hx, ih hxs]

theorem totalOf_map {α β : Type} (count : β → Nat) (f : α → β) (xs : List α) :
    totalOf count (xs.map f) = totalOf (fun x => count (f x)) xs := by
  induction xs with
  | nil => rfl
  | cons x xs ih => simp [ih]

theorem totalOf_add {α : Type} (count more : α → Nat) (xs : List α) :
    totalOf count xs + totalOf more xs = totalOf (fun x => count x + more x) xs := by
  induction xs with
  | nil => rfl
  | cons x xs ih => simp only [totalOf_cons, ← ih]; omega

/-- Items that count nothing can be left out. -/
theorem totalOf_filter {α : Type} {count : α → Nat} {p : α → Bool}
    (h : ∀ x, p x = false → count x = 0) (xs : List α) :
    totalOf count (xs.filter p) = totalOf count xs := by
  induction xs with
  | nil => rfl
  | cons x xs ih =>
    rw [List.filter_cons, totalOf_cons, ← ih]
    cases hx : p x with
    | true => rfl
    | false => simp [h x hx]

end ShopTraffic

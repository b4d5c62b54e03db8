import Mathlib
import ShopTraffic.Stream.Build

/-!
# Plans of a day and of a window

A plan of a day is as many starts as were drawn, in order. A plan of a window is the plan of the day on
which the window starts, without what lies outside the window.

* `sortInstants_perm`, `sortInstants_sorted`, `filter_sortInstants` — instants in order;
* `Planner.planDay_eq`, `Planner.length_planDay` — a plan of a day, and how long it is;
* `Planner.planWindow_eq_filter` — a window is planned like its day and cut.
-/

set_option autoImplicit false

namespace ShopTraffic

open Chance

/-! ## Instants in order -/

theorem sortInstants_perm (ts : List Instant) : (sortInstants ts).Perm ts :=
  List.mergeSort_perm ts _

theorem sortInstants_sorted (ts : List Instant) : (sortInstants ts).Pairwise (· ≤ ·) := by
  have hsorted : (sortInstants ts).Pairwise fun a b => decide (a ≤ b) = true := by
    unfold sortInstants
    apply List.pairwise_mergeSort
    · intro a b c hab hbc
      exact decide_eq_true (Nat.le_trans (of_decide_eq_true hab) (of_decide_eq_true hbc))
    · intro a b
      simpa [Instant.le_def] using Nat.le_total a.millis b.millis
  exact hsorted.imp fun hle => of_decide_eq_true hle

/-- Two sorted lists of the same instants are the same list. -/
theorem eq_of_perm_of_sorted {ts us : List Instant} (h : ts.Perm us) (hts : ts.Pairwise (· ≤ ·))
    (hus : us.Pairwise (· ≤ ·)) : ts = us :=
  h.eq_of_pairwise (fun _ _ _ _ hab hba => Instant.ext_millis (Nat.le_antisymm hab hba)) hts hus

/-- It is the same to sort before or after some instants are left out. -/
theorem filter_sortInstants (keep : Instant → Bool) (ts : List Instant) :
    (sortInstants ts).filter keep = sortInstants (ts.filter keep) := by
  have hperm : ((sortInstants ts).filter keep).Perm (ts.filter keep) :=
    (sortInstants_perm ts).filter keep
  exact eq_of_perm_of_sorted (hperm.trans (sortInstants_perm _).symm)
    ((sortInstants_sorted ts).filter keep) (sortInstants_sorted _)

namespace Planner

/-! ## Plans -/

theorem planDay_eq (p : Planner) (dayStart : Instant) (s : Source) :
    p.planDay dayStart s = (sortInstants (p.starts dayStart (p.count s).1 (p.count s).2).1,
      (p.starts dayStart (p.count s).1 (p.count s).2).2) := by
  unfold planDay
  generalize p.count s = drawn
  obtain ⟨n, s⟩ := drawn
  rfl

theorem length_planDay (p : Planner) (dayStart : Instant) (s : Source) :
    (p.planDay dayStart s).1.length = (p.count s).1 := by
  rw [planDay_eq, (sortInstants_perm _).length_eq, length_starts]

theorem planWindow_eq (p : Planner) (w : Window) (s : Source) :
    p.planWindow w s =
      (sortInstants ((p.starts w.start.dayStart (p.count s).1 (p.count s).2).1.filter w.contains),
        (p.starts w.start.dayStart (p.count s).1 (p.count s).2).2) := by
  unfold planWindow
  generalize p.count s = drawn
  obtain ⟨n, s⟩ := drawn
  rfl

/-- A window is planned like its day and cut. -/
theorem planWindow_eq_filter (p : Planner) (w : Window) (s : Source) :
    p.planWindow w s = ((p.planDay w.start.dayStart s).1.filter w.contains,
      (p.planDay w.start.dayStart s).2) := by
  rw [planWindow_eq, planDay_eq, filter_sortInstants]

end Planner

end ShopTraffic

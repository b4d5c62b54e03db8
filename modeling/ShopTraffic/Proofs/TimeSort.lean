import Mathlib
import ShopTraffic.Event

/-!
# The stable sort by time

Sorting by time gives the same events in the order of their times, and those of one time in the order
they had. What is in order already, on its own or as a part of the list, stays as it is.

* `filter_mergeSort`, `filter_byTime_of_ordered` — a part of a list that is in order keeps it;
* `filter_byTime` — so do the events of one time; `perm_of_filter_time` — they decide which events
  there are;
* `StablySorted`, `stablySorted_byTime` — what a stable sort is; `eq_of_filter_time`,
  `StablySorted.filter_eq` — there is only one, so every stable sort keeps a part in order.
-/

set_option autoImplicit false

namespace ShopTraffic

theorem filter_mergeSort {α : Type} {le : α → α → Bool}
    (trans : ∀ a b c, le a b → le b c → le a c) (total : ∀ a b, le a b || le b a) {p : α → Bool}
    {xs : List α} (h : (xs.filter p).Pairwise (le · ·)) :
    (xs.mergeSort le).filter p = xs.filter p := by
  have hsub := (List.sublist_mergeSort trans total h List.filter_sublist).filter p
  rw [List.filter_filter] at hsub
  simp only [Bool.and_self] at hsub
  exact (hsub.eq_of_length (((List.mergeSort_perm xs le).filter p).length_eq.symm)).symm

/-- Sorting by time leaves a part that is in order of time as it is. -/
theorem filter_byTime_of_ordered {events : List Event} {p : Event → Bool}
    (h : TimeOrdered (events.filter p)) : (byTime events).filter p = events.filter p := by
  unfold byTime
  rw [filter_mergeSort]
  · intro a b c hab hbc
    simp only [decide_eq_true_eq, Instant.le_def] at hab hbc ⊢
    omega
  · intro a b
    simp only [Bool.or_eq_true, decide_eq_true_eq, Instant.le_def]
    omega
  · exact h.imp fun hab => decide_eq_true hab

/-- Sorting by time keeps the order of the events of one time. -/
theorem filter_byTime (events : List Event) (t : Instant) :
    (byTime events).filter (·.time = t) = events.filter (·.time = t) := by
  refine filter_byTime_of_ordered (List.pairwise_of_forall_mem_list fun a ha b hb => ?_)
  obtain ⟨-, ha⟩ := List.mem_filter.1 ha
  obtain ⟨-, hb⟩ := List.mem_filter.1 hb
  rw [of_decide_eq_true ha, of_decide_eq_true hb]
  exact Nat.le_refl _

/-- Lists with the same events at every time hold the same events. -/
theorem perm_of_filter_time {xs ys : List Event}
    (h : ∀ t, xs.filter (·.time = t) = ys.filter (·.time = t)) : xs.Perm ys := by
  classical
  refine List.perm_iff_count.2 fun e => ?_
  have hcount : ∀ zs : List Event, (zs.filter (·.time = e.time)).count e = zs.count e :=
    fun _ => List.count_filter (decide_eq_true rfl)
  rw [← hcount xs, h e.time, hcount ys]

/-- The same events in the order of their times, those of one time in the order they had. -/
structure StablySorted (sorted events : List Event) : Prop where
  perm : sorted.Perm events
  ordered : TimeOrdered sorted
  stable : ∀ t, sorted.filter (·.time = t) = events.filter (·.time = t)

/-- Lists in order of time with the same events at every time, in the same order, are the same. -/
theorem eq_of_filter_time {xs ys : List Event} (hxs : TimeOrdered xs) (hys : TimeOrdered ys)
    (h : ∀ t, xs.filter (·.time = t) = ys.filter (·.time = t)) : xs = ys := by
  have hperm := perm_of_filter_time h
  induction xs generalizing ys with
  | nil => exact hperm.nil_eq
  | cons x xs ih =>
    cases ys with
    | nil => exact absurd hperm.eq_nil (List.cons_ne_nil _ _)
    | cons y ys =>
      obtain ⟨hx, hxs'⟩ := List.pairwise_cons.1 hxs
      obtain ⟨hy, hys'⟩ := List.pairwise_cons.1 hys
      -- both lists begin at their earliest time, and with its first event
      have hle : x.time ≤ y.time := by
        rcases List.mem_cons.1 (hperm.mem_iff.2 List.mem_cons_self) with heq | hmem
        · exact heq ▸ Nat.le_refl _
        · exact hx y hmem
      have hge : y.time ≤ x.time := by
        rcases List.mem_cons.1 (hperm.mem_iff.1 List.mem_cons_self) with heq | hmem
        · exact heq ▸ Nat.le_refl _
        · exact hy x hmem
      have htime : x.time = y.time := Instant.ext_millis (Nat.le_antisymm hle hge)
      have hfirst := h x.time
      rw [List.filter_cons, List.filter_cons, if_pos (decide_eq_true rfl),
        if_pos (decide_eq_true htime.symm), List.cons.injEq] at hfirst
      obtain ⟨rfl, -⟩ := hfirst
      have hrest : ∀ t, xs.filter (·.time = t) = ys.filter (·.time = t) := by
        intro t
        have ht := h t
        rw [List.filter_cons, List.filter_cons] at ht
        split at ht
        · exact (List.cons.inj ht).2
        · exact ht
      rw [ih hxs' hys' hrest (perm_of_filter_time hrest)]

namespace StablySorted

variable {sorted events : List Event}

/-- A part that is in order of time stays as it is. -/
theorem filter_eq (h : StablySorted sorted events) {p : Event → Bool}
    (hp : TimeOrdered (events.filter p)) : sorted.filter p = events.filter p := by
  refine eq_of_filter_time (h.ordered.filter p) hp fun t => ?_
  rw [List.filter_comm, h.stable, List.filter_comm]

end StablySorted

theorem stablySorted_byTime (events : List Event) : StablySorted (byTime events) events :=
  ⟨byTime_perm events, timeOrdered_byTime events, filter_byTime events⟩

end ShopTraffic

import Mathlib
import ShopTraffic.Proofs.Sampling
import ShopTraffic.Proofs.Tasks

/-!
# The population by places

A population gives every user a place, its identity and its seat, once and for all. Users are
written back to their places and newcomers take new ones, so that the places of a population only
grow at the end.

* `Population.places` — the place of every user; `places_putAll`, `places_grow` — what writing back
  and growing do to them; `mem_put`, `getElem?_putAll` — what writing back does to the users;
* `Population.Distinct` — different users have different identities;
* `Population.Fresh`, `generate_fresh` — users with nothing to send, as those of a new population;
* `select_nodup` — users on different seats, by their identities and by their seats.
-/

set_option autoImplicit false

namespace ShopTraffic

open Chance

namespace Population

/-- The place of every user. -/
def places (p : Population) : List (UserId × Nat) := p.users.toList.map (·.place)

/-- Different users have different identities. -/
def Distinct (p : Population) : Prop := (p.users.toList.map (·.id)).Nodup

/-- No user has anything to send, or more sent than assigned. -/
def Fresh (p : Population) : Prop := ∀ u ∈ p.users.toList, u.sent ≤ u.total ∧ u.unsent = 0

variable {p : Population} {u v : User}

theorem seat_eq {i : Nat} (h : p.users[i]? = some u) : u.seat = i := by
  obtain ⟨hi, rfl⟩ := Array.getElem?_eq_some_iff.1 h
  exact p.seated i hi

theorem getElem?_seat (h : u ∈ p.users.toList) : p.users[u.seat]? = some u := by
  obtain ⟨i, hi, rfl⟩ := List.mem_iff_getElem.1 h
  rw [Array.length_toList] at hi
  rw [Array.getElem_toList, p.seated i hi, Array.getElem?_eq_getElem hi]

theorem mem_of_getElem? {i : Nat} (h : p.users[i]? = some u) : u ∈ p.users.toList :=
  Array.mem_toList_iff.2 (Array.mem_of_getElem? h)

/-- A place is taken when the user on its seat has its identity. -/
theorem mem_places : v.place ∈ p.places ↔ ∃ u, p.users[v.seat]? = some u ∧ u.id = v.id := by
  unfold places
  rw [List.mem_map]
  constructor
  · rintro ⟨u, hu, hplace⟩
    have hseat : u.seat = v.seat := congrArg Prod.snd hplace
    exact ⟨u, hseat ▸ getElem?_seat hu, congrArg Prod.fst hplace⟩
  · rintro ⟨u, hu, hid⟩
    exact ⟨u, mem_of_getElem? hu, Prod.ext hid (seat_eq hu)⟩

theorem place_mem (h : u ∈ p.users.toList) : u.place ∈ p.places := List.mem_map_of_mem h

/-- Sessions leave a user its place. -/
theorem place_mem_of_resumes (h : v.Resumes u) (hu : u ∈ p.users.toList) : v.place ∈ p.places :=
  h.place_eq ▸ place_mem hu

/-- Where identities differ, a user is found by its identity. -/
theorem Distinct.eq_of_id_eq (hp : p.Distinct) (hu : u ∈ p.users.toList) (hv : v ∈ p.users.toList)
    (hid : u.id = v.id) : u = v :=
  List.inj_on_of_nodup_map hp hu hv hid

/-- Where identities differ, each has one seat. -/
theorem Distinct.seat_eq_of_id_eq (hp : p.Distinct) (hu : u.place ∈ p.places)
    (hv : v.place ∈ p.places) (hid : u.id = v.id) : u.seat = v.seat := by
  obtain ⟨x, hx, hxid⟩ := mem_places.1 hu
  obtain ⟨y, hy, hyid⟩ := mem_places.1 hv
  have hsame : x = y := hp.eq_of_id_eq (mem_of_getElem? hx) (mem_of_getElem? hy)
    (hxid.trans (hid.trans hyid.symm))
  rw [← seat_eq hx, ← seat_eq hy, hsame]

/-! ## Writing back -/

theorem getElem?_put (p : Population) (v : User) (i : Nat) :
    (p.put v).users[i]? = p.users[i]?.map fun u => if v.seat = u.seat then v else u := by
  show (p.users.setIfInBounds v.seat v)[i]? = _
  rw [Array.getElem?_setIfInBounds]
  cases hu : p.users[i]? with
  | none =>
    have hi : p.users.size ≤ i := Array.getElem?_eq_none_iff.1 hu
    split
    · rename_i heq
      rw [if_neg (by omega)]
      rfl
    · rfl
  | some u =>
    have hi := (Array.getElem?_eq_some_iff.1 hu).1
    rw [Option.map_some, seat_eq hu]
    split
    · rename_i heq
      rw [if_pos (heq ▸ hi)]
    · rfl

/-- A user that is written back takes the place of the one on its seat. -/
theorem mem_put (hv : v.place ∈ p.places) :
    u ∈ (p.put v).users.toList ↔ u = v ∨ u ∈ p.users.toList ∧ u.seat ≠ v.seat := by
  constructor
  · intro h
    have hu := getElem?_seat h
    rw [getElem?_put, Option.map_eq_some_iff] at hu
    obtain ⟨x, hx, heq⟩ := hu
    split at heq
    · exact .inl heq.symm
    · rename_i hseat
      subst heq
      exact .inr ⟨mem_of_getElem? hx, fun heq => hseat heq.symm⟩
  · rintro (rfl | ⟨hu, hseat⟩)
    · obtain ⟨x, hx, -⟩ := mem_places.1 hv
      have hput : (p.put u).users[u.seat]? = some u := by
        rw [getElem?_put, hx, Option.map_some, if_pos (seat_eq hx).symm]
      exact mem_of_getElem? hput
    · have hput : (p.put v).users[u.seat]? = some u := by
        rw [getElem?_put, getElem?_seat hu, Option.map_some, if_neg fun heq => hseat heq.symm]
      exact mem_of_getElem? hput

/-- **Writing back changes the users that are written and no others.** -/
theorem getElem?_putAll (p : Population) (vs : List User) (i : Nat) :
    (p.putAll vs).users[i]? = p.users[i]?.map (·.written vs) := by
  unfold putAll User.written
  induction vs generalizing p with
  | nil => simp
  | cons v vs ih =>
    rw [List.foldl_cons, ih, getElem?_put, Option.map_map]
    rfl

theorem places_put (h : v.place ∈ p.places) : (p.put v).places = p.places := by
  obtain ⟨u, hu, hid⟩ := mem_places.1 h
  unfold places
  refine List.ext_getElem? fun i => ?_
  rw [List.getElem?_map, List.getElem?_map, Array.getElem?_toList, Array.getElem?_toList,
    getElem?_put]
  cases hi : p.users[i]? with
  | none => rfl
  | some x =>
    rw [Option.map_some, Option.map_some, Option.map_some]
    split
    · rename_i hseat
      rw [seat_eq hi] at hseat
      rw [hseat, hi] at hu
      cases hu
      exact congrArg some (Prod.ext hid.symm (hseat.trans (seat_eq hi).symm))
    · rfl

theorem places_putAll {vs : List User} (h : ∀ v ∈ vs, v.place ∈ p.places) :
    (p.putAll vs).places = p.places := by
  unfold putAll
  induction vs generalizing p with
  | nil => rfl
  | cons v vs ih =>
    obtain ⟨hv, hvs⟩ := List.forall_mem_cons.1 h
    rw [List.foldl_cons, ih fun w hw => (places_put hv).symm ▸ hvs w hw, places_put hv]

theorem ids_eq (p : Population) : p.users.toList.map (·.id) = p.places.map Prod.fst := by
  unfold places
  rw [List.map_map]
  rfl

theorem size_eq (p : Population) : p.size = p.places.length := by
  simp [places, size]

/-! ## Growing -/

theorem grow_users (p : Population) (n : Nat) (s : Source) :
    p.users.toList <+: (p.grow n s).1.users.toList := by
  induction n generalizing p s with
  | zero => exact List.prefix_rfl
  | succ n ih =>
    simp only [grow]
    refine List.IsPrefix.trans ?_ (ih _ _)
    show p.users.toList <+: (p.users.push _).toList
    rw [Array.toList_push]
    exact List.prefix_append _ _

theorem places_grow (p : Population) (n : Nat) (s : Source) : p.places <+: (p.grow n s).1.places :=
  (grow_users p n s).map _

/-- Newcomers sit on new seats, and nothing was ever assigned to them. -/
theorem grow_new (p : Population) (n : Nat) (s : Source) {u : User}
    (h : u ∈ (p.grow n s).1.users.toList) :
    u ∈ p.users.toList ∨ u.sent = 0 ∧ u.total = 0 ∧ p.size ≤ u.seat := by
  induction n generalizing p s with
  | zero => exact .inl h
  | succ n ih =>
    simp only [grow] at h
    have hcounters : (p.mix.newUser s).1.sent = 0 ∧ (p.mix.newUser s).1.total = 0 := by
      simp only [Mix.newUser, and_self]
    generalize p.mix.newUser s = drawn at h hcounters
    rcases ih _ _ h with hmem | ⟨hsent, htotal, hseat⟩
    · simp only [join, Array.toList_push, List.mem_append, List.mem_singleton] at hmem
      rcases hmem with hmem | rfl
      · exact .inl hmem
      · exact .inr ⟨hcounters.1, hcounters.2, Nat.le_refl _⟩
    · simp only [join, size, Array.size_push] at hseat
      exact .inr ⟨hsent, htotal, by simp only [size]; omega⟩

/-- **The users of a new population have nothing to send.** -/
theorem generate_fresh {mix : Mix} {n : Nat} {source rest : Source}
    (h : generate mix n source = .ok (p, rest)) : p.Fresh := by
  intro u hu
  unfold generate checkedGrow at h
  cases hroom : claimRoom (({ mix } : Population).size + n) with
  | error crash => simp [hroom, bind, Except.bind] at h
  | ok room =>
    simp only [hroom, bind, Except.bind, pure, Except.pure, Except.ok.injEq] at h
    have hgrown : (({ mix } : Population).grow n source).1 = p := congrArg Prod.fst h
    rw [← hgrown] at hu
    rcases grow_new _ _ _ hu with hnone | ⟨hsent, htotal, -⟩
    · exact absurd hnone (by simp)
    · simp [User.unsent, hsent, htotal]

/-- Identities that differ in a population differed before it grew. -/
theorem Distinct.of_places {q : Population} (h : q.Distinct) (hp : p.places <+: q.places) :
    p.Distinct := by
  unfold Distinct at h ⊢
  rw [ids_eq] at h ⊢
  exact h.sublist (hp.map Prod.fst).sublist

theorem Distinct.put (hp : p.Distinct) (hv : v.place ∈ p.places) : (p.put v).Distinct := by
  refine hp.of_places ?_
  rw [places_put hv]

theorem distinct_of_size_le_one (h : p.size ≤ 1) : p.Distinct := by
  unfold Distinct size at *
  rw [← Array.length_toList] at h
  match p.users.toList, h with
  | [], _ => exact .nil
  | [_], _ => exact List.nodup_singleton _

/-! ## Selecting -/

/-- Drawn seats are different ones, and all are taken. -/
theorem sample_spec (p : Population) (k : Nat) (s : Source) :
    (p.sample k s).1.Nodup ∧ ∀ i ∈ (p.sample k s).1, i < p.size :=
  ⟨(distinct_spec p.size k s).nodup, (distinct_spec p.size k s).lt⟩

theorem mem_select {seats : List Nat} (h : u ∈ p.select seats) :
    p.users[u.seat]? = some u ∧ u.seat ∈ seats := by
  obtain ⟨i, hi, hu⟩ := List.mem_filterMap.1 h
  rw [seat_eq hu]
  exact ⟨hu, hi⟩

theorem select_seats {seats : List Nat} (h : ∀ i ∈ seats, i < p.size) :
    (p.select seats).map (·.seat) = seats := by
  unfold select
  induction seats with
  | nil => rfl
  | cons i rest ih =>
    obtain ⟨hi, hrest⟩ := List.forall_mem_cons.1 h
    have hu : p.users[i]? = some p.users[i] := Array.getElem?_eq_getElem hi
    rw [List.filterMap_cons, hu]
    simp only
    rw [List.map_cons, ih hrest, seat_eq hu]

/-- Who sits on some seats follows from the places of the population. -/
theorem places_select (p : Population) (seats : List Nat) :
    (p.select seats).map (·.place) = seats.filterMap (p.places[·]?) := by
  unfold select places
  rw [List.map_filterMap]
  refine List.filterMap_congr fun i _ => ?_
  rw [List.getElem?_map, Array.getElem?_toList]

/-- Users on different seats are different ones. -/
theorem select_nodup (hp : p.Distinct) {seats : List Nat} (hnd : seats.Nodup)
    (h : ∀ i ∈ seats, i < p.size) :
    ((p.select seats).map (·.id)).Nodup ∧ ((p.select seats).map (·.seat)).Nodup := by
  have hseats : ((p.select seats).map (·.seat)).Nodup := by
    rw [select_seats h]
    exact hnd
  refine ⟨List.Nodup.map_on (fun u hu v hv hid => ?_) hseats.of_map, hseats⟩
  have hmem : ∀ {u : User}, u ∈ p.select seats → u ∈ p.users.toList := fun hu =>
    mem_of_getElem? (mem_select hu).1
  exact hp.eq_of_id_eq (hmem hu) (hmem hv) hid

end Population

end ShopTraffic

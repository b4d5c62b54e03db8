import Mathlib
import ShopTraffic.Proofs.Accounts
import ShopTraffic.Proofs.PopulationHistory

/-!
# Shards and tasks

A window cuts its active users into shards and starts a task for each of them, and one more if the
backlog holds anything for others.

* `shares_generating`, `length_shares_le` — the shares that generate are the shards, and there is at
  most one other;
* `Episode.shards`, `Episode.Sharded` — the users of the tasks that generate, as an even part of the
  active users;
* `record_sharded` — shards of any list, and the tasks of all windows of a stream.
-/

set_option autoImplicit false

namespace ShopTraffic

open Chance

namespace Streamer

variable {s : Streamer} {around : Surroundings} {st : StreamState}

/-! ## The shares of a window -/

/-- The shares that generate are those of the shards, in order. -/
theorem shares_generating (s : Streamer) (st : StreamState) :
    ((s.shares st).filter (·.2.2)).map (fun share => share.2.1.map (·.user)) =
      shardsOf (st.population.select st.active) s.settings.shards := by
  have hshards : ((s.shardIntakes st).zipIdx.map fun share =>
      ((⟨share.2⟩, share.1, true) : ShardId × List Intake × Bool)).filter (·.2.2) =
        (s.shardIntakes st).zipIdx.map fun share => (⟨share.2⟩, share.1, true) :=
    List.filter_eq_self.2 fun share hshare => by
      obtain ⟨_, _, rfl⟩ := List.mem_map.1 hshare
      rfl
  have horphans : (if s.orphans st = [] then []
      else [((.carry, (s.orphans st).map fun c => ⟨c.user, c.events⟩, false) :
        ShardId × List Intake × Bool)]).filter (·.2.2) = [] := by
    split <;> rfl
  rw [shares_eq, List.filter_append, hshards, horphans, List.append_nil, List.map_map,
    ← shardIntakes_users]
  conv_rhs => rw [← List.zipIdx_map_fst 0 (s.shardIntakes st), List.map_map]
  rfl

/-- There is a share for every shard, and at most one more. -/
theorem length_shares_le (s : Streamer) (st : StreamState) :
    (s.shares st).length ≤ s.settings.shards + 1 := by
  have hshards := s.length_shardIntakes st
  rw [shares_eq, List.length_append, List.length_map, List.length_zipIdx]
  split
  · rw [List.length_nil]
    omega
  · rw [List.length_singleton]
    omega

end Streamer

/-! ## The tasks of a window -/

/-- The active users are on different places. -/
theorem StreamState.Sound.activeUsers_nodup {st : StreamState} (h : st.Sound) :
    (st.activeUsers.map (·.place)).Nodup := by
  have hseats : (st.activeUsers.map (·.seat)).Nodup := by
    unfold activeUsers
    rw [Population.select_seats h.seated]
    exact h.nodup
  apply List.Nodup.of_map Prod.snd
  rw [List.map_map]
  exact hseats

/-- The places of the users whom the tasks generate for, task by task. -/
def Episode.shards (e : Episode) : List (List (UserId × Nat)) :=
  (e.run.reports.filter (·.task.generates)).map fun r => r.task.intakes.map (·.user.place)

/-- The tasks of a window share out its active users among `shards` shards. -/
structure Episode.Sharded (e : Episode) (shards : Nat) : Prop where
  /-- The users whom the tasks generate for are the active ones, cut evenly. -/
  parted : Parted (e.run.state.activeUsers.map (·.place)) shards e.shards
  /-- Every active user is in one shard and in no other. -/
  existsUnique : ∀ u ∈ e.run.state.activeUsers,
    ∃! i : Nat, ∃ group, e.shards[i]? = some group ∧ u.place ∈ group
  /-- There is a task for every shard, and at most one more. -/
  tasks : e.run.reports.length ≤ shards + 1
  counted : e.run.summary.tasks = e.run.reports.length

namespace Streamer

variable {s : Streamer} {around : Surroundings} {st : StreamState}

theorem map_reports_task (s : Streamer) (around : Surroundings) (st : StreamState) :
    (s.reports around st).map (·.task) = s.tasks around st := by
  unfold reports
  rw [List.map_map]
  have htask : (·.task) ∘ s.reportOf around st = id :=
    funext fun t => (performed s around st t).task_eq
  rw [htask, List.map_id]

/-- The tasks that generate are those of the shards. -/
theorem shards_runWindow (s : Streamer) (around : Surroundings) (h : st.Sound) :
    Episode.shards ⟨around, st, s.runWindow around st⟩ =
      shardsOf ((s.runWindow around st).state.activeUsers.map (·.place)) s.settings.shards := by
  have hplaces : (s.runWindow around st).state.activeUsers.map (·.place) =
      ((s.opened around st).population.select (s.opened around st).active).map (·.place) := by
    unfold StreamState.activeUsers
    rw [Population.places_select, Population.places_select, runWindow_places h, runWindow_active]
  have htasks : ((s.tasks around st).filter (·.generates)).map (fun t => t.intakes.map (·.user)) =
      shardsOf ((s.opened around st).population.select (s.opened around st).active)
        s.settings.shards := by
    rw [← shares_generating, ← dispatch_shares (s.shares (s.opened around st))
      (s.opened around st).source, List.filter_map, List.map_map]
    rfl
  rw [hplaces, ← map_shardsOf, ← htasks, ← map_reports_task]
  unfold Episode.shards
  simp only [runWindow_reports]
  rw [List.filter_map, List.map_map, List.map_map]
  refine List.map_congr_left fun r _ => ?_
  simp only [Function.comp_apply, List.map_map]
  rfl

theorem length_reports_le (s : Streamer) (around : Surroundings) (st : StreamState) :
    (s.reports around st).length ≤ s.settings.shards + 1 := by
  have hshares := congrArg List.length
    (dispatch_shares (s.shares (s.opened around st)) (s.opened around st).source)
  rw [List.length_map] at hshares
  unfold reports tasks
  rw [List.length_map, hshares]
  exact s.length_shares_le _

theorem tasks_runWindow (s : Streamer) (around : Surroundings) (st : StreamState) :
    (s.runWindow around st).summary.tasks = (s.reports around st).length := by
  rw [runWindow_eq_joinedAs, joinedAs_summary]

/-- **The tasks of one window.** -/
theorem runWindow_sharded (s : Streamer) (around : Surroundings) (h : st.Sound)
    (hpos : 0 < s.settings.shards) :
    Episode.Sharded ⟨around, st, s.runWindow around st⟩ s.settings.shards := by
  have hparted : Parted ((s.runWindow around st).state.activeUsers.map (·.place))
      s.settings.shards (Episode.shards ⟨around, st, s.runWindow around st⟩) := by
    rw [shards_runWindow s around h]
    exact shardsOf_parted hpos
  have hnodup : ((s.runWindow around st).state.activeUsers.map (·.place)).Nodup :=
    (runWindow_sound h).activeUsers_nodup
  constructor
  case parted => exact hparted
  case existsUnique =>
    exact fun u hu => hparted.existsUnique hnodup (List.mem_map_of_mem hu)
  case tasks =>
    simp only [runWindow_reports]
    exact s.length_reports_le around st
  case counted =>
    simp only [runWindow_reports]
    exact s.tasks_runWindow around st

/-- **Shards are even, and every active user is in one of them.** A list cut into shards is cut
evenly, whatever its length and however many shards are asked for; and in every history of a stream,
from any population and any source, the tasks of each window generate for the active users, cut so,
and for each of them in one task; with the task for what others carry there is at most one more than
shards. -/
theorem record_sharded :
    (∀ (α : Type) (items : List α) (shards : Nat), 0 < shards →
      Parted items shards (shardsOf items shards)) ∧
    ∀ (c : Settings) (s : Streamer), ofSettings c = .ok s →
      ∀ (population : Population) (source : Source) (os : List Occasion) (es : List Episode)
        (st : StreamState), s.record os { population, source } = .ok (es, st) →
        ∀ e ∈ es, e.Sharded c.shards := by
  refine ⟨fun α items shards => shardsOf_parted, ?_⟩
  intro c s hs population source os es st h
  have hjudged := ofSettings_judged c
  rw [hs] at hjudged
  obtain ⟨hpos, -⟩ := Settings.check_spec hjudged.of_ok.1
  rw [← (settings_of_ofSettings hs).1] at hpos ⊢
  exact (recorded_of_record h).forall_episode (fresh_sound population source)
    fun around _ hst => s.runWindow_sharded around hst hpos

end Streamer

/-- Windows of a day, two shards, and two users active on every day. -/
def Settings.inTwo : Settings :=
  { Settings.byDay with
    shards := 2
    workload := { Settings.byDay.workload with activeChoices := [2] } }

theorem Streamer.record_sharded_inTwo :
    shardsOf ["a", "b", "c", "d", "e", "f", "g"] 3 =
      [["a", "b", "c"], ["d", "e"], ["f", "g"]] ∧
    Parted ["a", "b", "c", "d", "e", "f", "g"] 3 (shardsOf ["a", "b", "c", "d", "e", "f", "g"] 3) ∧
    ∃ s es st, ofSettings .inTwo = .ok s ∧
      s.record Occasion.twoDays { population := .pair, source := .ofSeed 0 } = .ok (es, st) ∧
        es.length = 2 ∧ ∀ e ∈ es, e.Sharded 2 := by
  refine ⟨by decide, record_sharded.1 _ _ _ (by decide), ?_⟩
  obtain ⟨s, hs⟩ := (ofSettings_judged .inTwo).exists_ok (by decide) (by decide)
  have hroom : Population.pair.size +
      Occasion.twoDays.length * s.settings.workload.newUsersPerDay ≤ maxItems := by
    rw [(settings_of_ofSettings hs).1]
    decide
  obtain ⟨es, st, h, -⟩ := record_ok Occasion.twoDays _ (fresh_sound .pair (.ofSeed 0)) hroom
  exact ⟨s, es, st, hs, h, (recorded_of_record h).length_eq,
    record_sharded.2 .inTwo s hs .pair _ _ es st h⟩

end ShopTraffic

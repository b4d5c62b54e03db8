import Mathlib
import ShopTraffic.Backfill
import ShopTraffic.Settings.File
import ShopTraffic.Stream.Streamer

/-!
# Which settings are taken

Settings are read, checked, and made into a planner, a stream or a backfill. What does not pass is
told as an error. What passes may still be beyond what can be counted: the seconds of a window, the
sum of the hour weights, the permits of the shards, the room for the first users. The check looks at
none of these, and each ends in a crash.

* `Judged` — how a construction ends, by whether its input is valid and fits;
* `WorkloadSettings.Usable` — what settings that pass their check leave to draw from;
* `Table.ofEntries_judged`, `SettingsFile.settings_judged`, `taskPermits_judged` — the single steps
  that count;
* `Planner.ofSettings_judged`, `Streamer.ofSettings_judged`, `Backfill.ofSettings_judged` — the
  constructions;
* `constructions_judged` — all of them, from the text of a file on;
* `check_misses_crashes` — texts that are read and pass the check, and crash all the same.
-/

set_option autoImplicit false

namespace ShopTraffic

open Chance

/-! ## Judgements -/

/-- How a construction ends: an error says that its input is not valid, a crash that it is valid and
does not fit, and otherwise it is both. -/
inductive Judged {ε α : Type} (valid fits : Prop) : Outcome ε α → Prop
  | refused (cause : ε) : ¬valid → Judged valid fits (.error (.error cause))
  | crashed (crash : Crash) : valid → ¬fits → Judged valid fits (.error (.crash crash))
  | taken (x : α) : valid → fits → Judged valid fits (.ok x)

namespace Judged

variable {ε δ α : Type} {valid fits : Prop} {o : Outcome ε α}

/-- A construction crashes exactly for valid input that does not fit. -/
theorem crash_iff (h : Judged valid fits o) :
    (∃ crash, o = .error (.crash crash)) ↔ valid ∧ ¬fits := by
  cases h with
  | refused cause hvalid => simp [hvalid]
  | crashed crash hvalid hfits => simp [hvalid, hfits]
  | taken x hvalid hfits => simp [hfits]

/-- Valid input that fits is taken. -/
theorem exists_ok (h : Judged valid fits o) (hvalid : valid) (hfits : fits) : ∃ x, o = .ok x := by
  cases h with
  | refused cause hrefused => exact absurd hvalid hrefused
  | crashed crash _ hcrashed => exact absurd hfits hcrashed
  | taken x _ _ => exact ⟨x, rfl⟩

/-- What is taken is valid and fits. -/
theorem of_ok {x : α} (h : Judged valid fits (.ok x : Outcome ε α)) : valid ∧ fits := by
  cases h with
  | taken _ hvalid hfits => exact ⟨hvalid, hfits⟩

/-- An error seen as another one changes nothing. -/
theorem mapError (f : ε → δ) (h : Judged valid fits o) :
    Judged valid fits (Except.mapError (Stop.map f) o) := by
  cases h with
  | refused cause hvalid => exact .refused (f cause) hvalid
  | crashed crash hvalid hfits => exact .crashed crash hvalid hfits
  | taken x hvalid hfits => exact .taken x hvalid hfits

/-- Input that is valid in one sense and in another is judged the same in both. -/
theorem of_valid {valid' : Prop} (h : Judged valid fits o) (hvalid : valid) (hvalid' : valid') :
    Judged valid' fits o := by
  cases h with
  | refused cause hrefused => exact absurd hvalid hrefused
  | crashed crash _ hfits => exact .crashed crash hvalid' hfits
  | taken x _ hfits => exact .taken x hvalid' hfits

/-- What is made of the value of a construction is judged as the construction is. -/
theorem map {β : Type} (f : α → β) (h : Judged valid fits o) :
    Judged valid fits (o >>= fun x => .ok (f x)) := by
  cases h with
  | refused cause hvalid => exact .refused cause hvalid
  | crashed crash hvalid hfits => exact .crashed crash hvalid hfits
  | taken x hvalid hfits => exact .taken (f x) hvalid hfits

/-- A second construction, where the first one has succeeded, needs to fit as well. -/
theorem bind {β : Type} {fits' : Prop} {f : α → Outcome ε β} (h : Judged valid fits o)
    (hf : valid → ∀ x, Judged True fits' (f x)) : Judged valid (fits ∧ fits') (o >>= f) := by
  cases h with
  | refused cause hvalid => exact .refused cause hvalid
  | crashed crash hvalid hfits => exact .crashed crash hvalid fun h => hfits h.1
  | taken x hvalid hfits =>
    show Judged valid (fits ∧ fits') (f x)
    generalize hy : f x = y
    cases hy ▸ hf hvalid x with
    | refused cause hfalse => exact absurd trivial hfalse
    | crashed crash _ hfits' => exact .crashed crash hvalid fun h => hfits' h.2
    | taken y _ hfits' => exact .taken y hvalid ⟨hfits, hfits'⟩

end Judged

/-! ## What the check leaves -/

/-- A check gives no reason when its first condition gives none and the rest of it gives none. -/
theorem ite_some_eq_none {α : Type} {p : Prop} [Decidable p] {a : α} {x : Option α} :
    (if p then some a else x) = none ↔ ¬p ∧ x = none := by
  split <;> simp [*]

namespace WorkloadSettings

/-- There is something to draw from in every distribution, a screen to show and a time to stay. -/
structure Usable (c : WorkloadSettings) : Prop where
  active : 0 < c.activeChoices.length
  sessionCounts : 0 < c.sessionCountChoices.length
  minutes : 0 < c.minuteChoices.length
  hours : 0 < c.hourWeights.sum
  screens : 0 < c.maxScreens
  stay : c.minDwell ≤ c.maxDwell

variable {c : WorkloadSettings}

theorem check_eq_ok_iff : c.check = .ok () ↔ c.problem? = none := by
  unfold check
  cases c.problem? <;> simp

/-- What passes the check, one condition for each reason to refuse. -/
theorem problem?_eq_none_iff : c.problem? = none ↔ c.activeChoices ≠ [] ∧
    c.sessionCountChoices ≠ [] ∧ c.minuteChoices ≠ [] ∧ c.hourWeights.length = 24 ∧
    (∃ w ∈ c.hourWeights, w ≠ 0) ∧ (∀ m ∈ c.minuteChoices, m < 60) ∧ c.maxScreens ≠ 0 ∧
    c.minDwell ≤ c.maxDwell := by
  have hfind : c.minuteChoices.find? (60 ≤ ·) = none ↔ ∀ m ∈ c.minuteChoices, m < 60 := by
    simp
  unfold problem?
  rw [← hfind]
  cases c.minuteChoices.find? (60 ≤ ·) with
  | none => simp only [ite_some_eq_none]; simp
  | some minute => simp only [ite_some_eq_none]; simp

/-- Workload settings that pass their check are usable. -/
theorem usable_of_check (h : c.check = .ok ()) : c.Usable := by
  obtain ⟨hactive, hcounts, hminutes, -, ⟨w, hw, hpositive⟩, -, hscreens, hstay⟩ :=
    problem?_eq_none_iff.1 (check_eq_ok_iff.1 h)
  constructor
  · exact List.length_pos_iff.2 hactive
  · exact List.length_pos_iff.2 hcounts
  · exact List.length_pos_iff.2 hminutes
  · exact Nat.pos_of_ne_zero fun h0 => hpositive (List.sum_eq_zero_iff.1 h0 w hw)
  · exact Nat.pos_of_ne_zero hscreens
  · exact hstay

/-- The sum of the hour weights can be counted in 32 bits. -/
def HoursFit (c : WorkloadSettings) : Prop := c.hourWeights.sum < 0x100000000

instance (c : WorkloadSettings) : Decidable c.HoursFit :=
  inferInstanceAs (Decidable (c.hourWeights.sum < 0x100000000))

end WorkloadSettings

/-- Settings that pass their check ask for a shard, and have workload settings that pass theirs. -/
theorem Settings.check_spec {c : Settings} (h : c.check = .ok ()) :
    0 < c.shards ∧ c.workload.check = .ok () := by
  have hnone : c.problem? = none := by
    unfold check at h
    cases hproblem : c.problem? with
    | none => rfl
    | some cause => simp [hproblem] at h
  unfold problem? at hnone
  simp only [ite_some_eq_none] at hnone
  obtain ⟨-, -, hshards, -, hworkload⟩ := hnone
  exact ⟨Nat.pos_of_ne_zero hshards,
    WorkloadSettings.check_eq_ok_iff.2 (Option.map_eq_none_iff.1 hworkload)⟩

theorem Settings.workload_check {c : Settings} (h : c.check = .ok ()) : c.workload.check = .ok () :=
  (check_spec h).2

theorem Chance.Choice.ofList?_eq {α : Type} {values : List α} (h : 0 < values.length) :
    Choice.ofList? values = some ⟨values, h⟩ := dif_pos h

/-! ## Steps that count -/

theorem Planner.weightSum_hourEntries (weights : List Nat) :
    weightSum (hourEntries weights) = weights.sum := by
  unfold hourEntries
  suffices h : ∀ k, weightSum ((weights.zipIdx k).map fun entry => (entry.2, entry.1)) = weights.sum
    from h 0
  induction weights with
  | nil => intro k; rfl
  | cons w rest ih =>
    intro k
    rw [List.zipIdx_cons, List.map_cons, List.sum_cons]
    show w + weightSum _ = w + rest.sum
    rw [ih]

/-- Entries of a positive sum make a table if 32 bits hold the sum. -/
theorem Chance.Table.ofEntries_eq {α : Type} {entries : List (α × Nat)}
    (h : 0 < weightSum entries) :
    Table.ofEntries entries =
      if weightSum entries < 0x100000000 then .ok (some ⟨entries, h⟩) else .error .addOverflow := by
  unfold Table.ofEntries
  rw [dif_pos h]
  rfl

/-- The settings of a file crash when the seconds of their window cannot be counted. -/
theorem SettingsFile.settings_judged (f : SettingsFile) {ε : Type} :
    Judged True (f.windowMinutes * 60 < 0x10000000000000000)
      (f.settings.mapError .crash : Outcome ε Settings) := by
  unfold settings checkedMul
  split
  · rename_i hfits
    exact .taken _ trivial hfits
  · rename_i hfits
    exact .crashed .mulOverflow trivial hfits

/-- One permit for each shard and one more can be kept below the largest number of them. -/
theorem Streamer.taskPermits_judged (shards : Nat) :
    Judged True (shards < maxPermits) (taskPermits shards) := by
  unfold taskPermits checkedAdd
  by_cases hsum : shards + 1 < 0x10000000000000000
  · rw [if_pos hsum]
    by_cases hpermits : maxPermits < shards + 1
    · show Judged True _ (if maxPermits < shards + 1 then _ else _)
      rw [if_pos hpermits]
      exact .crashed .tooManyPermits trivial (by omega)
    · show Judged True _ (if maxPermits < shards + 1 then _ else _)
      rw [if_neg hpermits]
      exact .taken () trivial (by omega)
  · rw [if_neg hsum]
    have hmany : ¬shards < maxPermits := by
      unfold maxPermits
      omega
    exact .crashed .addOverflow trivial hmany

/-! ## Constructions -/

/-- **A planner** is made of settings that pass their check and whose hour weights fit. -/
theorem Planner.ofSettings_judged (c : WorkloadSettings) :
    Judged (c.check = .ok ()) c.HoursFit (Planner.ofSettings c) := by
  unfold ofSettings
  cases hcheck : c.check with
  | error cause => exact .refused cause (by simp)
  | ok _ =>
    have husable := WorkloadSettings.usable_of_check hcheck
    have hhours : 0 < weightSum (hourEntries c.hourWeights) := by
      rw [weightSum_hourEntries]
      exact husable.hours
    rw [Choice.ofList?_eq husable.sessionCounts, Choice.ofList?_eq husable.minutes,
      Table.ofEntries_eq hhours, weightSum_hourEntries]
    by_cases hfits : c.hourWeights.sum < 0x100000000
    · rw [if_pos hfits]
      exact .taken _ rfl hfits
    · rw [if_neg hfits]
      exact .crashed .addOverflow rfl hfits

/-- The planner of settings that pass their check, with its errors as errors of the settings. -/
theorem Settings.planner_judged {c : Settings} (h : c.check = .ok ()) :
    Judged (c.check = .ok ()) c.workload.HoursFit
      ((Planner.ofSettings c.workload).mapError (Stop.map SettingsError.workload)) := by
  have hplanner := (Planner.ofSettings_judged c.workload).mapError SettingsError.workload
  exact hplanner.of_valid (Settings.workload_check h) h

/-- **A stream** is made of settings that pass their check, whose hour weights fit and whose shards
leave a permit. -/
theorem Streamer.ofSettings_judged (c : Settings) :
    Judged (c.check = .ok ()) (c.workload.HoursFit ∧ c.shards < maxPermits)
      (Streamer.ofSettings c) := by
  unfold ofSettings
  split
  · rename_i cause hcheck
    exact .refused cause (by simp [hcheck])
  · rename_i hcheck
    have husable := WorkloadSettings.usable_of_check (Settings.workload_check hcheck)
    refine (Settings.planner_judged hcheck).bind fun _ planner => ?_
    rw [Choice.ofList?_eq husable.active]
    exact (taskPermits_judged c.shards).map fun _ => _

/-- **A backfill** is made of settings that pass their check, whose hour weights fit and whose first
users find room. -/
theorem Backfill.ofSettings_judged (c : Settings) (entropy : Nat) :
    Judged (c.check = .ok ()) (c.workload.HoursFit ∧ c.backfill.allUsers / 4 ≤ maxItems)
      (Backfill.ofSettings c entropy).2 := by
  unfold ofSettings
  split
  · rename_i cause hcheck
    exact .refused cause (by simp [hcheck])
  · rename_i hcheck
    have husable := WorkloadSettings.usable_of_check (Settings.workload_check hcheck)
    unfold Population.generate Population.checkedGrow claimRoom
    rw [show (({ mix := .default } : Population).size + c.backfill.allUsers / 4) =
      c.backfill.allUsers / 4 from Nat.zero_add _]
    by_cases hroom : c.backfill.allUsers / 4 ≤ maxItems
    · rw [if_pos hroom, Choice.ofList?_eq husable.active]
      refine (Settings.planner_judged hcheck).bind fun _ planner => ?_
      exact .taken _ trivial hroom
    · rw [if_neg hroom]
      exact .crashed .noRoom hcheck fun h => hroom h.2

/-- A backfill that was just made of settings: a quarter of all users are there, and nothing has been
generated or delivered. -/
structure Backfill.Fresh (c : Settings) (b : Backfill) (st : BackfillState) : Prop where
  checked : c.check = .ok ()
  settings : b.settings = c.backfill
  newcomers : b.newUsersPerDay = c.backfill.allUsers / 40
  room : c.backfill.allUsers / 4 ≤ maxItems
  size : st.population.size = c.backfill.allUsers / 4
  state : st = { population := st.population, source := st.source }

theorem Backfill.Fresh.crash_eq {c : Settings} {b : Backfill} {st : BackfillState}
    (h : b.Fresh c st) : st.crash = none := by
  rw [h.state]

theorem Backfill.Fresh.buffer_eq {c : Settings} {b : Backfill} {st : BackfillState}
    (h : b.Fresh c st) : st.buffer = #[] := by
  rw [h.state]

theorem Backfill.fresh_of_ofSettings {c : Settings} {entropy : Nat} {b : Backfill}
    {st : BackfillState} (h : (ofSettings c entropy).2 = .ok (b, st)) : b.Fresh c st := by
  unfold ofSettings at h
  split at h
  · cases h
  rename_i hcheck
  unfold Population.generate Population.checkedGrow claimRoom at h
  by_cases hroom : ({ mix := .default } : Population).size + c.backfill.allUsers / 4 ≤ maxItems
  · rw [if_pos hroom] at h
    have husable := WorkloadSettings.usable_of_check (Settings.workload_check hcheck)
    rw [Choice.ofList?_eq husable.active] at h
    have hsize := Population.size_grow { mix := .default } (c.backfill.allUsers / 4)
      (.ofSeed (c.seed.getD entropy))
    rw [show ({ mix := .default } : Population).size = 0 from rfl, Nat.zero_add] at hroom hsize
    cases hplanner : (Planner.ofSettings c.workload).mapError (Stop.map SettingsError.workload) with
    | error stop =>
      simp only [hplanner] at h
      cases h
    | ok planner =>
      simp only [hplanner] at h
      cases h
      exact ⟨hcheck, rfl, rfl, hroom, hsize, rfl⟩
  · rw [if_neg hroom] at h
    cases h

/-! ## From the text of a file on -/

/-- The members of a text in TOML, where it can be read. -/
def SettingsFile.ofText? (text : String) : Option SettingsFile :=
  (Toml.read? text).bind fun entries => ofMembers? fun _ name => entries.lookup name

/-- A text can be read as settings. -/
def SettingsFile.Readable (text : String) : Prop := ∃ file, ofText? text = some file

/-- The seconds of the window that a text gives can be counted in 64 bits. -/
def SettingsFile.WindowFits (text : String) : Prop :=
  ∀ file, ofText? text = some file → file.windowMinutes * 60 < 0x10000000000000000

theorem Settings.ofToml_eq (text : String) :
    ofToml text = (SettingsFile.ofText? text).elim (.error (.error .malformed)) fun file =>
      file.settings.mapError .crash := by
  unfold ofToml SettingsFile.ofText?
  cases Toml.read? text with
  | none => rfl
  | some entries =>
    simp only [Option.bind_some]
    cases SettingsFile.ofMembers? fun _ name => entries.lookup name <;> rfl

/-- **The settings of a text** are those of a file that can be read and whose window fits. -/
theorem Settings.ofToml_judged (text : String) :
    Judged (SettingsFile.Readable text) (SettingsFile.WindowFits text) (ofToml text) := by
  rw [ofToml_eq]
  unfold SettingsFile.Readable SettingsFile.WindowFits
  cases SettingsFile.ofText? text with
  | none =>
    have hnone : ¬∃ file : SettingsFile, none = some file := by simp
    exact .refused SettingsError.malformed hnone
  | some file =>
    simp only [Option.some.injEq, forall_eq']
    exact file.settings_judged.of_valid trivial ⟨file, rfl⟩

/-- **Settings that are valid and fit are taken, and no others.** A text that can be read gives
settings unless its window is too long to count, and settings that pass their check make a planner,
a stream and a backfill unless the sum of the hour weights, the permits of the shards or the room for
the first users are beyond what there can be. Errors tell what is not valid; the rest crashes. -/
theorem constructions_judged (text : String) (w : WorkloadSettings) (c : Settings) (entropy : Nat) :
    Judged (SettingsFile.Readable text) (SettingsFile.WindowFits text) (Settings.ofToml text) ∧
    Judged (w.check = .ok ()) w.HoursFit (Planner.ofSettings w) ∧
    Judged (c.check = .ok ()) (c.workload.HoursFit ∧ c.shards < maxPermits)
      (Streamer.ofSettings c) ∧
    Judged (c.check = .ok ()) (c.workload.HoursFit ∧ c.backfill.allUsers / 4 ≤ maxItems)
      (Backfill.ofSettings c entropy).2 :=
  ⟨Settings.ofToml_judged text, Planner.ofSettings_judged w, Streamer.ofSettings_judged c,
    Backfill.ofSettings_judged c entropy⟩

/-- Settings whose hour weights are too large together. -/
def Settings.heavyHours : Settings :=
  { workload := { hourWeights := 4294967295 :: 1 :: List.replicate 22 0 } }

/-- Settings with more shards than there are permits. -/
def Settings.manyShards : Settings := { shards := 2305843009213693951 }

/-- **The check misses what crashes.** A window of too many minutes crashes while it is read. Hour
weights of too large a sum, and shards beyond all permits, are read and pass the check; then no
planner, no stream and no backfill can be made of the former, and no stream of the latter. -/
theorem check_misses_crashes :
    (∃ crash, Settings.ofToml "window_minutes = 307445734561825861" = .error (.crash crash)) ∧
    (Settings.ofToml "workload.visit_hour_weights = [4294967295, 1, 0, 0, 0, 0, 0, 0, 0, 0, 0, 0,
        0, 0, 0, 0, 0, 0, 0, 0, 0, 0, 0, 0]" = .ok .heavyHours ∧
      Settings.heavyHours.check = .ok () ∧
      (∃ crash, Planner.ofSettings Settings.heavyHours.workload = .error (.crash crash)) ∧
      (∃ crash, Streamer.ofSettings .heavyHours = .error (.crash crash)) ∧
      ∀ entropy, ∃ crash, (Backfill.ofSettings .heavyHours entropy).2 = .error (.crash crash)) ∧
    Settings.ofToml "shards = 2305843009213693951" = .ok .manyShards ∧
      Settings.manyShards.check = .ok () ∧
      ∃ crash, Streamer.ofSettings .manyShards = .error (.crash crash) := by
  have hheavy : Settings.heavyHours.check = .ok () := by decide +kernel
  have hmany : Settings.manyShards.check = .ok () := by decide +kernel
  have hhours : ¬Settings.heavyHours.workload.HoursFit := by decide
  have hshards : ¬Settings.manyShards.shards < maxPermits := by decide
  refine ⟨⟨.mulOverflow, by decide +kernel⟩, ⟨by decide +kernel, hheavy, ?_, ?_, ?_⟩,
    by decide +kernel, hmany, ?_⟩
  · exact (Planner.ofSettings_judged _).crash_iff.2 ⟨Settings.workload_check hheavy, hhours⟩
  · exact (Streamer.ofSettings_judged _).crash_iff.2 ⟨hheavy, fun h => hhours h.1⟩
  · exact fun entropy =>
      (Backfill.ofSettings_judged _ entropy).crash_iff.2 ⟨hheavy, fun h => hhours h.1⟩
  · exact (Streamer.ofSettings_judged _).crash_iff.2 ⟨hmany, fun h => hshards h.2⟩

end ShopTraffic

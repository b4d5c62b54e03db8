import Mathlib
import ShopTraffic.Event
import ShopTraffic.Json.Reader
import ShopTraffic.Proofs.DigitTexts

/-!
# What records tell of their events

An event has a type, a time and attributes that are written one after the other, a later value in
the place of an earlier one. Its record puts the attributes, in the order of their keys, behind
members of its own for the type and the time. So the record depends on the values that were written
last and on nothing else, and every attribute has one member. The keys of the two members of its own
are not kept from attributes: where one of them is written, the record has it twice.

* `Json.Reader.string?_quoted`, `Json.quoted_inj` — a quoted text is read back, so names that differ
  differ in a record;
* `Fields.Ordered` — members in strictly ascending order of their keys, which setting a value keeps;
  `Fields.Ordered.ext` — they are settled by their values;
* `Event.written` — an event after some attributes were written; `lastWritten?` — what was written
  last for a key;
* `Event.Told` — a record that tells its event without doubt; `Event.Recorded`, `written_recorded` —
  what every record tells, and which ones leave no doubt.
-/

set_option autoImplicit false

namespace ShopTraffic

/-! ## Quoted texts -/

namespace Json

namespace Reader

/-- The digits of a code point below the surrogates are read back. -/
theorem codePoint?_fixedDigits {n : Nat} (h : n < 0xD800) (rest : List Char) :
    codePoint? (Text.fixedDigits 16 4 n ++ rest) = some (n, rest) := by
  have hvalue : Text.digitsValue? 16 (Text.fixedDigits 16 4 n) = some n := by
    rw [Text.digitsValue?_fixedDigits (by decide) (by decide), Nat.mod_eq_of_lt (by omega)]
  obtain ⟨a, b, c, d, hdigits⟩ : ∃ a b c d, Text.fixedDigits 16 4 n = [a, b, c, d] :=
    ⟨_, _, _, _, rfl⟩
  rw [hdigits] at hvalue ⊢
  have hunit : unit? ([a, b, c, d] ++ rest) = some (n, rest) := by
    simp only [List.cons_append, List.nil_append, unit?, hvalue]
    rfl
  unfold codePoint?
  rw [hunit]
  have hlow : ¬(0xD800 ≤ n ∧ n < 0xDC00) := by omega
  have hhigh : ¬(0xDC00 ≤ n ∧ n < 0xE000) := by omega
  simp only [Option.bind_eq_bind, Option.bind_some, if_neg hlow, if_neg hhigh]

/-- **One character more** of a quoted text. -/
theorem string?_escaped (fuel : Nat) (c : Char) (rest : List Char) :
    string? (fuel + 1) (escaped c ++ rest) =
      (string? fuel rest).map fun (cs, rest) => (c :: cs, rest) := by
  unfold escaped
  split
  case h_8 hquote hslash _ _ _ _ _ =>
    split
    · rename_i hcontrol
      have hpoint := codePoint?_fixedDigits (n := c.toNat) (by omega) rest
      simp only [List.cons_append, List.nil_append, string?, hpoint, Option.map_some,
        Char.ofNat_toNat, Option.bind_eq_bind, Option.bind_some]
      cases string? fuel rest <;> rfl
    · rename_i hplain
      rw [List.singleton_append, string?, if_neg hplain]
      · cases string? fuel rest <;> rfl
      · exact hquote
      · exact fun _ _ h _ => hslash h
  all_goals
    simp only [List.cons_append, List.nil_append, string?, Option.bind_eq_bind, Option.bind_some]
    cases string? fuel rest <;> rfl

/-- **A quoted text is read back**, up to its closing quote. -/
theorem string?_quoted (cs rest : List Char) (fuel : Nat) (h : cs.length < fuel) :
    string? fuel (cs.flatMap escaped ++ '"' :: rest) = some (cs, rest) := by
  induction cs generalizing fuel with
  | nil =>
    obtain ⟨fuel, rfl⟩ := Nat.exists_eq_add_of_lt h
    rfl
  | cons c cs ih =>
    obtain ⟨fuel, rfl⟩ : ∃ k, fuel = k + 1 := ⟨fuel - 1, by omega⟩
    rw [List.length_cons] at h
    rw [List.flatMap_cons, List.append_assoc, string?_escaped, ih fuel (by omega)]
    rfl

end Reader

/-- Different texts are quoted differently. -/
theorem quoted_inj {s t : String} : quoted s = quoted t ↔ s = t := by
  refine ⟨fun h => ?_, congrArg quoted⟩
  unfold quoted at h
  rw [String.append_left_inj, String.append_right_inj, String.ofList_inj] at h
  have hs := Reader.string?_quoted s.toList [] (s.length + t.length + 1)
    (by rw [String.length_toList]; omega)
  have ht := Reader.string?_quoted t.toList [] (s.length + t.length + 1)
    (by rw [String.length_toList]; omega)
  rw [h, ht, Option.some.injEq, Prod.mk.injEq] at hs
  exact (String.toList_inj.1 hs.1).symm

theorem memberTexts_eq (members : List (String × Json)) :
    memberTexts members = members.map fun m => quoted m.1 ++ ":" ++ m.2.text := by
  induction members with
  | nil => rfl
  | cons m members ih => rw [memberTexts, ih, List.map_cons]

end Json

/-! ## Members in the order of their keys -/

namespace Fields

/-- Every key is there once, and the keys ascend. -/
def Ordered (fields : Fields) : Prop := fields.Pairwise fun a b => a.1 < b.1

theorem mem_of_mem_put {key : String} {value : Json} {m : String × Json} {fields : Fields}
    (h : m ∈ put key value fields) : m = (key, value) ∨ m ∈ fields := by
  induction fields with
  | nil => exact .inl (List.mem_singleton.1 h)
  | cons first rest ih =>
    obtain ⟨k, v⟩ := first
    unfold put at h
    split at h
    · exact List.mem_cons.1 h
    · split at h
      · exact (List.mem_cons.1 h).imp_right (List.mem_cons_of_mem _)
      · rcases List.mem_cons.1 h with rfl | h
        · exact .inr List.mem_cons_self
        · exact (ih h).imp_right (List.mem_cons_of_mem _)

namespace Ordered

variable {fields fields' : Fields}

/-- **Setting a value keeps the order.** -/
theorem put (h : fields.Ordered) (key : String) (value : Json) :
    (fields.put key value).Ordered := by
  induction fields with
  | nil => exact List.pairwise_singleton _ _
  | cons first rest ih =>
    obtain ⟨k, v⟩ := first
    obtain ⟨hfirst, hrest⟩ := List.pairwise_cons.1 h
    unfold Fields.put
    split
    · rename_i hbefore
      refine .cons (fun m hm => ?_) h
      rcases List.mem_cons.1 hm with rfl | hm
      · exact hbefore
      · exact hbefore.trans (hfirst m hm)
    · rename_i hnot
      split
      · rename_i hsame
        subst hsame
        exact .cons hfirst hrest
      · rename_i hother
        refine .cons (fun m hm => ?_) (ih hrest)
        rcases mem_of_mem_put hm with rfl | hm
        · exact lt_of_le_of_ne (not_lt.1 hnot) (Ne.symm hother)
        · exact hfirst m hm

theorem nodup_keys (h : fields.Ordered) : (fields.map Prod.fst).Nodup :=
  List.pairwise_map.2 (h.imp ne_of_lt)

/-- The members are the values that can be looked up. -/
theorem mem_iff (h : fields.Ordered) {key : String} {value : Json} :
    (key, value) ∈ fields ↔ fields.get? key = some value := by
  unfold get?
  induction fields with
  | nil => simp
  | cons first rest ih =>
    obtain ⟨k, v⟩ := first
    obtain ⟨hfirst, hrest⟩ := List.pairwise_cons.1 h
    rw [List.mem_cons, ih hrest, List.lookup_cons]
    by_cases hkey : key = k
    · subst hkey
      have hnone : List.lookup key rest ≠ some value := fun hsome =>
        lt_irrefl key (hfirst _ ((ih hrest).2 hsome))
      simp [hnone, eq_comm]
    · simp [beq_eq_false_iff_ne.2 hkey, hkey]

/-- **Ordered members are settled by their values.** -/
theorem ext (h : fields.Ordered) (h' : fields'.Ordered)
    (hsame : ∀ key, fields.get? key = fields'.get? key) : fields = fields' := by
  have hmem : ∀ m, m ∈ fields ↔ m ∈ fields' := fun m => by
    rw [← Prod.eta m, h.mem_iff, h'.mem_iff, hsame]
  have hperm : fields.Perm fields' :=
    (List.perm_ext_iff_of_nodup h.nodup_keys.of_map h'.nodup_keys.of_map).2 hmem
  exact hperm.eq_of_pairwise (fun _ _ _ _ hlt hgt => absurd hgt (not_lt.2 hlt.le)) h h'

end Ordered

end Fields

/-! ## Events as they are written -/

/-- The value that was written last for a key. -/
def lastWritten? (key : String) (writes : List (String × Json)) : Option Json :=
  writes.reverse.lookup key

theorem lastWritten?_concat (key : String) (writes : List (String × Json)) (w : String × Json) :
    lastWritten? key (writes ++ [w]) =
      if key = w.1 then some w.2 else lastWritten? key writes := by
  unfold lastWritten?
  rw [List.reverse_append, List.reverse_singleton, List.singleton_append, List.lookup_cons]
  split
  · rename_i h
    rw [if_pos (eq_of_beq h)]
  · rename_i h
    rw [if_neg (beq_eq_false_iff_ne.1 h)]

theorem exists_lastWritten?_iff {key : String} {writes : List (String × Json)} :
    (∃ v, lastWritten? key writes = some v) ↔ key ∈ writes.map Prod.fst := by
  induction writes using List.reverseRecOn with
  | nil => simp [lastWritten?]
  | append_singleton writes w ih =>
    rw [lastWritten?_concat, List.map_append, List.mem_append, ← ih]
    by_cases h : key = w.1 <;> simp [h]

namespace Event

/-- The keys of the members that every record has. -/
def ownKeys : List String := ["event_type", "timestamp"]

/-- An event whose attributes are written one after the other. -/
def written (type : String) (time : Instant) (writes : List (String × Json)) : Event :=
  writes.foldl (fun e w => e.set w.1 w.2) { type, time }

variable (type : String) (time : Instant) (writes : List (String × Json))

theorem written_concat (w : String × Json) :
    written type time (writes ++ [w]) = (written type time writes).set w.1 w.2 := by
  rw [written, List.foldl_append]
  rfl

/-- Attributes are all that is written. -/
theorem members_written : (written type time writes).members =
    ("event_type", .str type) :: ("timestamp", .nat time.millis) ::
      (written type time writes).attributes := by
  induction writes using List.reverseRecOn with
  | nil => rfl
  | append_singleton writes w ih =>
    unfold members at ih ⊢
    rw [written_concat]
    simp only [List.cons.injEq, and_true] at ih ⊢
    exact ih

theorem ordered_written : (written type time writes).attributes.Ordered := by
  induction writes using List.reverseRecOn with
  | nil => exact .nil
  | append_singleton writes w ih =>
    rw [written_concat]
    exact ih.put w.1 w.2

theorem attribute?_written (key : String) :
    (written type time writes).attribute? key = lastWritten? key writes := by
  induction writes using List.reverseRecOn with
  | nil => rfl
  | append_singleton writes w ih =>
    rw [written_concat, lastWritten?_concat]
    split
    · rename_i h
      rw [h, attribute?_set_self]
    · rename_i h
      rw [attribute?_set_of_ne _ _ h, ih]

/-- **An attribute is a member with the value written last**, and there are no others. -/
theorem mem_attributes_written {key : String} {value : Json} :
    (key, value) ∈ (written type time writes).attributes ↔
      lastWritten? key writes = some value := by
  rw [(ordered_written type time writes).mem_iff, ← attribute?_written type time writes]
  rfl

/-- The keys of an event's attributes are those that were written. -/
theorem mem_keys_written {key : String} :
    key ∈ (written type time writes).attributes.map Prod.fst ↔ key ∈ writes.map Prod.fst := by
  refine Iff.trans ?_ exists_lastWritten?_iff
  rw [List.mem_map]
  constructor
  · rintro ⟨⟨key, value⟩, hmem, rfl⟩
    exact ⟨value, (mem_attributes_written type time writes).1 hmem⟩
  · rintro ⟨value, hlast⟩
    exact ⟨(key, value), (mem_attributes_written type time writes).2 hlast, rfl⟩

/-- **Where the same values were written last, the records are the same.** -/
theorem written_eq_of_lastWritten? {writes writes' : List (String × Json)}
    (h : ∀ key, lastWritten? key writes = lastWritten? key writes') :
    (written type time writes).members = (written type time writes').members := by
  have hsame : (written type time writes).attributes = (written type time writes').attributes := by
    refine (ordered_written type time writes).ext (ordered_written type time writes') fun key => ?_
    exact (attribute?_written type time writes key).trans
      ((h key).trans (attribute?_written type time writes' key).symm)
  rw [members_written, members_written, hsame]

/-! ## What records tell -/

theorem text_eq (e : Event) : e.text =
    "\x7b" ++ ",".intercalate (e.members.map fun m => Json.quoted m.1 ++ ":" ++ m.2.text) ++
      "\x7d" := by
  rw [text, record, Json.text, Json.memberTexts_eq]

/-- The names of the members of an event's record, as they stand in its text. -/
def names (e : Event) : List String := e.members.map fun m => Json.quoted m.1

theorem names_eq (e : Event) : e.names = (e.members.map Prod.fst).map Json.quoted := by
  rw [List.map_map]
  rfl

/-- How often a key stands in a record: once for the event itself and once for its attributes. -/
theorem count_keys_written (key : String) :
    ((written type time writes).members.map Prod.fst).count key =
      (if key ∈ ownKeys then 1 else 0) + if key ∈ writes.map Prod.fst then 1 else 0 := by
  have hkeys : (written type time writes).members.map Prod.fst =
      ownKeys ++ (written type time writes).attributes.map Prod.fst := by
    rw [members_written]
    rfl
  have hown : ownKeys.Nodup := by decide
  rw [hkeys, List.count_append, hown.count, (ordered_written type time writes).nodup_keys.count]
  simp only [mem_keys_written]

/-- A record that tells its event without doubt: every name is there once, the type and the time are
the event's own, and all other members are what was written last for their keys. -/
structure Told (e : Event) : Prop where
  once : e.names.Nodup
  type : ∀ value, ("event_type", value) ∈ e.members ↔ value = .str type
  time : ∀ value, ("timestamp", value) ∈ e.members ↔ value = .nat time.millis
  others : ∀ key value, key ∉ ownKeys →
    ((key, value) ∈ e.members ↔ lastWritten? key writes = some value)

/-- **A record leaves no doubt unless an attribute has a key of the record's own.** -/
theorem told_written_iff : Told type time writes (written type time writes) ↔
    ∀ key ∈ writes.map Prod.fst, key ∉ ownKeys := by
  constructor
  · intro htold key hwritten hown
    have honce := htold.once
    rw [names_eq] at honce
    have hcount := List.nodup_iff_count_le_one.1 (honce.of_map _) key
    rw [count_keys_written, if_pos hown, if_pos hwritten] at hcount
    omega
  · intro hfree
    have hother : ∀ key ∈ ownKeys, ∀ value,
        (key, value) ∉ (written type time writes).attributes := fun key hown value hmem =>
      hfree key ((mem_keys_written type time writes).1 (List.mem_map_of_mem hmem)) hown
    have hkeys : ((written type time writes).members.map Prod.fst).Nodup := by
      refine List.nodup_iff_count_le_one.2 fun key => ?_
      rw [count_keys_written]
      split
      · rename_i hown
        rw [if_neg fun hwritten => hfree key hwritten hown]
      · split <;> omega
    constructor
    case once =>
      rw [names_eq]
      exact hkeys.map fun _ _ => Json.quoted_inj.1
    case type =>
      intro value
      simp [members_written, hother "event_type" (by decide)]
    case time =>
      intro value
      simp [members_written, hother "timestamp" (by decide)]
    case others =>
      intro key value hown
      rw [members_written, List.mem_cons, List.mem_cons, mem_attributes_written]
      refine ⟨fun h => ?_, fun h => .inr (.inr h)⟩
      rcases h with h | h | h
      · cases h
        exact absurd (by decide) hown
      · cases h
        exact absurd (by decide) hown
      · exact h

/-- What the record of an event tells of how the event was written. -/
structure Recorded (e : Event) : Prop where
  /-- The text lists the members in order, each as its name and its value. -/
  text_eq : e.text =
    "\x7b" ++ ",".intercalate (e.members.map fun m => Json.quoted m.1 ++ ":" ++ m.2.text) ++ "\x7d"
  /-- The event's own members stand in front of its attributes. -/
  members_eq : e.members =
    ("event_type", .str type) :: ("timestamp", .nat time.millis) :: e.attributes
  ordered : e.attributes.Ordered
  last : ∀ key value, (key, value) ∈ e.attributes ↔ lastWritten? key writes = some value
  /-- A name is there once for the event itself and once for its attributes. -/
  count : ∀ key, e.names.count (Json.quoted key) =
    (if key ∈ ownKeys then 1 else 0) + if key ∈ writes.map Prod.fst then 1 else 0
  /-- In whichever order keys are written, the text is the same if the same is written last. -/
  same : ∀ writes', (∀ key, lastWritten? key writes' = lastWritten? key writes) →
    (written type time writes').text = e.text
  told_iff : Told type time writes e ↔ ∀ key ∈ writes.map Prod.fst, key ∉ ownKeys

/-- **What records tell.** The text of the record of an event lists its type and its time and then,
in ascending order of the keys, what was written last for each key; so it does not depend on the
order in which different keys were written. It tells the event without doubt exactly if no attribute
has one of the two keys that every record has; such an attribute stands behind the event's own
member under the same name. -/
theorem written_recorded : Recorded type time writes (written type time writes) where
  text_eq := Event.text_eq _
  members_eq := members_written type time writes
  ordered := ordered_written type time writes
  last := fun _ _ => mem_attributes_written type time writes
  count := fun key => by
    rw [← count_keys_written type time writes key, names_eq]
    exact List.count_map_of_injective _ _ (fun _ _ => Json.quoted_inj.1) key
  same := fun _ h => by
    unfold text record
    rw [written_eq_of_lastWritten? type time h]
  told_iff := told_written_iff type time writes

/-- **An attribute under the name of the time** makes a record that has this name twice. -/
theorem written_repeatsTime :
    ¬Told "page_view" (.cap 42) [("timestamp", .nat 7)]
      (written "page_view" (.cap 42) [("timestamp", .nat 7)]) ∧
    (written "page_view" (.cap 42) [("timestamp", .nat 7)]).text =
      "\x7b\"event_type\":\"page_view\",\"timestamp\":42,\"timestamp\":7\x7d" := by
  constructor
  · rw [told_written_iff]
    decide
  · rfl

end Event

end ShopTraffic

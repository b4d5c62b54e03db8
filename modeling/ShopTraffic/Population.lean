import ShopTraffic.Chance.Distinct
import ShopTraffic.Chance.Table
import ShopTraffic.User

/-!
# The population

Users are invented with plausible devices and join a population that only grows. Each keeps the seat
it was given on joining.

* `Mix` — how often each platform occurs; `Mix.newUser` invents one user;
* `Population.grow` — adds new users; `Population.checkedGrow` crashes where they find no room;
* `Population.generate` — a population of new users; `Population.sample` — seats of different users;
* `Population.put` — writes a user back to its seat; the seating holds by construction.
-/

namespace ShopTraffic

open Chance

/-- A kind of device: its maker, model, versions of the system and screen. -/
structure DeviceModel where
  brand : String
  model : String
  versions : Choice String
  width : Nat
  height : Nat
  deriving Repr

/-- Devices or browsers of a platform. -/
def Platform.models : Platform → Choice DeviceModel
  | .android =>
    ⟨[⟨"Samsung", "Galaxy S23", ⟨["13", "14"], by decide⟩, 1080, 2340⟩,
      ⟨"Samsung", "Galaxy A54", ⟨["13", "14"], by decide⟩, 1080, 2340⟩,
      ⟨"Google", "Pixel 8", ⟨["14"], by decide⟩, 1080, 2400⟩,
      ⟨"Xiaomi", "Redmi Note 12", ⟨["12", "13"], by decide⟩, 1080, 2400⟩,
      ⟨"OnePlus", "11", ⟨["13", "14"], by decide⟩, 1440, 3216⟩], Nat.succ_pos _⟩
  | .ios =>
    ⟨[⟨"Apple", "iPhone 15", ⟨["17.1", "17.2"], by decide⟩, 1179, 2556⟩,
      ⟨"Apple", "iPhone 14", ⟨["16.6", "17.1"], by decide⟩, 1170, 2532⟩,
      ⟨"Apple", "iPhone SE", ⟨["16.6"], by decide⟩, 750, 1334⟩,
      ⟨"Apple", "iPad Air", ⟨["17.1"], by decide⟩, 1640, 2360⟩], Nat.succ_pos _⟩
  | .web =>
    ⟨[⟨"Google", "Chrome", ⟨["120.0"], by decide⟩, 1920, 1080⟩,
      ⟨"Mozilla", "Firefox", ⟨["121.0"], by decide⟩, 1536, 864⟩,
      ⟨"Apple", "Safari", ⟨["17.2"], by decide⟩, 1440, 900⟩,
      ⟨"Microsoft", "Edge", ⟨["120.0"], by decide⟩, 1366, 768⟩], Nat.succ_pos _⟩

/-- The languages of devices. -/
def locales : Choice String :=
  ⟨["en_US", "en_GB", "de_DE", "fr_FR", "ja_JP", "zh_CN", "es_ES"], by decide⟩

/-- Draws the first number of an address, none of those kept for private use. After `tries`
repetitions it is one. -/
def firstOctet : (tries : Nat) → Source → Nat × Source
  | 0, s => (1, s)
  | tries + 1, s =>
    let (a, s) := s.betweenExact 1 223
    if a ≠ 10 ∧ a ≠ 127 then (a, s) else firstOctet tries s

/-- Draws a public address in four numbers. -/
def drawAddress (s : Source) : String × Source :=
  let (a, s) := firstOctet s.patience s
  let (b, s) := s.byte
  let (c, s) := s.byte
  let (d, s) := s.betweenExact 1 254
  (s!"{a}.{b}.{c}.{d}", s)

/-- How often each platform occurs among new users. -/
structure Mix where
  platforms : Table Platform
  deriving Repr

namespace Mix

/-- Android in 55 of 100 cases, iOS in 30, the web in 15. -/
def default : Mix := ⟨⟨[(.android, 55), (.ios, 30), (.web, 15)], by decide⟩⟩

/-- A mix of given weights; Android alone if all are zero. -/
def ofWeights (android ios web : Nat) : Except Crash Mix := do
  match ← Table.ofEntries [(Platform.android, android), (.ios, ios), (.web, web)] with
  | some platforms => return ⟨platforms⟩
  | none => return ⟨⟨[(.android, 1)], by decide⟩⟩

/-- Invents one user. -/
def newUser (m : Mix) (s : Source) : User × Source :=
  let (platform, s) := m.platforms.draw s
  let (model, s) := platform.models.draw s
  let (osVersion, s) := model.versions.draw s
  let (locale, s) := locales.draw s
  let (address, s) := drawAddress s
  let (id, s) := UserId.draw s
  let device :=
    { brand := model.brand, model := model.model, osVersion, screenWidth := model.width,
      screenHeight := model.height, locale, address }
  ({ id, platform, device }, s)

end Mix

/-- All users of a run, each on the seat that is its place. -/
structure Population where
  users : Array User := #[]
  mix : Mix := .default
  seated : ∀ i (h : i < users.size), users[i].seat = i := by simp
  deriving Repr

namespace Population

/-- Gives a user the next free seat. -/
def join (p : Population) (u : User) : Population :=
  { p with
    users := p.users.push { u with seat := p.users.size }
    seated := fun i h => by
      rw [Array.getElem_push]
      split
      · exact p.seated i _
      · simp only [Array.size_push] at h
        show p.users.size = i
        omega }

/-- A population of users that are there already. -/
def ofUsers (users : List User) : Population := users.foldl join {}

/-- Adds `n` new users. -/
def grow (p : Population) : (n : Nat) → Source → Population × Source
  | 0, s => (p, s)
  | n + 1, s =>
    let (u, s) := p.mix.newUser s
    (p.join u).grow n s

def size (p : Population) : Nat := p.users.size

/-- Adds `n` new users, if there is room for them all. Room is claimed before anyone is invented. -/
def checkedGrow (p : Population) (n : Nat) (s : Source) : Except Crash (Population × Source) := do
  claimRoom (p.size + n)
  return p.grow n s

/-- A population of `n` new users. -/
def generate (mix : Mix) (n : Nat) (s : Source) : Except Crash (Population × Source) :=
  ({ mix } : Population).checkedGrow n s

/-- Seats of `k` different users; of all users where `k` is larger. -/
def sample (p : Population) (k : Nat) (s : Source) : List Nat × Source := distinct p.size k s

/-- The users on the given seats. -/
def select (p : Population) (seats : List Nat) : List User := seats.filterMap (p.users[·]?)

/-- Writes a user back to its seat. -/
def put (p : Population) (u : User) : Population :=
  { p with
    users := p.users.setIfInBounds u.seat u
    seated := fun i h => by
      rw [Array.size_setIfInBounds] at h
      rw [Array.getElem_setIfInBounds h]
      split
      · assumption
      · exact p.seated i h }

/-- Writes users back to their seats. -/
def putAll (p : Population) (users : List User) : Population := users.foldl put p

@[simp] theorem size_put (p : Population) (u : User) : (p.put u).size = p.size := by
  simp [put, size]

theorem size_grow (p : Population) (n : Nat) (s : Source) : (p.grow n s).1.size = p.size + n := by
  induction n generalizing p s with
  | zero => rfl
  | succ n ih =>
    simp only [grow]
    rw [ih]
    simp only [join, size, Array.size_push]; omega

end Population

end ShopTraffic

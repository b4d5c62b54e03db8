/-!
# Crashes and stops

A computation ends in a value, in an error its caller can act on, or in a crash that nobody is
expected to handle: a 64-bit count that leaves its range, a number of tasks or of listed items beyond
all bounds, or a collaborator that breaks off.

* `Crash` — the causes, with their texts in `Crash.message`;
* `claimRoom` — whether so many items can be listed;
* `Stop ε` — an error of type `ε` or a crash; `Outcome ε α` is a result that may stop.
-/

namespace ShopTraffic

/-- Why a computation broke off. -/
inductive Crash where
  | addOverflow
  | subOverflow
  | mulOverflow
  /-- A span of time of more seconds than can be counted. -/
  | spanOverflow
  /-- More tasks may run at once than permits for them can be kept. -/
  | tooManyPermits
  /-- More items are to be listed than one list can hold. -/
  | noRoom
  /-- A user was handed more events than its window holds. -/
  | oversent (user : String) (sent total : Nat)
  /-- A generator or a sink broke off with a text of its own. -/
  | collaborator (text : String)
  deriving DecidableEq, Repr

/-- The most permits that can be kept for tasks that run at once. -/
def maxPermits : Nat := 0x1FFFFFFFFFFFFFFF

/-- The most items that one list can hold: eight bytes for each must stay below half of what 64 bits
can address. -/
def maxItems : Nat := 0x0FFFFFFFFFFFFFFF

/-- The text that reports a crash. -/
def Crash.message : Crash → String
  | .addOverflow => "attempt to add with overflow"
  | .subOverflow => "attempt to subtract with overflow"
  | .mulOverflow => "attempt to multiply with overflow"
  | .spanOverflow => "overflow in Duration::new"
  | .tooManyPermits =>
    s!"a semaphore may not have more than MAX_PERMITS permits ({maxPermits})"
  | .noRoom => "capacity overflow"
  | .oversent user sent total => s!"user {user} sent {sent} of {total} window events"
  | .collaborator text => text

/-- The end of a computation without a value. -/
inductive Stop (ε : Type) where
  | error (cause : ε)
  | crash (crash : Crash)
  deriving DecidableEq, Repr

/-- A result that may stop with an error or a crash. -/
abbrev Outcome (ε α : Type) := Except (Stop ε) α

/-- The same stop with its error seen as another one; a crash stays a crash. -/
def Stop.map {ε δ : Type} (f : ε → δ) : Stop ε → Stop δ
  | .error e => .error (f e)
  | .crash c => .crash c

/-- A sum of two 64-bit counts, which crashes when it leaves the range. -/
def checkedAdd (a b : Nat) : Except Crash Nat :=
  if a + b < 0x10000000000000000 then .ok (a + b) else .error .addOverflow

/-- A difference of two counts, which crashes below zero. -/
def checkedSub (a b : Nat) : Except Crash Nat :=
  if b ≤ a then .ok (a - b) else .error .subOverflow

/-- A product of two 64-bit counts, which crashes when it leaves the range. -/
def checkedMul (a b : Nat) : Except Crash Nat :=
  if a * b < 0x10000000000000000 then .ok (a * b) else .error .mulOverflow

/-- Claims room for a list of `n` items. -/
def claimRoom (n : Nat) : Except Crash Unit :=
  if n ≤ maxItems then .ok () else .error .noRoom

end ShopTraffic

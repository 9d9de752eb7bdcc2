/-!
# Timer — the clock of automatic play

A timer has an **interval** and, while it runs, an **expected** time of its next firing.  Times are
milliseconds on a clock that never goes back.  Each firing is expected one interval after the last
expected one, not after the time it happened, so that delays do not add up; only a timer that fell
behind by more than an interval starts afresh.
-/

namespace Narrative

/-- **The clock of automatic play.** -/
structure Timer where
  /-- The time between firings. -/
  interval : Nat
  /-- When the next firing is expected; none when the timer is stopped. -/
  expected : Option Nat
  deriving DecidableEq, Inhabited

namespace Timer

/-- A stopped timer. -/
def stopped (interval : Nat) : Timer := ⟨interval, none⟩

/-- Change the interval, from the next firing on. -/
def setInterval (timer : Timer) (interval : Nat) : Timer := { timer with interval := interval }

/-- Start; the first firing is one interval away. -/
def start (timer : Timer) (now : Nat) : Timer :=
  { timer with expected := some (now + timer.interval) }

/-- Stop. -/
def stop (timer : Timer) : Timer := { timer with expected := none }

/-- Whether the timer runs. -/
def isActive (timer : Timer) : Bool := timer.expected.isSome

/-- Whether the timer runs and should fire. -/
def isDue (timer : Timer) (now : Nat) : Bool := timer.expected.any (· ≤ now)

/-- The time to the next firing, if the timer runs. -/
def remaining? (timer : Timer) (now : Nat) : Option Nat := timer.expected.map (· - now)

/-- **Note a firing** and say how long to wait for the next one: the interval less the delay. -/
def reschedule (timer : Timer) (now : Nat) : Nat × Timer :=
  match timer.expected with
  | none => (timer.interval, timer)
  | some expected =>
    let drift := now - expected
    if timer.interval < drift then
      (timer.interval, { timer with expected := some (now + timer.interval) })
    else
      (timer.interval - drift, { timer with expected := some (expected + timer.interval) })

/-- Put the next firing one interval from now, if the timer runs. -/
def postpone (timer : Timer) (now : Nat) : Timer :=
  if timer.isActive then { timer with expected := some (now + timer.interval) } else timer

end Timer

end Narrative

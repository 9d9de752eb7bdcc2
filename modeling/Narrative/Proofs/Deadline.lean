import Narrative.Proofs.Pace

/-!
# Proofs/Deadline — how long to wait for the next firing

A timer that fires notes the **deadline** of the firing after it, and says how long to wait.  The
wait is the time that remains to the deadline (`Timer.reschedule_eq`), so a host that sleeps for it
wakes at the deadline, and from then on at one deadline after the other, an interval apart
(`Timer.sleep_iterate`).  A tick of a game answers with that wait too, whether the timer fires or
not (`Game.remaining?_of_tick`).

A firing that is late by exactly one interval happens on the beat of the firing after it.  That one
is due at the same moment, and the wait is nothing; after every other firing the timer rests
(`wakes_at_deadline`).
-/

namespace Narrative

namespace Timer

/-! ## The deadline after a firing -/

section Following

variable {interval expected now : Nat}

/-- No firing is followed by one in the past. -/
theorem le_following : now ≤ following interval expected now := by
  unfold following
  split <;> omega

/-- **The next deadline is now** only after a firing that is late by exactly one interval. -/
theorem following_eq_self_iff (hpos : 0 < interval) :
    following interval expected now = now ↔ now = expected + interval := by
  unfold following
  split <;> omega

/-- A firing on its deadline is followed by one an interval later. -/
theorem following_self : following interval now now = now + interval := by
  rw [following, Nat.sub_self, if_neg (Nat.not_lt_zero interval)]

end Following

section Firing

variable {timer after : Timer} {expected now delay : Nat}

/-- **A firing**, at its deadline or later: the wait is what remains to the next deadline. -/
theorem reschedule_eq (h : timer.expected = some expected) (hle : expected ≤ now) :
    timer.reschedule now
      = (following timer.interval expected now - now,
        { timer with expected := some (following timer.interval expected now) }) := by
  unfold reschedule following
  rw [h]
  dsimp only
  split
  · rw [Nat.add_sub_cancel_left]
  · congr 1
    omega

/-- **A host that sleeps** as long as it is told: the timer and the time when it wakes again. -/
def sleep (woken : Timer × Nat) : Timer × Nat :=
  ((woken.1.reschedule woken.2).2, woken.2 + (woken.1.reschedule woken.2).1)

/-- The host wakes at the deadline. -/
theorem sleep_eq (h : timer.expected = some expected) (hle : expected ≤ now) :
    sleep (timer, now)
      = ({ timer with expected := some (following timer.interval expected now) },
        following timer.interval expected now) := by
  rw [sleep, reschedule_eq h hle, Nat.add_sub_cancel' le_following]

/-- **The host goes on waking at deadlines**, an interval apart.  However late the first firing is,
those after it are on time. -/
theorem sleep_iterate (h : timer.expected = some expected) (hle : expected ≤ now) (n : Nat) :
    sleep^[n + 1] (timer, now)
      = ({ timer with
            expected := some (following timer.interval expected now + n * timer.interval) },
        following timer.interval expected now + n * timer.interval) := by
  induction n with
  | zero => simpa using sleep_eq h hle
  | succ n ih =>
    rw [Function.iterate_succ_apply', ih, sleep_eq rfl (Nat.le_refl _), following_self,
      Nat.add_assoc, ← Nat.succ_mul]

end Firing

end Timer

namespace Game

variable {game after : Game} {now : Nat} {answer : Option Nat}

/-- A computation on the world keeps the timer. -/
theorem timer_ofPlay {α : Type} (play : Playbook → Registry → Play α) :
    (Result.left (Turn.ofPlay play game)).timer = game.timer := by
  unfold Turn.ofPlay
  split <;> rfl

/-- **A tick says how long to wait** for the timer that it leaves, whatever it comes to. -/
theorem remaining?_of_tick (h : tick now game = .ok answer after) :
    after.timer.remaining? now = answer := by
  cases hbeat : game.beat now with
  | idle =>
    rw [tick_of_idle hbeat] at h
    obtain ⟨rfl, rfl⟩ := EStateM.Result.ok.inj h
    rfl
  | refused =>
    obtain ⟨expected, hexpected, -, world, htick⟩ := tick_of_refused hbeat
    rw [htick] at h
    obtain ⟨rfl, rfl⟩ := EStateM.Result.ok.inj h
    show ((game.timer.postpone now).expected).map _ = _
    rw [Timer.expected_postpone hexpected, Option.map_some, Nat.add_sub_cancel_left]
  | fired firing =>
    obtain ⟨expected, allowed, world, hexpected, hle, hdue, hasked, hfired⟩ :=
      asked_of_beat (hbeat ▸ Beat.noConfusion : game.beat now ≠ .idle)
    cases allowed with
    | false => cases hfired.symm.trans hbeat
    | true =>
      let noted : Game :=
        { game with world := world, timer := (game.timer.reschedule now).2 }
      -- The timer is set before the move, and the move keeps it.
      have hkept : (Result.left (next.granted noted)).timer = noted.timer := by
        rw [left_granted]
        exact timer_ofPlay Run.next
      simp only [tick, hdue, hasked, Bool.not_true, Bool.false_eq_true, if_false] at h
      cases hmoved : next.granted noted with
      | error fault moved =>
        rw [hmoved] at h
        cases h
      | ok answer moved =>
        rw [hmoved] at h hkept
        obtain ⟨rfl, rfl⟩ := EStateM.Result.ok.inj h
        have htimer : moved.timer = (game.timer.reschedule now).2 := hkept
        rw [htimer, Timer.remaining?, Timer.reschedule_eq hexpected hle]
        rfl

end Game

/-- **A host that waits as long as it is told wakes at the next deadline.**  Let a timer with an
interval be due, and fire.  The wait is the time that remains, and the timer is due again exactly
when it is over; a host that goes on so wakes at deadlines an interval apart.  Unless the firing is
late by exactly one interval, the timer is not due at once, and there is something to wait for.  A
firing that is late by one interval happens at the next deadline: there is nothing to wait for, the
timer fires once more at once, and after that not before an interval has passed. -/
theorem wakes_at_deadline {timer after : Timer} {expected now delay : Nat}
    (hpos : 0 < timer.interval) (harmed : timer.expected = some expected)
    (hdue : timer.isDue now = true) (h : timer.reschedule now = (delay, after)) :
    after.remaining? now = some delay
      ∧ (∀ time, after.isDue time = true ↔ now + delay ≤ time)
      ∧ (∀ n, Timer.sleep^[n + 1] (timer, now)
          = ({ timer with expected := some (now + delay + n * timer.interval) },
            now + delay + n * timer.interval))
      ∧ (now ≠ expected + timer.interval → after.isDue now = false ∧ 0 < delay)
      ∧ (now = expected + timer.interval →
          after.isDue now = true ∧ delay = 0 ∧ (after.reschedule now).1 = timer.interval
            ∧ (after.reschedule now).2.isDue now = false) := by
  have hle : expected ≤ now := by
    rwa [Timer.isDue_eq harmed, decide_eq_true_eq] at hdue
  obtain ⟨rfl, rfl⟩ := Prod.mk.inj ((Timer.reschedule_eq harmed hle).symm.trans h)
  have hdeadline : now ≤ Timer.following timer.interval expected now := Timer.le_following
  have hatOnce : Timer.following timer.interval expected now = now
      ↔ now = expected + timer.interval := Timer.following_eq_self_iff hpos
  rw [Nat.add_sub_cancel' hdeadline]
  refine ⟨rfl, fun time => ?_, Timer.sleep_iterate harmed hle, fun hne => ?_, fun heq => ?_⟩
  · rw [Timer.isDue_eq rfl, decide_eq_true_eq]
  · have hlater : now < Timer.following timer.interval expected now :=
      Nat.lt_of_le_of_ne hdeadline fun heq => hne (hatOnce.1 heq.symm)
    rw [Timer.isDue_eq rfl, decide_eq_false_iff_not, Nat.not_le]
    exact ⟨hlater, Nat.sub_pos_of_lt hlater⟩
  · rw [hatOnce.2 heq, Timer.reschedule_eq rfl (Nat.le_refl now), Timer.following_self,
      Timer.isDue_eq rfl, Timer.isDue_eq rfl]
    exact ⟨decide_eq_true (Nat.le_refl now), Nat.sub_self now,
      Nat.add_sub_cancel_left now timer.interval,
      decide_eq_false (Nat.not_le.2 (Nat.lt_add_of_pos_right hpos))⟩

/-- A timer that is to fire every thousand, from the time zero on. -/
def metronome : Timer := (Timer.stopped 1000).start 0

/-- A firing that is a little late, and one that is late by an interval. -/
theorem wakes_at_deadline_metronome :
    (metronome.isDue 1200 = true ∧ metronome.reschedule 1200 = (800, ⟨1000, some 2000⟩)
        ∧ Timer.isDue ⟨1000, some 2000⟩ 1200 = false
        ∧ ∀ n, Timer.sleep^[n + 1] (metronome, 1200)
          = (⟨1000, some (1200 + 800 + n * 1000)⟩, 1200 + 800 + n * 1000))
      ∧ metronome.isDue 2000 = true ∧ metronome.reschedule 2000 = (0, ⟨1000, some 2000⟩)
        ∧ Timer.isDue ⟨1000, some 2000⟩ 2000 = true
        ∧ ∀ n, Timer.sleep^[n + 1] (metronome, 2000)
          = (⟨1000, some (2000 + 0 + n * 1000)⟩, 2000 + 0 + n * 1000) := by
  have hpos : 0 < metronome.interval := by decide
  have harmed : metronome.expected = some 1000 := rfl
  have hsoon := wakes_at_deadline hpos harmed (by decide : metronome.isDue 1200 = true) rfl
  have hlate := wakes_at_deadline hpos harmed (by decide : metronome.isDue 2000 = true) rfl
  exact ⟨⟨by decide, rfl, (hsoon.2.2.2.1 (by decide)).1, hsoon.2.2.1⟩, by decide, rfl,
    (hlate.2.2.2.2 rfl).1, hlate.2.2.1⟩

/-- **A timer may fire twice at once**: late by an interval, it is due again, with nothing to wait
for. -/
theorem due_again_at_once :
    0 < metronome.interval ∧ metronome.isDue 2000 = true
      ∧ ¬((metronome.reschedule 2000).2.isDue 2000 = false
        ∧ 0 < (metronome.reschedule 2000).1) := by
  decide

end Narrative

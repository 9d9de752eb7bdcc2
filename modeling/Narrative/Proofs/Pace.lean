import Narrative.Proofs.Held
import Mathlib.Data.List.NodupEquivFin
import Mathlib.Order.WellFounded

/-!
# Proofs/Pace — the pace of automatic play

A tick of automatic play does one of three things (`Game.beat`): nothing is due, the guards refuse,
or the timer **fires** and the game goes one step on.  From the moment that the timer is switched on,
the firings are counted, and the one numbered `n` has a time of its own on the beat, `n` intervals
after that moment.

No firing is expected before its time on the beat, whatever was refused or late.  As long as nothing
is refused and no firing is late by more than an interval, each is expected exactly then
(`auto_play_pace`): a firing is expected one interval after the one before it was expected, not
after it happened.
-/

namespace Narrative

/-! ## The timer -/

namespace Timer

variable {timer : Timer} {now expected : Nat}

@[simp] theorem interval_stop : timer.stop.interval = timer.interval := rfl

@[simp] theorem interval_postpone : (timer.postpone now).interval = timer.interval := by
  unfold postpone
  split <;> rfl

@[simp] theorem interval_reschedule : (timer.reschedule now).2.interval = timer.interval := by
  unfold reschedule
  split
  · rfl
  · dsimp only
    split <;> rfl

/-- A postponed firing is one interval away. -/
theorem expected_postpone (h : timer.expected = some expected) :
    (timer.postpone now).expected = some (now + timer.interval) := by
  simp [postpone, isActive, h]

/-- **The firing after one that happened at a time**: one interval after the time it was expected
at, or, if it was late by more than that, after the time it happened. -/
def following (interval expected now : Nat) : Nat :=
  if interval < now - expected then now + interval else expected + interval

theorem expected_reschedule (h : timer.expected = some expected) :
    (timer.reschedule now).2.expected = some (following timer.interval expected now) := by
  unfold reschedule following
  rw [h]
  dsimp only
  split <;> rfl

theorem isDue_eq (h : timer.expected = some expected) :
    timer.isDue now = decide (expected ≤ now) := by
  rw [isDue, h, Option.any_some]

end Timer

/-! ## Beats -/

/-- **A firing of the timer.** -/
structure Firing where
  /-- When it was expected. -/
  expected : Nat
  /-- When it happened. -/
  time : Nat
  /-- Whether the game moved. -/
  moved : Bool
  deriving DecidableEq

/-- **What a tick comes to.** -/
inductive Beat where
  /-- Nothing is due. -/
  | idle
  /-- The guards refuse. -/
  | refused
  /-- The timer fires. -/
  | fired (firing : Firing)
  deriving DecidableEq

namespace Beat

/-- The firing, if there is one. -/
def firing? : Beat → Option Firing
  | fired firing => some firing
  | _ => none

/-- The firings of a run, in order. -/
def firings (log : List Beat) : List Firing := log.filterMap firing?

/-- **On time**: not refused, and late by no more than an interval. -/
def OnTime (interval : Nat) : Beat → Prop
  | idle => True
  | refused => False
  | fired firing => firing.time ≤ firing.expected + interval

theorem firings_concat (log : List Beat) (beat : Beat) :
    firings (log ++ [beat]) = firings log ++ beat.firing?.toList := by
  rw [firings, List.filterMap_append, firings]
  cases h : beat.firing? <;> simp [h]

end Beat

namespace Game

variable {game : Game} {now : Nat}

/-- **What a tick at a time comes to.** -/
def beat (now : Nat) (game : Game) : Beat :=
  match game.timer.expected with
  | none => .idle
  | some expected =>
    if now < expected then .idle
    else match canProceed game with
      | .ok true asked => .fired ⟨expected, now, (Result.answer? (next asked)).isSome⟩
      | _ => .refused

/-- A tick before its time does nothing. -/
theorem tick_of_idle (h : game.beat now = .idle) :
    tick now game = .ok (game.timer.remaining? now) game := by
  have hdue : game.timer.isDue now = false := by
    unfold beat at h
    cases hexpected : game.timer.expected with
    | none => rw [Timer.isDue, hexpected, Option.any_none]
    | some expected =>
      rw [Timer.isDue_eq hexpected, decide_eq_false_iff_not, Nat.not_le]
      rw [hexpected] at h
      by_contra hlate
      obtain ⟨allowed, world, hasked⟩ : ∃ allowed world,
          canProceed game = .ok allowed { game with world := world } := ask_eq_ok _ game
      cases allowed <;> simp [hlate, hasked] at h
  rw [tick, hdue]
  rfl

/-- **A tick that is not idle** comes at its time or later, and asks the guards. -/
theorem asked_of_beat (h : game.beat now ≠ .idle) :
    ∃ expected allowed world, game.timer.expected = some expected ∧ expected ≤ now
      ∧ game.timer.isDue now = true
      ∧ canProceed game = .ok allowed { game with world := world }
      ∧ game.beat now = if allowed then
          .fired ⟨expected, now, (Result.answer? (next { game with world := world })).isSome⟩
        else .refused := by
  obtain ⟨allowed, world, hasked⟩ : ∃ allowed world,
      canProceed game = .ok allowed { game with world := world } := ask_eq_ok _ game
  cases hexpected : game.timer.expected with
  | none =>
    refine absurd ?_ h
    rw [beat, hexpected]
  | some expected =>
    have hlate : ¬ now < expected := by
      intro hearly
      refine h ?_
      rw [beat, hexpected]
      exact if_pos hearly
    refine ⟨expected, allowed, world, rfl, Nat.not_lt.1 hlate, ?_, hasked, ?_⟩
    · rw [Timer.isDue_eq hexpected, decide_eq_true (Nat.not_lt.1 hlate)]
    · simp only [beat, hexpected, hlate, hasked, if_false]
      cases allowed <;> rfl

/-- **A tick that is refused** puts the firing off. -/
theorem tick_of_refused (h : game.beat now = .refused) :
    ∃ expected, game.timer.expected = some expected ∧ expected ≤ now
      ∧ ∃ world, tick now game = .ok (some game.timer.interval)
        { game with world := world, timer := game.timer.postpone now } := by
  obtain ⟨expected, allowed, world, hexpected, hle, hdue, hasked, hbeat⟩ :=
    asked_of_beat (h ▸ Beat.noConfusion : game.beat now ≠ .idle)
  refine ⟨expected, hexpected, hle, world, ?_⟩
  cases allowed with
  | true => cases hbeat.symm.trans h
  | false =>
    unfold tick
    rw [hdue, hasked]
    rfl

/-- **A tick that fires** notes the firing and goes one step on; a fault stops the timer. -/
theorem tick_of_fired {firing : Firing} (h : game.beat now = .fired firing) :
    game.timer.expected = some firing.expected ∧ firing.expected ≤ firing.time ∧ firing.time = now
      ∧ ∃ world, firing.moved = (Result.answer? (next { game with world := world })).isSome
        ∧ ∃ timer, (timer = (game.timer.reschedule now).2
            ∨ timer = (game.timer.reschedule now).2.stop)
          ∧ Result.left (tick now game)
            = { Result.left (next { game with world := world }) with timer := timer } := by
  obtain ⟨expected, allowed, world, hexpected, hle, hdue, hasked, hbeat⟩ :=
    asked_of_beat (h ▸ Beat.noConfusion : game.beat now ≠ .idle)
  cases allowed with
  | false => cases hbeat.symm.trans h
  | true =>
    obtain rfl := Beat.fired.inj (hbeat.symm.trans h)
    refine ⟨hexpected, hle, rfl, world, rfl, ?_⟩
    obtain ⟨timer, htimer, hleft⟩ := left_tick_allowed hdue hasked
    rw [left_granted] at hleft
    exact ⟨timer, htimer, hleft⟩

end Game

/-! ## Runs -/

/-- **The runs of automatic play**, each with its beats and the game it comes to.  Automatic play is
switched on at a time, with an interval; from then on the host ticks it at times of its choice, and
between the ticks does anything that leaves the timer alone or stops it. -/
inductive Paced (interval start : Nat) : List Beat → Game → Prop
  | armed {game : Game} (interval_eq : game.book.preferences.autoPlayInterval = interval) :
      Paced interval start [] (game.autoPlay true start)
  | tick {log : List Beat} {game : Game} (paced : Paced interval start log game) (now : Nat) :
      Paced interval start (log ++ [game.beat now]) (Result.left (Game.tick now game))
  | host {log : List Beat} {game after : Game} (paced : Paced interval start log game)
      (kept : after.timer = game.timer ∨ after.timer = game.timer.stop) :
      Paced interval start log after

/-- **The time on the beat** of a firing, counted from zero. -/
def beatTime (interval start n : Nat) : Nat := start + (n + 1) * interval

theorem beatTime_succ (interval start n : Nat) :
    beatTime interval start (n + 1) = beatTime interval start n + interval := by
  rw [beatTime, beatTime, Nat.succ_mul (n + 1), Nat.add_assoc]

namespace Paced

variable {interval start : Nat} {log : List Beat} {game after : Game}

/-- **A relation that refusals and firings pass on**, of those beats that are admitted. -/
structure Passes (rel : Nat → Nat → Prop) (admitted : Beat → Prop) (interval : Nat) : Prop where
  /-- It holds of a time and itself. -/
  refl (time : Nat) : rel time time
  /-- A refused firing is put off. -/
  refused (hrefused : admitted .refused) {time expected now : Nat} (h : rel time expected)
    (hle : expected ≤ now) : rel time (now + interval)
  /-- A firing is followed by another, one interval on. -/
  fired {firing : Firing} (hfired : admitted (.fired firing)) {time : Nat}
    (h : rel time firing.expected) :
    rel (time + interval) (Timer.following interval firing.expected firing.time)

/-- **A timer keeps a relation** to the beat when the firing that it expects is so related to its
time on the beat, and each firing of the log was. -/
structure Keeps (rel : Nat → Nat → Prop) (interval start : Nat) (log : List Beat) (timer : Timer) :
    Prop where
  /-- The interval stays. -/
  interval_eq : timer.interval = interval
  /-- The firing to come. -/
  next {expected : Nat} (h : timer.expected = some expected) :
    rel (beatTime interval start (Beat.firings log).length) expected
  /-- The firings so far. -/
  past {n : Nat} {firing : Firing} (h : (Beat.firings log)[n]? = some firing) :
    rel (beatTime interval start n) firing.expected

namespace Keeps

variable {rel : Nat → Nat → Prop} {admitted : Beat → Prop} {timer : Timer} {expected now : Nat}

theorem stop (h : Keeps rel interval start log timer) : Keeps rel interval start log timer.stop :=
  ⟨h.interval_eq, fun hstopped => (by cases hstopped), h.past⟩

theorem idle (h : Keeps rel interval start log timer) :
    Keeps rel interval start (log ++ [.idle]) timer := by
  have hfirings : Beat.firings (log ++ [.idle]) = Beat.firings log := by
    rw [Beat.firings_concat]
    exact List.append_nil _
  exact ⟨h.interval_eq, hfirings ▸ h.next, hfirings ▸ h.past⟩

/-- **A refusal is no firing**, and puts the next one off. -/
theorem refuse (h : Keeps rel interval start log timer) (hpasses : Passes rel admitted interval)
    (hadmitted : admitted .refused) (hexpected : timer.expected = some expected)
    (hle : expected ≤ now) :
    Keeps rel interval start (log ++ [.refused]) (timer.postpone now) := by
  have hfirings : Beat.firings (log ++ [.refused]) = Beat.firings log := by
    rw [Beat.firings_concat]
    exact List.append_nil _
  refine ⟨Timer.interval_postpone.trans h.interval_eq, fun hput => ?_, hfirings ▸ h.past⟩
  obtain rfl := Option.some.inj ((Timer.expected_postpone hexpected).symm.trans hput)
  rw [hfirings, h.interval_eq]
  exact hpasses.refused hadmitted (h.next hexpected) hle

/-- **A firing is one of the log**, and the next is counted one on. -/
theorem fire {firing : Firing} (h : Keeps rel interval start log timer)
    (hpasses : Passes rel admitted interval) (hadmitted : admitted (.fired firing))
    (hexpected : timer.expected = some firing.expected) :
    Keeps rel interval start (log ++ [.fired firing]) (timer.reschedule firing.time).2 := by
  have hfirings : Beat.firings (log ++ [.fired firing]) = Beat.firings log ++ [firing] :=
    Beat.firings_concat _ _
  refine ⟨Timer.interval_reschedule.trans h.interval_eq, fun hput => ?_, fun {n found} hfound => ?_⟩
  · obtain rfl := Option.some.inj ((Timer.expected_reschedule hexpected).symm.trans hput)
    rw [hfirings, List.length_append, List.length_singleton, beatTime_succ, h.interval_eq]
    exact hpasses.fired hadmitted (h.next hexpected)
  · rw [hfirings] at hfound
    rcases Nat.lt_trichotomy n (Beat.firings log).length with hn | rfl | hn
    · rw [List.getElem?_append_left hn] at hfound
      exact h.past hfound
    · rw [List.getElem?_concat_length] at hfound
      exact Option.some.inj hfound ▸ h.next hexpected
    · rw [List.getElem?_eq_none (List.length_append ▸ hn)] at hfound
      cases hfound

/-- **A tick keeps the relation**, whatever it comes to. -/
theorem tick (h : Keeps rel interval start log game.timer) (hpasses : Passes rel admitted interval)
    (hadmitted : admitted (game.beat now)) :
    Keeps rel interval start (log ++ [game.beat now]) (Result.left (Game.tick now game)).timer := by
  cases hbeat : game.beat now with
  | idle =>
    rw [Game.tick_of_idle hbeat]
    exact h.idle
  | refused =>
    obtain ⟨expected, hexpected, hle, world, htick⟩ := Game.tick_of_refused hbeat
    rw [htick]
    exact h.refuse hpasses (hbeat ▸ hadmitted) hexpected hle
  | fired firing =>
    obtain ⟨hexpected, -, rfl, world, -, timer, htimer, hleft⟩ := Game.tick_of_fired hbeat
    have hfire := h.fire hpasses (hbeat ▸ hadmitted) hexpected
    rw [hleft]
    rcases htimer with rfl | rfl
    · exact hfire
    · exact hfire.stop

end Keeps

/-- **What relation a run keeps to the beat**: one that its beats pass on, from the moment that the
timer is switched on. -/
theorem keeps {rel : Nat → Nat → Prop} {admitted : Beat → Prop}
    (hpasses : Passes rel admitted interval) (paced : Paced interval start log game)
    (hlog : ∀ beat ∈ log, admitted beat) : Keeps rel interval start log game.timer := by
  induction paced with
  | armed interval_eq =>
    subst interval_eq
    refine ⟨rfl, fun hexpected => ?_, fun hfiring => by cases hfiring⟩
    obtain rfl := Option.some.inj hexpected
    rw [beatTime, Beat.firings, List.filterMap_nil, List.length_nil, Nat.zero_add, Nat.one_mul]
    exact hpasses.refl _
  | tick paced now ih =>
    obtain ⟨hlog, hbeat⟩ := List.forall_mem_append.1 hlog
    exact (ih hlog).tick hpasses (List.forall_mem_singleton.1 hbeat)
  | host paced kept ih =>
    rcases kept with kept | kept
    · exact kept ▸ ih hlog
    · exact kept ▸ (ih hlog).stop

/-- Being no earlier is passed on by every beat. -/
theorem passes_le : Passes (· ≤ ·) (fun _ => True) interval where
  refl := Nat.le_refl
  refused _ _ _ _ htime hle := htime.trans (hle.trans (Nat.le_add_right _ _))
  fired _ _ htime := by
    unfold Timer.following
    split <;> omega

/-- Being on the beat is passed on by those on time. -/
theorem passes_eq : Passes (· = ·) (Beat.OnTime interval) interval where
  refl _ := rfl
  refused hrefused := hrefused.elim
  fired hlate _ htime := by
    rw [htime, Timer.following, if_neg (Nat.not_lt.2 (Nat.sub_le_iff_le_add'.2 hlate))]

/-- No firing happens before it is expected. -/
theorem expected_le (paced : Paced interval start log game) :
    ∀ firing ∈ Beat.firings log, firing.expected ≤ firing.time := by
  induction paced with
  | armed => exact fun _ hmem => by cases hmem
  | host paced kept ih => exact ih
  | @tick log game paced now ih =>
    intro firing hmem
    rw [Beat.firings_concat, List.mem_append] at hmem
    rcases hmem with hmem | hmem
    · exact ih firing hmem
    · cases hcase : game.beat now with
      | fired found =>
        rw [hcase] at hmem
        obtain rfl := List.mem_singleton.1 hmem
        exact (Game.tick_of_fired hcase).2.1
      | _ => rw [hcase] at hmem; cases hmem

/-- **Never ahead**: a firing happens at its time on the beat or later. -/
theorem beatTime_le (paced : Paced interval start log game) {n : Nat} {firing : Firing}
    (h : (Beat.firings log)[n]? = some firing) : beatTime interval start n ≤ firing.time := by
  have hkeeps := paced.keeps passes_le fun _ _ => trivial
  exact (hkeeps.past h).trans (paced.expected_le firing (List.mem_of_getElem? h))

/-- So does the firing of that number among some of them, as it has no smaller number among all. -/
theorem beatTime_le_filter (paced : Paced interval start log game) {counts : Firing → Bool} {n : Nat}
    {firing : Firing} (h : ((Beat.firings log).filter counts)[n]? = some firing) :
    beatTime interval start n ≤ firing.time := by
  obtain ⟨place, hplace⟩ := List.sublist_iff_exists_orderEmbedding_getElem?_eq.1
    (List.filter_sublist (l := Beat.firings log) (p := counts))
  have hle : n ≤ place n := place.strictMono.le_apply
  have htime := paced.beatTime_le ((hplace n).symm.trans h)
  exact (Nat.add_le_add_left (Nat.mul_le_mul_right _ (Nat.succ_le_succ hle)) _).trans htime

/-- **No more firings than intervals** by any time, whichever of them one counts. -/
theorem length_filter_le (paced : Paced interval start log game) (hpos : 0 < interval)
    (counts : Firing → Bool) (time : Nat) :
    ((Beat.firings log).filter fun firing => counts firing && firing.time ≤ time).length
      ≤ (time - start) / interval := by
  cases hlength : ((Beat.firings log).filter fun firing =>
      counts firing && firing.time ≤ time).length with
  | zero => exact Nat.zero_le _
  | succ n =>
    have hlast := List.getElem?_eq_getElem (n.lt_succ_self.trans_eq hlength.symm)
    have hbeat := paced.beatTime_le_filter hlast
    have hcounted := (List.mem_filter.1 (List.mem_of_getElem? hlast)).2
    simp only [Bool.and_eq_true, decide_eq_true_eq] at hcounted
    rw [Nat.le_div_iff_mul_le hpos]
    exact Nat.le_sub_of_add_le' (hbeat.trans hcounted.2)

/-- **Never adrift**: as long as every beat is on time, a firing is expected at its time on the
beat. -/
theorem expected_eq (paced : Paced interval start log game)
    (honTime : ∀ beat ∈ log, beat.OnTime interval) {n : Nat} {firing : Firing}
    (h : (Beat.firings log)[n]? = some firing) :
    firing.expected = beatTime interval start n :=
  ((paced.keeps passes_eq honTime).past h).symm

end Paced

/-- **Automatic play never runs ahead and never drifts.**  Let it be switched on at a time, with an
interval, and ticked at any times.  Whichever of the firings one counts, such as those that moved
the game: the `n`-th happens no earlier than `n` intervals after that time, so by any time there
were no more of them than whole intervals passed.  And if no tick was refused and each firing came
at most an interval after its expected time, the `n`-th was expected exactly `n` intervals after
that time, however late those before it came. -/
theorem auto_play_pace {interval start : Nat} {log : List Beat} {game : Game} (hpos : 0 < interval)
    (paced : Paced interval start log game) :
    (∀ counts : Firing → Bool,
        (∀ n firing, ((Beat.firings log).filter counts)[n]? = some firing →
          start + (n + 1) * interval ≤ firing.time)
        ∧ ∀ time, ((Beat.firings log).filter fun firing =>
            counts firing && firing.time ≤ time).length ≤ (time - start) / interval)
      ∧ ((∀ beat ∈ log, beat.OnTime interval) → ∀ n firing,
        (Beat.firings log)[n]? = some firing →
          firing.expected = start + (n + 1) * interval) :=
  ⟨fun counts => ⟨fun _ _ hfiring => paced.beatTime_le_filter hfiring,
      paced.length_filter_le hpos counts⟩,
    fun honTime _ _ hfiring => paced.expected_eq honTime hfiring⟩

/-- A story of three lines. -/
def strollStory : Story :=
  { script := .obj [("Start", .arr [.str "A gate.", .str "A lane.", .str "A hill."])]
    characters := Table.empty
    particles := []
    storage := []
    settings := { typeAnimation := false } }

/-- The game of the story at its first line, with automatic play switched on. -/
def strollArmed : Game :=
  (Call.start.left (Result.left (Game.setup (((strollStory.gameWith? strollStory.registry).get
    (by decide +kernel)).withPreferences { autoPlaySpeed := 2 })))).autoPlay true 100

/-- The game after its first firing, which is late. -/
def strollLate : Game := Result.left (Game.tick 2300 strollArmed)

/-- The two firings of the story. -/
def strollLog : List Beat := [strollArmed.beat 2300, strollLate.beat 4100]

/-- The first firing of the story is late, and the second is expected in time, and moves the game
no earlier. -/
theorem auto_play_pace_stroll :
    strollLog = [.fired ⟨2100, 2300, true⟩, .fired ⟨4100, 4100, true⟩]
      ∧ ((Beat.firings strollLog).filter fun firing => firing.moved && firing.time ≤ 4099).length
        ≤ (4099 - 100) / 2000
      ∧ ∀ firing, (Beat.firings strollLog)[1]? = some firing → firing.expected = 100 + 2 * 2000 := by
  have hlog : strollLog = [.fired ⟨2100, 2300, true⟩, .fired ⟨4100, 4100, true⟩] := by
    decide +kernel
  have hpaced : Paced 2000 100 strollLog (Result.left (Game.tick 4100 strollLate)) :=
    ((Paced.armed (by decide +kernel)).tick 2300).tick 4100
  have hpace := auto_play_pace (by decide) hpaced
  refine ⟨hlog, (hpace.1 Firing.moved).2 4099, hpace.2 ?_ 1⟩
  rw [hlog]
  simp [Beat.OnTime]

end Narrative

import Narrative.Proofs.Stretch

/-!
# Proofs/Cuts — going on after a cut

When the limit cuts a call, the cursor is left on a statement that was fetched and not run.  Going
on steps before it fetches, so it leaves that statement out; running the statement at the cursor
would not (`runCurrent_of_cut`).

So a script of one label that is started under a limit, and gone on with after each cut, comes to
its first stop with every statement left out that a call was cut at: of each `limit + 1` steps the
last one (`Stretch.pressOn`).  What is run is what one call runs without a limit exactly if no call
is cut (`cuts_skip`).
-/

namespace Narrative

/-! ## Going on after each cut -/

/-- Whether a call is cut at a step of the first label, going on after each cut. -/
def cutAt (limit step : Nat) : Bool := step % (limit + 1) == limit

/-- **What a call in a stretch comes to** that may run the statements before a step: it is cut there,
or comes to the stop if that is before. -/
def Run.arrival (book : Playbook) (registry : Registry) (limit : Nat) (skipped : Nat → Bool)
    (start : World) (rest step : Nat) : EStateM.Result Fault World Unit :=
  if step ≤ rest then
    .error (.chainLimit limit (start.cursor.atStep step))
      (skipping book registry skipped start step)
  else .ok () (performed book registry (skipping book registry skipped start rest))

namespace Game

/-- **Going on after a cut**, so many times at most. -/
def pressOn : Nat → EStateM.Result Fault Game Unit → EStateM.Result Fault Game Unit
  | 0, result => result
  | count + 1, .error (.chainLimit ..) left => pressOn count (next left)
  | _, result => result

/-- **Start a game and go on after each cut**, so many times at most. -/
def startOn (count : Nat) : Turn Unit := fun game => pressOn count (start game)

/-- The statements that a chain of a game runs, from the cursor of a world. -/
def deedsFrom (game : Game) (world : World) : List Deed :=
  Run.deeds game.book game.registry game.book.settings.maxChain world

/-- The statements that are run going on after a cut. -/
def deedsOn : Nat → EStateM.Result Fault Game Unit → List Deed
  | 0, _ => []
  | count + 1, .error (.chainLimit ..) left =>
    left.deedsFrom (Launch.next.world left) ++ deedsOn count (next left)
  | _, _ => []

/-- **The statements that are run** starting a game and going on after each cut. -/
def startDeeds (count : Nat) (game : Game) : List Deed :=
  game.deedsFrom (Launch.start.world game) ++ deedsOn count (start game)

end Game

section Cuts

variable {characters : Table Character} {presets : Fields Json} {game : Game} {launch : Launch}
  {start : World} {rest step limit count : Nat} {stop : Stop} {skipped : Nat → Bool}

/-- **Running the statement at the cursor after a cut leaves nothing out**: if a call comes to its
end under the two limits together, then what is left of it, run under the second, comes to the
same. -/
theorem runCurrent_of_cut (hregistry : game.registry = builtinRegistry characters presets)
    {ran : List Due} {last : Due} (hleads : launch.Leads game.engine game.world ran last)
    (hfetched : ran ≠ [] ∨ ∀ statement advance, launch ≠ .run statement advance)
    (huncut : Result.isCut (launch.turn (game.limited (limit + ran.length))) = false) :
    ∃ result,
      launch.turn (game.limited (limit + ran.length))
          = (game.limited (limit + ran.length)).resulting result
        ∧ Game.runCurrent ({ game with world := last.state }.limited limit)
          = (game.limited limit).resulting result := by
  obtain ⟨here, hadvance⟩ := Launch.current_of_leads hleads hfetched
  obtain ⟨first, hfirst, hran⟩ := hleads
  -- What is left of the call is the call that runs the statement at the cursor.
  obtain ⟨more, final, hfull, rest, ⟨⟩, hmore⟩ | ⟨more, result, hwithin, hends⟩ :=
    (Launch.run last.statement last.advance).leads_or_ends game.engine last.state limit
  · have hcut := Launch.turn_of_leads hregistry ⟨first, hfirst, hran.append hmore⟩
      (by rw [List.length_append, hfull, Nat.add_comm])
    rw [hcut] at huncut
    cases huncut
  · have hrest := @Launch.turn_of_ends _ _ { game with world := last.state } _ _ _ _ hregistry hends
      hwithin
    cases hends with
    | nothing none => cases none
    | @stopped before stop result leads stops =>
      obtain ⟨rest, ⟨⟩, hmore⟩ := leads
      have hwhole : launch.Ends game.engine game.world ((ran ++ before) ++ [stop]) result :=
        .stopped ⟨first, hfirst, hran.append hmore⟩ stops
      have hroom : ((ran ++ before) ++ [stop]).length ≤ limit + ran.length := by
        rw [List.append_assoc, List.length_append, Nat.add_comm]
        exact Nat.add_le_add_right hwithin _
      refine ⟨result, Launch.turn_of_ends hregistry hwhole hroom, ?_⟩
      have hfound : (game.book.limited limit).current? last.state = some last.statement := here
      have hplay : Run.runCurrent (game.book.limited limit) game.registry last.state
          = Run.run (game.book.limited limit) game.registry last.statement last.advance
            last.state := by
        rw [hadvance]
        simp only [Run.runCurrent, bind, EStateM.bind, Run.current, hfound]
      have hcurrent : Game.runCurrent ({ game with world := last.state }.limited limit)
          = (game.limited limit).resulting (Run.runCurrent (game.book.limited limit) game.registry
            last.state) := ofPlay_eq_resulting _ _
      have hturn : (Launch.run last.statement last.advance).turn
            ({ game with world := last.state }.limited limit)
          = (game.limited limit).resulting (Run.run (game.book.limited limit) game.registry
            last.statement last.advance last.state) :=
        ofPlay_eq_resulting
          (fun book registry => Run.run book registry last.statement last.advance) _
      rw [hcurrent, hplay, ← hturn]
      exact hrest

/-- In a block of steps only the last one is cut at. -/
theorem cutAt_add (hblock : step % (limit + 1) = 0) {within : Nat} (hle : within ≤ limit) :
    cutAt limit (step + within) = (within == limit) := by
  obtain ⟨block, rfl⟩ := Nat.dvd_of_mod_eq_zero hblock
  rw [cutAt, Nat.mul_add_mod, Nat.mod_eq_of_lt (Nat.lt_succ_of_le hle)]

/-- The steps that are left of a block and of those after it. -/
theorem filter_range'_block (hblock : step % (limit + 1) = 0) (hle : step + limit ≤ rest) :
    (List.range' step (min (count * (limit + 1) + (limit + 1) + limit) (rest + 1 - step))).filter
        (fun other => !cutAt limit other)
      = (List.range' step (min limit (rest + 1 - step))).filter (fun other => !cutAt limit other)
        ++ (List.range' (step + limit + 1) (min (count * (limit + 1) + limit)
          (rest + 1 - (step + limit + 1)))).filter (fun other => !cutAt limit other) := by
  have hlast : cutAt limit (step + limit) = true := by
    rw [cutAt_add hblock (Nat.le_refl limit), beq_self_eq_true]
  have hfirst : min limit (rest + 1 - step) = limit := by omega
  have hall : min (count * (limit + 1) + (limit + 1) + limit) (rest + 1 - step)
      = limit + (1 + min (count * (limit + 1) + limit) (rest + 1 - (step + limit + 1))) := by omega
  rw [hfirst, hall, ← List.range'_append_1, ← List.range'_append_1, List.filter_append,
    List.filter_append, List.range'_one, List.filter_cons_of_neg (by rw [hlast]; decide),
    List.filter_nil, List.nil_append]

/-- The limit is no part of what a chain may run. -/
theorem deeds_limited {book : Playbook} (allowed : Nat) (world : World) :
    Run.deeds (book.limited limit) (builtinRegistry characters presets) allowed world
      = Run.deeds book (builtinRegistry characters presets) allowed world := by
  induction allowed generalizing world with
  | zero => rfl
  | succ allowed ih =>
    simp only [Run.deeds, Deed.of, handler?_limited, perform_limited, ih]
    rfl

/-- **One call in a stretch**, under a limit: it is cut, or comes to the stop. -/
theorem Stretch.call (h : Stretch characters presets game.book start rest stop)
    (hregistry : game.registry = builtinRegistry characters presets)
    (hlaunch : launch = .start ∨ launch = .next)
    (hworld : launch.world game
      = Run.skipping game.book (builtinRegistry characters presets) skipped start step)
    (hle : step ≤ rest)
    (hrun : ∀ other, step ≤ other → other < step + limit → skipped other = false) :
    launch.turn (game.limited limit)
        = (game.limited limit).resulting
          (Run.arrival game.book (builtinRegistry characters presets) limit skipped start rest
            (step + limit))
      ∧ (game.limited limit).deedsFrom (launch.world game)
        = (List.range' step (min limit (rest + 1 - step))).map
          (Deed.atStep game.book (builtinRegistry characters presets) start) := by
  have hfirst : launch.first? game.engine game.world = some (.here game.book
      (Run.skipping game.book (builtinRegistry characters presets) skipped start step)) := by
    have hfetch : launch.first? game.engine game.world
        = (game.book.current? (launch.world game)).map
          fun statement => ⟨statement, true, launch.world game⟩ := by
      obtain rfl | rfl := hlaunch
      · rw [Launch.first?, Game.prepared_eq hregistry]
        rfl
      · rfl
    rw [hfetch, hworld, h.here skipped hle]
    rfl
  -- The call runs along the stretch, as far as it gets.
  have hleads : ∀ count, count ≤ limit → step + count ≤ rest →
      launch.Leads game.engine game.world
        ((List.range' step count).map fun other => .here game.book
          (Run.skipping game.book (builtinRegistry characters presets) skipped start other))
        (.here game.book (Run.skipping game.book (builtinRegistry characters presets) skipped start
          (step + count))) := by
    intro count hcount hrest
    refine ⟨_, hfirst, ?_⟩
    rw [Game.engine_eq hregistry]
    exact h.leads hrest fun other hafter hbefore => hrun other hafter (by omega)
  refine ⟨?_, ?_⟩
  · unfold Run.arrival
    split_ifs with hcut
    · rw [Launch.turn_of_leads hregistry (hleads limit (Nat.le_refl _) hcut) (by simp), Due.here,
        (h.standing skipped hcut).1]
    · obtain ⟨before, rfl⟩ := Nat.exists_eq_add_of_le hle
      have hbefore := hleads before (by omega) (Nat.le_refl _)
      refine Launch.turn_of_ends hregistry (.stopped hbefore ?_) ?_
      · rw [Game.engine_eq hregistry]
        exact (h.ends skipped).1
      · rw [List.length_append, List.length_map, List.length_range', List.length_singleton]
        omega
  · rw [hworld]
    show Run.deeds (game.book.limited limit) game.registry limit _ = _
    rw [hregistry, deeds_limited, h.deeds hle hrun]

/-- **A start in a stretch**, under a limit. -/
theorem Stretch.started (h : Stretch characters presets game.book game.setPlaying.world rest stop)
    (hregistry : game.registry = builtinRegistry characters presets) (limit : Nat) :
    Game.start (game.limited limit)
        = (game.limited limit).resulting
          (Run.arrival game.book (builtinRegistry characters presets) limit (fun _ => false)
            game.setPlaying.world rest limit)
      ∧ (game.limited limit).deedsFrom (Launch.start.world (game.limited limit))
        = (List.range (min limit (rest + 1))).map
          (Deed.atStep game.book (builtinRegistry characters presets) game.setPlaying.world) := by
  have hworld : Launch.start.world game
      = Run.skipping game.book (builtinRegistry characters presets) (fun _ => false)
        game.setPlaying.world 0 := rfl
  have hcall := h.call hregistry (.inl rfl) hworld (Nat.zero_le rest)
    fun _ _ (_ : _ < 0 + limit) => rfl
  rw [Nat.zero_add, Nat.sub_zero, ← List.range_eq_range'] at hcall
  exact hcall

/-- **One call in a stretch**, from the first step of a block of `limit + 1`: the last statement of
the block is the one that is left out. -/
theorem Stretch.block (h : Stretch characters presets game.book start rest stop)
    (hregistry : game.registry = builtinRegistry characters presets)
    (hlaunch : launch = .start ∨ launch = .next)
    (hworld : launch.world game
      = Run.skipping game.book (builtinRegistry characters presets) (cutAt limit) start step)
    (hblock : step % (limit + 1) = 0) (hle : step ≤ rest) :
    launch.turn (game.limited limit)
        = (game.limited limit).resulting
          (Run.arrival game.book (builtinRegistry characters presets) limit (cutAt limit) start rest
            (step + limit))
      ∧ (game.limited limit).deedsFrom (launch.world game)
        = ((List.range' step (min limit (rest + 1 - step))).filter
            fun other => !cutAt limit other).map
          (Deed.atStep game.book (builtinRegistry characters presets) start) := by
  have hkept : ∀ other, step ≤ other → other < step + limit → cutAt limit other = false := by
    intro other hafter hbefore
    obtain ⟨within, rfl⟩ := Nat.exists_eq_add_of_le hafter
    rw [cutAt_add hblock (by omega), beq_eq_false_iff_ne]
    omega
  obtain ⟨hturn, hdeeds⟩ := h.call hregistry hlaunch hworld hle hkept
  refine ⟨hturn, ?_⟩
  rw [hdeeds, List.filter_eq_self.2]
  intro other hmem
  obtain ⟨hafter, hbefore⟩ := List.mem_range'_1.1 hmem
  rw [hkept other hafter (by omega), Bool.not_false]

/-- **Going on after each cut in a stretch**, so many times: the call is cut so many blocks later,
or comes to the stop, and at every cut a statement was left out.  The induction is on how often one
goes on. -/
theorem Stretch.pressOn (h : Stretch characters presets game.book start rest stop)
    (hregistry : game.registry = builtinRegistry characters presets)
    (hlaunch : launch = .start ∨ launch = .next)
    (hworld : launch.world game
      = Run.skipping game.book (builtinRegistry characters presets) (cutAt limit) start step)
    (hblock : step % (limit + 1) = 0) (hle : step + count * (limit + 1) ≤ rest) :
    Game.pressOn count (launch.turn (game.limited limit))
        = (game.limited limit).resulting
          (Run.arrival game.book (builtinRegistry characters presets) limit (cutAt limit) start rest
            (step + count * (limit + 1) + limit))
      ∧ (game.limited limit).deedsFrom (launch.world game)
          ++ Game.deedsOn count (launch.turn (game.limited limit))
        = ((List.range' step (min (count * (limit + 1) + limit) (rest + 1 - step))).filter
            fun other => !cutAt limit other).map
          (Deed.atStep game.book (builtinRegistry characters presets) start) := by
  induction count generalizing game launch step with
  | zero =>
    obtain ⟨hturn, hdeeds⟩ := h.block hregistry hlaunch hworld hblock (by omega)
    rw [Nat.zero_mul, Nat.add_zero, Nat.zero_add, hdeeds, Game.pressOn, Game.deedsOn,
      List.append_nil]
    exact ⟨hturn, rfl⟩
  | succ count ih =>
    rw [Nat.succ_mul] at hle ⊢
    obtain ⟨hturn, hdeeds⟩ := h.block hregistry hlaunch hworld hblock (by omega)
    rw [Run.arrival, if_pos (by omega)] at hturn
    -- The game that the first call leaves goes on from the block after.
    have hskipped : Next.step game.book (Run.skipping game.book (builtinRegistry characters presets)
          (cutAt limit) start (step + limit))
        = Run.skipping game.book (builtinRegistry characters presets) (cutAt limit) start
          (step + limit + 1) := by
      rw [Run.skipping, cutAt_add hblock (Nat.le_refl limit), beq_self_eq_true]
      rfl
    have hnext : (step + limit + 1) % (limit + 1) = 0 := by
      rw [Nat.add_assoc, Nat.add_mod_right, hblock]
    obtain ⟨hresult, hlater⟩ := @ih { game with
      world := Run.skipping game.book (builtinRegistry characters presets) (cutAt limit) start
        (step + limit) } .next (step + limit + 1) h hregistry (.inr rfl) hskipped hnext (by omega)
    have hsteps : step + limit + 1 + count * (limit + 1)
        = step + (count * (limit + 1) + (limit + 1)) := by omega
    rw [hsteps] at hresult
    rw [hdeeds, hturn]
    refine ⟨hresult.trans ?_, ?_⟩
    · cases Run.arrival game.book (builtinRegistry characters presets) limit (cutAt limit) start rest
        (step + (count * (limit + 1) + (limit + 1)) + limit) <;> rfl
    · rw [filter_range'_block hblock (by omega), List.map_append]
      exact congrArg _ hlater

/-- What does not end with the fault of the limit is not gone on with. -/
theorem Game.pressOn_error {fault : Fault} {left : Game} (hfault : fault.isChainLimit = false) :
    Game.pressOn count (.error fault left) = .error fault left := by
  cases count with
  | zero => rfl
  | succ count =>
    cases fault with
    | chainLimit _ _ => cases hfault
    | _ => rfl

/-- **A game that is gone on with and comes to an end** runs the statement after the cursor
first. -/
theorem head_of_pressOn {left after : Game}
    (hend : Game.pressOn count (Game.next left) = .ok () after)
    (hregistry : left.registry = builtinRegistry characters presets)
    (hlimit : 0 < left.book.settings.maxChain) :
    ∃ deed more, left.deedsFrom (Launch.next.world left) = deed :: more
      ∧ deed.cursor = (Launch.next.world left).cursor := by
  cases hfound : left.book.current? (Launch.next.world left) with
  | none =>
    have hends : Launch.next.Ends left.engine left.world [] _ :=
      .nothing (congrArg (Option.map _) hfound)
    have hnext : Game.next left = _ := Launch.turn_of_ends hregistry hends (Nat.zero_le _)
    rw [hnext, Game.resulting, Game.pressOn_error rfl] at hend
    cases hend
  | some statement =>
    obtain ⟨allowed, hallowed⟩ := Nat.exists_eq_succ_of_ne_zero (Nat.ne_of_gt hlimit)
    rw [Game.deedsFrom, hallowed, Run.deeds, hfound]
    exact ⟨_, _, rfl, rfl⟩

/-- **A start that was cut**, and came to an end later, ran another statement in the place of the
one that it was cut at. -/
theorem Stretch.startDeeds_ne (h : Stretch characters presets game.book game.setPlaying.world rest
      stop)
    (hregistry : game.registry = builtinRegistry characters presets) (hlimit : 0 < limit)
    (hcut : limit ≤ rest) {after : Game}
    (hend : Game.startOn count (game.limited limit) = .ok () after) :
    Game.startDeeds count (game.limited limit)
      ≠ (List.range (rest + 1)).map
        (Deed.atStep game.book (builtinRegistry characters presets) game.setPlaying.world) := by
  obtain ⟨hstart, hdeeds⟩ := h.started hregistry limit
  rw [Run.arrival, if_pos hcut] at hstart
  rw [Game.startOn, hstart] at hend
  rw [Game.startDeeds, hstart, hdeeds, Nat.min_eq_left (Nat.le_succ_of_le hcut)]
  cases count with
  | zero => cases hend
  | succ count =>
    have hon : Game.pressOn count (Game.next { game.limited limit with
        world := Run.skipping game.book (builtinRegistry characters presets) (fun _ => false)
          game.setPlaying.world limit }) = .ok () after := hend
    obtain ⟨deed, more, hmore, hcursor⟩ := head_of_pressOn hon hregistry hlimit
    have hplace : deed.cursor = game.setPlaying.world.cursor.atStep (limit + 1) := by
      rw [hcursor]
      show (Next.step game.book _).cursor = _
      rw [cursor_step (h.here _ hcut) rfl, (h.standing _ hcut).1]
      rfl
    intro heq
    rw [Game.resulting, Game.deedsOn, hmore, List.cons_append] at heq
    -- The statements that the calls run, and those of the stretch, at the place of the cut.
    have hsame := congrArg (fun deeds => deeds[limit]?) heq
    simp only [List.getElem?_append_right, List.length_map, List.length_range, Nat.le_refl,
      Nat.sub_self, List.getElem?_cons_zero, List.getElem?_map,
      List.getElem?_range (Nat.lt_succ_of_le hcut), Option.map_some, Option.some.injEq] at hsame
    have hstep := congrArg (fun deed => deed.cursor.step) hsame
    rw [hplace] at hstep
    exact absurd hstep (Nat.succ_ne_self limit)

/-- **A start that comes to its end** in a stretch is at the stop, and has run every statement. -/
theorem Stretch.uncut (h : Stretch characters presets game.book game.setPlaying.world rest stop)
    (hregistry : game.registry = builtinRegistry characters presets) {whole : Game}
    (hwhole : Game.start (game.limited limit) = .ok () whole) :
    whole = { game.limited limit with
        world := Run.performed game.book (builtinRegistry characters presets)
          (Run.skipping game.book (builtinRegistry characters presets) (fun _ => false)
            game.setPlaying.world rest) }
      ∧ whole.cursor = game.setPlaying.world.cursor.atStep rest
      ∧ Game.startDeeds 0 (game.limited limit)
        = (List.range (rest + 1)).map
          (Deed.atStep game.book (builtinRegistry characters presets) game.setPlaying.world) := by
  obtain ⟨hstart, hdeeds⟩ := h.started hregistry limit
  rw [hwhole, Run.arrival] at hstart
  split_ifs at hstart with hcut
  · cases hstart
  · obtain ⟨-, rfl⟩ := EStateM.Result.ok.inj hstart
    refine ⟨rfl, ?_, ?_⟩
    · have hplace := (h.ends fun _ => false).2
      exact (congrArg Place.cursor hplace).trans (h.standing _ (Nat.le_refl rest)).1
    · rw [Game.startDeeds, hdeeds, Nat.min_eq_right (by omega), Game.deedsOn, List.append_nil]

/-- **A start that is gone on with after each cut**, in a stretch, comes to the stop, or is cut
there; and every statement was left out that a call was cut at. -/
theorem Stretch.split (h : Stretch characters presets game.book game.setPlaying.world rest stop)
    (hregistry : game.registry = builtinRegistry characters presets) (limit : Nat) :
    Game.startOn (rest / (limit + 1)) (game.limited limit)
        = (game.limited limit).resulting
          (if cutAt limit rest = true then
            .error (.chainLimit limit (game.setPlaying.world.cursor.atStep rest))
              (Run.skipping game.book (builtinRegistry characters presets) (cutAt limit)
                game.setPlaying.world rest)
          else .ok () (Run.performed game.book (builtinRegistry characters presets)
            (Run.skipping game.book (builtinRegistry characters presets) (cutAt limit)
              game.setPlaying.world rest)))
      ∧ Game.startDeeds (rest / (limit + 1)) (game.limited limit)
        = ((List.range (rest + 1)).filter fun step => !cutAt limit step).map
          (Deed.atStep game.book (builtinRegistry characters presets) game.setPlaying.world) := by
  have hworld : Launch.start.world game
      = Run.skipping game.book (builtinRegistry characters presets) (cutAt limit)
        game.setPlaying.world 0 := rfl
  have hle : 0 + rest / (limit + 1) * (limit + 1) ≤ rest := by
    rw [Nat.zero_add]
    exact Nat.div_mul_le_self rest (limit + 1)
  obtain ⟨hturn, hdeeds⟩ := h.pressOn hregistry (.inl rfl) hworld (Nat.zero_mod _) hle
  -- The last block of steps, and how far into it the stop is.
  have hblocks := Nat.div_add_mod rest (limit + 1)
  have hwithin : rest % (limit + 1) < limit + 1 := Nat.mod_lt rest (Nat.succ_pos limit)
  rw [Nat.mul_comm] at hblocks
  rw [Nat.zero_add, Run.arrival] at hturn
  cases hcut : cutAt limit rest with
  | true =>
    have hlast : rest % (limit + 1) = limit := beq_iff_eq.1 hcut
    rw [hlast] at hblocks
    rw [hblocks, if_pos (Nat.le_refl rest)] at hturn
    rw [hblocks, Nat.min_eq_left (by omega), ← List.range_eq_range'] at hdeeds
    refine ⟨hturn, hdeeds.trans ?_⟩
    rw [List.range_succ, List.filter_append, List.filter_cons_of_neg (by rw [hcut]; decide),
      List.filter_nil, List.append_nil]
  | false =>
    have hlast : rest % (limit + 1) ≠ limit := beq_eq_false_iff_ne.1 hcut
    rw [if_neg (by omega)] at hturn
    rw [Nat.min_eq_right (by omega), Nat.sub_zero, ← List.range_eq_range'] at hdeeds
    exact ⟨hturn, hdeeds⟩

end Cuts

/-! ## A story of one label -/

section Stories

variable {characters : Table Character} {presets : Fields Json} {story : Story}
  {preferences : Preferences} {game begun made ready whole : Game} {unlimited limit : Nat}

/-- What a game that was set up begins with. -/
theorem opening_of_ready (hmade : story.gameWith? story.registry = some made)
    (hready : Game.setup (made.withPreferences preferences) = .ok () ready) :
    ready.book.Callbackless
      ∧ ready.setPlaying.world.cursor = .start story.settings.startLabel := by
  have hbook := callbackless_of_gameWith? hmade preferences
  obtain ⟨script, hscript, rfl⟩ := Option.map_eq_some_iff.1 hmade
  rw [setup_eq rfl] at hready
  obtain rfl := (EStateM.Result.ok.inj hready).2
  exact ⟨hbook, rfl⟩

/-- The chain of a statement, as far as one that ends it. -/
theorem chain_of_leads {book : Playbook} {registry : Registry} {first last : Due} {ran : List Due}
    {result : EStateM.Result Fault World Unit}
    (h : (Engine.fixed book registry).Leads first ran last)
    (hstops : (Engine.fixed book registry).Stops last result) :
    Run.chain book registry (ran.length + 1) first.statement first.advance first.state
      = result := by
  induction h with
  | nil due =>
    rw [Engine.chain_fixed, Engine.link_of_stops hstops]
    cases result <;> rfl
  | @cons first next last ran goes rest ih =>
    have hrest := ih hstops
    rw [(Engine.current_of_goes goes).2] at hrest
    rw [List.length_cons, Engine.chain_fixed, Engine.link_of_goes goes]
    exact hrest

/-- **A start that comes to its end**, in a script of one label, runs a stretch. -/
theorem stretch_of_start (hregistry : game.registry = builtinRegistry characters presets)
    (hbook : game.book.Callbackless) {label : String} (hone : game.book.labelNames = [label])
    (hcursor : game.setPlaying.world.cursor = .start label)
    (hstart : Game.start (game.limited limit) = .ok () begun) :
    ∃ rest stop, Stretch characters presets game.book game.setPlaying.world rest stop := by
  obtain ⟨ran, last, hfull, hleads⟩ | ⟨ran, result, hwithin, hends⟩ :=
    Launch.start.leads_or_ends game.engine game.world limit
  · have hcut := Launch.turn_of_leads hregistry hleads hfull
    cases hstart.symm.trans hcut
  · have hturn := Launch.turn_of_ends hregistry hends hwithin
    cases hends with
    | nothing none => cases hstart.symm.trans hturn
    | @stopped before last result leads stops =>
      obtain ⟨first, hfirst, hran⟩ := leads
      obtain ⟨statement, here, rfl⟩ := Option.map_eq_some_iff.1 hfirst
      cases result with
      | error fault after => cases hstart.symm.trans hturn
      | ok value after =>
        rw [Game.prepared_eq hregistry] at here hran
        rw [Game.engine_eq hregistry] at hran stops
        have hchain := chain_of_leads hran stops
        refine stretch_of_chain hbook ?_ ?_ ?_ rfl (fun earlier hlt => absurd hlt
          (Nat.not_lt_zero earlier)) here hchain
        · intro other hother
          have hmem := Playbook.mem_labelNames hother
          rw [hone] at hmem
          rw [hcursor]
          exact List.mem_singleton.1 hmem
        · rw [hcursor]
          rfl
        · show game.setPlaying.world.cursor = game.setPlaying.world.cursor.atStep 0
          rw [hcursor]
          rfl

/-- What one call runs does not depend on how often it is gone on with, if it is not cut. -/
theorem startDeeds_of_ok {after : Game} (hstart : Game.start game = .ok () after) (count : Nat) :
    Game.startDeeds count game = Game.startDeeds 0 game := by
  rw [Game.startDeeds, Game.startDeeds, hstart]
  cases count <;> rfl

/-- **Going on after a cut leaves a statement out.**  Let a script of one label, with the built-in
actions, come to its first stop when it is started with no limit that cuts it.  Now let it be
started under a limit, and gone on with after each cut.  Of what the one call runs, which is every
statement up to the stop,

* the split run runs the same exactly if it is never cut, which is if the stop comes within the
  limit;
* it leaves out the last statement of every `limit + 1`, and no other before the stop;
* if the stop is not one of these, it comes to it, and all that is saved is the same exactly if only
  `next` was left out;
* if the stop is one of these, the call is cut there, before it is run. -/
theorem cuts_skip (hmade : story.gameWith? story.registry = some made)
    (hready : Game.setup (made.withPreferences preferences) = .ok () ready)
    (hone : ready.book.labelNames = [story.settings.startLabel])
    (hwhole : Game.start (ready.limited unlimited) = .ok () whole) (hlimit : 0 < limit) :
    (Game.startDeeds 0 (ready.limited unlimited)).map Deed.cursor
        = (List.range (whole.cursor.step + 1)).map whole.cursor.atStep
      ∧ (∀ count after, Game.startOn count (ready.limited limit) = .ok () after →
        (Game.startDeeds count (ready.limited limit) = Game.startDeeds 0 (ready.limited unlimited)
          ↔ whole.cursor.step < limit))
      ∧ Game.startDeeds (whole.cursor.step / (limit + 1)) (ready.limited limit)
        = (Game.startDeeds 0 (ready.limited unlimited)).filter
          (fun deed => !cutAt limit deed.cursor.step)
      ∧ (cutAt limit whole.cursor.step = false →
        ∃ after, Game.startOn (whole.cursor.step / (limit + 1)) (ready.limited limit)
            = .ok () after
          ∧ after.cursor = whole.cursor
          ∧ (after.snapshot = whole.snapshot
            ↔ ∀ step, step < whole.cursor.step → cutAt limit step = true →
              kindAt? ready.book ready.world (whole.cursor.atStep step) = some .next))
      ∧ (cutAt limit whole.cursor.step = true →
        ∃ left, Game.startOn (whole.cursor.step / (limit + 1)) (ready.limited limit)
            = .error (.chainLimit limit whole.cursor) left
          ∧ left.cursor = whole.cursor) := by
  have hregistry := (ready_parts hmade hready).1
  obtain ⟨hbook, hcursor⟩ := opening_of_ready hmade hready
  obtain ⟨rest, stop, h⟩ := stretch_of_start hregistry hbook hone hcursor hwhole
  obtain ⟨hworld, hplace, hall⟩ := h.uncut hregistry hwhole
  obtain ⟨hturn, hdeeds⟩ := h.split hregistry limit
  have hrest : whole.cursor.step = rest := congrArg Cursor.step hplace
  rw [hrest]
  refine ⟨?_, fun count after hend => ⟨fun hsame => ?_, fun hlt => ?_⟩, ?_, fun hcut => ?_,
    fun hcut => ?_⟩
  · rw [hall, hplace, List.map_map]
    rfl
  · by_contra hge
    rw [hall] at hsame
    exact h.startDeeds_ne hregistry hlimit (Nat.le_of_not_lt hge) hend hsame
  · have hkept : cutAt limit rest = false := by
      rw [cutAt, Nat.mod_eq_of_lt (Nat.lt_succ_of_lt hlt), beq_eq_false_iff_ne]
      exact Nat.ne_of_lt hlt
    rw [Nat.div_eq_of_lt (Nat.lt_succ_of_lt hlt), hkept, if_neg Bool.false_ne_true] at hturn
    rw [startDeeds_of_ok hturn, (h.uncut hregistry hturn).2.2, hall]
  · rw [hdeeds, hall, List.filter_map]
    rfl
  · rw [hcut, if_neg Bool.false_ne_true] at hturn
    refine ⟨_, hturn, ?_, ?_⟩
    · rw [hplace]
      exact (congrArg Place.cursor (h.ends (cutAt limit)).2).trans
        (h.standing _ (Nat.le_refl rest)).1
    · have hsaved : whole.snapshot = _ := congrArg Game.snapshot hworld
      rw [hsaved, hplace]
      exact h.snapshot_iff
  · rw [hcut, if_pos rfl] at hturn
    rw [hplace]
    exact ⟨_, hturn, (h.standing _ (Nat.le_refl rest)).1⟩

end Stories

/-! A story with four statements, of which the third is left out under a limit of two. -/

/-- A story whose weather changes before its first line. -/
def slopeStory : Story :=
  { script := .obj [("Start", .arr [.str "particles snow", .str "next", .str "particles rain",
      .str "It is raining."])]
    characters := Table.empty
    particles := [("snow", .obj []), ("rain", .obj [])]
    storage := []
    settings := { typeAnimation := false } }

/-- The game of the story. -/
def slopeMade : Game := (slopeStory.gameWith? slopeStory.registry).get (by decide +kernel)

/-- The game, set up. -/
def slopeReady : Game := Result.left (Game.setup (slopeMade.withPreferences {}))

/-- The game, started with no limit that cuts it. -/
def slopeWhole : Game := Result.left (Game.start (slopeReady.limited 10))

/-- Under a limit of two the call is cut at the rain.  Gone on with once, the game comes to its
line, but it never rained. -/
theorem cuts_skip_slope :
    (Game.startDeeds 0 (slopeReady.limited 10)).map (·.cursor.step) = [0, 1, 2, 3]
      ∧ (Game.startDeeds 1 (slopeReady.limited 2)).map (·.cursor.step) = [0, 1, 3]
      ∧ ∃ after, Game.startOn 1 (slopeReady.limited 2) = .ok () after
        ∧ after.cursor = slopeWhole.cursor ∧ after.snapshot ≠ slopeWhole.snapshot := by
  have hmade : slopeStory.gameWith? slopeStory.registry = some slopeMade :=
    (Option.some_get _).symm
  have hready : Game.setup (slopeMade.withPreferences {}) = .ok () slopeReady := setup_ok_left rfl
  have hwhole : Game.start (slopeReady.limited 10) = .ok () slopeWhole :=
    Result.eq_ok (by decide +kernel)
  have hone : slopeReady.book.labelNames = ["Start"] := by decide +kernel
  have hrest : slopeWhole.cursor.step = 3 := by decide +kernel
  obtain ⟨-, -, -, hend, -⟩ := cuts_skip hmade hready hone hwhole Nat.two_pos
  rw [hrest] at hend
  obtain ⟨after, hafter, hcursor, hsnapshot⟩ := hend (by decide +kernel)
  refine ⟨by decide +kernel, by decide +kernel, after, hafter, hcursor, fun hsame => ?_⟩
  have hnext := hsnapshot.1 hsame 2 (by decide +kernel) (by decide +kernel)
  revert hnext
  decide +kernel

end Narrative

import Narrative.Proofs.Within

/-!
# Proofs/Limit — the limit on a chain only cuts it

Without the limit a call runs one statement after another, for as long as each has the next one run
(`Engine.Goes`); it ends when one does not (`Engine.Stops`).  Which statement comes next does not
depend on the limit, so the calls under all limits run along one sequence (`Engine.Leads`), each as
far as its limit lets it.

So a call that is not cut comes to the same under every larger limit, and it is cut exactly when as
many statements as it may run have been run and one more is due (`limit_only_cuts`).  The actions
are the built-in ones.  Callbacks may read and change whatever else they like, but not the limit,
which is no part of the state (`Engine.limited`); and they are asked not to raise its fault
themselves (`limit_not_exact`).
-/

namespace Narrative

/-! ## Another limit -/

/-- The playbook with another limit on a chain. -/
def Playbook.limited {σ : Type} (book : Playbook σ) (limit : Nat) : Playbook σ :=
  { book with settings := { book.settings with maxChain := limit } }

/-- The game with another limit on a chain. -/
def Game.limited (game : Game) (limit : Nat) : Game := { game with book := game.book.limited limit }

/-- **The engine with a limit that stays.**  It is no part of the state, so that no callback can
read or change it. -/
def Engine.limited {σ : Type} (engine : Engine σ) (limit : Nat) : Engine σ where
  book s := (engine.book s).limited limit
  registry := engine.registry
  world := engine.world
  withWorld := engine.withWorld
  world_withWorld := engine.world_withWorld
  book_withWorld s new := congrArg (·.limited limit) (engine.book_withWorld s new)
  registry_withWorld := engine.registry_withWorld

theorem handler?_limited {σ : Type} {book : Playbook σ} {registry : Registry σ} {limit : Nat}
    (world : World) (statement : Statement σ) :
    registry.handler? (book.limited limit) world statement
      = registry.handler? book world statement := by
  cases statement <;> rfl

section Limited

variable {characters : Table Character} {presets : Fields Json} {book : Playbook} {limit : Nat}

theorem readOptions_limited (world : World) (options : Fields Json) :
    Choice.readOptions (book.limited limit) world options
      = Choice.readOptions book world options := by
  induction options with
  | nil => rfl
  | cons field rest ih =>
    obtain ⟨key, value⟩ := field
    have hfirst : Choice.readOption (book.limited limit) world key value
        = Choice.readOption book world key value := rfl
    rw [readOptions_cons, readOptions_cons, hfirst, ih]

/-- **No built-in action looks at the limit.** -/
theorem invoke_limited (world : World) (statement : Statement) :
    (builtinRegistry characters presets).invoke (book.limited limit) world statement
      = (builtinRegistry characters presets).invoke book world statement := by
  cases statement with
  | text line =>
    cases filled : book.substitute world line with
    | error fault =>
      have hsame : (book.limited limit).substitute world line = .error fault := filled
      rw [Registry.invoke, Registry.invoke, filled, hsame]
      rfl
    | ok text =>
      have hsame : (book.limited limit).substitute world line = .ok text := filled
      rw [invoke_text filled, invoke_text hsame]
      rfl
  | record fields =>
    rw [invoke_record, invoke_record]
    simp only [Choice.invoke, readOptions_limited]
  | callback run => rfl

theorem perform_limited (statement : Statement) (advance : Bool) (world : World) :
    Run.perform (book.limited limit) (builtinRegistry characters presets) statement advance world
      = Run.perform book (builtinRegistry characters presets) statement advance world := by
  cases statement with
  | callback run => rfl
  | _ => rw [perform_eq (by simp), perform_eq (by simp), invoke_limited]

end Limited

/-- Whether a fault says that a call came to run too many statements. -/
def Fault.isChainLimit : Fault → Bool
  | chainLimit .. => true
  | _ => false

/-- Whether a call was cut. -/
def Result.isCut {σ α : Type} (result : EStateM.Result Fault σ α) : Bool :=
  (Result.fault? result).any Fault.isChainLimit

/-- A fault of a statement is not one of the limit. -/
theorem Fault.isChainLimit_of_isOfStatement {fault : Fault} (h : fault.isOfStatement = true) :
    fault.isChainLimit = false := by
  cases fault with
  | chainLimit _ _ => cases h
  | _ => rfl

namespace Engine

variable {σ : Type} {engine : Engine σ} {limit count : Nat} {due first last : Due σ}
  {ran : List (Due σ)} {s : σ} {deeds deeds' : List (Deed σ)}
  {result result' : EStateM.Result Fault σ Unit}

/-! ## Actions that do not heed the limit -/

/-- **The actions do not heed the limit**: none looks at it, keeps a game from starting, or raises
its fault. -/
structure Heedless (engine : Engine σ) : Prop where
  /-- No statement is run in another way under another limit. -/
  perform : ∀ limit statement, (engine.limited limit).perform statement = engine.perform statement
  /-- The actions are told that a game starts. -/
  told : ∀ limit s, ∃ mid, engine.each Action.onStart s = .ok () mid
    ∧ (engine.limited limit).each Action.onStart s = .ok () mid
  /-- The fault of a statement that is no callback. -/
  honest : ∀ {statement advance s fault after}, (∀ run, statement ≠ .callback run) →
    engine.perform statement advance s = .error fault after → fault.isChainLimit = false

variable {characters : Table Character} {presets : Fields Json}

/-- The built-in actions, on the world. -/
theorem heedless_fixed (book : Playbook) :
    (fixed book (builtinRegistry characters presets)).Heedless where
  perform limit statement := by
    funext advance world
    have hsame : (fixed book (builtinRegistry characters presets)).limited limit
        = fixed (book.limited limit) (builtinRegistry characters presets) := rfl
    rw [hsame, perform_fixed, perform_fixed, perform_limited]
  told limit s := ⟨s, rfl, rfl⟩
  honest hno h := by
    rw [perform_fixed] at h
    exact Fault.isChainLimit_of_isOfStatement (isOfStatement_of_perform hno h)

/-- The built-in actions, within a state. -/
theorem heedless_within
    (hregistry : ∀ s, engine.registry s = (builtinRegistry characters presets).within engine) :
    engine.Heedless where
  perform limit statement := by
    funext advance s
    obtain ⟨run, rfl⟩ | hno := statement.callback_or
    · rfl
    · have hsame : (engine.limited limit).registry s
          = (builtinRegistry characters presets).within (engine.limited limit) := hregistry s
      have hinvoke : (engine.limited limit).invoke s statement = engine.invoke s statement := by
        rw [invoke_within (hregistry s) hno, invoke_within hsame hno]
        show ((builtinRegistry characters presets).invoke ((engine.book s).seen.limited limit) _
          _).map _ = _
        rw [invoke_limited]
        rfl
      rw [Engine.perform_eq hno, Engine.perform_eq hno, hinvoke]
      rfl
  told limit s := by
    refine ⟨Result.left (engine.each Action.onStart s), ?_, ?_⟩
    · rw [each, hregistry]
      rfl
    · show (engine.registry s).each _ s = _
      rw [each, hregistry]
      rfl
  honest {statement advance s fault after} hno h := by
    have hshown := perform_within (hregistry s) hno advance
    rw [h] at hshown
    exact Fault.isChainLimit_of_isOfStatement
      (isOfStatement_of_perform (statement.seen_ne_callback hno) hshown.symm)

theorem Heedless.link (h : engine.Heedless) (limit : Nat) (statement : Statement σ)
    (advance : Bool) (s : σ) :
    (engine.limited limit).link statement advance s = engine.link statement advance s := by
  simp only [Engine.link, h.perform]
  rfl

theorem Heedless.prepared (h : engine.Heedless) (limit : Nat) (s : σ) :
    (engine.limited limit).each Action.onStart (engine.setPlaying s)
      = .ok () (engine.prepared s) := by
  obtain ⟨mid, htold, hsame⟩ := h.told limit (engine.setPlaying s)
  rw [Engine.prepared, htold, hsame]
  rfl

/-! ## One statement after another -/

/-- **The statements that were run before one is due**, from the first on. -/
inductive Leads (engine : Engine σ) : Due σ → List (Due σ) → Due σ → Prop
  | nil (due : Due σ) : Leads engine due [] due
  | cons {first next last : Due σ} {ran : List (Due σ)} (goes : engine.Goes first next)
      (rest : Leads engine next ran last) : Leads engine first (first :: ran) last

theorem Leads.append {more : List (Due σ)} {final : Due σ} (h : engine.Leads first ran last)
    (hmore : engine.Leads last more final) : engine.Leads first (ran ++ more) final := by
  induction h with
  | nil due => exact hmore
  | cons goes rest ih => exact .cons goes (ih hmore)

theorem current_of_leads (h : engine.Leads first ran last) (hne : ran ≠ []) :
    engine.current? last.state = some last.statement ∧ last.advance = true := by
  induction h with
  | nil due => exact absurd rfl hne
  | @cons first next last ran goes rest ih =>
    cases rest with
    | nil due => exact current_of_goes goes
    | cons more others => exact ih (List.cons_ne_nil _ _)

/-- **However many statements a chain may run**, so many are run and one more is due, or fewer are
run before one that ends the call. -/
theorem leads_or_stops (engine : Engine σ) (allowed : Nat) (first : Due σ) :
    (∃ ran last, ran.length = allowed ∧ engine.Leads first ran last)
      ∨ ∃ ran last result, ran.length < allowed ∧ engine.Leads first ran last
        ∧ engine.Stops last result := by
  induction allowed generalizing first with
  | zero => exact .inl ⟨[], first, rfl, .nil first⟩
  | succ allowed ih =>
    obtain ⟨next, goes⟩ | ⟨result, stops⟩ := goes_or_stops engine first
    · obtain ⟨ran, last, hlength, rest⟩ | ⟨ran, last, result, hlength, rest, stops⟩ := ih next
      · exact .inl ⟨first :: ran, last, congrArg Nat.succ hlength, .cons goes rest⟩
      · exact .inr ⟨first :: ran, last, result, Nat.succ_lt_succ hlength, .cons goes rest, stops⟩
    · exact .inr ⟨[], first, result, Nat.succ_pos allowed, .nil first, stops⟩

/-! ## A chain runs along -/

/-- A statement that is due, where it stands. -/
def deedOf (engine : Engine σ) (due : Due σ) : Deed σ :=
  engine.deed due.state (engine.cursor due.state) due.statement

theorem deed_limited (engine : Engine σ) (limit : Nat) (due : Due σ) :
    (engine.limited limit).deed due.state ((engine.limited limit).cursor due.state) due.statement
      = engine.deedOf due := by
  show Deed.mk _ _ ((engine.registry _).handler? ((engine.book _).limited limit) _ _) = _
  rw [handler?_limited]
  rfl

/-- **A chain runs along**, if it may run the statements that were run before one is due: it comes
to what the chain of that one comes to, when so many have been run. -/
theorem Leads.runs (h : engine.Leads first ran last) (hheedless : engine.Heedless)
    (hroom : count + ran.length ≤ limit)
    (hrest : (engine.limited limit).Runs (count + ran.length) last.statement last.advance last.state
      deeds result) :
    (engine.limited limit).Runs count first.statement first.advance first.state
      (ran.map engine.deedOf ++ deeds) result := by
  induction h generalizing count with
  | nil due => exact hrest
  | @cons first next last ran goes rest ih =>
    rw [List.length_cons, Nat.add_comm ran.length 1, ← Nat.add_assoc] at hroom hrest
    have hmore := ih hroom hrest
    rw [(current_of_goes goes).2] at hmore
    rw [List.map_cons, List.cons_append, ← deed_limited engine limit first]
    exact .goes (Nat.lt_of_lt_of_le (Nat.lt_succ_self count) (Nat.le_of_add_right_le hroom))
      ((hheedless.link limit _ _ _).trans (link_of_goes goes)) hmore

/-- The chain of a statement that ends the call. -/
theorem Stops.runs (h : engine.Stops due result) (hheedless : engine.Heedless)
    (hroom : count < limit) :
    (engine.limited limit).Runs count due.statement due.advance due.state [engine.deedOf due]
      result := by
  have hlink := (hheedless.link limit _ _ _).trans (link_of_stops h)
  rw [← deed_limited engine limit due]
  cases result with
  | ok value after => exact .ends hroom hlink
  | error fault after => exact .failed hroom hlink

/-- A statement that ends a call with the fault of the limit is a callback that raised it. -/
theorem callback_of_stops {fault : Fault} {after : σ} (h : engine.Stops due (.error fault after))
    (hheedless : engine.Heedless) (hfault : fault.isChainLimit = true) :
    ∃ run, due.statement = .callback run ∧ engine.callback run due.state = .error fault after := by
  cases h with
  | endOfLabel performed none => cases hfault
  | nowhere performed none => cases hfault
  | failed performed =>
    cases hstatement : due.statement with
    | callback run =>
      rw [hstatement] at performed
      exact ⟨run, rfl, performed⟩
    | _ =>
      have hno : ∀ run, due.statement ≠ .callback run := by simp [hstatement]
      rw [hheedless.honest hno performed] at hfault
      cases hfault

end Engine

/-! ## Calls under a limit -/

/-- **A call that runs statements forward.** -/
inductive Launch (σ : Type := World) where
  /-- Run a statement that is given. -/
  | run (statement : Statement σ) (advance : Bool)
  /-- Go one step on. -/
  | next
  /-- Start. -/
  | start

namespace Launch

section Calls

variable {σ : Type} {engine : Engine σ} {launch : Launch σ} {s : σ} {limit : Nat}
  {first last : Due σ} {ran : List (Due σ)} {deeds deeds' : List (Deed σ)}
  {result result' : EStateM.Result Fault σ Unit}

/-- **What a call comes to**, and what it runs. -/
def Makes (engine : Engine σ) (s : σ) (deeds : List (Deed σ))
    (result : EStateM.Result Fault σ Unit) : Launch σ → Prop
  | run statement advance => engine.Runs 0 statement advance s deeds result
  | next => engine.Nexts s deeds result
  | start => engine.Starts s deeds result

/-- The state from which the first statement is fetched. -/
def ready (engine : Engine σ) (s : σ) : Launch σ → σ
  | run _ _ => s
  | next => engine.step s
  | start => engine.prepared s

/-- **The first statement that is due**, if there is one. -/
def first? (engine : Engine σ) (s : σ) : Launch σ → Option (Due σ)
  | run statement advance => some ⟨statement, advance, s⟩
  | next => (engine.current? (engine.step s)).map (⟨·, true, engine.step s⟩)
  | start => (engine.current? (engine.prepared s)).map (⟨·, true, engine.prepared s⟩)

/-- **The statements that a call runs before one is due.** -/
def Leads (launch : Launch σ) (engine : Engine σ) (s : σ) (ran : List (Due σ)) (last : Due σ) :
    Prop :=
  ∃ first, launch.first? engine s = some first ∧ engine.Leads first ran last

/-- **All the statements that a call runs, and what it comes to**, if no limit cuts it. -/
inductive Ends (launch : Launch σ) (engine : Engine σ) (s : σ) :
    List (Due σ) → EStateM.Result Fault σ Unit → Prop
  | nothing (none : launch.first? engine s = none) :
      Ends launch engine s []
        (.error (.noStatement (engine.cursor (launch.ready engine s))) (launch.ready engine s))
  | stopped {ran : List (Due σ)} {last : Due σ} {result : EStateM.Result Fault σ Unit}
      (leads : launch.Leads engine s ran last) (stops : engine.Stops last result) :
      Ends launch engine s (ran ++ [last]) result

/-- **No callback that a call comes to raises the fault of the limit** itself. -/
def Candid (launch : Launch σ) (engine : Engine σ) (s : σ) : Prop :=
  ∀ ⦃ran last run⦄, launch.Leads engine s ran last → last.statement = .callback run →
    Result.isCut (engine.callback run last.state) = false

/-- **What a call comes to, and what it runs, is determined.** -/
theorem makes_unique (h : launch.Makes engine s deeds result)
    (h' : launch.Makes engine s deeds' result') : deeds' = deeds ∧ result' = result := by
  cases launch with
  | run statement advance => exact Engine.Runs.unique h h'
  | next => exact Engine.Fetches.unique h h'
  | start => exact Engine.Starts.unique h h'

/-- A call comes to what the chain of its first statement comes to. -/
theorem makes_of_first (hheedless : engine.Heedless) (hfirst : launch.first? engine s = some first)
    (hruns : (engine.limited limit).Runs 0 first.statement first.advance first.state deeds
      result) :
    launch.Makes (engine.limited limit) s deeds result := by
  cases launch with
  | run statement advance =>
    obtain rfl := Option.some.inj hfirst
    exact hruns
  | next =>
    obtain ⟨statement, here, rfl⟩ := Option.map_eq_some_iff.1 hfirst
    exact Engine.nexts_iff.2 (.runs (Engine.current_of_found here) hruns)
  | start =>
    obtain ⟨statement, here, rfl⟩ := Option.map_eq_some_iff.1 hfirst
    exact .runs (hheedless.prepared limit s) (.runs (Engine.current_of_found here) hruns)

/-- A call with no first statement. -/
theorem makes_of_nothing (hheedless : engine.Heedless) (hnone : launch.first? engine s = none) :
    launch.Makes (engine.limited limit) s []
      (.error (.noStatement (engine.cursor (launch.ready engine s))) (launch.ready engine s)) := by
  cases launch with
  | run statement advance => cases hnone
  | next =>
    have hlost := Engine.current_of_none (Option.map_eq_none_iff.1 hnone)
    exact Engine.nexts_iff.2 (.lost hlost)
  | start =>
    have hlost := Engine.current_of_none (Option.map_eq_none_iff.1 hnone)
    exact .runs (hheedless.prepared limit s) (.lost hlost)

/-- **A call is cut** when it has run as many statements as it may and one more is due. -/
theorem makes_of_leads (h : launch.Leads engine s ran last) (hheedless : engine.Heedless)
    (hfull : ran.length = limit) :
    launch.Makes (engine.limited limit) s (ran.map engine.deedOf)
      (.error (.chainLimit limit (engine.cursor last.state)) last.state) := by
  obtain ⟨first, hfirst, hleads⟩ := h
  have hcut : (engine.limited limit).Runs (0 + ran.length) last.statement last.advance last.state []
      (.error (.chainLimit limit (engine.cursor last.state)) last.state) :=
    .cut (by rw [Nat.zero_add]; exact Nat.le_of_eq hfull.symm)
  have hruns := hleads.runs hheedless (by rw [Nat.zero_add]; exact Nat.le_of_eq hfull) hcut
  rw [List.append_nil] at hruns
  exact makes_of_first hheedless hfirst hruns

/-- **A call that is not cut** comes to what its statements come to. -/
theorem makes_of_ends (h : launch.Ends engine s ran result) (hheedless : engine.Heedless)
    (hwithin : ran.length ≤ limit) :
    launch.Makes (engine.limited limit) s (ran.map engine.deedOf) result := by
  cases h with
  | nothing none => exact makes_of_nothing hheedless none
  | @stopped ran last result leads stops =>
    obtain ⟨first, hfirst, hleads⟩ := leads
    rw [List.length_append, List.length_singleton] at hwithin
    have hlast : (engine.limited limit).Runs (0 + ran.length) last.statement last.advance last.state
        [engine.deedOf last] result := stops.runs hheedless (by omega)
    rw [List.map_append]
    exact makes_of_first hheedless hfirst (hleads.runs hheedless (by omega) hlast)

/-- **Under every limit** a call is cut, or comes to its end. -/
theorem leads_or_ends (launch : Launch σ) (engine : Engine σ) (s : σ) (limit : Nat) :
    (∃ ran last, ran.length = limit ∧ launch.Leads engine s ran last)
      ∨ ∃ ran result, ran.length ≤ limit ∧ launch.Ends engine s ran result := by
  cases hfirst : launch.first? engine s with
  | none => exact .inr ⟨[], _, Nat.zero_le limit, .nothing hfirst⟩
  | some first =>
    obtain ⟨ran, last, hlength, hleads⟩ | ⟨ran, last, result, hlength, hleads, hstops⟩ :=
      engine.leads_or_stops limit first
    · exact .inl ⟨ran, last, hlength, first, hfirst, hleads⟩
    · refine .inr ⟨ran ++ [last], result, ?_, .stopped ⟨first, hfirst, hleads⟩ hstops⟩
      rw [List.length_append, List.length_singleton]
      exact hlength

/-- **Under every limit a call comes to an end.** -/
theorem exists_makes (launch : Launch σ) (hheedless : engine.Heedless) (s : σ) (limit : Nat) :
    ∃ deeds result, launch.Makes (engine.limited limit) s deeds result := by
  obtain ⟨ran, last, hfull, hleads⟩ | ⟨ran, result, hwithin, hends⟩ :=
    launch.leads_or_ends engine s limit
  · exact ⟨_, _, makes_of_leads hleads hheedless hfull⟩
  · exact ⟨_, _, makes_of_ends hends hheedless hwithin⟩

/-- **What a call under a limit came to**: it was cut, or came to its end. -/
theorem makes_cases (hheedless : engine.Heedless)
    (h : launch.Makes (engine.limited limit) s deeds result) :
    (∃ ran last, ran.length = limit ∧ launch.Leads engine s ran last
        ∧ deeds = ran.map engine.deedOf
        ∧ result = .error (.chainLimit limit (engine.cursor last.state)) last.state)
      ∨ ∃ ran, ran.length ≤ limit ∧ launch.Ends engine s ran result
        ∧ deeds = ran.map engine.deedOf := by
  obtain ⟨ran, last, hfull, hleads⟩ | ⟨ran, result', hwithin, hends⟩ :=
    launch.leads_or_ends engine s limit
  · exact .inl ⟨ran, last, hfull, hleads,
      makes_unique (makes_of_leads hleads hheedless hfull) h⟩
  · obtain ⟨hdeeds, rfl⟩ := makes_unique (makes_of_ends hends hheedless hwithin) h
    exact .inr ⟨ran, hwithin, hends, hdeeds⟩

/-- A call runs no more statements than the limit allows. -/
theorem length_le_of_makes (hheedless : engine.Heedless)
    (h : launch.Makes (engine.limited limit) s deeds result) : deeds.length ≤ limit := by
  obtain ⟨ran, last, hfull, -, rfl, -⟩ | ⟨ran, hwithin, -, rfl⟩ := makes_cases hheedless h
  · rw [List.length_map]
    exact Nat.le_of_eq hfull
  · rw [List.length_map]
    exact hwithin

/-- A call that is not cut comes to the same under every larger limit. -/
theorem makes_of_uncut (hheedless : engine.Heedless)
    (h : launch.Makes (engine.limited limit) s deeds result) (huncut : Result.isCut result = false)
    {larger : Nat} (hle : limit ≤ larger) :
    launch.Makes (engine.limited larger) s deeds result := by
  obtain ⟨ran, last, -, -, -, rfl⟩ | ⟨ran, hwithin, hends, rfl⟩ := makes_cases hheedless h
  · cases huncut
  · exact makes_of_ends hends hheedless (Nat.le_trans hwithin hle)

/-- **A call that comes to its end was not cut**, if no callback raises the fault. -/
theorem Candid.uncut (hcandid : launch.Candid engine s) (hheedless : engine.Heedless)
    (hends : launch.Ends engine s ran result) : Result.isCut result = false := by
  cases hends with
  | nothing none => rfl
  | @stopped before last result leads stops =>
    cases result with
    | ok value after => rfl
    | error fault after =>
      refine Bool.eq_false_iff.2 fun hraised => ?_
      obtain ⟨run, hstatement, hrun⟩ := Engine.callback_of_stops stops hheedless hraised
      have hquiet := hcandid leads hstatement
      rw [hrun] at hquiet
      exact absurd hraised (Bool.eq_false_iff.1 hquiet)

/-- **When a call is cut**: after as many statements as it may run, with one more due. -/
theorem isCut_iff (hheedless : engine.Heedless) (hcandid : launch.Candid engine s)
    (h : launch.Makes (engine.limited limit) s deeds result) :
    Result.isCut result = true
      ↔ ∃ ran last, ran.length = limit ∧ launch.Leads engine s ran last := by
  constructor
  · intro hcut
    obtain ⟨ran, last, hfull, hleads, -⟩ | ⟨ran, -, hends, -⟩ := makes_cases hheedless h
    · exact ⟨ran, last, hfull, hleads⟩
    · rw [hcandid.uncut hheedless hends] at hcut
      cases hcut
  · rintro ⟨ran, last, hfull, hleads⟩
    rw [(makes_unique (makes_of_leads hleads hheedless hfull) h).2]
    rfl

/-- The statement that is due stands at the cursor, and was come to, unless it was given and is
still to be run. -/
theorem current_of_leads (hleads : launch.Leads engine s ran last)
    (hfetched : ran ≠ [] ∨ ∀ statement advance, launch ≠ .run statement advance) :
    engine.current? last.state = some last.statement ∧ last.advance = true := by
  obtain ⟨first, hfirst, hran⟩ := hleads
  cases hran with
  | cons goes rest => exact Engine.current_of_leads (.cons goes rest) (List.cons_ne_nil _ _)
  | nil due =>
    have hgiven := hfetched.resolve_left fun hne => hne rfl
    cases launch with
    | run statement advance => exact absurd rfl (hgiven statement advance)
    | next | start =>
      obtain ⟨statement, here, rfl⟩ := Option.map_eq_some_iff.1 hfirst
      exact ⟨here, rfl⟩

end Calls

end Launch

/-! ## Calls of a game -/

/-- The engine of a game, for hooks on the world. -/
def Game.engine (game : Game) : Engine World := .fixed game.book game.registry

theorem Game.engine_eq {characters : Table Character} {presets : Fields Json} {game : Game}
    (hregistry : game.registry = builtinRegistry characters presets) :
    game.engine = .fixed game.book (builtinRegistry characters presets) := by
  rw [Game.engine, hregistry]

/-- No built-in action has anything to do when a game starts. -/
theorem Game.prepared_eq {characters : Table Character} {presets : Fields Json} {game : Game}
    (hregistry : game.registry = builtinRegistry characters presets) :
    game.engine.prepared game.world = game.setPlaying.world := by
  rw [engine_eq hregistry]
  rfl

/-- What a computation on the world comes to, as one on the game. -/
def Game.resulting (game : Game) : EStateM.Result Fault World Unit → EStateM.Result Fault Game Unit
  | .ok value world => .ok value { game with world := world }
  | .error fault world => .error fault { game with world := world }

theorem ofPlay_eq_resulting (play : Playbook → Registry → Play Unit) (game : Game) :
    Turn.ofPlay play game = game.resulting (play game.book game.registry game.world) := by
  unfold Turn.ofPlay
  cases play game.book game.registry game.world <;> rfl

/-- What a call comes to has the fault of what its statements come to. -/
theorem isCut_resulting (game : Game) (result : EStateM.Result Fault World Unit) :
    Result.isCut (game.resulting result) = Result.isCut result := by
  cases result <;> rfl

namespace Launch

variable {characters : Table Character} {presets : Fields Json} {game : Game} {launch : Launch}
  {limit : Nat} {ran : List Due} {last : Due} {deeds : List Deed}
  {result : EStateM.Result Fault World Unit}

/-- The turn of a call. -/
def turn : Launch → Turn Unit
  | run statement advance => Game.run statement advance
  | next => Game.next
  | start => Game.start

/-- The world from which the first statement is fetched. -/
def world (game : Game) : Launch → World
  | run _ _ => game.world
  | next => Next.step game.book game.world
  | start => game.setPlaying.world

/-- **A call of a game comes to what it comes to in its engine.** -/
theorem turn_of_makes (h : launch.Makes game.engine game.world deeds result) :
    launch.turn game = game.resulting result := by
  cases launch with
  | run statement advance =>
    obtain ⟨deeds', hruns, -⟩ := Engine.runs_fixed (Nat.sub_zero _) statement advance game.world
    rw [(Engine.Runs.unique hruns h).2]
    exact ofPlay_eq_resulting (fun book registry => Run.run book registry statement advance) game
  | next =>
    rw [(Engine.Fetches.unique (Engine.nexts_fixed game.world) h).2]
    exact ofPlay_eq_resulting _ _
  | start =>
    obtain ⟨deeds', result', hstarts, hturn, -⟩ := Engine.starts_fixed game
    rw [(Engine.Starts.unique hstarts h).2]
    exact hturn.trans (ofPlay_eq_resulting _ _)

theorem turn_of_leads (hregistry : game.registry = builtinRegistry characters presets)
    (h : launch.Leads game.engine game.world ran last) (hfull : ran.length = limit) :
    launch.turn (game.limited limit)
      = (game.limited limit).resulting
          (.error (.chainLimit limit last.state.cursor) last.state) := by
  have hheedless : game.engine.Heedless := by
    rw [Game.engine_eq hregistry]
    exact Engine.heedless_fixed game.book
  exact turn_of_makes (makes_of_leads h hheedless hfull)

theorem turn_of_ends (hregistry : game.registry = builtinRegistry characters presets)
    (h : launch.Ends game.engine game.world ran result) (hwithin : ran.length ≤ limit) :
    launch.turn (game.limited limit) = (game.limited limit).resulting result := by
  have hheedless : game.engine.Heedless := by
    rw [Game.engine_eq hregistry]
    exact Engine.heedless_fixed game.book
  exact turn_of_makes (makes_of_ends h hheedless hwithin)

/-- A chain, by the built-in actions or by these within a state that is the world. -/
theorem chain_world {book other : Playbook} {actions : Registry} (allowed : Nat)
    (statement : Statement) (advance : Bool) :
    Run.chain book ((builtinRegistry characters presets).within (.fixed other actions)) allowed
        statement advance
      = Run.chain book (builtinRegistry characters presets) allowed statement advance := by
  induction allowed generalizing statement advance with
  | zero => rfl
  | succ allowed ih => simp only [Run.chain, perform_world, ih]

/-- **A call of a game, by the built-in actions**, comes to what it comes to by these within a state
that is the world. -/
theorem turn_of_makes_within (hregistry : game.registry = builtinRegistry characters presets)
    (h : launch.Makes
      (.fixed game.book ((builtinRegistry characters presets).within game.engine)) game.world deeds
      result) :
    launch.turn game = game.resulting result := by
  cases launch with
  | run statement advance =>
    obtain ⟨deeds', hruns, -⟩ := Engine.runs_fixed (Nat.sub_zero _) statement advance game.world
    have hturn := ofPlay_eq_resulting (fun book registry => Run.run book registry statement advance)
      game
    rw [(Engine.Runs.unique hruns h).2]
    refine hturn.trans (congrArg _ ?_)
    rw [Game.engine, chain_world, Run.run, hregistry]
  | next =>
    rw [(Engine.Fetches.unique (Engine.nexts_fixed game.world) h).2]
    refine (ofPlay_eq_resulting _ game).trans (congrArg _ ?_)
    simp only [Run.next, Run.run, Game.engine, chain_world, hregistry]
  | start =>
    have htold : (Engine.fixed game.book
          ((builtinRegistry characters presets).within game.engine)).each Action.onStart
            (game.engine.setPlaying game.world)
        = .ok () game.setPlaying.world := rfl
    cases h with
    | refused told => cases htold.symm.trans told
    | runs told runs =>
      cases htold.symm.trans told
      obtain ⟨deeds', hfetches, -⟩ := Engine.fetches_fixed true game.setPlaying.world
      rw [(Engine.Fetches.unique hfetches runs).2]
      refine (start_eq hregistry).trans ((ofPlay_eq_resulting _ game.setPlaying).trans
        (congrArg _ ?_))
      have hsame : game.setPlaying.registry = builtinRegistry characters presets := hregistry
      simp only [Run.runCurrent, Run.run, Game.engine, chain_world, hsame]
      rfl

end Launch

/-- **The limit on a chain only cuts it, exactly.**  By the built-in actions, for any script, with
callbacks that may read and change anything but the limit, and for a call from any state:

* it comes to an end, and to one only, and runs at most as many statements as the limit allows;
* if it is not cut, it runs the same and comes to the same under every larger limit;
* if no callback raises the fault itself, it is cut exactly if as many statements as the limit
  allows have another one due after them;
* when it is cut after these statements, it leaves the state that they leave, with the cursor on the
  statement that is due.  A statement that was given and may not be run is due wherever the cursor
  is, and the cursor stays there. -/
theorem limit_only_cuts {σ : Type} {engine : Engine σ} {characters : Table Character}
    {presets : Fields Json}
    (hregistry : ∀ s, engine.registry s = (builtinRegistry characters presets).within engine)
    (launch : Launch σ) (s : σ) (limit : Nat) :
    ∃ deeds result, launch.Makes (engine.limited limit) s deeds result
      ∧ (∀ deeds' result', launch.Makes (engine.limited limit) s deeds' result' →
        deeds' = deeds ∧ result' = result)
      ∧ deeds.length ≤ limit
      ∧ (Result.isCut result = false → ∀ larger, limit ≤ larger →
        launch.Makes (engine.limited larger) s deeds result)
      ∧ (launch.Candid engine s →
        (Result.isCut result = true
          ↔ ∃ ran last, ran.length = limit ∧ launch.Leads engine s ran last))
      ∧ ∀ ran last, ran.length = limit → launch.Leads engine s ran last →
        deeds = ran.map engine.deedOf
          ∧ result = .error (.chainLimit limit (engine.cursor last.state)) last.state
          ∧ (ran ≠ [] ∨ (∀ statement advance, launch ≠ .run statement advance) →
            engine.current? last.state = some last.statement) := by
  have hheedless := Engine.heedless_within hregistry
  obtain ⟨deeds, result, hmakes⟩ := launch.exists_makes hheedless s limit
  refine ⟨deeds, result, hmakes, fun _ _ => Launch.makes_unique hmakes,
    Launch.length_le_of_makes hheedless hmakes,
    fun huncut _ => Launch.makes_of_uncut hheedless hmakes huncut,
    fun hcandid => Launch.isCut_iff hheedless hcandid hmakes, fun ran last hfull hleads => ?_⟩
  obtain ⟨hdeeds, hresult⟩ :=
    Launch.makes_unique (Launch.makes_of_leads hleads hheedless hfull) hmakes
  exact ⟨hdeeds, hresult, fun hfetched => (Launch.current_of_leads hleads hfetched).1⟩

/-! ## A story with two statements before its first line -/

/-- A story whose first line is its third statement. -/
def stairStory : Story :=
  { script := .obj [("Start", .arr [.str "next", .str "next", .str "At the top."])]
    characters := Table.empty
    particles := []
    storage := []
    settings := { typeAnimation := false } }

/-- The game of the story. -/
def stairMade : Game := (stairStory.gameWith? stairStory.registry).get (by decide +kernel)

/-- The game, set up. -/
def stairReady : Game := Result.left (Game.setup (stairMade.withPreferences {}))

/-- Every statement of the story is a line. -/
theorem stair_text {cursor : Cursor} {statement : Statement}
    (h : stairReady.book.statement? cursor = some statement) : ∃ line, statement = .text line := by
  obtain ⟨statements, hlabel, hstep⟩ := Option.bind_eq_some_iff.1 h
  have hfound : (Table.empty.insert "Start" [.text "next", .text "next", .text "At the top."]).get?
      cursor.label = some statements := hlabel
  rw [Table.get?_insert] at hfound
  split at hfound
  · obtain rfl := Option.some.inj hfound
    have hmem := List.mem_of_getElem? hstep
    simp only [List.mem_cons, List.not_mem_nil, or_false] at hmem
    rcases hmem with rfl | rfl | rfl <;> exact ⟨_, rfl⟩
  · cases hfound

/-- The engine of the game, with the built-in actions within its state. -/
def stairEngine : Engine World :=
  .fixed stairReady.book
    ((builtinRegistry stairStory.characters stairStory.particles).within stairReady.engine)

/-- Three statements are enough for its start, and no more changes anything; two are not: they are
run, one more is due, and the cursor is left on it. -/
theorem limit_only_cuts_stair :
    (∃ result, ∀ larger, 3 ≤ larger →
        Game.start (stairReady.limited larger) = (stairReady.limited larger).resulting result)
      ∧ (∃ ran last, ran.length = 2 ∧ Launch.start.Leads stairEngine stairReady.world ran last
        ∧ stairEngine.current? last.state = some last.statement)
      ∧ (Result.left (Game.start (stairReady.limited 2))).cursor = ⟨"Start", 2⟩ := by
  have hmade : stairStory.gameWith? stairStory.registry = some stairMade :=
    (Option.some_get _).symm
  have hready : Game.setup (stairMade.withPreferences {}) = .ok () stairReady := setup_ok_left rfl
  have hregistry := (ready_parts hmade hready).1
  have hturn : ∀ {limit deeds result},
      Launch.start.Makes (stairEngine.limited limit) stairReady.world deeds result →
      Game.start (stairReady.limited limit) = (stairReady.limited limit).resulting result :=
    fun {limit _ _} hmakes =>
      @Launch.turn_of_makes_within _ _ (stairReady.limited limit) .start _ _ hregistry hmakes
  have hwithin : ∀ s, stairEngine.registry s
      = (builtinRegistry stairStory.characters stairStory.particles).within stairEngine :=
    fun _ => rfl
  obtain ⟨_, long, hlong, -, -, hlarger, -⟩ := limit_only_cuts hwithin .start stairReady.world 3
  obtain ⟨_, short, hshort, -, -, -, hexact, hplace⟩ :=
    limit_only_cuts hwithin .start stairReady.world 2
  have huncut : Result.isCut long = false := by
    rw [← isCut_resulting (stairReady.limited 3), ← hturn hlong]
    decide +kernel
  have hcut : Result.isCut short = true := by
    rw [← isCut_resulting (stairReady.limited 2), ← hturn hshort]
    decide +kernel
  have hfetched : ∀ (statement : Statement) advance, Launch.start ≠ .run statement advance := by
    rintro statement advance ⟨⟩
  have hcandid : Launch.start.Candid stairEngine stairReady.world := by
    intro ran last run hleads hstatement
    obtain ⟨line, hline⟩ := stair_text (Launch.current_of_leads hleads (.inr hfetched)).1
    cases hstatement.symm.trans hline
  obtain ⟨ran, last, hfull, hleads⟩ := (hexact hcandid).1 hcut
  refine ⟨⟨long, fun larger hle => hturn (hlarger huncut larger hle)⟩,
    ⟨ran, last, hfull, hleads, ?_⟩, by decide +kernel⟩
  exact (hplace ran last hfull hleads).2.2 (.inr hfetched)

/-- A callback that raises the fault of the limit. -/
def bluff : Statement := .callback (Play.fail (.chainLimit 0 ⟨"Start", 0⟩))

/-- A world, and the limit of the moment. -/
structure Ration where
  /-- The world. -/
  world : World
  /-- The limit on a chain. -/
  limit : Nat

/-- A callback that lowers the limit. -/
def ebb : Statement Ration := .callback fun s => .ok () { s with limit := 0 }

/-- A callback that writes down the limit. -/
def gauge : Statement Ration :=
  .callback fun s => .ok () { s with world := s.world.setVar "limit" (.ofNat s.limit) }

/-- The engine of a story in which the limit is lowered before its line, by any actions. -/
def rationed (registry : Registry Ration) : Engine Ration where
  book s := {
    script := .single (Table.empty.insert "Start" [ebb, .text "At the top."])
    settings := { maxChain := s.limit } }
  registry _ := registry
  world := Ration.world
  withWorld s new := { s with world := new }
  world_withWorld _ _ := rfl
  book_withWorld _ _ := rfl
  registry_withWorld _ _ := rfl

/-- The beginning of the story, under a limit. -/
def Ration.opened (limit : Nat) : Ration := ⟨{ state := State.start "Start" }, limit⟩

/-- **What does not hold of every call.**  A callback that raises the fault itself has a call cut
that may run one statement more, and after it none is due.  A callback that lowers the limit has a
call cut that has run one statement of two.  A callback that reads the limit leaves another world
under each.  And when nothing may be run, a line that is given is due with the cursor on another
one. -/
theorem limit_not_exact :
    (Result.isCut ((Launch.run bluff true).turn (stairReady.limited 2)) = true
        ∧ ¬ ∃ ran last, ran.length = 2
          ∧ (Launch.run bluff true).Leads stairReady.engine stairReady.world ran last)
      ∧ (∀ registry, ∃ deeds left, deeds.length = 1
        ∧ (rationed registry).Runs 0 ebb true (.opened 2) deeds
          (.error (.chainLimit 0 ⟨"Start", 1⟩) left))
      ∧ (∀ registry limit, ∃ deeds after,
        (rationed registry).Runs 0 gauge false (.opened (limit + 1)) deeds (.ok () after)
          ∧ after.world.state.get? "limit" = some (.ofNat (limit + 1)))
      ∧ Result.isCut (Game.run (.text "At the top.") true (stairReady.limited 0)) = true
      ∧ ((stairReady.book.current? (Result.left
          (Game.run (.text "At the top.") true (stairReady.limited 0))).world).bind
            Statement.asText?) = some "next" := by
  refine ⟨⟨rfl, ?_⟩, fun registry => ⟨_, _, rfl, .goes (Nat.zero_lt_succ 1) rfl
    (.cut (Nat.zero_le _))⟩, fun registry limit => ⟨_, _, .ends (Nat.succ_pos limit) rfl, rfl⟩, rfl,
    by decide +kernel⟩
  rintro ⟨ran, last, hlength, first, hfirst, hleads⟩
  obtain rfl := Option.some.inj hfirst
  cases hleads with
  | nil => cases hlength
  | cons goes rest =>
    cases goes with
    | advance performed found => cases performed
    | enter performed found => cases performed

end Narrative

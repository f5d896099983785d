import Mathlib.Tactic
import Pootown.Invariants.Moves
import Pootown.Invariants.Trades
import Pootown.Invariants.Versions
import Pootown.Serialization.GameplaySnapshot
import Pootown.Server.SecureRandom

/-!
# Restarts

A room that is restarted reads its state back from the checkpoint, and forks a source made anew.

* `GameplayStep.rng`: what a command makes of the random checkpoint;
* `serve`, `serveAll`: commands served one after the other, some of them after a restart;
* `Draw`: from one random checkpoint to the next, with the blocks read in between;
* `restarts_transparent`.
-/

namespace Pootown

/-! ### Commands that draw -/

/-- The commands that roll the dice or draw a card. -/
def GameplayCommandBody.draws : GameplayCommandBody → Bool
  | .turn .endTurn => false
  | .turn _ => true
  | .card _ => true
  | _ => false

/-- The random checkpoint is the one after a draw, or the same. -/
theorem GameplayStep.rng {state : ActiveGameplayAggregateState} {state' : GameplayAggregateState}
    {body : GameplayCommandBody} {context : GameplayCommandContext}
    {events : List GameplayDomainEvent} (h : GameplayStep state context body state' events) :
    (∃ command dice, body = .turn command ∧ command ≠ .endTurn ∧
      drawGameplayDice state context.randomSource = .ok (dice, state'.base.rng)) ∨
    (∃ command cardId, body = .card command ∧
      drawGameplayCard state context.randomSource = .ok (cardId, state'.base.rng)) ∨
    (body.draws = false ∧ state'.base.rng = state.rng) := by
  cases h with
  | turn command current active _ hc hstep =>
    cases hstep with
    | endTurn turn hphase hpass => exact .inr (.inr ⟨rfl, rfl⟩)
    | roll _ dice rng _ _ hcommand hphase hdraw hroll =>
      refine .inl ⟨_, dice, rfl, hcommand, ?_⟩
      cases hroll <;> exact hdraw
  | property command current active _ hnone hc hstep =>
    exact .inr (.inr ⟨rfl, by cases hstep <;> rfl⟩)
  | jail command current active _ hphase hc hstep =>
    exact .inr (.inr ⟨rfl, by cases hstep <;> rfl⟩)
  | card command current cardId rng resolution active _ hphase hc hdraw hres hstep =>
    refine .inr (.inl ⟨_, cardId, rfl, ?_⟩)
    cases hstep <;> exact hdraw
  | bankruptcy current resolution _ _ hphase hc helim hstep =>
    exact .inr (.inr ⟨rfl, by cases hstep <;> rfl⟩)
  | trade command active _ hnone hstep => exact .inr (.inr ⟨rfl, by cases hstep <;> rfl⟩)
  | timeout command current _ _ hactor hnone hlimit hc hstep =>
    exact .inr (.inr ⟨rfl, by cases hstep <;> rfl⟩)

namespace Server

open Fallible Snapshot SecureRandomSource Slots

/-! ### Serving commands -/

/-- A gameplay command, who gives it, the room's time and the identifier of the trade it opens. -/
structure GameplayInput where
  command : GameplayCommand
  actor : GameplayCommandActor
  nowMs : ℤ
  tradeId : Option String

/-- A command at a process, restarted before it or not, and the seed the process draws for it. -/
structure ServedCommand where
  restarted : Bool
  freshSeed : Bytes32
  input : GameplayInput

/-- What a command comes to, with the blocks its draw has read. -/
structure Answer where
  result : GameplayAggregateTransitionResult
  blocks : List ℕ

namespace Answer

/-- The state after a command, which a rejection hands back. -/
def state (answer : Answer) : GameplayAggregateState :=
  match answer.result with
  | .ok (state, _) => state
  | .error rejection => rejection.state

/-- The blocks an accepted command has read. -/
def taken (answer : Answer) : List ℕ :=
  match answer.result with
  | .ok _ => answer.blocks
  | .error _ => []

variable {answer : Answer} {rejection : GameplayRejection}
  {outcome : GameplayAggregateState × List GameplayDomainEvent}

theorem state_of_error (h : answer.result = .error rejection) : answer.state = rejection.state := by
  rw [state, h]

theorem state_of_ok (h : answer.result = .ok outcome) : answer.state = outcome.1 := by
  rw [state, h]

theorem taken_of_error (h : answer.result = .error rejection) : answer.taken = [] := by
  rw [taken, h]

theorem taken_of_ok (h : answer.result = .ok outcome) : answer.taken = answer.blocks := by
  rw [taken, h]

end Answer

section Served

variable (hmac : Bytes32 → ℕ → Bytes32) (localeCompare : String → String → ℤ)

/-- The blocks read by a cursor of its own for the draw of a command, if it draws. -/
def commandBlocks (source : SecureRandomSource) (rng : RandomCheckpoint) :
    GameplayCommandBody → List ℕ
  | .turn .endTurn => []
  | .turn _ => ((forkGameplayRandomSource (secureRandomSource hmac source) rng).bind
      (rollDice (secureRandomSource hmac source))).elim [] fun (_, cursor) =>
        SecureRandomSource.blocksRead cursor
  | .card _ => ((forkGameplayRandomSource (secureRandomSource hmac source) rng).bind
      (drawCardId (secureRandomSource hmac source))).elim [] fun (_, _, cursor) =>
        SecureRandomSource.blocksRead cursor
  | _ => []

/-- A new source, forked where the state says. -/
def resumableRandomSource (freshSeed : Bytes32) (state : GameplayAggregateState) :
    Option SecureRandomSource :=
  (SecureRandomSource.fresh freshSeed).fork state.base.rng

/-- The state that is read back from its own checkpoint. -/
def restart (state : GameplayAggregateState) : Except SnapshotError GameplayAggregateState := do
  let serialized ← serializeGameplaySnapshot localeCompare state
  parseGameplaySnapshot localeCompare serialized

def answer (source : SecureRandomSource) (state : GameplayAggregateState) (input : GameplayInput) :
    Answer where
  result := transitionGameplay state input.command {
    actor := input.actor
    nowMs := input.nowMs
    randomSource := secureRandomSource hmac source
    tradeId := input.tradeId }
  blocks := commandBlocks hmac source state.base.rng input.command.body

/-- `none`: there is no checkpoint to restart from, or the random checkpoint cannot be resumed. -/
def serve (state : GameplayAggregateState) (served : ServedCommand) : Option Answer := do
  let state ← if served.restarted then (restart localeCompare state).toOption else some state
  let source ← resumableRandomSource served.freshSeed state
  return answer hmac source state served.input

def serveAll (state : GameplayAggregateState) :
    List ServedCommand → Option (List Answer × GameplayAggregateState)
  | [] => some ([], state)
  | served :: rest => do
    let answer ← serve hmac localeCompare state served
    let (answers, final) ← serveAll answer.state rest
    return (answer :: answers, final)

/-- The commands that leave a valid aggregate when accepted. -/
def UndisturbingBody (state : GameplayAggregateState) : GameplayCommandBody → Prop
  | .trade trade => ∀ active, state = .inProgress active → Undisturbing active trade
  | _ => True

/-- No accepted command settles a trade that disturbs. -/
def UndisturbedRun (start : GameplayAggregateState) (commands : List ServedCommand) : Prop :=
  ∀ before served after, commands = before ++ served :: after →
    ∀ answers state, serveAll hmac localeCompare start before = some (answers, state) →
      ∀ given, serve hmac localeCompare state served = some given →
        ∀ outcome, given.result = .ok outcome → UndisturbingBody state served.input.command.body

end Served

/-! ### One draw -/

/-- The first block a source reads that is resumed at a checkpoint. -/
def nextBlock (rng : RandomCheckpoint) : ℕ :=
  match decodeState rng.state with
  | some (_, counter) => counter
  | none => 0

/-- The blocks of a draw are the next ones. -/
structure Draw (rng rng' : RandomCheckpoint) (blocks : List ℕ) : Prop where
  block_le : nextBlock rng ≤ nextBlock rng'
  blocks_eq : blocks = List.range' (nextBlock rng) (nextBlock rng' - nextBlock rng)
  resumes (source : SecureRandomSource) : source.canResume rng' = true

theorem Draw.trans {rng₁ rng₂ rng₃ : RandomCheckpoint} {blocks blocks' : List ℕ}
    (h : Draw rng₁ rng₂ blocks) (h' : Draw rng₂ rng₃ blocks') :
    Draw rng₁ rng₃ (blocks ++ blocks') where
  block_le := h.block_le.trans h'.block_le
  blocks_eq := by
    obtain ⟨m, hm⟩ := Nat.exists_eq_add_of_le h.block_le
    obtain ⟨n, hn⟩ := Nat.exists_eq_add_of_le h'.block_le
    rw [h.blocks_eq, h'.blocks_eq, hn, hm, Nat.add_sub_cancel_left, Nat.add_sub_cancel_left,
      List.range'_append_1]
    congr 1
    omega
  resumes := h'.resumes

theorem nextBlock_of_fork {this source : SecureRandomSource} {rng : RandomCheckpoint}
    (h : this.fork rng = some source) : nextBlock rng = source.counter := by
  unfold fork at h
  split_ifs at h
  cases hdecode : decodeState rng.state with
  | none => simp [hdecode] at h
  | some decoded =>
    simp only [hdecode, Option.bind_eq_bind, Option.bind_some, Option.pure_def,
      Option.some.injEq] at h
    subst h
    simp [nextBlock, hdecode]

/-- Bytes drawn from a fork are a draw, and move the checkpoint. -/
theorem draw_of_drawn {this forked cursor : SecureRandomSource} {rng : RandomCheckpoint}
    (hfork : this.fork rng = some forked) (h : Drawn forked cursor)
    (hvalid : ValidRandomCheckpoint cursor.checkpoint) :
    cursor.checkpoint ≠ rng ∧ Draw rng cursor.checkpoint cursor.blocksRead := by
  obtain ⟨n, hn, rfl⟩ := h
  have hnext := fork_checkpoint hfork hvalid.2.2.2.2.2.2.1
  obtain ⟨-, hdraws, -, -, hread, -⟩ := fork_eq_some hfork
  refine ⟨fun heq => ?_, ?_, ?_, fun source => (fork_eq_some hnext).1⟩
  · -- the number of draws has grown
    rw [← heq] at hdraws
    simp only [checkpoint, advance, Nat.cast_inj] at hdraws
    omega
  · rw [nextBlock_of_fork hfork, nextBlock_of_fork hnext]
    exact Nat.le_add_right _ _
  · rw [nextBlock_of_fork hfork, nextBlock_of_fork hnext]
    simp [advance, hread]

section Drawing

variable {hmac : Bytes32 → ℕ → Bytes32} {source : SecureRandomSource}
  {state : ActiveGameplayAggregateState} {rng : RandomCheckpoint}

theorem readRandomCheckpoint_secure {cursor : (secureRandomSource hmac source).Cursor}
    (h : readRandomCheckpoint (secureRandomSource hmac source) cursor = some rng) :
    rng = SecureRandomSource.checkpoint cursor ∧ ValidRandomCheckpoint rng := by
  have hvalid := readRandomCheckpoint_valid h
  simp only [readRandomCheckpoint, secureRandomSource, Option.ite_none_right_eq_some,
    Option.some.injEq] at h
  exact ⟨h.2.symm, hvalid⟩

theorem draw_of_dice {command : GameplayTurnCommand} {dice : DiceRoll} (hne : command ≠ .endTurn)
    (h : drawGameplayDice state (secureRandomSource hmac source) = .ok (dice, rng)) :
    rng ≠ state.rng ∧ Draw state.rng rng (commandBlocks hmac source state.rng (.turn command)) := by
  simp only [drawGameplayDice, bind_eq_ok, requireSome_eq_ok, require_eq_ok, Prod.exists,
    pure_eq_ok] at h
  obtain ⟨cursor, hfork, dice, cursor', hroll, rng, hread, _, _, heq⟩ := h
  cases heq
  obtain ⟨rfl, hvalid⟩ := readRandomCheckpoint_secure hread
  have hblocks : commandBlocks hmac source state.rng (.turn command)
      = SecureRandomSource.blocksRead cursor' := by
    cases command with
    | endTurn => exact absurd rfl hne
    | rollDice | resolveRandomDice => simp [commandBlocks, hfork, hroll]
  rw [forkGameplayRandomSource_secure] at hfork
  rw [hblocks]
  exact draw_of_drawn hfork (rollDice_drawn hroll) hvalid

theorem draw_of_card {command : GameplayCardCommand} {cardId : ℕ}
    (h : drawGameplayCard state (secureRandomSource hmac source) = .ok (cardId, rng)) :
    rng ≠ state.rng ∧ Draw state.rng rng (commandBlocks hmac source state.rng (.card command)) := by
  simp only [drawGameplayCard, bind_eq_ok, requireSome_eq_ok, require_eq_ok, Prod.exists,
    pure_eq_ok] at h
  obtain ⟨cursor, hfork, cardId, bytesConsumed, cursor', hcard, rng, hread, _, _, heq⟩ := h
  cases heq
  obtain ⟨rfl, hvalid⟩ := readRandomCheckpoint_secure hread
  have hblocks : commandBlocks hmac source state.rng (.card command)
      = SecureRandomSource.blocksRead cursor' := by
    simp [commandBlocks, hfork, hcard]
  rw [forkGameplayRandomSource_secure] at hfork
  rw [hblocks]
  exact draw_of_drawn hfork (drawCardIdFrom_drawn hcard) hvalid

/-- An accepted command moves the random checkpoint when it draws, and only then. -/
theorem draw_of_step {state' : GameplayAggregateState} {context : GameplayCommandContext}
    {body : GameplayCommandBody} {events : List GameplayDomainEvent}
    (hsource : context.randomSource = secureRandomSource hmac source)
    (hresume : source.canResume state.rng = true)
    (h : GameplayStep state context body state' events) :
    (state'.base.rng ≠ state.rng ↔ body.draws = true) ∧
      Draw state.rng state'.base.rng (commandBlocks hmac source state.rng body) := by
  obtain ⟨command, dice, rfl, hne, hdraw⟩ | ⟨command, cardId, rfl, hdraw⟩ | ⟨hquiet, hrng⟩ := h.rng
  · rw [hsource] at hdraw
    obtain ⟨hmoved, hdrawn⟩ := draw_of_dice hne hdraw
    have hdraws : GameplayCommandBody.draws (.turn command) = true := by
      cases command with
      | endTurn => exact absurd rfl hne
      | rollDice | resolveRandomDice => rfl
    exact ⟨iff_of_true hmoved hdraws, hdrawn⟩
  · rw [hsource] at hdraw
    obtain ⟨hmoved, hdrawn⟩ := draw_of_card hdraw
    exact ⟨iff_of_true hmoved rfl, hdrawn⟩
  · have hblocks : commandBlocks hmac source state.rng body = [] := by
      cases body with
      | turn command => cases command <;> first | rfl | cases hquiet
      | card command => cases hquiet
      | _ => rfl
    rw [hrng, hblocks, hquiet]
    exact ⟨by simp, le_rfl, by simp, fun _ => hresume⟩

end Drawing

/-! ### Served commands -/

section Answers

variable {hmac : Bytes32 → ℕ → Bytes32} {localeCompare : String → String → ℤ}
  {source : SecureRandomSource} {state : GameplayAggregateState}

theorem restart_of_valid (h : isValidGameplayAggregateState state = true) :
    restart localeCompare state = .ok state := by
  obtain ⟨text, hwritten, hread⟩ := parseGameplaySnapshot_serializeGameplaySnapshot h
  exact bind_eq_ok.2 ⟨text, hwritten, hread⟩

/-- Only a valid aggregate can be restarted from. -/
theorem restart_eq_ok {state' : GameplayAggregateState} :
    restart localeCompare state = .ok state' ↔
      isValidGameplayAggregateState state = true ∧ state' = state := by
  constructor
  · intro h
    obtain ⟨text, hwritten, -⟩ := bind_eq_ok.1 h
    have hvalid := valid_of_serializeGameplaySnapshot hwritten
    rw [restart_of_valid hvalid] at h
    exact ⟨hvalid, (Except.ok.inj h).symm⟩
  · rintro ⟨hvalid, rfl⟩
    exact restart_of_valid hvalid

theorem serve_eq {this : SecureRandomSource} {served : ServedCommand}
    (hfork : this.fork state.base.rng = some source)
    (h : served.restarted = true → isValidGameplayAggregateState state = true) :
    serve hmac localeCompare state served = some (answer hmac source state served.input) := by
  have hsource : resumableRandomSource served.freshSeed state = some source := hfork
  unfold serve
  cases hrestarted : served.restarted with
  | false => simp [hsource]
  | true => simp [restart_of_valid (h hrestarted), Except.toOption, hsource]

/-- What a command at a resumable state comes to, whether it is accepted or not. -/
structure Answered (state : GameplayAggregateState) (body : GameplayCommandBody) (given : Answer) :
    Prop where
  draw : Draw state.base.rng given.state.base.rng given.taken
  rejected (rejection : GameplayRejection) : given.result = .error rejection →
    rejection.state = state
  accepted (state' : GameplayAggregateState) (events : List GameplayDomainEvent) :
    given.result = .ok (state', events) →
      (state'.base.rng ≠ state.base.rng ↔ body.draws = true) ∧ given.taken = given.blocks

theorem answered (hresume : source.canResume state.base.rng = true) (input : GameplayInput) :
    Answered state input.command.body (answer hmac source state input) := by
  cases hresult : (answer hmac source state input).result with
  | error rejection =>
    have hback : rejection.state = state :=
      transitionGameplay_handsBack state input.command rejection hresult
    refine ⟨?_, fun _ h => ?_, fun _ _ h => ?_⟩
    · rw [Answer.state_of_error hresult, Answer.taken_of_error hresult, hback]
      exact ⟨le_rfl, by simp, fun _ => hresume⟩
    · cases hresult.symm.trans h
      exact hback
    · cases hresult.symm.trans h
  | ok outcome =>
    obtain ⟨state', events⟩ := outcome
    obtain ⟨active, rfl, -⟩ := transitionGameplay_version hresult
    obtain ⟨-, hstep⟩ := transitionGameplay_step hresult
    obtain ⟨hmoved, hdraw⟩ := draw_of_step rfl hresume hstep
    refine ⟨?_, fun _ h => ?_, fun _ _ h => ?_⟩
    · rw [Answer.state_of_ok hresult, Answer.taken_of_ok hresult]
      exact hdraw
    · cases hresult.symm.trans h
    · cases hresult.symm.trans h
      exact ⟨hmoved, Answer.taken_of_ok hresult⟩

/-- An accepted command leaves a valid aggregate, unless it settles a trade that disturbs. -/
theorem valid_iff_undisturbing {state' : GameplayAggregateState} {command : GameplayCommand}
    {context : GameplayCommandContext} {events : List GameplayDomainEvent}
    (h : transitionGameplay state command context = .ok (state', events)) :
    isValidGameplayAggregateState state' = true ↔ UndisturbingBody state command.body := by
  obtain ⟨active, rfl, -⟩ := transitionGameplay_version h
  obtain ⟨hadm, hstep⟩ := transitionGameplay_step h
  rw [isValidGameplayAggregateState_iff]
  cases hbody : command.body with
  | trade trade =>
    rw [hbody] at hstep
    cases hstep with
    | trade _ next _ hnone htrade =>
      refine (htrade.valid_iff hadm).trans ⟨fun h _ heq => ?_, fun h => h active rfl⟩
      cases heq
      exact h
  | _ => exact iff_of_true (hstep.valid hadm (by simp [hbody])) trivial

theorem UndisturbedRun.tail {start : GameplayAggregateState} {served : ServedCommand}
    {rest : List ServedCommand} {given : Answer}
    (h : UndisturbedRun hmac localeCompare start (served :: rest))
    (hserve : serve hmac localeCompare start served = some given) :
    UndisturbedRun hmac localeCompare given.state rest := by
  intro before next after hrest answers state hbefore
  refine h (served :: before) next after (by rw [hrest]; rfl) (given :: answers) state ?_
  simp [serveAll, hserve, hbefore]

/-- The answers to an undisturbed run are the same whatever is restarted in between. -/
theorem serveAll_of_undisturbed {start : GameplayAggregateState} {commands : List ServedCommand}
    (hvalid : isValidGameplayAggregateState start = true)
    (hresume : ∀ source : SecureRandomSource, source.canResume start.base.rng = true)
    (h : UndisturbedRun hmac localeCompare start commands) : ∃ answers final,
      Draw start.base.rng final.base.rng (answers.flatMap Answer.taken) ∧
      ∀ commands', commands'.map ServedCommand.input = commands.map ServedCommand.input →
        serveAll hmac localeCompare start commands' = some (answers, final) := by
  induction commands generalizing start with
  | nil =>
    refine ⟨[], start, ⟨le_rfl, by simp, hresume⟩, fun commands' hsame => ?_⟩
    rw [List.map_nil, List.map_eq_nil_iff] at hsame
    rw [hsame, serveAll]
  | cons served rest ih =>
    obtain ⟨source, hfork⟩ := exists_fork (hresume (.fresh served.freshSeed))
    have hserve (other : ServedCommand) : serve hmac localeCompare start other
        = some (answer hmac source start other.input) := serve_eq hfork fun _ => hvalid
    have hgiven : Answered start served.input.command.body
        (answer hmac source start served.input) := answered (hresume source) served.input
    have hnext : isValidGameplayAggregateState (answer hmac source start served.input).state
        = true := by
      cases hresult : (answer hmac source start served.input).result with
      | error rejection =>
        rwa [Answer.state_of_error hresult, hgiven.rejected rejection hresult]
      | ok outcome =>
        rw [Answer.state_of_ok hresult]
        exact (valid_iff_undisturbing hresult).2
          (h [] served rest rfl [] start rfl _ (hserve served) outcome hresult)
    obtain ⟨answers, final, hdraw, hrest⟩ := ih hnext hgiven.draw.resumes (h.tail (hserve served))
    refine ⟨answer hmac source start served.input :: answers, final, hgiven.draw.trans hdraw,
      fun commands' hsame => ?_⟩
    obtain ⟨other, rest', rfl, hinput, hrest'⟩ := List.map_eq_cons_iff.1 hsame
    simp [serveAll, hserve, hinput, hrest rest' hrest']

end Answers

/-- A served command is one at a valid aggregate, or at one that was not restarted. -/
theorem exists_answer {state : GameplayAggregateState} {served : ServedCommand} {given : Answer}
    (h : serve hmac localeCompare state served = some given) :
    ∃ source, given = answer hmac source state served.input := by
  unfold serve at h
  cases hrestarted : served.restarted with
  | false =>
    simp only [hrestarted, Bool.false_eq_true, if_false, Option.bind_eq_bind, Option.bind_some,
      Option.bind_eq_some_iff, Option.pure_def, Option.some.injEq] at h
    obtain ⟨source, -, rfl⟩ := h
    exact ⟨source, rfl⟩
  | true =>
    cases hread : restart localeCompare state with
    | error error => simp [hrestarted, hread, Except.toOption] at h
    | ok state' =>
      obtain ⟨-, rfl⟩ := restart_eq_ok.1 hread
      simp only [hrestarted, if_true, hread, Except.toOption, Option.bind_eq_bind,
        Option.bind_some, Option.bind_eq_some_iff, Option.pure_def, Option.some.injEq] at h
      obtain ⟨source, -, rfl⟩ := h
      exact ⟨source, rfl⟩

theorem undisturbedRun_of_bodies {start : GameplayAggregateState} {commands : List ServedCommand}
    (h : ∀ served ∈ commands, ∀ state, UndisturbingBody state served.input.command.body) :
    UndisturbedRun hmac localeCompare start commands := by
  rintro before served after rfl answers state - given - outcome -
  exact h served (by simp) state

/-- Where no accepted trade disturbs, restarts between the commands of a run change nothing, and the
accepted draws read its blocks one after the other.  At every state, restarted or not: a rejection
hands the state back, the random checkpoint moves exactly when an accepted command draws and can be
resumed again, and the next state can be restarted from exactly when the command was
undisturbing. -/
theorem restarts_transparent (hmac : Bytes32 → ℕ → Bytes32) (localeCompare : String → String → ℤ) :
    (∀ start commands, isValidGameplayAggregateState start = true →
      (∀ source : SecureRandomSource, source.canResume start.base.rng = true) →
      UndisturbedRun hmac localeCompare start commands → ∃ answers final,
        (∀ commands', commands'.map ServedCommand.input = commands.map ServedCommand.input →
          serveAll hmac localeCompare start commands' = some (answers, final)) ∧
        (∀ source : SecureRandomSource, source.canResume final.base.rng = true) ∧
        nextBlock start.base.rng ≤ nextBlock final.base.rng ∧
        answers.flatMap Answer.taken = List.range' (nextBlock start.base.rng)
          (nextBlock final.base.rng - nextBlock start.base.rng)) ∧
    ∀ state served given,
      (∀ source : SecureRandomSource, source.canResume state.base.rng = true) →
      serve hmac localeCompare state served = some given →
        (∀ rejection, given.result = .error rejection → rejection.state = state) ∧
        ∀ state' events, given.result = .ok (state', events) →
          (state'.base.rng ≠ state.base.rng ↔ served.input.command.body.draws = true) ∧
          nextBlock state.base.rng ≤ nextBlock state'.base.rng ∧
          given.blocks = List.range' (nextBlock state.base.rng)
            (nextBlock state'.base.rng - nextBlock state.base.rng) ∧
          (∀ source : SecureRandomSource, source.canResume state'.base.rng = true) ∧
          ((∃ read, restart localeCompare state' = .ok read) ↔
            UndisturbingBody state served.input.command.body) := by
  refine ⟨fun start commands hvalid hresume hrun => ?_, fun state served given hresume hserve => ?_⟩
  · obtain ⟨answers, final, hdraw, hall⟩ := serveAll_of_undisturbed hvalid hresume hrun
    exact ⟨answers, final, hall, hdraw.resumes, hdraw.block_le, hdraw.blocks_eq⟩
  · obtain ⟨source, rfl⟩ := exists_answer hserve
    have hgiven : Answered state served.input.command.body
        (answer hmac source state served.input) := answered (hresume source) served.input
    refine ⟨hgiven.rejected, fun state' events hresult => ?_⟩
    obtain ⟨hmoved, htaken⟩ := hgiven.accepted state' events hresult
    have hdraw := hgiven.draw
    rw [Answer.state_of_ok hresult, htaken] at hdraw
    refine ⟨hmoved, hdraw.block_le, hdraw.blocks_eq, hdraw.resumes, ?_⟩
    rw [← valid_iff_undisturbing hresult]
    constructor
    · rintro ⟨read, hread⟩
      exact (restart_eq_ok.1 hread).1
    · exact fun hvalid => ⟨state', restart_of_valid hvalid⟩

/-! ### A rent dispute -/

def zeroSeed : Bytes32 := ⟨List.replicate 32 0, rfl⟩

def zeroSource : SecureRandomSource := .fresh zeroSeed

/-- Blocks that begin with their own counter. -/
def countingHmac (_seed : Bytes32) (counter : ℕ) : Bytes32 :=
  ⟨UInt8.ofNat counter :: List.replicate 31 0, rfl⟩

def byCodePoint (left right : String) : ℤ :=
  if left < right then -1 else if left = right then 0 else 1

/-- The text of the zero seed and counter 4. -/
def fourthState : String :=
  "eyJjb3VudGVyIjo0LCJzZWVkIjoiQUFBQUFBQUFBQUFBQUFBQUFBQUFBQUFBQUFBQUFBQUFBQUFBQUFBQUFBQSJ9"

/-- Four bytes have been drawn: Bob owes Alice rent for the space she offers him. -/
def secureDispute : Option GameplayAggregateState :=
  (gameOf { twoPlayerLobby with rng := ⟨secureAlgorithm, fourthState, 0, 0⟩ }).bind fun start =>
    playOn start [
      rolls 1 2 1 10,
      plays "alice" (.property (.buyProperty 3)) 2 20,
      plays "alice" (.turn .endTurn) 3 30,
      rolls 1 2 4 40,
      plays "alice" (.trade (.createTrade "bob" (.propertyForMoney 3 100))) 5 50]

/-- Bob's answer to the offer, at a process that was restarted or not. -/
def bobAnswers (command : GameplayTradeCommand) (restarted : Bool) : ServedCommand :=
  ⟨restarted, zeroSeed, ⟨⟨6, .trade command⟩, .player "bob", 60, some "trade"⟩⟩

/-- The source of the zero seed after four blocks. -/
def fourthSource : SecureRandomSource := ⟨zeroSeed, 4, 4, 4, []⟩

theorem checkpoint_fourthSource :
    fourthSource.checkpoint = ⟨secureAlgorithm, fourthState, 4, 4⟩ := by
  have hencode : encodeState zeroSeed 4 = fourthState := by decide +kernel
  simp [checkpoint, fourthSource, hencode]

theorem fork_fourthState (source : SecureRandomSource) :
    source.fork ⟨secureAlgorithm, fourthState, 4, 4⟩ = some fourthSource := by
  have hfork : source.fork ((fresh zeroSeed).advance 4).checkpoint = some fourthSource :=
    fork_checkpoint (fork_fresh source zeroSeed) (by decide)
  rw [← checkpoint_fourthSource]
  exact hfork

theorem canResume_fourthState (source : SecureRandomSource) :
    source.canResume ⟨secureAlgorithm, fourthState, 4, 4⟩ = true :=
  (fork_eq_some (fork_fourthState source)).1

theorem exists_secureDispute : ∃ state, secureDispute = some (.inProgress state) ∧
    isValidActiveGameplayAggregateState state = true ∧
    (∀ source : SecureRandomSource, source.canResume state.rng = true) ∧
    (transitionGameplay (.inProgress state) ⟨6, .trade (.acceptTrade "trade")⟩
      (plays "bob" (.trade (.acceptTrade "trade")) 6 60).2).toOption.any
        (fun outcome => !isValidGameplayAggregateState outcome.1) = true := by
  obtain ⟨state, hstate, hcheck⟩ := exists_of_inProgressWith secureDispute
    (fun state => isValidActiveGameplayAggregateState state &&
      decide (state.rng = ⟨secureAlgorithm, fourthState, 4, 4⟩) &&
      (transitionGameplay (.inProgress state) ⟨6, .trade (.acceptTrade "trade")⟩
        (plays "bob" (.trade (.acceptTrade "trade")) 6 60).2).toOption.any
          (fun outcome => !isValidGameplayAggregateState outcome.1)) (by decide +kernel)
  simp only [Bool.and_eq_true, decide_eq_true_eq] at hcheck
  refine ⟨state, hstate, hcheck.1.1, fun source => ?_, hcheck.2⟩
  rw [hcheck.1.2]
  exact canResume_fourthState source

theorem reachable_secureDispute {state : GameplayAggregateState}
    (h : secureDispute = some state) : ReachableGame state := by
  obtain ⟨start, hstart, hplay⟩ := Option.bind_eq_some_iff.1 h
  obtain ⟨active, hinit, rfl⟩ := Option.map_eq_some_iff.1 hstart
  exact reachable_of_playOn ⟨_, active, hinit, rfl⟩ hplay

/-! ### A first roll -/

/-- A lobby of two whose source has drawn four blocks. -/
def secureLobby : InProgressGameState :=
  { twoPlayerLobby with rng := ⟨secureAlgorithm, fourthState, 4, 4⟩ }

/-- Alice's first roll, at a process that was restarted or not. -/
def aliceRolls (restarted : Bool) : ServedCommand :=
  ⟨restarted, zeroSeed, ⟨⟨1, .turn .rollDice⟩, .player "alice", 10, none⟩⟩

theorem validRandomCheckpoint_secure {state : String} {n : ℕ} (hstate : utf16Length state = 88)
    (hn : n ≤ 4096) : ValidRandomCheckpoint ⟨secureAlgorithm, state, n, n⟩ := by
  have halgorithm : utf16Length secureAlgorithm = 14 := by decide +kernel
  simp only [ValidRandomCheckpoint, halgorithm, hstate, IsSafeInteger]
  omega

theorem secureLobby_ready : ReadyLobby secureLobby := {
  validLifecycleInput_iff.1 (by decide +kernel : validLifecycleInput twoPlayerLobby = true) with
  rng := validRandomCheckpoint_secure (by decide +kernel) (by decide) }

/-- The blocks 4 and 5 are the dice 5 and 6. -/
theorem drawGameplayDice_fourthState {state : ActiveGameplayAggregateState}
    (source : SecureRandomSource) (h : state.rng = ⟨secureAlgorithm, fourthState, 4, 4⟩) :
    drawGameplayDice state (secureRandomSource countingHmac source)
      = .ok (⟨(5, 6), 11, false⟩, (fourthSource.advance 2).checkpoint) := by
  have hfork : forkGameplayRandomSource (secureRandomSource countingHmac source) state.rng
      = some fourthSource := by
    rw [forkGameplayRandomSource_secure, h, fork_fourthState]
  have hroll : rollDice (secureRandomSource countingHmac source) fourthSource
      = some (⟨(5, 6), 11, false⟩, fourthSource.advance 2) := rfl
  have hlength : utf16Length (encodeState zeroSeed 6) = 88 := by decide +kernel
  have hvalid : ValidRandomCheckpoint (fourthSource.advance 2).checkpoint :=
    validRandomCheckpoint_secure hlength (by decide)
  have hread : readRandomCheckpoint (secureRandomSource countingHmac source)
      (fourthSource.advance 2) = some (fourthSource.advance 2).checkpoint := by
    unfold readRandomCheckpoint
    exact if_pos hvalid
  have hresume : (fourthSource.advance 2).canResume (fourthSource.advance 2).checkpoint = true :=
    (fork_eq_some (fork_checkpoint (fork_fourthState (fourthSource.advance 2)) (by decide))).1
  have hcan : canResumeGameplayCheckpoint (secureRandomSource countingHmac source)
      (fourthSource.advance 2) (fourthSource.advance 2).checkpoint = true := by
    simp [canResumeGameplayCheckpoint, secureRandomSource, hresume]
  have hadvanced : isAdvancedGameplayCheckpoint state.rng (fourthSource.advance 2).checkpoint 2
      = true := by
    rw [h]
    decide
  simp only [drawGameplayDice, bind_eq_ok, requireSome_eq_ok, require_eq_ok, Prod.exists,
    pure_eq_ok, exists_const]
  exact ⟨_, hfork, _, _, hroll, _, hread, ⟨hadvanced, hcan⟩, rfl⟩

/-- A first turn awaits its roll. -/
theorem initializeGameplayAggregate_awaitsRoll {lobby : InProgressGameState}
    {active : ActiveGameplayAggregateState} (h : initializeGameplayAggregate lobby = some active) :
    active.stateVersion = lobby.stateVersion ∧ active.rng = lobby.rng ∧
      active.turn.phase = .awaitingRoll ∧
      active.turn.startedAtMs = lobby.turn.startedAtMs ∧
      slotAt active.players active.turn.currentSeatIndex
        = (slotAt lobby.seats lobby.turn.currentSeatIndex).map PlayerSeat.toPlayer := by
  unfold initializeGameplayAggregate at h
  split_ifs at h
  cases h
  exact ⟨rfl, rfl, rfl, rfl, slotAt_mapSlots _ _ _⟩

theorem secureLobby_valid {active : ActiveGameplayAggregateState}
    (hinit : initializeGameplayAggregate secureLobby = some active) : ValidActive active := by
  refine secureLobby_ready.valid (fun i seat hslot => ?_) hinit
  have hall : ∀ seat ∈ occupants twoPlayerLobby.seats,
      seat.joinedAtMs ≤ twoPlayerLobby.startedAtMs := by
    decide
  exact hall seat (mem_occupants.2 ⟨i, hslot⟩)

/-- A process takes her roll, and comes to the checkpoint after two more blocks. -/
theorem serve_aliceRolls {active : ActiveGameplayAggregateState}
    (hinit : initializeGameplayAggregate secureLobby = some active) :
    ∃ given, serve countingHmac byCodePoint (.inProgress active) (aliceRolls false) = some given ∧
      given.state.base.rng = (fourthSource.advance 2).checkpoint := by
  obtain ⟨hversion, hrng, hphase, hstarted, hslot⟩ := initializeGameplayAggregate_awaitsRoll hinit
  have hv := secureLobby_valid hinit
  have hreach : ReachableGame (.inProgress active) := .initial ⟨_, active, hinit, rfl⟩
  obtain ⟨alice, hcurrent, hname⟩ : ∃ alice, IsCurrent active alice ∧ alice.playerId = "alice" :=
    ⟨_, ⟨hslot, rfl⟩, rfl⟩
  have hdraw := drawGameplayDice_fourthState fourthSource hrng
  have hheard : Heard active alice ⟨.player "alice", 10,
      secureRandomSource countingHmac fourthSource, none⟩ := {
    isCurrent := hcurrent
    actor := by rw [hname]
    version := by rw [hversion]; decide
    started_le := by rw [hstarted]; decide
    next := by decide }
  obtain ⟨state', events, hresult⟩ := accepts_naturalMove hv (playable_of_reachable hreach)
    (budgeted_of_reachable hreach).1 hheard ⟨fun _ => ⟨_, hdraw⟩, by simp [hphase]⟩
    (by simp [Stuck, hphase])
  rw [hphase, hversion] at hresult
  have hgiven : (answer countingHmac fourthSource (.inProgress active)
      (aliceRolls false).input).result = .ok (state', events) := hresult
  have hfork : (fresh zeroSeed).fork (GameplayAggregateState.inProgress active).base.rng
      = some fourthSource := by
    show (fresh zeroSeed).fork active.rng = some fourthSource
    rw [hrng]
    exact fork_fourthState _
  refine ⟨_, serve_eq hfork nofun, ?_⟩
  rw [Answer.state_of_ok hgiven]
  obtain ⟨_, dice, -, -, hdrawn⟩ | ⟨_, _, hcard, -⟩ | ⟨hnone, -⟩ :=
    (transitionGameplay_step hresult).2.rng
  · exact congrArg Prod.snd (Except.ok.inj (hdrawn.symm.trans hdraw))
  · cases hcard
  · cases hnone

/-- Bob rejects the offer, and Alice rolls, after a restart or before one. -/
theorem restarts_transparent_played :
    (∃ state answers final, secureDispute = some (.inProgress state) ∧
      ∀ commands', commands'.map ServedCommand.input
          = [(bobAnswers (.rejectTrade "trade") true).input] →
        serveAll countingHmac byCodePoint (.inProgress state) commands'
          = some (answers, final)) ∧
    ∃ start answers final, gameOf secureLobby = some start ∧
      final.base.rng = (fourthSource.advance 2).checkpoint ∧
      answers.flatMap Answer.taken = [4, 5] ∧
      ∀ commands', commands'.map ServedCommand.input = [(aliceRolls true).input] →
        serveAll countingHmac byCodePoint start commands' = some (answers, final) := by
  constructor
  · obtain ⟨state, hstate, hvalid, hresume, -⟩ := exists_secureDispute
    obtain ⟨answers, final, hall, -⟩ := (restarts_transparent countingHmac byCodePoint).1
      (.inProgress state) [bobAnswers (.rejectTrade "trade") true] hvalid hresume
      (undisturbedRun_of_bodies (by simp [bobAnswers, UndisturbingBody, Undisturbing]))
    exact ⟨state, answers, final, hstate, hall⟩
  · obtain ⟨active, hinit⟩ := secureLobby_ready.exists_aggregate
    have hrng : active.rng = ⟨secureAlgorithm, fourthState, 4, 4⟩ :=
      (initializeGameplayAggregate_awaitsRoll hinit).2.1
    have hresume (source : SecureRandomSource) :
        source.canResume (GameplayAggregateState.inProgress active).base.rng = true := by
      show source.canResume active.rng = true
      rw [hrng]
      exact canResume_fourthState source
    obtain ⟨given, hserve, hgiven⟩ := serve_aliceRolls hinit
    obtain ⟨answers, final, hall, -, -, htaken⟩ := (restarts_transparent countingHmac byCodePoint).1
      (.inProgress active) [aliceRolls true] (isValidActive_iff.2 (secureLobby_valid hinit)) hresume
      (undisturbedRun_of_bodies (by simp [aliceRolls, UndisturbingBody]))
    have hrun := hall [aliceRolls false] rfl
    simp only [serveAll, hserve, Option.bind_eq_bind, Option.bind_some, Option.pure_def,
      Option.some.injEq, Prod.mk.injEq] at hrun
    obtain ⟨-, rfl⟩ := hrun
    refine ⟨_, answers, _, by rw [gameOf, hinit]; rfl, hgiven, ?_, hall⟩
    have hstart : nextBlock (GameplayAggregateState.inProgress active).base.rng = 4 := by
      show nextBlock active.rng = 4
      rw [hrng]
      exact nextBlock_of_fork (fork_fourthState fourthSource)
    have hfinal : nextBlock given.state.base.rng = 6 := by
      rw [hgiven]
      exact nextBlock_of_fork (fork_checkpoint (fork_fourthState fourthSource) (by decide))
    rw [htaken, hstart, hfinal]
    rfl

/-- Once Bob has accepted it, he owes rent to himself: a room that goes on refuses what comes next,
and a room that restarts has nothing to start from. -/
theorem not_restarts_transparent : ¬ ∀ (hmac : Bytes32 → ℕ → Bytes32)
    (localeCompare : String → String → ℤ) (start : GameplayAggregateState)
    (commands commands' : List ServedCommand), ReachableGame start →
    isValidGameplayAggregateState start = true →
    (∀ source : SecureRandomSource, source.canResume start.base.rng = true) →
    commands'.map ServedCommand.input = commands.map ServedCommand.input →
      serveAll hmac localeCompare start commands' = serveAll hmac localeCompare start commands := by
  intro h
  obtain ⟨state, hstate, hvalid, hresume, hbroken⟩ := exists_secureDispute
  obtain ⟨source, hfork⟩ := exists_fork (hresume zeroSource)
  let accepts := bobAnswers (.acceptTrade "trade") false
  let given := answer countingHmac source (.inProgress state) accepts.input
  have hserve : serve countingHmac byCodePoint (.inProgress state) accepts = some given :=
    serve_eq hfork fun _ => hvalid
  obtain ⟨outcome, hresult, hinvalid⟩ : ∃ outcome, given.result = .ok outcome ∧
      isValidGameplayAggregateState outcome.1 = false := by
    have hsame : given.result = transitionGameplay (.inProgress state)
      ⟨6, .trade (.acceptTrade "trade")⟩ (plays "bob" (.trade (.acceptTrade "trade")) 6 60).2 := rfl
    rw [hsame]
    cases hok : transitionGameplay (.inProgress state) ⟨6, .trade (.acceptTrade "trade")⟩
      (plays "bob" (.trade (.acceptTrade "trade")) 6 60).2 with
    | error rejection => simp [hok, Except.toOption] at hbroken
    | ok outcome => exact ⟨outcome, rfl, by simpa [hok, Except.toOption] using hbroken⟩
  have hnext : ∀ source : SecureRandomSource, source.canResume given.state.base.rng = true :=
    (answered (hresume source) accepts.input).draw.resumes
  rw [Answer.state_of_ok hresult] at hnext
  obtain ⟨next, hnextFork⟩ := exists_fork (hnext zeroSource)
  have hgoesOn : serve countingHmac byCodePoint outcome.1 accepts
      = some (answer countingHmac next outcome.1 accepts.input) :=
    serve_eq hnextFork (by simp [accepts, bobAnswers])
  have hrestarts : serve countingHmac byCodePoint outcome.1 (bobAnswers (.acceptTrade "trade") true)
      = none := by
    cases hread : restart byCodePoint outcome.1 with
    | error error => simp [serve, bobAnswers, hread, Except.toOption]
    | ok read =>
      rw [(restart_eq_ok.1 hread).1] at hinvalid
      cases hinvalid
  have hall := h countingHmac byCodePoint (.inProgress state) [accepts, accepts]
    [accepts, bobAnswers (.acceptTrade "trade") true] (reachable_secureDispute hstate) hvalid
    hresume rfl
  simp [serveAll, hserve, Answer.state_of_ok hresult, hgoesOn, hrestarts] at hall

end Server

end Pootown

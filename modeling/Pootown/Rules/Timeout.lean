import Mathlib.Tactic
import Pootown.Rules.Bankruptcy

/-!
# Timeout rules

Warnings before the turn deadline, and the timeout at it: two missed turns pass the turn on, the
third forfeits the game through bankruptcy.

* `emitTimeoutWarning`, with its half-open windows before the deadline;
* `nextActiveSeat`: the next active seat around the table;
* `resolveTurnTimeout`, with its spec `resolveTurnTimeout_eq_ok`.
-/

namespace Pootown

open Fallible Slots

inductive TimeoutWarningSeconds
  | thirty | ten
  deriving DecidableEq

def TimeoutWarningSeconds.seconds : TimeoutWarningSeconds → ℤ
  | .thirty => 30
  | .ten => 10

/-- The clock of a turn. -/
structure TimeoutTurnState where
  currentSeatIndex : ℕ
  startedAtMs : ℤ
  deadlineAtMs : ℤ
  emittedWarnings : List TimeoutWarningSeconds

structure TimeoutGameState where
  players : List (Option BankruptcyPlayerState)
  properties : List PropertyState
  inventory : BuildingInventory
  bankCash : ℤ
  turn : TimeoutTurnState

inductive TimeoutRuleErrorCode
  | invalidTimeoutState | timeoutNotReached | warningNotReached | warningAlreadyEmitted
  | noNextActivePlayer | bankruptcyFailed
  deriving DecidableEq

def TimeoutRuleErrorCode.text : TimeoutRuleErrorCode → String
  | .invalidTimeoutState => "INVALID_TIMEOUT_STATE"
  | .timeoutNotReached => "TIMEOUT_NOT_REACHED"
  | .warningNotReached => "WARNING_NOT_REACHED"
  | .warningAlreadyEmitted => "WARNING_ALREADY_EMITTED"
  | .noNextActivePlayer => "NO_NEXT_ACTIVE_PLAYER"
  | .bankruptcyFailed => "BANKRUPTCY_FAILED"

/-- The accepted outcomes of a turn timeout. -/
inductive TimeoutResolution
  | turnAdvanced (timedOutSeatIndex missedTurns : ℕ)
      (players : List (Option BankruptcyPlayerState)) (properties : List PropertyState)
      (inventory : BuildingInventory) (bankCash : ℤ) (turn : TimeoutTurnState)
  | forfeit (timedOutSeatIndex : ℕ) (bankruptcy : BankruptcyResolution)
      (turn : Option TimeoutTurnState)

/-! ### Validity -/

/-- The clock conditions shared with the aggregate: the deadline is 90 s after the start. -/
abbrev ValidClock (turn : TimeoutTurnState) : Prop :=
  turn.currentSeatIndex < GameplayPolicy.maximumPlayers ∧
  IsSafeInteger turn.startedAtMs ∧ 0 ≤ turn.startedAtMs ∧ IsSafeInteger turn.deadlineAtMs ∧
  turn.deadlineAtMs = turn.startedAtMs + GameplayPolicy.turnTimeoutMs

/-- The `validTurn` of the timeout rules. -/
abbrev ValidTimeoutTurn (turn : TimeoutTurnState) : Prop :=
  ValidClock turn ∧ turn.emittedWarnings.length ≤ 2 ∧ turn.emittedWarnings.Nodup ∧
  ¬ (turn.emittedWarnings.head? = some .ten ∧ turn.emittedWarnings.length = 2)

/-- The `validState` of the timeout rules. -/
def validTimeoutState (state : TimeoutGameState) : Bool :=
  isValidBankruptcyState state.players state.properties state.inventory state.bankCash &&
  decide (ValidTimeoutTurn state.turn) &&
  decide (∃ current ∈ slotAt state.players state.turn.currentSeatIndex, current.status = .active)

/-! ### Warnings -/

def emitTimeoutWarning (turn : TimeoutTurnState) (warningSeconds : TimeoutWarningSeconds)
    (nowMs : ℤ) : Except TimeoutRuleErrorCode TimeoutTurnState := do
  require (ValidTimeoutTurn turn ∧ IsSafeInteger nowMs ∧ 0 ≤ nowMs) .invalidTimeoutState
  require (warningSeconds ∉ turn.emittedWarnings) .warningAlreadyEmitted
  require (¬ (warningSeconds = .thirty ∧ .ten ∈ turn.emittedWarnings)) .warningAlreadyEmitted
  let warningAtMs := turn.deadlineAtMs - warningSeconds.seconds * 1000
  let nextWarningAtMs := turn.deadlineAtMs - 10000
  require (¬ (nowMs < warningAtMs ∨ turn.deadlineAtMs ≤ nowMs ∨
    (warningSeconds = .thirty ∧ nextWarningAtMs ≤ nowMs))) .warningNotReached
  return { turn with emittedWarnings := turn.emittedWarnings ++ [warningSeconds] }

theorem emitTimeoutWarning_eq_ok {turn turn' : TimeoutTurnState} {seconds : TimeoutWarningSeconds}
    {nowMs : ℤ} : emitTimeoutWarning turn seconds nowMs = .ok turn' ↔
      ValidTimeoutTurn turn ∧ (IsSafeInteger nowMs ∧ 0 ≤ nowMs) ∧
      seconds ∉ turn.emittedWarnings ∧ (seconds = .thirty → .ten ∉ turn.emittedWarnings) ∧
      turn.deadlineAtMs - seconds.seconds * 1000 ≤ nowMs ∧ nowMs < turn.deadlineAtMs ∧
      (seconds = .thirty → nowMs < turn.deadlineAtMs - 10000) ∧
      turn' = { turn with emittedWarnings := turn.emittedWarnings ++ [seconds] } := by
  simp only [emitTimeoutWarning, bind_eq_ok, require_eq_ok, pure_eq_ok, exists_const, not_or,
    not_and, not_lt, not_le]
  constructor
  · rintro ⟨⟨hv, hnow⟩, hnew, hten, ⟨h₁, h₂, h₃⟩, rfl⟩
    exact ⟨hv, hnow, hnew, hten, h₁, h₂, h₃, rfl⟩
  · rintro ⟨hv, hnow, hnew, hten, h₁, h₂, h₃, rfl⟩
    exact ⟨⟨hv, hnow⟩, hnew, hten, ⟨h₁, h₂, h₃⟩, rfl⟩

/-! ### Passing the turn -/

/-- The first active seat after `currentSeatIndex`, itself last. -/
def nextActiveSeat {α : Type} (status : α → PlayerStatus) (players : List (Option α))
    (currentSeatIndex : ℕ) : Option ℕ :=
  cyclicNext GameplayPolicy.maximumPlayers
    (fun seatIndex => (slotAt players seatIndex).any fun player => status player == .active)
    currentSeatIndex

section NextSeat

variable {α : Type} {status : α → PlayerStatus} {players : List (Option α)} {seat next : ℕ}

theorem nextActiveSeat_spec (h : nextActiveSeat status players seat = some next) :
    next < 4 ∧ ∃ player, slotAt players next = some player ∧ status player = .active := by
  obtain ⟨hp, hlt⟩ := cyclicNext_spec h
  simp only [Option.any_eq_true, beq_iff_eq] at hp
  exact ⟨hlt, hp⟩

/-- With another active seat the turn passes to a different seat. -/
theorem exists_nextActiveSeat {other : ℕ} {player : α} (hseat : seat < 4) (hother : other < 4)
    (hne : other ≠ seat) (hp : slotAt players other = some player)
    (hactive : status player = .active) :
    ∃ next, nextActiveSeat status players seat = some next ∧ next ≠ seat := by
  have hany : (slotAt players other).any (fun player => status player == .active) = true := by
    simp [hp, hactive]
  obtain ⟨next, hnext⟩ := exists_cyclicNext (p := fun seatIndex =>
    (slotAt players seatIndex).any fun player => status player == .active) hseat hother hany
  exact ⟨next, hnext, cyclicNext_ne hseat hother hne hany hnext⟩

end NextSeat

def resolveTurnTimeout (state : TimeoutGameState) (nowMs : ℤ) :
    Except TimeoutRuleErrorCode TimeoutResolution := do
  require (validTimeoutState state = true ∧ IsSafeInteger nowMs ∧ 0 ≤ nowMs) .invalidTimeoutState
  require (state.turn.deadlineAtMs ≤ nowMs) .timeoutNotReached
  let seat := state.turn.currentSeatIndex
  let timedOutPlayer ← requireSome (slotAt state.players seat) .invalidTimeoutState
  let missedTurns := timedOutPlayer.missedTurns + 1
  require (missedTurns ≤ GameplayPolicy.maximumMissedTurns) .invalidTimeoutState
  let players := updateSlot seat (fun player => { player with missedTurns := missedTurns })
    state.players
  let deadlineAtMs := nowMs + GameplayPolicy.turnTimeoutMs
  if missedTurns = GameplayPolicy.maximumMissedTurns then
    match resolveBankruptcy players state.properties state.inventory state.bankCash seat with
    | .error _ => .error .bankruptcyFailed
    | .ok bankruptcy =>
      if bankruptcy.endConditionMet then return .forfeit seat bankruptcy none
      else
        let nextSeatIndex ← requireSome
          (nextActiveSeat BankruptcyPlayerState.status bankruptcy.players seat) .noNextActivePlayer
        require (IsSafeInteger deadlineAtMs) .invalidTimeoutState
        return .forfeit seat bankruptcy (some ⟨nextSeatIndex, nowMs, deadlineAtMs, []⟩)
  else
    let nextSeatIndex ← requireSome
      (nextActiveSeat BankruptcyPlayerState.status players seat) .noNextActivePlayer
    require (nextSeatIndex ≠ seat) .noNextActivePlayer
    require (IsSafeInteger deadlineAtMs) .invalidTimeoutState
    return .turnAdvanced seat missedTurns players state.properties state.inventory state.bankCash
      ⟨nextSeatIndex, nowMs, deadlineAtMs, []⟩

/-! ### What an accepted timeout does -/

section Resolve

variable {state : TimeoutGameState} {nowMs : ℤ} {resolution : TimeoutResolution}

/-- A turn timeout is accepted from the deadline on.  It either passes the turn to another active
seat, or, at the third missed turn, liquidates the seat, and passes the turn on if play goes on. -/
theorem resolveTurnTimeout_eq_ok : resolveTurnTimeout state nowMs = .ok resolution ↔
    (validTimeoutState state = true ∧ IsSafeInteger nowMs ∧ 0 ≤ nowMs) ∧
    state.turn.deadlineAtMs ≤ nowMs ∧ ∃ player,
      slotAt state.players state.turn.currentSeatIndex = some player ∧
      ((∃ next, player.missedTurns < 2 ∧
          nextActiveSeat BankruptcyPlayerState.status (updateSlot state.turn.currentSeatIndex
            (fun p => { p with missedTurns := player.missedTurns + 1 }) state.players)
            state.turn.currentSeatIndex = some next ∧
          next ≠ state.turn.currentSeatIndex ∧ IsSafeInteger (nowMs + 90000) ∧
          resolution = .turnAdvanced state.turn.currentSeatIndex (player.missedTurns + 1)
            (updateSlot state.turn.currentSeatIndex
              (fun p => { p with missedTurns := player.missedTurns + 1 }) state.players)
            state.properties state.inventory state.bankCash ⟨next, nowMs, nowMs + 90000, []⟩) ∨
       (∃ bankruptcy turn, player.missedTurns = 2 ∧
          resolveBankruptcy (updateSlot state.turn.currentSeatIndex
            (fun p => { p with missedTurns := player.missedTurns + 1 }) state.players)
            state.properties state.inventory state.bankCash state.turn.currentSeatIndex
            = .ok bankruptcy ∧
          resolution = .forfeit state.turn.currentSeatIndex bankruptcy turn ∧
          ((bankruptcy.endConditionMet = true ∧ turn = none) ∨
           (bankruptcy.endConditionMet = false ∧ ∃ next,
              nextActiveSeat BankruptcyPlayerState.status bankruptcy.players
                state.turn.currentSeatIndex = some next ∧ IsSafeInteger (nowMs + 90000) ∧
              turn = some ⟨next, nowMs, nowMs + 90000, []⟩)))) := by
  simp only [resolveTurnTimeout, bind_eq_ok, require_eq_ok, requireSome_eq_ok, exists_const,
    ite_eq_ok, pure_eq_ok]
  constructor
  · rintro ⟨hv, hdeadline, player, hplayer, hle, ⟨hthree, h⟩ |
      ⟨hne, next, hnext, hother, hsafe, rfl⟩⟩
    · refine ⟨hv, hdeadline, player, hplayer, .inr ?_⟩
      split at h
      · cases h
      next bankruptcy hbank =>
        refine ⟨bankruptcy, ?_⟩
        simp only [ite_eq_ok, bind_eq_ok, requireSome_eq_ok, require_eq_ok, pure_eq_ok,
          exists_const, Bool.not_eq_true] at h
        obtain ⟨hend, rfl⟩ | ⟨hend, next, hnext, hsafe, rfl⟩ := h
        · exact ⟨none, by simpa using hthree, hbank, rfl, .inl ⟨hend, rfl⟩⟩
        · exact ⟨_, by simpa using hthree, hbank, rfl, .inr ⟨hend, next, hnext, hsafe, rfl⟩⟩
    · simp only [GameplayPolicy.maximumMissedTurns] at hle hne
      exact ⟨hv, hdeadline, player, hplayer, .inl ⟨next, by omega, hnext, hother, hsafe, rfl⟩⟩
  · rintro ⟨hv, hdeadline, player, hplayer, ⟨next, hlt, hnext, hother, hsafe, rfl⟩ |
      ⟨bankruptcy, turn, htwo, hbank, rfl, hend⟩⟩
    · refine ⟨hv, hdeadline, player, hplayer, ?_, .inr ⟨?_, next, hnext, hother, hsafe, rfl⟩⟩
      · simp only [GameplayPolicy.maximumMissedTurns]
        omega
      · simp only [GameplayPolicy.maximumMissedTurns]
        omega
    · refine ⟨hv, hdeadline, player, hplayer, by simp [htwo], .inl ⟨by simp [htwo], ?_⟩⟩
      simp only [hbank, ite_eq_ok, bind_eq_ok, requireSome_eq_ok, require_eq_ok, pure_eq_ok,
        exists_const, Bool.not_eq_true]
      obtain ⟨hend, rfl⟩ | ⟨hend, next, hnext, hsafe, rfl⟩ := hend
      · exact .inl ⟨hend, rfl⟩
      · exact .inr ⟨hend, next, hnext, hsafe, rfl⟩

end Resolve

end Pootown

import Mathlib.Tactic
import Pootown.Invariants.Timers

/-!
# The room clock

The game server arms one timer per room: the command `nextScheduledRoomCommand` picks for the
current state, at the time it picks.

* `turnCandidate`, `nextScheduledRoomCommand`: the choice among the turn's own timers, the time
  limit and the expiry of trades;
* `DispatchedInTime`: how late the picked command may be handled and still be accepted.
-/

namespace Pootown

open Fallible Runs Slots

/-! ### What is scheduled -/

/-- The commands the clock schedules. -/
inductive ScheduledCommandType
  | warnTurnThirtySeconds | warnTurnTenSeconds | handleTurnTimeout | cleanupExpiredTrades
  | enforceGameTimeLimit
  deriving DecidableEq

def ScheduledCommandType.text : ScheduledCommandType → String
  | .warnTurnThirtySeconds => "warnTurnThirtySeconds"
  | .warnTurnTenSeconds => "warnTurnTenSeconds"
  | .handleTurnTimeout => "handleTurnTimeout"
  | .cleanupExpiredTrades => "cleanupExpiredTrades"
  | .enforceGameTimeLimit => "enforceGameTimeLimit"

def ScheduledCommandType.body : ScheduledCommandType → GameplayCommandBody
  | .warnTurnThirtySeconds => .timeout .warnTurnThirtySeconds
  | .warnTurnTenSeconds => .timeout .warnTurnTenSeconds
  | .handleTurnTimeout => .timeout .handleTurnTimeout
  | .cleanupExpiredTrades => .trade .cleanupExpiredTrades
  | .enforceGameTimeLimit => .timeout .enforceGameTimeLimit

structure Candidate where
  dueAtMs : ℤ
  priority : ℤ
  type : ScheduledCommandType

/-- A picked command, with the id its request carries. -/
structure ScheduledRoomCommand where
  requestId : String
  command : GameplayCommand
  dueAtMs : ℤ

/-- What a room holds: a lobby that has not started, or a game. -/
inductive RoomState
  | lobby
  | gameplay (state : GameplayAggregateState)

/-! ### Request ids -/

def hexByte (byte : UInt8) : List Char :=
  [Nat.digitChar (byte.toNat / 16), Nat.digitChar (byte.toNat % 16)]

/-- A UUID of version 5 shape, from the first 16 bytes of a digest. -/
def requestId (sha256 : String → List UInt8) (gameId type : String) (dueAtMs stateVersion : ℤ) :
    String :=
  let digest := sha256 (gameId ++ "\x00" ++ type ++ "\x00" ++ toString dueAtMs ++ "\x00" ++
    toString stateVersion)
  let bytes := (digest.take 16).mapIdx fun index byte =>
    if index = 6 then (byte &&& 0x0f) ||| 0x50
    else if index = 8 then (byte &&& 0x3f) ||| 0x80
    else byte
  let hex := bytes.flatMap hexByte
  let slice := fun first last => String.ofList ((hex.take last).drop first)
  slice 0 8 ++ "-" ++ slice 8 12 ++ "-" ++ slice 12 16 ++ "-" ++ slice 16 20 ++ "-" ++
    String.ofList (hex.drop 20)

/-! ### The choice -/

def turnCandidate (state : ActiveGameplayAggregateState) (nowMs : ℤ) : Candidate :=
  let deadline := state.turn.deadlineAtMs
  let tenAt := deadline - 10000
  let thirtyAt := deadline - 30000
  let warnings := state.turn.emittedWarnings
  if deadline ≤ nowMs then ⟨deadline, 1, .handleTurnTimeout⟩
  else if .ten ∉ warnings ∧ tenAt ≤ nowMs then ⟨tenAt, 2, .warnTurnTenSeconds⟩
  else if .thirty ∉ warnings ∧ thirtyAt ≤ nowMs ∧ nowMs < tenAt then
    ⟨thirtyAt, 3, .warnTurnThirtySeconds⟩
  else if .thirty ∉ warnings ∧ nowMs < thirtyAt then ⟨thirtyAt, 3, .warnTurnThirtySeconds⟩
  else if .ten ∉ warnings ∧ nowMs < tenAt then ⟨tenAt, 2, .warnTurnTenSeconds⟩
  else ⟨deadline, 1, .handleTurnTimeout⟩

/-- The earliest expiry of a pending trade. -/
def tradeExpiry (trades : List PendingTrade) : Option ℤ :=
  trades.foldl (fun earliest trade =>
    if earliest.all fun expiresAtMs => trade.expiresAtMs < expiresAtMs then some trade.expiresAtMs
    else earliest) none

/-- `first || second` on numbers. -/
def orElse (first second : ℤ) : ℤ := if first = 0 then second else first

/-- The comparator of the candidates: ready ones first and by priority, the others by time. -/
def compareCandidates (nowMs : ℤ) (left right : Candidate) : ℤ :=
  let leftReady := left.dueAtMs ≤ nowMs
  let rightReady := right.dueAtMs ≤ nowMs
  if ¬ (leftReady ↔ rightReady) then if leftReady then -1 else 1
  else if leftReady then
    orElse (left.priority - right.priority) (left.dueAtMs - right.dueAtMs)
  else orElse (left.dueAtMs - right.dueAtMs) (left.priority - right.priority)

/-- `left` stands before `right`, or they tie. -/
abbrev ScheduledBefore (nowMs : ℤ) (left right : Candidate) : Prop :=
  compareCandidates nowMs left right ≤ 0

def scheduledCandidates (state : ActiveGameplayAggregateState) (nowMs : ℤ) : List Candidate :=
  turnCandidate state nowMs ::
    ((state.gameEndAtMs.map fun gameEndAtMs =>
        ⟨gameEndAtMs, 0, .enforceGameTimeLimit⟩).toList ++
      ((tradeExpiry state.activeTrades).map fun expiresAtMs =>
        ⟨expiresAtMs, 4, .cleanupExpiredTrades⟩).toList)

def nextScheduledRoomCommand (sha256 : String → List UInt8) (state : RoomState) (nowMs : ℤ) :
    Option ScheduledRoomCommand :=
  match state with
  | .gameplay (.inProgress state) =>
    if ¬ (IsSafeInteger nowMs ∧ 0 ≤ nowMs) ∨ state.bankruptcyRequiredSeatIndex ≠ none then none
    else
      let candidates := (scheduledCandidates state nowMs).insertionSort (ScheduledBefore nowMs)
      candidates.head?.map fun selected => {
        requestId := requestId sha256 state.gameId selected.type.text selected.dueAtMs
          state.stateVersion
        command := ⟨state.stateVersion, selected.type.body⟩
        dueAtMs := selected.dueAtMs }
  | _ => none

/-! ### The order of the candidates -/

section Order

variable {nowMs : ℤ} {left right : Candidate}

/-- The comparator, without its arithmetic. -/
theorem scheduledBefore_iff : ScheduledBefore nowMs left right ↔
    if left.dueAtMs ≤ nowMs then nowMs < right.dueAtMs ∨ left.priority < right.priority ∨
      (left.priority = right.priority ∧ left.dueAtMs ≤ right.dueAtMs)
    else nowMs < right.dueAtMs ∧ (left.dueAtMs < right.dueAtMs ∨
      (left.dueAtMs = right.dueAtMs ∧ left.priority ≤ right.priority)) := by
  unfold ScheduledBefore compareCandidates orElse
  dsimp only
  split_ifs <;> omega

instance : Std.Total (ScheduledBefore nowMs) where
  total left right := by
    rw [scheduledBefore_iff, scheduledBefore_iff]
    split_ifs <;> omega

instance : IsTrans Candidate (ScheduledBefore nowMs) where
  trans left middle right := by
    simp only [scheduledBefore_iff]
    split_ifs <;> omega

end Order

/-! ### Being in time -/

section InTime

variable (state : ActiveGameplayAggregateState) (t₀ t₁ : ℤ)

/-- The thirty-second warning is the turn's next timer at `t₀`. -/
def WarnsThirty : Prop :=
  .thirty ∉ state.turn.emittedWarnings ∧ t₀ < state.turn.deadlineAtMs - 10000

/-- The ten-second warning is the turn's next timer at `t₀`. -/
def WarnsTen : Prop :=
  .ten ∉ state.turn.emittedWarnings ∧ t₀ < state.turn.deadlineAtMs ∧
    (state.turn.deadlineAtMs - 10000 ≤ t₀ ∨ .thirty ∈ state.turn.emittedWarnings)

instance : Decidable (WarnsThirty state t₀) := by unfold WarnsThirty; infer_instance

instance : Decidable (WarnsTen state t₀) := by unfold WarnsTen; infer_instance

/-- When the turn's next timer is due. -/
def turnDueAtMs : ℤ :=
  if WarnsThirty state t₀ then state.turn.deadlineAtMs - 30000
  else if WarnsTen state t₀ then state.turn.deadlineAtMs - 10000
  else state.turn.deadlineAtMs

/-- At `t₀` neither the time limit nor the expiry of a trade goes before the turn's own timer. -/
def TurnTimerFirst : Prop :=
  if turnDueAtMs state t₀ ≤ t₀ then ∀ gameEndAtMs ∈ state.gameEndAtMs, t₀ < gameEndAtMs
  else (∀ gameEndAtMs ∈ state.gameEndAtMs, turnDueAtMs state t₀ < gameEndAtMs) ∧
    ∀ trade ∈ state.activeTrades, turnDueAtMs state t₀ ≤ trade.expiresAtMs

/-- The command picked at `t₀` is still in time at `t₁`: a turn timer before the time limit, a
warning within its own window, and none once the versions have run out. -/
def DispatchedInTime : Prop :=
  state.stateVersion < maxStateVersion ∧
    (TurnTimerFirst state t₀ →
      (∀ gameEndAtMs ∈ state.gameEndAtMs, t₁ < gameEndAtMs) ∧
      (WarnsThirty state t₀ →
        t₁ < state.turn.deadlineAtMs - 10000 ∧ .ten ∉ state.turn.emittedWarnings) ∧
      (WarnsTen state t₀ → t₁ < state.turn.deadlineAtMs))

variable {state t₀ t₁}

theorem turnCandidate_eq : turnCandidate state t₀ =
    if WarnsThirty state t₀ then ⟨turnDueAtMs state t₀, 3, .warnTurnThirtySeconds⟩
    else if WarnsTen state t₀ then ⟨turnDueAtMs state t₀, 2, .warnTurnTenSeconds⟩
    else ⟨turnDueAtMs state t₀, 1, .handleTurnTimeout⟩ := by
  unfold turnCandidate turnDueAtMs WarnsThirty WarnsTen
  by_cases hthirty : .thirty ∈ state.turn.emittedWarnings <;>
    by_cases hten : .ten ∈ state.turn.emittedWarnings <;>
    simp only [hthirty, hten, not_true_eq_false, not_false_eq_true, false_and, true_and, or_true,
      or_false, and_true, if_false] <;>
    split_ifs <;> first | rfl | omega

theorem turnCandidate_dueAtMs : (turnCandidate state t₀).dueAtMs = turnDueAtMs state t₀ := by
  rw [turnCandidate_eq]
  split_ifs <;> rfl

/-- The turn's timers stand between the time limit and the expiry of trades. -/
theorem turnCandidate_priority :
    0 < (turnCandidate state t₀).priority ∧ (turnCandidate state t₀).priority < 4 := by
  rw [turnCandidate_eq]
  split_ifs <;> constructor <;> norm_num

/-- The earliest expiry is the expiry of some trade, and no trade expires before it. -/
theorem tradeExpiry_spec (trades : List PendingTrade) :
    (∀ trade ∈ trades, ∃ expiresAtMs, tradeExpiry trades = some expiresAtMs ∧
      expiresAtMs ≤ trade.expiresAtMs) ∧
    ∀ expiresAtMs, tradeExpiry trades = some expiresAtMs →
      ∃ trade ∈ trades, trade.expiresAtMs = expiresAtMs := by
  unfold tradeExpiry
  induction trades using List.reverseRecOn with
  | nil => simp
  | append_singleton trades last ih =>
    obtain ⟨hmin, hsome⟩ := ih
    rw [List.foldl_append, List.foldl_cons, List.foldl_nil]
    constructor
    · intro trade hmem
      split_ifs with hlt
      · refine ⟨_, rfl, ?_⟩
        obtain hmem | hmem := List.mem_append.1 hmem
        · obtain ⟨earliest, hearliest, hle⟩ := hmin trade hmem
          rw [hearliest] at hlt
          have hlt' : last.expiresAtMs < earliest := by simpa using hlt
          exact hlt'.le.trans hle
        · rw [List.mem_singleton.1 hmem]
      · obtain hmem | hmem := List.mem_append.1 hmem
        · exact hmin trade hmem
        · rw [List.mem_singleton.1 hmem]
          cases hfold : trades.foldl (fun earliest trade =>
              if earliest.all fun expiresAtMs => trade.expiresAtMs < expiresAtMs then
                some trade.expiresAtMs
              else earliest) none with
          | none => simp [hfold] at hlt
          | some earliest => exact ⟨earliest, rfl, by simpa [hfold] using hlt⟩
    · intro expiresAtMs h
      split_ifs at h
      · cases h
        exact ⟨last, by simp, rfl⟩
      · obtain ⟨trade, hmem, rfl⟩ := hsome expiresAtMs h
        exact ⟨trade, List.mem_append_left _ hmem, rfl⟩

theorem mem_scheduledCandidates {candidate : Candidate} :
    candidate ∈ scheduledCandidates state t₀ ↔ candidate = turnCandidate state t₀ ∨
      (∃ gameEndAtMs ∈ state.gameEndAtMs, candidate = ⟨gameEndAtMs, 0, .enforceGameTimeLimit⟩) ∨
      ∃ expiresAtMs ∈ tradeExpiry state.activeTrades,
        candidate = ⟨expiresAtMs, 4, .cleanupExpiredTrades⟩ := by
  simp only [scheduledCandidates, List.mem_cons, List.mem_append, Option.mem_toList,
    Option.mem_def, Option.map_eq_some_iff, eq_comm (b := candidate)]

/-- The turn's own timer goes first when no other candidate stands before it. -/
theorem turnTimerFirst_iff : TurnTimerFirst state t₀ ↔
    ∀ candidate ∈ scheduledCandidates state t₀,
      ScheduledBefore t₀ (turnCandidate state t₀) candidate := by
  obtain ⟨hlo, hhi⟩ := @turnCandidate_priority state t₀
  obtain ⟨hmin, hsome⟩ := tradeExpiry_spec state.activeTrades
  unfold TurnTimerFirst
  constructor
  · intro h candidate hmem
    rw [scheduledBefore_iff, turnCandidate_dueAtMs]
    obtain rfl | ⟨gameEndAtMs, hend, rfl⟩ | ⟨expiresAtMs, hexpires, rfl⟩ :=
      mem_scheduledCandidates.1 hmem
    · rw [turnCandidate_dueAtMs]
      split_ifs <;> omega
    · split_ifs at h ⊢ with hready
      · exact .inl (h gameEndAtMs hend)
      · have := h.1 gameEndAtMs hend
        dsimp only
        omega
    · split_ifs at h ⊢ with hready
      · exact .inr (.inl hhi)
      · obtain ⟨trade, htrade, rfl⟩ := hsome expiresAtMs hexpires
        have := h.2 trade htrade
        dsimp only
        omega
  · intro h
    have hlimit := fun gameEndAtMs hend => scheduledBefore_iff.1
      (h ⟨gameEndAtMs, 0, .enforceGameTimeLimit⟩
        (mem_scheduledCandidates.2 (.inr (.inl ⟨gameEndAtMs, hend, rfl⟩))))
    simp only [turnCandidate_dueAtMs] at hlimit
    split_ifs with hready
    · intro gameEndAtMs hend
      have := hlimit gameEndAtMs hend
      rw [if_pos hready] at this
      omega
    · refine ⟨fun gameEndAtMs hend => ?_, fun trade htrade => ?_⟩
      · have := hlimit gameEndAtMs hend
        rw [if_neg hready] at this
        omega
      · obtain ⟨expiresAtMs, hexpires, hle⟩ := hmin trade htrade
        have := scheduledBefore_iff.1 (h ⟨expiresAtMs, 4, .cleanupExpiredTrades⟩
          (mem_scheduledCandidates.2 (.inr (.inr ⟨expiresAtMs, hexpires, rfl⟩))))
        rw [turnCandidate_dueAtMs, if_neg hready] at this
        dsimp only at this
        omega

/-- Two candidates that stand before each other have one priority. -/
theorem priority_eq_of_tie {left right : Candidate} (h : ScheduledBefore t₀ left right)
    (h' : ScheduledBefore t₀ right left) : left.priority = right.priority := by
  rw [scheduledBefore_iff] at h h'
  split_ifs at h h' <;> omega

end InTime

/-! ### The picked command -/

section Picked

variable {sha256 : String → List UInt8} {state : ActiveGameplayAggregateState} {t₀ t₁ : ℤ}
  {scheduled : ScheduledRoomCommand} {context : GameplayCommandContext}

theorem nextScheduledRoomCommand_eq_some
    (h : nextScheduledRoomCommand sha256 (.gameplay (.inProgress state)) t₀ = some scheduled) :
    state.bankruptcyRequiredSeatIndex = none ∧ ∃ selected ∈ scheduledCandidates state t₀,
      (∀ candidate ∈ scheduledCandidates state t₀, ScheduledBefore t₀ selected candidate) ∧
      scheduled.command = ⟨state.stateVersion, selected.type.body⟩ ∧
      scheduled.dueAtMs = selected.dueAtMs := by
  simp only [nextScheduledRoomCommand] at h
  split_ifs at h with hnot
  obtain ⟨selected, hhead, rfl⟩ := Option.map_eq_some_iff.1 h
  obtain ⟨hmem, hbefore⟩ := head?_insertionSort hhead
  exact ⟨not_not.1 (not_or.1 hnot).2, selected, hmem, hbefore, rfl, rfl⟩

/-- A candidate other than the turn's own stands first only when the turn's own does not. -/
theorem not_turnTimerFirst {selected : Candidate}
    (hmem : selected ∈ scheduledCandidates state t₀)
    (hbefore : ∀ candidate ∈ scheduledCandidates state t₀, ScheduledBefore t₀ selected candidate)
    (hpriority : selected.priority = 0 ∨ selected.priority = 4) : ¬ TurnTimerFirst state t₀ := by
  intro hfirst
  have htie := priority_eq_of_tie (turnTimerFirst_iff.1 hfirst selected hmem)
    (hbefore _ (mem_scheduledCandidates.2 (.inl rfl)))
  obtain ⟨hlo, hhi⟩ := @turnCandidate_priority state t₀
  omega

/-- The turn's own timer, due, is ready within its window. -/
theorem turnCandidate_ready (hdue : turnDueAtMs state t₀ ≤ t₁) :
    ∃ command, (turnCandidate state t₀).type.body = .timeout command ∧
      command ≠ .enforceGameTimeLimit ∧ (TimerReady state t₁ command ↔
        (WarnsThirty state t₀ →
          t₁ < state.turn.deadlineAtMs - 10000 ∧ .ten ∉ state.turn.emittedWarnings) ∧
        (WarnsTen state t₀ → t₁ < state.turn.deadlineAtMs)) := by
  rw [turnCandidate_eq]
  unfold turnDueAtMs at hdue
  split_ifs at hdue ⊢ with hthirty hten
  · refine ⟨.warnTurnThirtySeconds, rfl, by simp, ?_⟩
    have hnot : ¬ WarnsTen state t₀ := fun hten => by
      obtain hge | hmem := hten.2.2
      · exact absurd hthirty.2 (not_lt.2 hge)
      · exact hthirty.1 hmem
    simp only [TimerReady, hthirty, hnot, forall_true_left, false_imp_iff, and_true]
    have hnew := hthirty.1
    tauto
  · refine ⟨.warnTurnTenSeconds, rfl, by simp, ?_⟩
    simp only [TimerReady, hthirty, hten, forall_true_left, false_imp_iff, true_and]
    have hnew := hten.1
    tauto
  · refine ⟨.handleTurnTimeout, rfl, by simp, ?_⟩
    simp only [TimerReady, hthirty, hten, false_imp_iff, true_and]
    tauto

end Picked

/-- The command the clock picked at `t₀` is accepted at `t₁` exactly when it is still in time. -/
theorem scheduled_accepted_iff (sha256 : String → List UInt8)
    (state : ActiveGameplayAggregateState) (t₀ t₁ : ℤ) (scheduled : ScheduledRoomCommand)
    (context : GameplayCommandContext) (hreach : ReachableGame (.inProgress state))
    (hvalid : isValidActiveGameplayAggregateState state = true)
    (hnext : nextScheduledRoomCommand sha256 (.gameplay (.inProgress state)) t₀ = some scheduled)
    (hdue : scheduled.dueAtMs ≤ t₁) (hstart : state.turn.startedAtMs ≤ t₁)
    (hsafe : IsSafeInteger (t₁ + 90000)) (hactor : context.actor = .internal)
    (hnow : context.nowMs = t₁) :
    (∃ state' events, transitionGameplay (.inProgress state) scheduled.command context
      = .ok (state', events)) ↔ DispatchedInTime state t₀ t₁ := by
  have hv := isValidActive_iff.1 hvalid
  have hp := playable_of_reachable hreach
  have h0 : 0 ≤ t₁ := hv.turn.turn_valid.1.2.2.1.trans hstart
  have hsafe' : IsSafeInteger t₁ := ⟨by omega, by omega⟩
  subst hnow
  have htime : ClockableTime context.nowMs := ⟨hsafe', h0, hsafe⟩
  obtain ⟨hnone, selected, hmem, hbefore, hcommand, hselected⟩ :=
    nextScheduledRoomCommand_eq_some hnext
  rw [hcommand]
  show Accepted state selected.type.body context ↔ _
  rw [hselected] at hdue
  unfold DispatchedInTime
  obtain rfl | ⟨gameEndAtMs, hend, rfl⟩ | ⟨expiresAtMs, hexpires, rfl⟩ :=
    mem_scheduledCandidates.1 hmem
  · -- the turn's own timer
    have hfirst := turnTimerFirst_iff.2 hbefore
    rw [turnCandidate_dueAtMs] at hdue
    obtain ⟨command, hbody, hne, hready⟩ := turnCandidate_ready hdue
    rw [hbody, accepted_timer_iff hv hp hactor htime.1 hstart fun _ => htime.2.2, hready]
    simp only [hnone, hfirst, hne, ne_eq, not_false_eq_true, true_and, forall_true_left]
  · -- the time limit
    have hnot := not_turnTimerFirst hmem hbefore (.inl rfl)
    show Accepted state (.timeout .enforceGameTimeLimit) context ↔ _
    rw [accepted_timer_iff hv hp hactor htime.1 hstart (by simp)]
    simp only [hnone, hnot, ne_eq, not_true_eq_false, false_imp_iff, true_and, and_true]
    exact and_iff_left ⟨gameEndAtMs, hend, hdue⟩
  · -- the expiry of trades
    have hnot := not_turnTimerFirst hmem hbefore (.inr rfl)
    show Accepted state (.trade .cleanupExpiredTrades) context ↔ _
    rw [accepted_cleanup_iff hv hactor hsafe' hstart]
    simp only [hnone, hnot, false_imp_iff, true_and, and_true]
    obtain ⟨trade, htrade, rfl⟩ := (tradeExpiry_spec state.activeTrades).2 expiresAtMs hexpires
    exact and_iff_left ⟨trade, htrade, hdue⟩

/-- Whether the clock picks, at `t₀`, a command due by `t₁` in a game in progress, on which the
answer at `t₁` passes `check`. -/
def scheduledWith (start : Option GameplayAggregateState) (t₀ t₁ : ℤ)
    (check : GameplayAggregateTransitionResult → Bool) : Bool :=
  match start with
  | some (.inProgress state) =>
    match nextScheduledRoomCommand (fun _ => []) (.gameplay (.inProgress state)) t₀ with
    | some scheduled => isValidActiveGameplayAggregateState state &&
        decide (scheduled.dueAtMs ≤ t₁ ∧ state.turn.startedAtMs ≤ t₁) &&
        check (transitionGameplay (.inProgress state) scheduled.command
          ⟨.internal, t₁, scriptedSource [] twoPlayerLobby.rng, none⟩)
    | none => false
  | _ => false

theorem exists_of_scheduledWith (start : Option GameplayAggregateState) (t₀ t₁ : ℤ)
    (check : GameplayAggregateTransitionResult → Bool)
    (h : scheduledWith start t₀ t₁ check = true) :
    ∃ state scheduled, start = some (.inProgress state) ∧
      nextScheduledRoomCommand (fun _ => []) (.gameplay (.inProgress state)) t₀
        = some scheduled ∧
      isValidActiveGameplayAggregateState state = true ∧ scheduled.dueAtMs ≤ t₁ ∧
      state.turn.startedAtMs ≤ t₁ ∧
      check (transitionGameplay (.inProgress state) scheduled.command
        ⟨.internal, t₁, scriptedSource [] twoPlayerLobby.rng, none⟩) = true := by
  unfold scheduledWith at h
  split at h
  next state =>
    split at h
    next scheduled hnext =>
      simp only [Bool.and_eq_true, decide_eq_true_eq] at h
      exact ⟨state, scheduled, rfl, hnext, h.1.1, h.1.2.1, h.1.2.2, h.2⟩
    · cases h
  · cases h

/-- The first warning of a game, on time. -/
theorem scheduled_accepted_iff_firstWarning : ∃ state scheduled,
    twoPlayerGame [] = some (.inProgress state) ∧
    nextScheduledRoomCommand (fun _ => []) (.gameplay (.inProgress state)) 0 = some scheduled ∧
    ((∃ state' events, transitionGameplay (.inProgress state) scheduled.command
        ⟨.internal, 60000, scriptedSource [] twoPlayerLobby.rng, none⟩ = .ok (state', events)) ↔
      DispatchedInTime state 0 60000) := by
  obtain ⟨state, scheduled, hstart, hnext, hvalid, hdue, hstarted, -⟩ :=
    exists_of_scheduledWith (twoPlayerGame []) 0 60000 (fun _ => true) (by decide +kernel)
  exact ⟨state, scheduled, hstart, hnext, scheduled_accepted_iff _ state 0 60000 scheduled _
    (reachable_of_twoPlayerGame hstart) hvalid hnext hdue hstarted (by decide) rfl rfl⟩

/-- Picked at the start of the game and handled ten seconds before the deadline, the first warning
is rejected. -/
theorem not_scheduled_accepted : ¬ ∀ (sha256 : String → List UInt8)
    (state : ActiveGameplayAggregateState) (t₀ t₁ : ℤ) (scheduled : ScheduledRoomCommand)
    (context : GameplayCommandContext), ReachableGame (.inProgress state) →
    isValidActiveGameplayAggregateState state = true →
    nextScheduledRoomCommand sha256 (.gameplay (.inProgress state)) t₀ = some scheduled →
    t₀ ≤ t₁ → scheduled.dueAtMs ≤ t₁ → state.turn.startedAtMs ≤ t₁ →
    IsSafeInteger (t₁ + 90000) → context.actor = .internal → context.nowMs = t₁ →
    ∃ state' events, transitionGameplay (.inProgress state) scheduled.command context
      = .ok (state', events) := by
  intro h
  obtain ⟨state, scheduled, hstart, hnext, hvalid, hdue, hstarted, hcheck⟩ :=
    exists_of_scheduledWith (twoPlayerGame []) 0 80000 (fun result => !result.isOk)
      (by decide +kernel)
  obtain ⟨state', events, hok⟩ := h _ state 0 80000 scheduled
    ⟨.internal, 80000, scriptedSource [] twoPlayerLobby.rng, none⟩
    (reachable_of_twoPlayerGame hstart) hvalid hnext (by decide) hdue hstarted (by decide) rfl rfl
  rw [hok] at hcheck
  cases hcheck

end Pootown

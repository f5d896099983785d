import Mathlib.Tactic
import Pootown.Invariants.Streaks
import Pootown.Library.Rotation

/-!
# The order of turns

The turn goes round the table: from a seat to the first seat after it that is active once the
command is done, whichever branch passes it on.

* `ActiveSeat`, `FirstActiveAfter`; `GameplayStep.turnOrder`: what one command does to the turn;
* `IsPlay`, `TurnBegins`, `ConsecutiveTurns`: the turns of a run;
* `IsPlay.passing`: a run as a token passed around the table, and `turn_order_fair`.
-/

namespace Pootown

open Rotation Slots

/-- The seat is taken by a player still in the game. -/
def ActiveSeat (players : List (Option GameplayPlayerState)) (seat : ℕ) : Prop :=
  ∃ player, slotAt players seat = some player ∧ player.status = .active

/-- `next` is the first active seat after `seat`, counting round the table of four. -/
def FirstActiveAfter (players : List (Option GameplayPlayerState)) (seat next : ℕ) : Prop :=
  NextLive 4 (ActiveSeat players) seat next

theorem firstActiveAfter_of_nextActiveSeat {players : List (Option GameplayPlayerState)}
    {seat next : ℕ}
    (h : nextActiveSeat (fun player => player.status) players seat = some next) :
    FirstActiveAfter players seat next := by
  have hfirst := nextLive_of_cyclicNext h
  have hactive : ∀ i, ((slotAt players i).any fun player => player.status == .active) = true ↔
      ActiveSeat players i := by
    intro i
    simp only [Option.any_eq_true, beq_iff_eq, ActiveSeat]
  simp only [hactive] at hfirst
  exact hfirst

/-! ### One command -/

section Steps

variable {state active : ActiveGameplayAggregateState} {nowMs : ℤ}

/-- Nobody comes back into the game. -/
theorem SeatsAfter.activeSeat {players : List (Option GameplayPlayerState)} {seat : ℕ}
    (h : SeatsAfter state players) (hactive : ActiveSeat players seat) :
    ActiveSeat state.players seat := by
  obtain ⟨player, hslot, hstatus⟩ := hactive
  cases h with
  | same _ hsame =>
    have hi : slotAt (standing players) seat = slotAt (standing state.players) seat := by rw [hsame]
    simp only [standing, slotAt_mapSlots, hslot, Option.map_some] at hi
    obtain ⟨before, hbefore, hpair⟩ := Option.map_eq_some_iff.1 hi.symm
    simp only [Prod.mk.injEq] at hpair
    exact ⟨before, hbefore, hpair.1.trans hstatus⟩
  | missed current hc hlt =>
    rw [afterMissedTurn, slotAt_updateSlot] at hslot
    split_ifs at hslot
    · obtain ⟨before, hbefore, rfl⟩ := Option.map_eq_some_iff.1 hslot
      exact ⟨before, hbefore, hstatus⟩
    · exact ⟨player, hslot, hstatus⟩
  | eliminated players out resolution hor helim hend =>
    rw [slotAt_updateSlot] at hslot
    split_ifs at hslot with hseat
    · obtain ⟨before, -, rfl⟩ := Option.map_eq_some_iff.1 hslot
      cases hstatus
    · obtain rfl | rfl := hor
      · exact ⟨player, hslot, hstatus⟩
      · rw [afterMissedTurn, slotAt_updateSlot_of_ne hseat] at hslot
        exact ⟨player, hslot, hstatus⟩

/-- Only the current seat can leave the game. -/
theorem SeatsAfter.keeps {players : List (Option GameplayPlayerState)} {seat : ℕ}
    (h : SeatsAfter state players) (hne : seat ≠ state.turn.currentSeatIndex)
    (hactive : ActiveSeat state.players seat) : ActiveSeat players seat := by
  obtain ⟨player, hslot, hstatus⟩ := hactive
  cases h with
  | same _ hsame =>
    have hi : slotAt (standing players) seat = slotAt (standing state.players) seat := by rw [hsame]
    simp only [standing, slotAt_mapSlots, hslot, Option.map_some] at hi
    obtain ⟨after, hafter, hpair⟩ := Option.map_eq_some_iff.1 hi
    simp only [Prod.mk.injEq] at hpair
    exact ⟨after, hafter, hpair.1.trans hstatus⟩
  | missed current hc hlt =>
    refine ⟨player, ?_, hstatus⟩
    rw [afterMissedTurn, slotAt_updateSlot_of_ne hne, hslot]
  | eliminated players out resolution hor helim hend =>
    refine ⟨player, ?_, hstatus⟩
    rw [slotAt_updateSlot_of_ne hne]
    obtain rfl | rfl := hor
    · exact hslot
    · rw [afterMissedTurn, slotAt_updateSlot_of_ne hne, hslot]

/-- The seat the turn is passed to, chosen before the command's changes, is the first active one
after them as well. -/
theorem PassesTurn.first {turn : ActiveGameplayAggregateTurn}
    {players : List (Option GameplayPlayerState)} (h : PassesTurn state nowMs turn)
    (hseats : SeatsAfter state players) :
    FirstActiveAfter players state.turn.currentSeatIndex turn.currentSeatIndex := by
  obtain ⟨next, hnext, hne, -, rfl⟩ := h
  have hfirst := firstActiveAfter_of_nextActiveSeat hnext
  exact hfirst.mono (fun _ hactive => hseats.activeSeat hactive) (hseats.keeps hne hfirst.isLive)

/-- After a command the turn is where it was, or with the first active seat after that. -/
theorem GameplayStep.turnOrder {body : GameplayCommandBody} {context : GameplayCommandContext}
    {events : List GameplayDomainEvent}
    (h : GameplayStep state context body (.inProgress active) events) :
    active.turn.currentSeatIndex = state.turn.currentSeatIndex ∨
      FirstActiveAfter active.players state.turn.currentSeatIndex active.turn.currentSeatIndex := by
  have hseats := h.players
  cases h with
  | turn command current _ _ hc hstep =>
    cases hstep with
    | endTurn turn hphase hpass => exact .inr (hpass.first hseats)
    | roll _ dice rng _ _ hcommand hphase hdraw hroll =>
      cases hroll with
      | jailRemains turn hin hno hlt hpass => exact .inr (hpass.first hseats)
      | threeDoubles turn hin htwo hdoubles hpass => exact .inr (hpass.first hseats)
      | goToJail cash movement turn hin hmove hbooks hle hpass =>
        exact .inr (hpass.first hseats)
      | jailBankruptcy => exact .inl rfl
      | jailRelease cash method movement turn hin hpay hmove hturn =>
        exact .inl (landing_seat hturn)
      | moved cash movement doubles turn hin hd hmove hbooks hle hturn =>
        exact .inl (landing_seat hturn)
  | property command current _ _ hnone hc hstep => cases hstep <;> exact .inl rfl
  | jail command current _ _ hphase hc hstep =>
    cases hstep with
    | bankruptcy => exact .inl rfl
    | released cash cards method turn hin hpay hpass => exact .inr (hpass.first hseats)
  | card command current cardId rng resolution _ _ hphase hc hdraw hres hstep =>
    cases hstep with
    | bankruptcy => exact .inl rfl
    | continued turn hsolvent hturn =>
      unfold continuationTurn at hturn
      split_ifs at hturn
      · exact .inl (landing_seat hturn)
      · obtain ⟨-, -, rfl⟩ := createClockedGameplayTurn_eq_some.1 hturn
        exact .inl rfl
  | bankruptcy current resolution _ _ hphase hc helim hstep =>
    cases hstep with
    | continued turn hend hpass => exact .inr (hpass.first hseats)
  | trade command _ _ hnone hstep => cases hstep <;> exact .inl rfl
  | timeout command current _ _ hactor hnone hlimit hc hstep =>
    cases hstep with
    | warning _ seconds turn hcommand hturn =>
      obtain ⟨-, -, -, -, -, -, -, rfl⟩ := emitTimeoutWarning_eq_ok.1 hturn
      exact .inl rfl
    | turnAdvanced turn next hdeadline hlt hpass hslot => exact .inr (hpass.first hseats)
    | forfeitContinued bankruptcy nextSeat next hdeadline htwo helim hend hseat htime hslot =>
      -- here the seat is chosen among the players left by the liquidation
      right
      rw [helim.players_eq] at hseat
      refine firstActiveAfter_of_nextActiveSeat (Eq.trans ?_ hseat)
      exact nextActiveSeat_congr fun i => by rw [slotAt_bankruptcyPlayers, Option.map_map]; rfl

end Steps

/-! ### The turns of a run -/

/-- The states a run of accepted commands goes through while the game is in progress. -/
def IsPlay (play : List ActiveGameplayAggregateState) : Prop :=
  play.IsChain fun state state' =>
    ∃ accepted, Accepts (.inProgress state) accepted (.inProgress state')

/-- The seat is active in the state number `k`. -/
def ActiveAt (play : List ActiveGameplayAggregateState) (seat k : ℕ) : Prop :=
  ∃ state, play[k]? = some state ∧ ActiveSeat state.players seat

/-- The state of a game in progress. -/
def GameplayAggregateState.active? : GameplayAggregateState → Option ActiveGameplayAggregateState
  | .inProgress state => some state
  | .finished _ => none

/-- The states the game goes through as the inputs are accepted one by one. -/
def playThrough (state : ActiveGameplayAggregateState) :
    List (GameplayCommand × GameplayCommandContext) → Option (List ActiveGameplayAggregateState)
  | [] => some [state]
  | input :: rest =>
    ((nextState (.inProgress state) input).bind GameplayAggregateState.active?).bind fun next =>
      (playThrough next rest).map (state :: ·)

theorem isPlay_of_playThrough {state : ActiveGameplayAggregateState}
    {inputs : List (GameplayCommand × GameplayCommandContext)}
    {play : List ActiveGameplayAggregateState} (h : playThrough state inputs = some play) :
    IsPlay play ∧ play.head? = some state := by
  induction inputs generalizing state play with
  | nil =>
    cases h
    exact ⟨.singleton state, rfl⟩
  | cons input rest ih =>
    obtain ⟨next, hnext, hrest⟩ := Option.bind_eq_some_iff.1 h
    obtain ⟨after, hafter, hactive⟩ := Option.bind_eq_some_iff.1 hnext
    obtain ⟨tail, htail, rfl⟩ := Option.map_eq_some_iff.1 hrest
    obtain ⟨hplay, hhead⟩ := ih htail
    obtain ⟨events, haccepts⟩ := nextState_eq_some.1 hafter
    refine ⟨hplay.cons fun first hfirst => ?_, rfl⟩
    rw [hhead, Option.mem_some_iff] at hfirst
    subst hfirst
    cases after with
    | finished finished => cases hactive
    | inProgress after =>
      cases hactive
      exact ⟨⟨input.1, input.2, events⟩, haccepts⟩

/-- A turn of the seat begins with the state number `k`: it has the turn there, and not before. -/
def TurnBegins (play : List ActiveGameplayAggregateState) (seat k : ℕ) : Prop :=
  ∃ state, play[k]? = some state ∧ state.turn.currentSeatIndex = seat ∧
    ∀ m before, k = m + 1 → play[m]? = some before → before.turn.currentSeatIndex ≠ seat

/-- Turns of the seat begin with the states number `i` and `j`, and none in between. -/
structure ConsecutiveTurns (play : List ActiveGameplayAggregateState) (seat i j : ℕ) : Prop where
  lt : i < j
  first : TurnBegins play seat i
  second : TurnBegins play seat j
  none_between : ∀ k, i < k → k < j → ¬ TurnBegins play seat k

/-- The seat that has the turn in the state number `k`. -/
def seatAt (play : List ActiveGameplayAggregateState) (k : ℕ) : ℕ :=
  (play[k]?).elim 0 fun state => state.turn.currentSeatIndex

section Play

variable {play : List ActiveGameplayAggregateState} {seat i j k : ℕ}

theorem arrives_iff (hk : 0 < k) (hlt : k < play.length) :
    Arrives (seatAt play) seat k ↔ TurnBegins play seat k := by
  obtain ⟨m, rfl⟩ : ∃ m, k = m + 1 := ⟨k - 1, by omega⟩
  have hat := List.getElem?_eq_getElem hlt
  have hbefore := List.getElem?_eq_getElem (show m < play.length by omega)
  simp only [Arrives, TurnBegins, seatAt, Nat.add_sub_cancel, hat, hbefore, Option.elim_some,
    Option.some.injEq, exists_eq_left', Nat.add_right_cancel_iff]
  constructor
  · rintro ⟨hseat, hother⟩
    refine ⟨hseat, ?_⟩
    rintro m' before rfl hget
    rw [hbefore] at hget
    cases hget
    exact hother
  · rintro ⟨hseat, hother⟩
    exact ⟨hseat, hother m _ rfl hbefore⟩

/-- A run of accepted commands passes the turn around the table. -/
theorem IsPlay.passing (h : IsPlay play) (hij : i < j) (hj : j < play.length) :
    Passing 4 (seatAt play) (fun k seat => ActiveAt play seat k) i j := by
  have hstep : ∀ k, k < j → ∃ state active, play[k]? = some state ∧
      play[k + 1]? = some active ∧ ValidActive state ∧ ∃ context body events,
        GameplayStep state context body (.inProgress active) events := by
    intro k hk
    obtain ⟨accepted, haccepts⟩ := List.isChain_iff_getElem.1 h k (by omega)
    obtain ⟨hadm, hstep⟩ := transitionGameplay_step haccepts
    exact ⟨_, _, List.getElem?_eq_getElem _, List.getElem?_eq_getElem _, hadm.valid, _, _, _, hstep⟩
  have hmove : ∀ k, k < j → seatAt play k < 4 ∧ (seatAt play (k + 1) = seatAt play k ∨
      NextLive 4 (fun seat => ActiveAt play seat (k + 1)) (seatAt play k) (seatAt play (k + 1))) := by
    intro k hk
    obtain ⟨state, active, hstate, hactive, hv, context, body, events, hgame⟩ := hstep k hk
    have hlive : (fun seat => ActiveAt play seat (k + 1)) = ActiveSeat active.players := by
      funext seat
      simp [ActiveAt, hactive]
    rw [hlive]
    simp only [seatAt, hstate, hactive, Option.elim_some]
    exact ⟨hv.seat_lt, hgame.turnOrder⟩
  constructor
  · intro k hik hkj
    rcases Nat.lt_or_ge k j with hlt | hge
    · exact (hmove k hlt).1
    · obtain ⟨m, rfl⟩ : ∃ m, k = m + 1 := ⟨k - 1, by omega⟩
      obtain ⟨hseat, hrest | hnext⟩ := hmove m (by omega)
      · rwa [hrest]
      · exact hnext.lt
  · rintro k hik hkj seat ⟨after, hafter, hseat⟩
    obtain ⟨state, active, hstate, hactive, hv, context, body, events, hgame⟩ := hstep k hkj
    rw [hactive] at hafter
    cases hafter
    exact ⟨state, hstate, hgame.players.activeSeat hseat⟩
  · exact fun k _ hkj => (hmove k hkj).2

end Play

/-- Turn order is fair.  A command that passes the turn gives it to the first seat after the current
one that is then active; so between two consecutive turns of a seat, every other seat that stays
active has exactly one turn, and a seat that is empty or out of the game has none. -/
theorem turn_order_fair :
    (∀ (state active : ActiveGameplayAggregateState) (command : GameplayCommand)
      (context : GameplayCommandContext) (events : List GameplayDomainEvent),
      transitionGameplay (.inProgress state) command context = .ok (.inProgress active, events) →
      active.turn.currentSeatIndex ≠ state.turn.currentSeatIndex →
      FirstActiveAfter active.players state.turn.currentSeatIndex active.turn.currentSeatIndex) ∧
    (∀ (play : List ActiveGameplayAggregateState), IsPlay play →
      ∀ seat i j, ConsecutiveTurns play seat i j →
      (∀ other ≠ seat, (∀ k, i ≤ k → k ≤ j → ActiveAt play other k) →
        ∃! k, (i < k ∧ k < j) ∧ TurnBegins play other k) ∧
      (∀ other k, i < k → k < j → TurnBegins play other k →
        ∀ m, i ≤ m → m ≤ k → ActiveAt play other m)) := by
  constructor
  · intro state active command context events h hne
    exact (transitionGameplay_step h).2.turnOrder.resolve_left hne
  · intro play hplay seat i j hturns
    obtain ⟨hij, ⟨first, hfirst, hseat, -⟩, hsecond, hnone⟩ := hturns
    have hj : j < play.length := by
      obtain ⟨second, hget, -⟩ := hsecond
      exact (List.getElem?_eq_some_iff.1 hget).1
    have hpass := hplay.passing hij hj
    constructor
    · intro other hother hstays
      have hlt : other < 4 := by
        obtain ⟨accepted, haccepts⟩ := List.isChain_iff_getElem.1 hplay i (by omega)
        obtain ⟨state, hget, player, hslot, -⟩ := hstays i le_rfl hij.le
        rw [List.getElem?_eq_getElem (by omega), Option.some.injEq] at hget
        subst hget
        exact (transitionGameplay_step haccepts).1.valid.table.seat_lt hslot
      obtain ⟨k, ⟨⟨hik, hkj⟩, harr⟩, hunique⟩ := hpass.exists_unique_arrival hij
        (by rw [seatAt, hfirst]; exact hseat) ((arrives_iff (by omega) hj).2 hsecond)
        (fun m him hmj harr => hnone m him hmj ((arrives_iff (by omega) (by omega)).1 harr))
        hlt hother (hstays j hij.le le_rfl)
      refine ⟨k, ⟨⟨hik, hkj⟩, (arrives_iff (by omega) (by omega)).1 harr⟩, ?_⟩
      rintro l ⟨⟨hil, hlj⟩, hbegins⟩
      exact hunique l ⟨⟨hil, hlj⟩, (arrives_iff (by omega) (by omega)).2 hbegins⟩
    · intro other k hik hkj hbegins m him hmk
      have harr := (arrives_iff (by omega) (by omega)).2 hbegins
      exact hpass.live_of_le him hmk hkj.le (hpass.live_of_arrives hik hkj.le harr)

/-- The rule at work: both players let their turns run out, and bob has one turn between alice's. -/
theorem turn_order_fair_rounds : ∃ play : List ActiveGameplayAggregateState, IsPlay play ∧
    (play.map fun state => state.turn.currentSeatIndex) = [0, 1, 0] ∧
    ∃! k, (0 < k ∧ k < 2) ∧ TurnBegins play 1 k := by
  obtain ⟨state, -, hcheck⟩ := exists_of_inProgressWith (twoPlayerGame [])
    (fun state => (playThrough state
      [timer .handleTurnTimeout 1 90000, timer .handleTurnTimeout 2 180000]).any fun play =>
        (play.map fun state => state.turn.currentSeatIndex) == [0, 1, 0] &&
        play.all fun state => (slotAt state.players 1).any fun player => player.status == .active)
    (by decide +kernel)
  obtain ⟨play, hplay, hcheck⟩ := (Option.any_eq_true _ _).1 hcheck
  simp only [Bool.and_eq_true, beq_iff_eq, List.all_eq_true, Option.any_eq_true] at hcheck
  obtain ⟨hseats, hactive⟩ := hcheck
  have hchain := (isPlay_of_playThrough hplay).1
  refine ⟨play, hchain, hseats, ?_⟩
  obtain ⟨first, second, third, rfl⟩ : ∃ first second third, play = [first, second, third] :=
    List.length_eq_three.1 (by simpa using congrArg List.length hseats)
  simp only [List.map_cons, List.map_nil, List.cons.injEq, and_true] at hseats
  obtain ⟨hfirst, hsecond, hthird⟩ := hseats
  have hturns : ConsecutiveTurns [first, second, third] 0 0 2 := by
    refine ⟨by omega, ⟨first, rfl, hfirst, fun m _ hm _ => by omega⟩,
      ⟨third, rfl, hthird, fun m before hm hbefore => ?_⟩, fun k hk hk' => ?_⟩
    · obtain rfl : m = 1 := by omega
      cases hbefore
      rw [hsecond]
      decide
    · obtain rfl : k = 1 := by omega
      rintro ⟨state, hstate, hseat, -⟩
      cases hstate
      rw [hsecond] at hseat
      cases hseat
  refine (turn_order_fair.2 _ hchain 0 0 2 hturns).1 1 (by decide) fun k _ hk => ?_
  have hlt : k < [first, second, third].length := by simp only [List.length_cons]; omega
  obtain ⟨player, hslot, hstatus⟩ := hactive _ (List.getElem_mem hlt)
  exact ⟨_, List.getElem?_eq_getElem hlt, player, hslot, hstatus⟩

end Pootown

import Mathlib.Tactic
import Pootown.Invariants.CashLedger

/-!
# Games that can be played on

What every game in progress has, whatever was played since it started.

* `standing`: which seats are active and the turns they have missed, and `activeCount`;
* `GameplayStep.version`, `GameplayStep.players`, `GameplayStep.cash_le`: what one command does to
  the version, to the standing and to the cash of a game that stays in progress;
* `Playable`: two active seats, none of them with three missed turns, and cash far from the limit;
  `playable_of_reachable`.
-/

namespace Pootown

open Fallible Runs Slots

/-! ### The standing of the seats -/

/-- Whether each seat is active, and the turns it has missed. -/
def standing (players : List (Option GameplayPlayerState)) : List (Option (PlayerStatus × ℕ)) :=
  mapSlots (fun _ player => (player.status, player.missedTurns)) players

/-- The number of active seats. -/
def activeCount (players : List (Option GameplayPlayerState)) : ℤ :=
  total (fun player => if player.status = .active then 1 else 0) players

/-- Rewriting that leaves status and missed turns alone keeps the standing. -/
theorem standing_mapSlots {f : ℕ → GameplayPlayerState → GameplayPlayerState}
    {players : List (Option GameplayPlayerState)}
    (h : ∀ i p, slotAt players i = some p →
      (f i p).status = p.status ∧ (f i p).missedTurns = p.missedTurns) :
    standing (mapSlots f players) = standing players := by
  unfold standing
  rw [mapSlots_mapSlots]
  refine mapSlots_congr fun i p hp => ?_
  rw [(h i p hp).1, (h i p hp).2]

theorem standing_updateSlot (seat : ℕ) {f : GameplayPlayerState → GameplayPlayerState}
    (players : List (Option GameplayPlayerState))
    (h : ∀ p, (f p).status = p.status ∧ (f p).missedTurns = p.missedTurns) :
    standing (updateSlot seat f players) = standing players := by
  refine standing_mapSlots fun i p _ => ?_
  split_ifs
  · exact h p
  · exact ⟨rfl, rfl⟩

theorem activeCount_standing (players : List (Option GameplayPlayerState)) :
    activeCount players = total (fun s => if s.1 = .active then 1 else 0) (standing players) := by
  unfold standing
  rw [total_mapSlots_of_eq (v := fun player : GameplayPlayerState =>
    if player.status = .active then 1 else 0) fun _ _ _ => rfl]
  rfl

theorem activeCount_congr {players players' : List (Option GameplayPlayerState)}
    (h : standing players' = standing players) : activeCount players' = activeCount players := by
  rw [activeCount_standing, activeCount_standing, h]

theorem activeCount_mapSlots {f : ℕ → GameplayPlayerState → GameplayPlayerState}
    {players : List (Option GameplayPlayerState)}
    (h : ∀ i p, slotAt players i = some p → (f i p).status = p.status) :
    activeCount (mapSlots f players) = activeCount players :=
  total_mapSlots_of_eq fun i p hp => by rw [h i p hp]

theorem activeCount_afterMissedTurn (state : ActiveGameplayAggregateState) (missedTurns : ℕ) :
    activeCount (afterMissedTurn state missedTurns) = activeCount state.players := by
  refine activeCount_mapSlots fun i p _ => ?_
  split_ifs <;> rfl

/-- Eliminating an active seat takes it out of the count. -/
theorem activeCount_eliminate {players : List (Option GameplayPlayerState)} {seat : ℕ}
    {player : GameplayPlayerState} (hslot : slotAt players seat = some player)
    (hactive : player.status = .active) :
    activeCount (updateSlot seat GameplayPlayerState.eliminate players)
      = activeCount players - 1 := by
  have hout : (player.eliminate).status = .eliminated := rfl
  unfold activeCount
  rw [total_updateSlot hslot, hactive, hout]
  simp

/-- The rules of bankruptcy count the same seats. -/
theorem length_activeSeatIndexes (players : List (Option GameplayPlayerState)) :
    ((activeSeatIndexes (bankruptcyPlayers players)).length : ℤ) = activeCount players := by
  unfold activeSeatIndexes
  rw [List.length_map, length_filter_occupants]
  exact total_mapSlots_of_eq fun i p _ => by simp

/-- A game goes on after an elimination exactly when two seats are left. -/
theorem Eliminated.end_iff {state : ActiveGameplayAggregateState} {seat : ℕ}
    {players : List (Option GameplayPlayerState)} {player : GameplayPlayerState}
    {resolution : BankruptcyResolution} (h : Eliminated state seat players player resolution) :
    resolution.endConditionMet = true ↔ activeCount players ≤ 2 := by
  have hlen := length_activeSeatIndexes (updateSlot seat GameplayPlayerState.eliminate players)
  rw [activeCount_eliminate h.slot h.active, ← h.players_eq] at hlen
  rw [h.end_eq, decide_eq_true_iff]
  omega

/-! ### What one command changes -/

section Steps

variable {state state' : ActiveGameplayAggregateState} {current : GameplayPlayerState}
  {nowMs : ℤ} {events : List GameplayDomainEvent}

/-- A roll moves the version on and leaves the standing alone. -/
theorem RollStep.kept {dice : DiceRoll} {rng : RandomCheckpoint}
    (h : RollStep state current nowMs dice rng state' events) :
    state'.stateVersion = state.stateVersion + 1 ∧
      standing state'.players = standing state.players := by
  cases h <;> exact ⟨rfl, standing_updateSlot _ _ fun _ => ⟨rfl, rfl⟩⟩

theorem TurnStep.kept {randomSource : RandomSource} {command : GameplayTurnCommand}
    (h : TurnStep state current nowMs randomSource command state' events) :
    state'.stateVersion = state.stateVersion + 1 ∧
      standing state'.players = standing state.players := by
  cases h with
  | endTurn turn hphase hpass => exact ⟨rfl, standing_updateSlot _ _ fun _ => ⟨rfl, rfl⟩⟩
  | roll _ dice rng _ _ hne hphase hdraw hroll => exact hroll.kept

theorem PropertyStep.kept (h : PropertyStep state current nowMs state' events) :
    state'.stateVersion = state.stateVersion + 1 ∧
      standing state'.players = standing state.players := by
  cases h with
  | decline | bankruptcy => exact ⟨rfl, rfl⟩
  | buy | tax | building => exact ⟨rfl, standing_updateSlot _ _ fun _ => ⟨rfl, rfl⟩⟩
  | rent =>
    refine ⟨rfl, standing_mapSlots fun i p _ => ?_⟩
    split_ifs <;> exact ⟨rfl, rfl⟩

theorem JailStep.kept (h : JailStep state current nowMs state' events) :
    state'.stateVersion = state.stateVersion + 1 ∧
      standing state'.players = standing state.players := by
  cases h with
  | bankruptcy => exact ⟨rfl, rfl⟩
  | released => exact ⟨rfl, standing_updateSlot _ _ fun _ => ⟨rfl, rfl⟩⟩

theorem CardStep.kept {deck : CardDeck} {rng : RandomCheckpoint} {resolution : CardResolution}
    (h : CardStep state current nowMs deck rng resolution state' events) :
    state'.stateVersion = state.stateVersion + 1 ∧
      standing state'.players = standing state.players := by
  cases h <;> exact ⟨rfl, standing_updateSlot _ _ fun _ => ⟨rfl, rfl⟩⟩

theorem TradeStep.kept {command : GameplayTradeCommand}
    (h : TradeStep state nowMs command state' events) :
    state'.stateVersion = state.stateVersion + 1 ∧
      standing state'.players = standing state.players := by
  cases h with
  | accepted => exact ⟨rfl, standing_mapSlots fun _ _ _ => ⟨rfl, rfl⟩⟩
  | cleanup | created | rejected | cancelled => exact ⟨rfl, rfl⟩

/-- The ways a command can leave a game in progress, seen from the seats. -/
inductive SeatsAfter (state : ActiveGameplayAggregateState) :
    List (Option GameplayPlayerState) → Prop
  | same (players : List (Option GameplayPlayerState)) :
      standing players = standing state.players → SeatsAfter state players
  | missed (current : GameplayPlayerState) : IsCurrent state current → current.missedTurns < 2 →
      SeatsAfter state (afterMissedTurn state (current.missedTurns + 1))
  | eliminated (players : List (Option GameplayPlayerState)) (player : GameplayPlayerState)
      (resolution : BankruptcyResolution) :
      players = state.players ∨ players = afterMissedTurn state 3 →
      Eliminated state state.turn.currentSeatIndex players player resolution →
      resolution.endConditionMet = false →
      SeatsAfter state (updateSlot state.turn.currentSeatIndex GameplayPlayerState.eliminate
        players)

end Steps

/-! ### What one command can announce -/

section Announced

variable {state state' : ActiveGameplayAggregateState} {current : GameplayPlayerState}
  {nowMs : ℤ} {events : List GameplayDomainEvent} {base : GameplayAggregateStateBase}

theorem unpaidCash_nonneg {dice : DiceRoll} (h : 0 ≤ current.cash) :
    0 ≤ unpaidCash current dice := by
  unfold unpaidCash
  split_ifs
  · exact h
  · exact le_rfl

/-- A roll announces a salary at most. -/
theorem RollStep.announced_le {dice : DiceRoll} {rng : RandomCheckpoint}
    (h : RollStep state current nowMs dice rng state' events) :
    announcedCash base events ≤ 200 := by
  cases h with
  | jailRelease cash method =>
    cases method <;> simp [announcedCash, drawnCard, eventCash, salaryOf]
  | goToJail | moved =>
    simp only [announcedCash, drawnCard]
    simp [eventCash, salaryOf]
    split_ifs <;> omega
  | _ => simp [announcedCash, drawnCard, eventCash, salaryOf]

theorem PropertyStep.announced_le (h : PropertyStep state current nowMs state' events) :
    announcedCash base events ≤ 200 := by
  cases h with
  | tax taxKind =>
    cases taxKind <;> simp [announcedCash, drawnCard, eventCash, salaryOf, TaxKind.amount]
  | building action position property result hphase htime hresult =>
    obtain ⟨hchange, -, -⟩ := BuildingAction.apply_eq_ok hresult
    have h0 := hchange.amount_nonneg
    have hle := hchange.amount_le
    cases action <;> simp [BuildingAction.event, announcedCash, drawnCard, eventCash, salaryOf] <;>
      omega
  | _ => simp [announcedCash, drawnCard, eventCash, salaryOf]

theorem JailStep.announced_le (h : JailStep state current nowMs state' events) :
    announcedCash base events ≤ 200 := by
  cases h with
  | bankruptcy => simp [announcedCash, drawnCard]
  | released cash cards method =>
    cases method <;> simp [announcedCash, drawnCard, eventCash, salaryOf]

theorem CardStep.announced_le {deck : CardDeck} {cardId : ℕ} {rng : RandomCheckpoint}
    {resolution : CardResolution}
    (h : CardStep state current nowMs deck rng resolution state' events) (hv : ValidActive state)
    (hc : IsCurrent state current)
    (hres : resolveCard deck cardId current.toCard (occupants state.players).length
      = .ok resolution) :
    announcedCash state.toGameplayAggregateStateBase events ≤ 200 := by
  obtain ⟨hone, hall⟩ := announcedCash_card hv hc hres
  have hle := (resolveCard_eq_ok hres).1.cashDelta_le
  cases h with
  | bankruptcy => rw [hone]; exact hle
  | continued => rw [hall]; exact hle

/-- Elimination announces the liquidation value. -/
theorem BankruptcyStep.announced_le {resolution : BankruptcyResolution}
    {next : GameplayAggregateState}
    (h : BankruptcyStep state current nowMs resolution next events)
    (helim : Eliminated state state.turn.currentSeatIndex state.players current resolution) :
    announcedCash base events ≤ 28000 := by
  have hle := helim.value_le
  cases h with
  | continued => simpa [announcedCash, drawnCard, eventCash, salaryOf] using hle
  | finished => simpa [announcedCash, drawnCard, endEvents, eventCash, salaryOf] using hle

theorem TradeStep.announced_le {command : GameplayTradeCommand}
    (h : TradeStep state nowMs command state' events) : announcedCash base events ≤ 0 := by
  cases h with
  | cleanup trades expired hsub hne =>
    have hdrawn : drawnCard (expired.map .tradeExpired) = none := by
      simp [drawnCard, List.findSome?_map, Function.comp_def]
    simp [announcedCash, hdrawn, Function.comp_def, salaryOf, eventCash]
  | created | accepted | rejected | cancelled =>
    rw [announcedCash_expired]
    simp [announcedCash, drawnCard, eventCash, salaryOf]

theorem TimeoutStep.announced_le {command : GameplayTimeoutCommand}
    {next : GameplayAggregateState}
    (h : TimeoutStep state current nowMs command next events) :
    announcedCash base events ≤ 28000 := by
  cases h with
  | timeLimit => rw [announcedCash_endEvents]; omega
  | warning | turnAdvanced => simp [announcedCash, drawnCard, eventCash, salaryOf]
  | forfeitContinued bankruptcy nextSeat next hdeadline htwo helim =>
    simpa [announcedCash, drawnCard, forfeitEvents, eventCash, salaryOf] using helim.value_le
  | forfeitFinished bankruptcy terminal winner ranking hdeadline htwo helim =>
    simpa [announcedCash, drawnCard, forfeitEvents, endEvents, eventCash, salaryOf]
      using helim.value_le

end Announced

section Accepted

variable {state active : ActiveGameplayAggregateState} {state' : GameplayAggregateState}
  {body : GameplayCommandBody} {context : GameplayCommandContext}
  {events : List GameplayDomainEvent}

/-- Every accepted command moves the version on by one. -/
theorem GameplayStep.version (h : GameplayStep state context body state' events) :
    state'.base.stateVersion = state.stateVersion + 1 := by
  cases h with
  | turn command current active _ hc hstep => exact hstep.kept.1
  | property command current active _ hnone hc hstep => exact hstep.kept.1
  | jail command current active _ hphase hc hstep => exact hstep.kept.1
  | card command current cardId rng resolution active _ hphase hc hdraw hres hstep =>
    exact hstep.kept.1
  | bankruptcy current resolution _ _ hphase hc helim hstep => cases hstep <;> rfl
  | trade command active _ hnone hstep => exact hstep.kept.1
  | timeout command current _ _ hactor hnone hlimit hc hstep => cases hstep <;> rfl

/-- A command that leaves the game in progress keeps the seats, or counts a missed turn, or
eliminates the current seat with two others left. -/
theorem GameplayStep.players (h : GameplayStep state context body (.inProgress active) events) :
    SeatsAfter state active.players := by
  cases h with
  | turn command current _ _ hc hstep => exact .same _ hstep.kept.2
  | property command current _ _ hnone hc hstep => exact .same _ hstep.kept.2
  | jail command current _ _ hphase hc hstep => exact .same _ hstep.kept.2
  | card command current cardId rng resolution _ _ hphase hc hdraw hres hstep =>
    exact .same _ hstep.kept.2
  | bankruptcy current resolution _ _ hphase hc helim hstep =>
    cases hstep with
    | continued turn hend hpass => exact .eliminated _ current resolution (.inl rfl) helim hend
  | trade command _ _ hnone hstep => exact .same _ hstep.kept.2
  | timeout command current _ _ hactor hnone hlimit hc hstep =>
    cases hstep with
    | warning => exact .same _ rfl
    | turnAdvanced turn next hdeadline hlt hpass hslot => exact .missed current hc hlt
    | forfeitContinued bankruptcy nextSeat next hdeadline htwo helim hend hseat htime hslot =>
      exact .eliminated _ _ bankruptcy (.inr rfl) helim hend

/-- No command adds more cash to a game than a liquidation. -/
theorem GameplayStep.cash_le (h : GameplayStep state context body state' events)
    (hv : ValidActive state) :
    totalCash state'.base ≤ totalCash state.toGameplayAggregateStateBase + 28000 := by
  cases h with
  | turn command current active _ hc hstep =>
    cases hstep with
    | endTurn turn hphase hpass =>
      simp only [GameplayAggregateState.base, totalCash, total_updated hc]
      omega
    | roll _ dice rng _ _ hcommand hphase hdraw hroll =>
      have hcash := hroll.cash hc
      have hle : announcedCash state.toGameplayAggregateStateBase events ≤ 200 :=
        hroll.announced_le
      have h0 : 0 ≤ unpaidCash current dice := unpaidCash_nonneg (hc.rules hv).cash.1
      rw [GameplayAggregateState.base]
      omega
  | property command current active _ hnone hc hstep =>
    have hcash := hstep.cash hc
    have hle : announcedCash state.toGameplayAggregateStateBase events ≤ 200 :=
      hstep.announced_le
    rw [GameplayAggregateState.base]
    omega
  | jail command current active _ hphase hc hstep =>
    have hcash := hstep.cash hc
    have hle : announcedCash state.toGameplayAggregateStateBase events ≤ 200 :=
      hstep.announced_le
    rw [GameplayAggregateState.base]
    omega
  | card command current cardId rng resolution active _ hphase hc hdraw hres hstep =>
    have hcash := hstep.cash hv hc hres
    have hle := hstep.announced_le hv hc hres
    rw [GameplayAggregateState.base]
    omega
  | bankruptcy current resolution _ _ hphase hc helim hstep =>
    have hcash := hstep.cash helim
    have hle : announcedCash state.toGameplayAggregateStateBase events ≤ 28000 :=
      hstep.announced_le helim
    omega
  | trade command active _ hnone hstep =>
    have hcash := hstep.cash
    have hle : announcedCash state.toGameplayAggregateStateBase events ≤ 0 :=
      hstep.announced_le
    rw [GameplayAggregateState.base]
    omega
  | timeout command current _ _ hactor hnone hlimit hc hstep =>
    have hcash := hstep.cash
    have hle : announcedCash state.toGameplayAggregateStateBase events ≤ 28000 :=
      hstep.announced_le
    omega

end Accepted

/-! ### The invariant -/

/-- A game that can be played on.  The versions bound the commands so far, so the cash that they
may have minted stays far below the limit. -/
structure Playable (state : ActiveGameplayAggregateState) : Prop where
  two_active : 2 ≤ activeCount state.players
  missed_le : ∀ i p, slotAt state.players i = some p → p.status = .active → p.missedTurns ≤ 2
  cash_le : totalCash state.toGameplayAggregateStateBase ≤ 1006000 + 28000 * state.stateVersion

theorem SeatsAfter.two_active {state : ActiveGameplayAggregateState}
    {players : List (Option GameplayPlayerState)} (h : SeatsAfter state players)
    (htwo : 2 ≤ activeCount state.players) : 2 ≤ activeCount players := by
  cases h with
  | same _ hsame => rwa [activeCount_congr hsame]
  | missed current hc hlt => rwa [activeCount_afterMissedTurn]
  | eliminated players player resolution _ helim hend =>
    have hmore : ¬ activeCount players ≤ 2 := by
      rw [← helim.end_iff, hend]
      simp
    rw [activeCount_eliminate helim.slot helim.active]
    omega

theorem SeatsAfter.missed_le {state : ActiveGameplayAggregateState}
    {players : List (Option GameplayPlayerState)} (h : SeatsAfter state players)
    (hle : ∀ i p, slotAt state.players i = some p → p.status = .active → p.missedTurns ≤ 2) :
    ∀ i p, slotAt players i = some p → p.status = .active → p.missedTurns ≤ 2 := by
  intro i p hslot hactive
  cases h with
  | same _ hsame =>
    have hi : slotAt (standing players) i = slotAt (standing state.players) i := by rw [hsame]
    simp only [standing, slotAt_mapSlots, hslot, Option.map_some] at hi
    obtain ⟨q, hq, hpair⟩ := Option.map_eq_some_iff.1 hi.symm
    simp only [Prod.mk.injEq] at hpair
    rw [← hpair.2]
    exact hle i q hq (hpair.1.trans hactive)
  | missed current hc hlt =>
    rw [afterMissedTurn, slotAt_updateSlot] at hslot
    split_ifs at hslot with hi
    · obtain ⟨q, -, rfl⟩ := Option.map_eq_some_iff.1 hslot
      exact hlt
    · exact hle i p hslot hactive
  | eliminated players player resolution hor helim hend =>
    -- the eliminated seat is not active, and no other seat was touched
    have hi : i ≠ state.turn.currentSeatIndex := by
      rintro rfl
      rw [slotAt_updateSlot_self] at hslot
      obtain ⟨q, -, rfl⟩ := Option.map_eq_some_iff.1 hslot
      cases hactive
    rw [slotAt_updateSlot_of_ne hi] at hslot
    obtain rfl | rfl := hor
    · exact hle i p hslot hactive
    · rw [afterMissedTurn, slotAt_updateSlot_of_ne hi] at hslot
      exact hle i p hslot hactive

theorem Playable.step {state active : ActiveGameplayAggregateState} {body : GameplayCommandBody}
    {context : GameplayCommandContext} {events : List GameplayDomainEvent}
    (hp : Playable state) (h : GameplayStep state context body (.inProgress active) events)
    (hv : ValidActive state) : Playable active where
  two_active := h.players.two_active hp.two_active
  missed_le := h.players.missed_le hp.missed_le
  cash_le := by
    have hversion : active.stateVersion = state.stateVersion + 1 := h.version
    have hcash : totalCash active.toGameplayAggregateStateBase
        ≤ totalCash state.toGameplayAggregateStateBase + 28000 := h.cash_le hv
    have := hp.cash_le
    omega

/-- What the checks on a lobby give its first aggregate. -/
structure Opening (lobby : InProgressGameState) (active : ActiveGameplayAggregateState) : Prop where
  length_seats : lobby.seats.length = 4
  two_seats : 2 ≤ (occupants lobby.seats).length
  seat : ∀ i seat, slotAt lobby.seats i = some seat → ValidPlayerSeat lobby i seat
  players_eq : active.players = mapSlots (fun _ => PlayerSeat.toPlayer) lobby.seats
  version_pos : 1 ≤ active.stateVersion
  bank_eq : active.bankCash = 1000000
  pool_eq : active.freeParkingPool = 0

theorem initialized_opening {lobby : InProgressGameState}
    {active : ActiveGameplayAggregateState}
    (h : initializeGameplayAggregate lobby = some active) : Opening lobby active := by
  unfold initializeGameplayAggregate at h
  split_ifs at h with hinvalid
  rw [Bool.not_eq_false] at hinvalid
  simp only [validLifecycleInput, Bool.and_eq_true, decide_eq_true_eq,
    everySlot_eq_true] at hinvalid
  obtain ⟨⟨⟨⟨⟨⟨⟨⟨⟨⟨⟨⟨⟨⟨⟨⟨⟨⟨⟨-, -⟩, hversion⟩, hmin⟩, -⟩, hlen⟩, hbank⟩, -⟩, -⟩, -⟩, -⟩, -⟩, -⟩,
    -⟩, -⟩, hseat⟩, -⟩, hcount⟩, -⟩, -⟩ := hinvalid
  cases h
  exact {
    length_seats := hlen
    two_seats := by rwa [hmin] at hcount
    seat := hseat
    players_eq := rfl
    version_pos := hversion.1
    bank_eq := hbank.1
    pool_eq := hbank.2 }

/-- A started game seats two to four active players with 1500 each. -/
theorem playable_of_started {lobby : InProgressGameState} {active : ActiveGameplayAggregateState}
    (h : initializeGameplayAggregate lobby = some active) : Playable active := by
  have ho := initialized_opening h
  have hfour : (occupants lobby.seats).length ≤ 4 :=
    ho.length_seats ▸ List.length_filterMap_le id lobby.seats
  have htwo := ho.two_seats
  have htotal : ∀ (w : GameplayPlayerState → ℤ) (c : ℤ),
      (∀ i seat, slotAt lobby.seats i = some seat → w seat.toPlayer = c) →
      total w active.players = c * (occupants lobby.seats).length := by
    intro w c hw
    rw [ho.players_eq, total_mapSlots_of_eq (v := fun _ => c) hw]
    simp [total, mul_comm]
  constructor
  · rw [activeCount, htotal _ 1 fun i seat hslot => by
      rw [if_pos (show seat.toPlayer.status = .active from (ho.seat i seat hslot).2.1)]]
    omega
  · intro i p hslot _
    rw [ho.players_eq, slotAt_mapSlots] at hslot
    obtain ⟨seat, -, rfl⟩ := Option.map_eq_some_iff.1 hslot
    exact Nat.zero_le _
  · rw [totalCash, htotal _ 1500 fun i seat hslot => (ho.seat i seat hslot).2.2.2.1, ho.bank_eq,
      ho.pool_eq]
    have := ho.version_pos
    omega

/-- Every game in progress can be played on. -/
theorem playable_of_reachable {state : ActiveGameplayAggregateState}
    (h : ReachableGame (.inProgress state)) : Playable state := by
  have hall := h.invariant (I := fun s => ∀ active, s = .inProgress active → Playable active)
    (fun s hs active hactive => ?_) (fun s accepted s' hs haccepts active hactive => ?_)
  · exact hall state rfl
  · obtain ⟨lobby, first, hinit, rfl⟩ := hs
    cases hactive
    exact playable_of_started hinit
  · subst hactive
    cases s with
    | finished finished => exact (not_accepts_finished _ _ _ haccepts).elim
    | inProgress before =>
      obtain ⟨hadm, hstep⟩ := transitionGameplay_step haccepts
      exact (hs before rfl).step hstep hadm.valid

end Pootown

import Mathlib.Tactic
import Pootown.Contracts.GameplayState
import Pootown.Invariants.TradeBook
import Pootown.Serialization.GameplaySnapshot

/-!
# The published state of a game

After every commit a room shows its clients the game: it names the owners, the parties of the open
trades and the ranked players, hides the rest, and holds the result to the schema of the contract.

* `publicGameplayState`: what is published, or why nothing is;
* `publicView`: what the clients of a game see, with no way to fail;
* `publicGameplayState_eq`: a valid game whose trades are between seated players is published, and
  as its view;
* `published_of_run`: so is every valid state of a started game.
-/

namespace Pootown.Server

open Contracts Fallible Runs Slots

/-! ### Publication -/

/-- Why a state is not published.  Which issues the schema lists is left out. -/
inductive PublicationError
  | error (message : String)
  | schema
  deriving DecidableEq

def publicPlayer (properties : List PropertyState) (player : GameplayPlayerState) :
    GameplayPlayerPublicState where
  seatIndex := player.seatIndex
  playerId := player.playerId
  status := player.status
  cash := toString player.cash
  position := player.position
  inJail := player.inJail
  jailTurns := player.jailTurns
  consecutiveDoubles := player.consecutiveDoubles
  missedTurns := player.missedTurns
  getOutOfJailCards := player.getOutOfJailCards
  ownedPropertyPositions := ownedPropertyPositions properties player.seatIndex

/-- The id of an owner.  A seat beyond the table has none, and an empty seat cannot own. -/
def publicOwner (players : List (Option GameplayPlayerState)) :
    Option ℕ → Except PublicationError (Option String)
  | none => .ok none
  | some seat =>
    match players[seat]? with
    | some none => .error (.error "Gameplay property owner is not seated")
    | some (some owner) => .ok (some owner.playerId)
    | none => .ok none

def publicSpace (players : List (Option GameplayPlayerState)) (properties : List PropertyState)
    (definition : BoardSpaceDefinition) (position : ℕ) :
    Except PublicationError BoardSpacePublicState := do
  let property ← requireSome properties[position]?
    (.error "Gameplay property state is incomplete")
  if isOwnableSpace definition then
    let ownerId ← publicOwner players property.ownerSeatIndex
    return .ownable position definition.propertyType ownerId property.mortgaged property.houses
      property.hasHotel
  else return .nonOwnable position definition.propertyType

/-- The terms of a trade in text.  Amounts a trade type does not have are zero, and positions it
does not have are absent, as in the events. -/
def publicTerms (terms : TradeEventTerms) : TermsPublicState where
  tradeType := terms.tradeType
  offeredCash := toString terms.offeredCash
  requestedCash := toString terms.requestedCash
  offeredPropertyPosition := terms.offeredPropertyPosition
  requestedPropertyPosition := terms.requestedPropertyPosition

def publicTrade (players : List (Option GameplayPlayerState)) (trade : PendingTrade) :
    Except PublicationError TradePublicState := do
  let proposer ← requireSome (slotAt players trade.proposerSeatIndex)
    (.error "Gameplay trade participant is not seated")
  let receiver ← requireSome (slotAt players trade.receiverSeatIndex)
    (.error "Gameplay trade participant is not seated")
  return {
    toTermsPublicState := publicTerms (termsForEvent trade.terms)
    tradeId := trade.tradeId
    proposerId := proposer.playerId
    receiverId := receiver.playerId
    createdAtMs := trade.createdAtMs
    expiresAtMs := trade.expiresAtMs }

def publicRankingEntry (players : List (Option GameplayPlayerState))
    (entry : TerminalRankingEntry) : Except PublicationError RankingEntryPublicState := do
  let player ← requireSome (slotAt players entry.seatIndex)
    (.error "Terminal ranking player is not seated")
  return ⟨entry.rank, entry.seatIndex, player.playerId, toString entry.netWorth⟩

def publicTerminal : GameplayAggregateState →
    Except PublicationError (Option GameplayTerminalState)
  | .inProgress _ => .ok none
  | .finished state => do
    let winner ← requireSome (slotAt state.players state.terminal.winnerSeatIndex)
      (.error "Terminal winner is not seated")
    let ranking ← state.terminal.ranking.mapM (publicRankingEntry state.players)
    return some {
      reason := state.terminal.reason
      winnerId := winner.playerId
      endedAtMs := state.terminal.endedAtMs
      ranking := ranking
      settlementEntitlement := ⟨winner.playerId, .pending⟩ }

/-- The turn without the warnings that were given in it. -/
def publicTurn : GameplayAggregateState → GameplayTurnState
  | .inProgress state =>
    .active state.turn.phase state.turn.currentSeatIndex state.turn.startedAtMs
      state.turn.deadlineAtMs
  | .finished _ => .finished

def publicDice (roll : DiceRoll) : DiceResult :=
  ⟨roll.dice.1, roll.dice.2, roll.total, roll.isDoubles⟩

def publicGameplayState (state : GameplayAggregateState) :
    Except PublicationError GameplayPublicState := do
  require (isValidGameplayAggregateState state = true) (.error "Gameplay state is invalid")
  let players := state.base.players
  let board ← boardSpaces.zipIdx.mapM fun entry =>
    publicSpace players state.base.properties entry.1 entry.2
  let activeTrades ← state.base.activeTrades.mapM (publicTrade players)
  let terminal ← publicTerminal state
  let publicState := {
    stateVersion := state.base.stateVersion
    gameId := state.base.gameId
    seats := mapSlots (fun _ => publicPlayer state.base.properties) players
    board := board
    turn := publicTurn state
    activeTrades := activeTrades
    lastDice := state.base.lastDice.map publicDice
    terminal := terminal }
  require publicState.Conforms .schema
  return publicState

/-! ### The view -/

/-- Who sits on a seat. -/
def nameAt (players : List (Option GameplayPlayerState)) (seat : ℕ) : String :=
  ((slotAt players seat).map GameplayPlayerState.playerId).getD ""

/-- A space as the clients see it, with its owner by name. -/
def spaceView (players : List (Option GameplayPlayerState)) (definition : BoardSpaceDefinition)
    (property : PropertyState) : BoardSpacePublicState :=
  if isOwnableSpace definition then
    .ownable property.position definition.propertyType
      (property.ownerSeatIndex.map (nameAt players)) property.mortgaged property.houses
      property.hasHotel
  else .nonOwnable property.position definition.propertyType

def tradeView (players : List (Option GameplayPlayerState)) (trade : PendingTrade) :
    TradePublicState where
  toTermsPublicState := publicTerms (termsForEvent trade.terms)
  tradeId := trade.tradeId
  proposerId := nameAt players trade.proposerSeatIndex
  receiverId := nameAt players trade.receiverSeatIndex
  createdAtMs := trade.createdAtMs
  expiresAtMs := trade.expiresAtMs

def rankingView (players : List (Option GameplayPlayerState)) (entry : TerminalRankingEntry) :
    RankingEntryPublicState :=
  ⟨entry.rank, entry.seatIndex, nameAt players entry.seatIndex, toString entry.netWorth⟩

def terminalView (players : List (Option GameplayPlayerState)) (terminal : TerminalOutcome) :
    GameplayTerminalState where
  reason := terminal.reason
  winnerId := nameAt players terminal.winnerSeatIndex
  endedAtMs := terminal.endedAtMs
  ranking := terminal.ranking.map (rankingView players)
  settlementEntitlement := ⟨nameAt players terminal.winnerSeatIndex, .pending⟩

/-- The record of the end, if the game has ended. -/
def terminalOf : GameplayAggregateState → Option TerminalOutcome
  | .inProgress _ => none
  | .finished state => some state.terminal

/-- What the clients of a game see. -/
def publicView (state : GameplayAggregateState) : GameplayPublicState where
  stateVersion := state.base.stateVersion
  gameId := state.base.gameId
  seats := mapSlots (fun _ => publicPlayer state.base.properties) state.base.players
  board := List.zipWith (spaceView state.base.players) boardSpaces state.base.properties
  turn := publicTurn state
  activeTrades := state.base.activeTrades.map (tradeView state.base.players)
  lastDice := state.base.lastDice.map publicDice
  terminal := (terminalOf state).map (terminalView state.base.players)

/-! ### A valid game with seated parties -/

/-- The header and the table of a valid game, in either lifecycle. -/
theorem table_of_valid {state : GameplayAggregateState}
    (h : isValidGameplayAggregateState state = true) : ValidHeader state.base ∧
      ValidTable state.base.players state.base.properties state.base.inventory state.base.bankCash
        state.base.startedAtMs := by
  cases state with
  | inProgress state =>
    have hvalid := isValidActive_iff.1 h
    exact ⟨hvalid.header, hvalid.table⟩
  | finished state =>
    have hvalid := isValidFinished_iff.1 h
    exact ⟨hvalid.header, hvalid.table⟩

theorem commonFits {state : GameplayAggregateState}
    (h : isValidGameplayAggregateState state = true) : Snapshot.CommonFits state.base := by
  have hfits := Snapshot.fits_of_valid h
  cases state with
  | inProgress state => exact hfits.1
  | finished state => exact hfits.1

theorem nameAt_of_slot {players : List (Option GameplayPlayerState)} {seat : ℕ}
    {player : GameplayPlayerState} (h : slotAt players seat = some player) :
    nameAt players seat = player.playerId := by
  simp [nameAt, h]

/-- The ranked players sit on active seats. -/
theorem ranking_seated {state : FinishedGameplayAggregateState} (h : ValidFinished state)
    {entry : TerminalRankingEntry} (hmem : entry ∈ state.terminal.ranking) :
    ActiveSeat state.players entry.seatIndex := by
  obtain ⟨ranked, hranked, hranking, -⟩ := h.ranking
  rw [hranking, withRanks, List.mem_mapIdx] at hmem
  obtain ⟨i, hi, rfl⟩ := hmem
  have hin : (sortRanked ranked)[i] ∈ ranked :=
    (sortRanked_perm ranked).subset (List.getElem_mem hi)
  obtain ⟨terminal, hterminal, hseat, -⟩ := exists_of_forall₂ (mem_netWorths hranked) hin
  obtain ⟨player, hplayer, rfl⟩ := List.mem_map.1 hterminal
  obtain ⟨hoccupant, hactive⟩ := List.mem_filter.1 hplayer
  obtain ⟨i', hslot⟩ := mem_occupants.1 hoccupant
  refine ⟨player, ?_, of_decide_eq_true hactive⟩
  have hsame : player.toTerminal.seatIndex = i' := h.table.seatIndex_eq hslot
  dsimp only
  rw [hseat, hsame]
  exact hslot

/-- The winner is ranked first. -/
theorem ranking_head {state : FinishedGameplayAggregateState} (h : ValidFinished state) :
    ∃ first rest, state.terminal.ranking = first :: rest ∧ first.rank = 1 ∧
      first.seatIndex = state.terminal.winnerSeatIndex := by
  obtain ⟨ranked, -, hranking, hwinner⟩ := h.ranking
  cases hsorted : sortRanked ranked with
  | nil =>
    rw [hsorted] at hwinner
    cases hwinner
  | cons first rest =>
    rw [hsorted] at hranking hwinner
    refine ⟨_, _, by rw [hranking, withRanks, List.mapIdx_cons], rfl, ?_⟩
    simpa using hwinner

/-- No player is ranked twice. -/
theorem ranking_names_nodup {state : FinishedGameplayAggregateState} (h : ValidFinished state) :
    (state.terminal.ranking.map fun entry => nameAt state.players entry.seatIndex).Nodup := by
  obtain ⟨ranked, hranked, hranking, -⟩ := h.ranking
  have hseats : (state.terminal.ranking.map fun entry => nameAt state.players entry.seatIndex)
      = (sortRanked ranked).map fun entry => nameAt state.players entry.seatIndex := by
    rw [hranking, withRanks]
    exact List.ext_getElem (by simp) fun i h₁ h₂ => by simp
  have hnames : (ranked.map fun entry => nameAt state.players entry.seatIndex)
      = ((occupants state.players).filter fun player => player.status = .active).map
        GameplayPlayerState.playerId := by
    have hseated : ∀ player ∈ (occupants state.players).filter (fun player =>
        player.status = .active), nameAt state.players player.seatIndex = player.playerId := by
      intro player hplayer
      obtain ⟨i, hslot⟩ := mem_occupants.1 (List.mem_of_mem_filter hplayer)
      rw [h.table.seatIndex_eq hslot, nameAt_of_slot hslot]
    have hpairs := (List.forall₂_and_left _ _).2
      ⟨hseated, List.forall₂_map_left_iff.1 (mem_netWorths hranked)⟩
    rw [eq_comm, ← List.forall₂_eq_eq_eq, List.forall₂_map_left_iff, List.forall₂_map_right_iff]
    refine hpairs.imp fun player entry hpair => ?_
    obtain ⟨hname, hseat, -⟩ := hpair
    rw [hseat]
    exact hname.symm
  rw [hseats, ((sortRanked_perm ranked).map _).nodup_iff, hnames]
  exact h.table.ids.sublist (List.filter_sublist.map _)

/-! ### The parts of a view -/

theorem isCashString_toString {amount : ℤ} (h : IsMatchCash amount) :
    IsCashString (toString amount) :=
  Snapshot.isCanonicalDecimal_toString.2 h

/-- Two amounts with the same digits are the same. -/
theorem cash_toString_inj {amount amount' : ℤ} (h : IsMatchCash amount)
    (htext : toString amount = toString amount') : amount = amount' := by
  have hread : Snapshot.cash (Snapshot.bigintJson amount) "" = .ok amount :=
    Snapshot.cash_bigintJson.2 ⟨rfl, h⟩
  rw [Snapshot.bigintJson, htext] at hread
  exact (Snapshot.cash_bigintJson.1 hread).1

theorem toString_ne_zero {amount : ℤ} (h : IsMatchCash amount) (hpos : 0 < amount) :
    toString amount ≠ "0" := by
  intro hzero
  have h0 : amount = 0 := cash_toString_inj h hzero
  omega

theorem mem_ownedPropertyPositions {properties : List PropertyState} {seat position : ℕ} :
    position ∈ ownedPropertyPositions properties seat ↔ ∃ property ∈ properties,
      property.ownerSeatIndex = some seat ∧ property.position = position := by
  simp [ownedPropertyPositions, List.mem_filterMap]

theorem publicPlayer_conforms {properties : List PropertyState} {player : GameplayPlayerState}
    (hvalid : isValidPropertyStates properties = true) (hfits : Snapshot.PlayerFits player) :
    (publicPlayer properties player).Conforms := by
  refine ⟨hfits.seatIndex, hfits.playerId, isCashString_toString hfits.cash, hfits.position,
    hfits.jailTurns, hfits.consecutiveDoubles, hfits.missedTurns, hfits.cards, ?_, ?_⟩
  · intro position hmem
    obtain ⟨property, hproperty, -, rfl⟩ := mem_ownedPropertyPositions.1 hmem
    have hlt := (List.getElem?_eq_some_iff.1 (getElem?_of_mem hvalid hproperty)).1
    rw [length_properties hvalid] at hlt
    exact Nat.le_of_lt_succ hlt
  · exact (List.length_filterMap_le ..).trans (length_properties hvalid).le

theorem publicDice_conforms {roll : DiceRoll} (h : ValidDice roll) :
    (publicDice roll).Conforms := by
  obtain ⟨hfirst, hsecond, htotal, hdoubles⟩ := h
  refine ⟨hfirst, hsecond, ?_, htotal, hdoubles⟩
  simp only [publicDice, htotal]
  omega

/-- Valid terms have the shape of their type. -/
theorem publicTerms_conforms {terms : TradeTerms} (h : validTerms terms = true) :
    (publicTerms (termsForEvent terms)).Conforms := by
  have hzero : IsCashString (toString (0 : ℤ)) := isCashString_toString isMatchCash_zero
  cases terms with
  | moneyOnly offeredCash requestedCash =>
    simp only [validTerms, decide_eq_true_eq] at h
    obtain ⟨hoffered, hrequested, hsome⟩ := h
    refine ⟨isCashString_toString hoffered, isCashString_toString hrequested, by
      simp [publicTerms, termsForEvent], by simp [publicTerms, termsForEvent], rfl, rfl, ?_⟩
    exact hsome.imp (toString_ne_zero hoffered) (toString_ne_zero hrequested)
  | propertyOnly offered requested =>
    simp only [validTerms, decide_eq_true_eq] at h
    obtain ⟨hoffered, hrequested, hsome, -⟩ := h
    exact ⟨hzero, hzero, fun position hp => Nat.le_of_lt_succ (hoffered position hp),
      fun position hp => Nat.le_of_lt_succ (hrequested position hp), rfl, rfl, hsome⟩
  | moneyForProperty offeredCash requested =>
    simp only [validTerms, decide_eq_true_eq] at h
    obtain ⟨hoffered, hpos, hrequested⟩ := h
    refine ⟨isCashString_toString hoffered, hzero, by simp [publicTerms, termsForEvent], ?_,
      toString_ne_zero hoffered hpos, rfl, rfl, by simp [publicTerms, termsForEvent]⟩
    rintro position ⟨⟩
    exact Nat.le_of_lt_succ hrequested
  | propertyForMoney offered requestedCash =>
    simp only [validTerms, decide_eq_true_eq] at h
    obtain ⟨hoffered, hrequested, hpos⟩ := h
    refine ⟨hzero, isCashString_toString hrequested, ?_, by simp [publicTerms, termsForEvent],
      rfl, toString_ne_zero hrequested hpos, by simp [publicTerms, termsForEvent], rfl⟩
    rintro position ⟨⟩
    exact Nat.le_of_lt_succ hoffered

/-! ### What is published -/

section Published

variable {players : List (Option GameplayPlayerState)} {properties : List PropertyState}
  {inventory : BuildingInventory} {bankCash startedAtMs : ℤ}
  (h : ValidTable players properties inventory bankCash startedAtMs)
include h

theorem publicSpace_eq {i : ℕ} {definition : BoardSpaceDefinition} {property : PropertyState}
    (hd : boardSpaces[i]? = some definition) (hp : properties[i]? = some property) :
    publicSpace players properties definition i = .ok (spaceView players definition property) := by
  have hposition : property.position = i :=
    (validPropertyState_of_getElem? h.properties_valid hp hd).position_eq
  have howner : publicOwner players property.ownerSeatIndex
      = .ok (property.ownerSeatIndex.map (nameAt players)) := by
    cases hseat : property.ownerSeatIndex with
    | none => rfl
    | some seat =>
      obtain ⟨owner, hslot, -⟩ := h.owner i property seat hp hseat
      have hat := slotAt_eq_some.1 hslot
      simp [publicOwner, hat, nameAt_of_slot hslot]
  unfold publicSpace spaceView
  rw [hp, hposition]
  simp only [requireSome, bind, Except.bind]
  split_ifs with hown
  · rw [howner]
    rfl
  · rfl

theorem board_getElem? {i : ℕ} {space : BoardSpacePublicState}
    (hspace : (List.zipWith (spaceView players) boardSpaces properties)[i]? = some space) :
    ∃ definition property, boardSpaces[i]? = some definition ∧ properties[i]? = some property ∧
      ValidPropertyState definition i property ∧ space = spaceView players definition property := by
  obtain ⟨definition, property, hd, hp, rfl⟩ := List.getElem?_zipWith_eq_some.1 hspace
  exact ⟨definition, property, hd, hp, validPropertyState_of_getElem? h.properties_valid hp hd, rfl⟩

theorem length_board : (List.zipWith (spaceView players) boardSpaces properties).length = 40 := by
  simp [length_properties h.properties_valid]

/-- A name stands for one seat. -/
theorem nameAt_eq_iff {seat seat' : ℕ} {player player' : GameplayPlayerState}
    (hslot : slotAt players seat = some player) (hslot' : slotAt players seat' = some player') :
    nameAt players seat = player'.playerId ↔ seat = seat' := by
  rw [nameAt_of_slot hslot]
  constructor
  · exact slot_unique h.ids hslot hslot'
  · rintro rfl
    rw [hslot] at hslot'
    cases hslot'
    rfl

theorem spaceView_conforms {i : ℕ} {definition : BoardSpaceDefinition} {property : PropertyState}
    (hi : i < 40) (hp : properties[i]? = some property)
    (hvalid : ValidPropertyState definition i property) :
    (spaceView players definition property).Conforms := by
  have hposition : IsBoardPosition property.position := by
    rw [hvalid.position_eq]
    exact Nat.le_of_lt_succ hi
  unfold spaceView
  by_cases hown : isOwnableSpace definition = true
  · rw [if_pos hown]
    refine ⟨hposition, by simpa [isOwnableSpace, or_assoc] using hown, ?_, hvalid.houses_le,
      hvalid.street_of_built, hvalid.hotel_alone, fun hnone => ?_⟩
    · intro id hid
      obtain ⟨seat, hseat, rfl⟩ := Option.map_eq_some_iff.1 hid
      obtain ⟨owner, hslot, -⟩ := h.owner i property seat hp hseat
      rw [nameAt_of_slot hslot]
      exact (h.player seat owner hslot).slot.2.1
    · exact hvalid.unowned_clean (Option.map_eq_none_iff.1 hnone)
  · rw [if_neg hown]
    refine ⟨hposition, ?_⟩
    cases hkind : definition.propertyType <;> simp [isOwnableSpace, hkind] at hown ⊢

/-- The board shows a player's spaces as theirs, and no others. -/
theorem ownership_eq {seat : ℕ} {player : GameplayPlayerState}
    (hslot : slotAt players seat = some player) :
    (List.zipWith (spaceView players) boardSpaces properties).filterMap (fun space =>
      if space.ownerId = some player.playerId then some space.position else none)
    = ownedPropertyPositions properties seat := by
  -- space by space, both sides keep the same position or drop it
  have hshown : (List.zipWith (spaceView players) boardSpaces properties).map (fun space =>
        if space.ownerId = some player.playerId then some space.position else none)
      = properties.map fun property =>
        if property.ownerSeatIndex = some seat then some property.position else none := by
    refine List.ext_getElem? fun i => ?_
    rw [List.getElem?_map, List.getElem?_map]
    cases hspace : (List.zipWith (spaceView players) boardSpaces properties)[i]? with
    | none =>
      rw [List.getElem?_eq_none_iff, length_board h, ← length_properties h.properties_valid,
        ← List.getElem?_eq_none_iff] at hspace
      rw [hspace]
      rfl
    | some space =>
      obtain ⟨definition, property, -, hp, hvalid, rfl⟩ := board_getElem? h hspace
      rw [hp, Option.map_some, Option.map_some]
      refine congrArg some ?_
      unfold spaceView
      by_cases hown : isOwnableSpace definition = true
      · rw [if_pos hown]
        cases howner : property.ownerSeatIndex with
        | none => simp [BoardSpacePublicState.ownerId]
        | some owner =>
          obtain ⟨p, hp', -⟩ := h.owner i property owner hp howner
          simp [BoardSpacePublicState.ownerId, BoardSpacePublicState.position,
            nameAt_eq_iff h hp' hslot]
      · rw [if_neg hown, hvalid.ownable_of_owned (by simpa using hown)]
        simp [BoardSpacePublicState.ownerId]
  have hid : ∀ {α : Type} (f : α → Option ℕ) (l : List α), l.filterMap f = (l.map f).filterMap id :=
    fun f l => by rw [List.filterMap_map]; rfl
  rw [hid, hshown, ← hid]
  rfl

omit h in
theorem mem_playerIds {seat : ℕ} {player : GameplayPlayerState}
    (hslot : slotAt players seat = some player) :
    nameAt players seat ∈ (occupants players).map GameplayPlayerState.playerId := by
  rw [nameAt_of_slot hslot]
  exact List.mem_map_of_mem (mem_occupants.2 ⟨seat, hslot⟩)

end Published

/-- The kinds of the schema are those of the board. -/
theorem expectedKind_eq : everyIdx (fun index definition =>
    decide (definition.propertyType = expectedKind index)) boardSpaces = true := by
  decide

/-- Ranks count the entries from one. -/
theorem ranks_of_ranking {state : FinishedGameplayAggregateState} (h : ValidFinished state) {i : ℕ}
    {entry : TerminalRankingEntry} (hentry : state.terminal.ranking[i]? = some entry) :
    entry.rank = i + 1 := by
  obtain ⟨ranked, -, hranking, -⟩ := h.ranking
  rw [hranking, withRanks, List.getElem?_mapIdx] at hentry
  obtain ⟨seat, -, rfl⟩ := Option.map_eq_some_iff.1 hentry
  rfl

theorem ranks_nodup {state : FinishedGameplayAggregateState} (h : ValidFinished state) :
    (state.terminal.ranking.map TerminalRankingEntry.rank).Nodup := by
  refine List.nodup_iff_getElem?_ne_getElem?.2 fun i j hij hj heq => ?_
  have hj' := List.getElem?_eq_getElem (by simpa using hj)
  rw [List.getElem?_map, List.getElem?_map, List.getElem?_eq_getElem (by simp at hj; omega), hj',
    Option.map_some, Option.map_some, Option.some.injEq,
    ranks_of_ranking h (List.getElem?_eq_getElem _), ranks_of_ranking h hj'] at heq
  omega

theorem ranking_length_le {state : FinishedGameplayAggregateState} (h : ValidFinished state) :
    state.terminal.ranking.length ≤ 4 := by
  obtain ⟨ranked, hranked, hsorted, -⟩ := h.ranking
  rw [hsorted, withRanks, List.length_mapIdx, (sortRanked_perm ranked).length_eq,
    ← (mem_netWorths hranked).length_eq]
  exact (Snapshot.length_activeTerminalPlayers_le _).trans h.table.length_players.le

theorem terminalView_conforms {state : FinishedGameplayAggregateState} (h : ValidFinished state)
    (hfits : Snapshot.TerminalFits state.terminal) :
    (terminalView state.players state.terminal).Conforms := by
  obtain ⟨first, rest, hranking, hrank, hwinner⟩ := ranking_head h
  have hname : ∀ seat, ActiveSeat state.players seat → IsOpaqueId (nameAt state.players seat) := by
    rintro seat ⟨player, hslot, -⟩
    rw [nameAt_of_slot hslot]
    exact (h.table.player seat player hslot).slot.2.1
  have hseated : ∀ entry ∈ state.terminal.ranking, ActiveSeat state.players entry.seatIndex :=
    fun entry hmem => ranking_seated h hmem
  have hfirst : ActiveSeat state.players state.terminal.winnerSeatIndex :=
    hwinner ▸ hseated first (hranking ▸ List.mem_cons_self ..)
  refine ⟨hname _ hfirst, ⟨hfits.endedAt.2, hfits.endedAt.1.2⟩, ⟨?_, ?_⟩, ?_, hname _ hfirst,
    ⟨?_, ?_⟩, rfl, ⟨?_, ?_⟩, ?_⟩
  · simp [terminalView, hranking]
  · simpa [terminalView] using ranking_length_le h
  · intro entry hentry
    obtain ⟨ranked, hmem, rfl⟩ := List.mem_map.1 hentry
    have hfit := hfits.ranking ranked hmem
    exact ⟨hfit.rank, hfit.seatIndex, hname _ (hseated ranked hmem),
      isCashString_toString hfit.netWorth⟩
  · simp [terminalView, rankingView, hranking, hrank]
  · simp [terminalView, rankingView, hranking, hwinner]
  · simpa [terminalView, rankingView, Function.comp_def] using ranks_nodup h
  · simpa [terminalView, rankingView, Function.comp_def] using ranking_names_nodup h
  · rw [everyIdx_eq_true]
    intro i entry hentry
    rw [terminalView, List.getElem?_map] at hentry
    obtain ⟨ranked, hranked, rfl⟩ := Option.map_eq_some_iff.1 hentry
    exact decide_eq_true (ranks_of_ranking h hranked)

/-! ### The view conforms -/

theorem playerIds_publicView (state : GameplayAggregateState) : (publicView state).playerIds
    = (occupants state.base.players).map GameplayPlayerState.playerId := by
  rw [GameplayPublicState.playerIds, publicView, occupants_mapSlots, List.map_map]
  rfl

theorem slotAt_publicView {state : GameplayAggregateState} {seat : ℕ}
    {player : GameplayPlayerPublicState}
    (hslot : slotAt (publicView state).seats seat = some player) :
    ∃ source, slotAt state.base.players seat = some source ∧
      player = publicPlayer state.base.properties source := by
  rw [publicView, slotAt_mapSlots] at hslot
  obtain ⟨source, hsource, rfl⟩ := Option.map_eq_some_iff.1 hslot
  exact ⟨source, hsource, rfl⟩

section View

variable {state : GameplayAggregateState} (h : isValidGameplayAggregateState state = true)
  (hbook : WellFormedBook state.base)
include h

theorem turn_conforms : (publicView state).turn.Conforms := by
  have hfits := Snapshot.fits_of_valid h
  cases state with
  | finished state => trivial
  | inProgress state =>
    obtain ⟨-, hturn, -⟩ := hfits
    exact ⟨hturn.seat, ⟨hturn.startedAt.2, hturn.startedAt.1.2⟩,
      ⟨hturn.deadlineAt.2, hturn.deadlineAt.1.2⟩, hturn.payload⟩

theorem turnMatches : (publicView state).TurnMatches := by
  cases state with
  | finished state => trivial
  | inProgress state =>
    have hvalid := isValidActive_iff.1 h
    obtain ⟨player, hslot, hactive, -⟩ := hvalid.turn.current
    obtain ⟨⟨-, -, -, -, hdeadline⟩, -⟩ := hvalid.turn.turn_valid
    refine ⟨⟨publicPlayer state.properties player, ?_, hactive⟩, ?_⟩
    · rw [Option.mem_def, publicView, slotAt_mapSlots]
      show (slotAt state.players state.turn.currentSeatIndex).map _ = _
      rw [hslot]
      rfl
    · simp only [hdeadline, GameplayPolicy.turnTimeoutMs]
      omega

theorem validTrade_of_mem {trade : PendingTrade} (htrade : trade ∈ state.base.activeTrades) :
    ValidPendingTrade trade := by
  cases state with
  | inProgress state => exact (isValidActive_iff.1 h).trades trade htrade
  | finished state =>
    have hnone : state.activeTrades = [] := (isValidFinished_iff.1 h).trades
    rw [show (GameplayAggregateState.finished state).base.activeTrades = [] from hnone] at htrade
    cases htrade

include hbook in
theorem tradeView_conforms {trade : PendingTrade} (htrade : trade ∈ state.base.activeTrades) :
    (tradeView state.base.players trade).Conforms := by
  have htable := (table_of_valid h).2
  have hfits := (commonFits h).trade trade htrade
  obtain ⟨proposer, hproposer, -⟩ := hbook.proposer trade htrade
  obtain ⟨receiver, hreceiver, -⟩ := hbook.receiver trade htrade
  obtain ⟨hid, -, -, -, hterms, -, -, -, hexpires⟩ := validTrade_of_mem h htrade
  refine ⟨hid, ?_, ?_, ⟨hfits.createdAt.2, hfits.createdAt.1.2⟩,
    ⟨hfits.expiresAt.2, hfits.expiresAt.1.2⟩, publicTerms_conforms hterms, ?_, ?_, ?_⟩
  · rw [tradeView, nameAt_of_slot hproposer]
    exact (htable.player _ _ hproposer).slot.2.1
  · rw [tradeView, nameAt_of_slot hreceiver]
    exact (htable.player _ _ hreceiver).slot.2.1
  · intro hsame
    rw [tradeView, nameAt_of_slot hreceiver] at hsame
    exact hbook.seats_ne trade htrade ((nameAt_eq_iff htable hproposer hreceiver).1 hsame)
  · show trade.createdAtMs ≤ trade.expiresAtMs
    simp only [hexpires, GameplayPolicy.tradeExpiryMs]
    omega
  · cases hterms' : trade.terms <;>
      simp_all [tradeView, publicTerms, termsForEvent, validTerms]

include hbook in
theorem fieldsConform : (publicView state).FieldsConform where
  stateVersion := by
    have hversion := (commonFits h).version
    exact ⟨by show 0 ≤ state.base.stateVersion; omega, hversion.2⟩
  gameId := (commonFits h).gameId
  length_seats := by
    rw [publicView, length_mapSlots]
    exact (table_of_valid h).2.length_players
  players := by
    intro player hplayer
    obtain ⟨seat, hslot⟩ := mem_occupants.1 hplayer
    obtain ⟨source, hsource, rfl⟩ := slotAt_publicView hslot
    exact publicPlayer_conforms (table_of_valid h).2.properties_valid
      ((commonFits h).player seat source hsource)
  length_board := length_board (table_of_valid h).2
  spaces := by
    intro space hspace
    obtain ⟨i, hi⟩ := List.mem_iff_getElem?.1 hspace
    obtain ⟨definition, property, hd, hp, hvalid, rfl⟩ := board_getElem? (table_of_valid h).2 hi
    exact spaceView_conforms (table_of_valid h).2 (lt_of_boardSpace hd) hp hvalid
  turn := turn_conforms h
  length_trades := by
    rw [publicView, List.length_map]
    exact hbook.length_le
  trades := by
    intro trade htrade
    obtain ⟨source, hsource, rfl⟩ := List.mem_map.1 htrade
    exact tradeView_conforms h hbook hsource
  lastDice := by
    intro dice hdice
    obtain ⟨roll, hroll, rfl⟩ := Option.map_eq_some_iff.1 hdice
    cases state with
    | inProgress state =>
      exact publicDice_conforms ((isValidActive_iff.1 h).turn.dice_valid roll hroll)
    | finished state =>
      have hnone : state.lastDice = none := (isValidFinished_iff.1 h).dice
      cases hnone.symm.trans hroll
  terminal := by
    intro terminal hterminal
    obtain ⟨outcome, houtcome, rfl⟩ := Option.map_eq_some_iff.1 hterminal
    cases state with
    | inProgress state => cases houtcome
    | finished state =>
      cases houtcome
      exact terminalView_conforms (isValidFinished_iff.1 h) (Snapshot.fits_of_valid h).2

include hbook in
theorem partsAgree : (publicView state).PartsAgree where
  playerIds := by
    rw [playerIds_publicView]
    exact (table_of_valid h).2.ids
  seatIndices := by
    rw [everySlot_eq_true]
    intro seat player hslot
    obtain ⟨source, hsource, rfl⟩ := slotAt_publicView hslot
    exact decide_eq_true ((table_of_valid h).2.seatIndex_eq hsource)
  owned := by
    intro player hplayer
    obtain ⟨seat, hslot⟩ := mem_occupants.1 hplayer
    obtain ⟨source, -, rfl⟩ := slotAt_publicView hslot
    exact ownedPropertyPositions_nodup _ (table_of_valid h).2.properties_valid
  positions := by
    rw [everyIdx_eq_true]
    intro i space hspace
    obtain ⟨definition, property, -, -, hvalid, rfl⟩ :=
      board_getElem? (table_of_valid h).2 hspace
    refine decide_eq_true ?_
    unfold spaceView
    split_ifs
    · exact hvalid.position_eq
    · exact hvalid.position_eq
  owners := by
    intro space hspace id hid
    obtain ⟨i, hi⟩ := List.mem_iff_getElem?.1 hspace
    obtain ⟨definition, property, -, hp, -, rfl⟩ := board_getElem? (table_of_valid h).2 hi
    rw [playerIds_publicView]
    unfold spaceView at hid
    split_ifs at hid
    · obtain ⟨seat, hseat, rfl⟩ := Option.map_eq_some_iff.1 hid
      obtain ⟨owner, hslot, -⟩ := (table_of_valid h).2.owner i property seat hp hseat
      exact mem_playerIds hslot
    · cases hid
  kinds := by
    rw [everyIdx_eq_true]
    intro i space hspace
    obtain ⟨definition, property, hd, -, -, rfl⟩ := board_getElem? (table_of_valid h).2 hspace
    have hkind := everyIdx_eq_true.1 expectedKind_eq i definition hd
    refine decide_eq_true ?_
    rw [← of_decide_eq_true hkind]
    unfold spaceView
    split_ifs <;> rfl
  ownership := by
    intro player hplayer
    obtain ⟨seat, hslot⟩ := mem_occupants.1 hplayer
    obtain ⟨source, hsource, rfl⟩ := slotAt_publicView hslot
    have hderived : (publicView state).derivedPositions source.playerId
        = ownedPropertyPositions state.base.properties source.seatIndex := by
      rw [(table_of_valid h).2.seatIndex_eq hsource]
      exact ownership_eq (table_of_valid h).2 hsource
    exact ⟨congrArg List.length hderived, fun position hposition =>
      (congrArg (position ∈ ·) hderived).mp hposition⟩
  participants := by
    intro trade htrade
    obtain ⟨source, hsource, rfl⟩ := List.mem_map.1 htrade
    obtain ⟨proposer, hproposer, -⟩ := hbook.proposer source hsource
    obtain ⟨receiver, hreceiver, -⟩ := hbook.receiver source hsource
    rw [playerIds_publicView]
    exact ⟨mem_playerIds hproposer, mem_playerIds hreceiver⟩
  turnMatches := turnMatches h
  ending := by
    cases state with
    | inProgress state => simp [publicView, publicTurn, terminalOf]
    | finished state => simp [publicView, publicTurn, terminalOf]
  ranked := by
    intro terminal hterminal entry hentry
    obtain ⟨outcome, houtcome, rfl⟩ := Option.map_eq_some_iff.1 hterminal
    cases state with
    | inProgress state => cases houtcome
    | finished state =>
      cases houtcome
      obtain ⟨source, hsource, rfl⟩ := List.mem_map.1 hentry
      obtain ⟨player, hslot, -⟩ := ranking_seated (isValidFinished_iff.1 h) hsource
      rw [playerIds_publicView]
      exact mem_playerIds hslot

include hbook in
/-- A valid game whose trades are between seated players is published, as its view. -/
theorem publicGameplayState_eq : publicGameplayState state = .ok (publicView state) := by
  have htable := (table_of_valid h).2
  have hboard : (boardSpaces.zipIdx.mapM fun entry =>
      publicSpace state.base.players state.base.properties entry.1 entry.2)
      = .ok (publicView state).board := by
    refine mapM_zipIdx_eq_ok (length_properties htable.properties_valid) fun i definition property
      hd hp => ?_
    rw [Nat.zero_add]
    exact publicSpace_eq htable hd hp
  have htrades : state.base.activeTrades.mapM (publicTrade state.base.players)
      = .ok (publicView state).activeTrades := by
    refine mapM_eq_ok fun trade htrade => ?_
    obtain ⟨proposer, hproposer, -⟩ := hbook.proposer trade htrade
    obtain ⟨receiver, hreceiver, -⟩ := hbook.receiver trade htrade
    simp [publicTrade, tradeView, hproposer, hreceiver, nameAt_of_slot hproposer,
      nameAt_of_slot hreceiver, requireSome, bind, Except.bind, pure, Except.pure]
  have hterminal : publicTerminal state = .ok (publicView state).terminal := by
    cases state with
    | inProgress state => rfl
    | finished state =>
      have hvalid := isValidFinished_iff.1 h
      obtain ⟨first, rest, hranking, -, hfirst⟩ := ranking_head hvalid
      obtain ⟨winner, hwinner, -⟩ := ranking_seated hvalid (hranking ▸ List.mem_cons_self ..)
      rw [hfirst] at hwinner
      have hentries : state.terminal.ranking.mapM (publicRankingEntry state.players)
          = .ok (state.terminal.ranking.map (rankingView state.players)) := by
        refine mapM_eq_ok fun entry hentry => ?_
        obtain ⟨player, hslot, -⟩ := ranking_seated hvalid hentry
        simp [publicRankingEntry, rankingView, hslot, nameAt_of_slot hslot, requireSome, bind,
          Except.bind, pure, Except.pure]
      simp only [publicTerminal, hwinner, hentries, requireSome, bind, Except.bind, pure,
        Except.pure]
      rw [← nameAt_of_slot hwinner]
      rfl
  have hconforms : (publicView state).Conforms := ⟨fieldsConform h hbook, partsAgree h hbook⟩
  exact bind_eq_ok.2 ⟨(), require_eq_ok.2 h, bind_eq_ok.2 ⟨_, hboard, bind_eq_ok.2 ⟨_, htrades,
    bind_eq_ok.2 ⟨_, hterminal, bind_eq_ok.2 ⟨(), require_eq_ok.2 hconforms, rfl⟩⟩⟩⟩⟩

end View

/-! ### Along a game -/

/-- A started game is published in every valid state it reaches, as its view. -/
theorem published_of_run {start state : GameplayAggregateState} {commands : List AcceptedCommand}
    (hstart : StartedGame start) (hrun : Run Accepts start commands state) :
    publicGameplayState state =
      if isValidGameplayAggregateState state = true then .ok (publicView state)
      else .error (.error "Gameplay state is invalid") := by
  split_ifs with h
  · exact publicGameplayState_eq h (wellFormedBook_of_run hstart hrun)
  · unfold publicGameplayState require
    rw [if_neg h]
    rfl

/-- Bob is shown what alice offers. -/
theorem published_of_run_offer : ∃ start state created, StartedGame start ∧
    Run Accepts start [created] state ∧ publicGameplayState state = .ok (publicView state) ∧
    (publicView state).activeTrades = [{
      tradeType := .moneyOnly
      offeredCash := "100"
      requestedCash := "0"
      offeredPropertyPosition := none
      requestedPropertyPosition := none
      tradeId := "trade"
      proposerId := "alice"
      receiverId := "bob"
      createdAtMs := 10
      expiresAtMs := 3600010 }] := by
  obtain ⟨start, hstart, hcheck⟩ := exists_of_inProgressWith (twoPlayerGame [])
    (fun start => (record (.inProgress start)
      [plays "alice" (.trade (.createTrade "bob" (.moneyOnly 100 0))) 1 10]).any
        fun recorded : List AcceptedCommand × GameplayAggregateState =>
      decide (recorded.1.length = 1) && isValidGameplayAggregateState recorded.2 &&
        decide ((publicView recorded.2).activeTrades = [⟨⟨.moneyOnly, "100", "0", none, none⟩,
          "trade", "alice", "bob", 10, 3600010⟩])) (by decide +kernel)
  obtain ⟨⟨commands, state⟩, hrecord, hcheck⟩ := (Option.any_eq_true _ _).1 hcheck
  simp only [Bool.and_eq_true, decide_eq_true_eq] at hcheck
  obtain ⟨⟨hone, hvalid⟩, htrades⟩ := hcheck
  obtain ⟨created, rfl⟩ := List.length_eq_one_iff.1 hone
  have hrun := run_of_record hrecord
  have hstarted := started_of_twoPlayerGame hstart
  refine ⟨_, state, created, hstarted, hrun, ?_, htrades⟩
  rw [published_of_run hstarted hrun, if_pos hvalid]

end Pootown.Server

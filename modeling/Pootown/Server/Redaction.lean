import Mathlib.Tactic
import Pootown.Server.PublicState

/-!
# What the clients of a game can tell

A published state hides when the players joined, the cash of the bank and of the free parking, the
limits of the game, the warnings of the turn and the random generator, and nothing else: from the
message one can tell everything else, although owners and parties are named and not numbered.

* `redacted`: a game with what is hidden blanked out;
* `publicView_redacted`: the view does not depend on what is hidden;
* `redacted_of_publicView`: two valid games that look alike differ in nothing else;
* `published_iff_redacted`: both along started games.
-/

namespace Pootown.Server

open Contracts Runs Slots

/-! ### Blanking out -/

def hideJoin (player : GameplayPlayerState) : GameplayPlayerState := { player with joinedAtMs := 0 }

/-- The shared fields, with the hidden ones blanked out. -/
def redactedBase (state : GameplayAggregateStateBase) : GameplayAggregateStateBase :=
  { state with
    players := mapSlots (fun _ => hideJoin) state.players
    bankCash := 0
    freeParkingPool := 0
    startedAtMs := 0
    gameEndAtMs := none
    rng := ⟨"", "", 0, 0⟩ }

def redacted : GameplayAggregateState → GameplayAggregateState
  | .inProgress state => .inProgress {
    toGameplayAggregateStateBase := redactedBase state.toGameplayAggregateStateBase
    turn := { state.turn with emittedWarnings := [] }
    bankruptcyRequiredSeatIndex := state.bankruptcyRequiredSeatIndex }
  | .finished state => .finished {
    toGameplayAggregateStateBase := redactedBase state.toGameplayAggregateStateBase
    terminal := state.terminal }

theorem base_redacted (state : GameplayAggregateState) :
    (redacted state).base = redactedBase state.base := by
  cases state <;> rfl

/-! ### The view does not depend on what is hidden -/

theorem nameAt_hideJoin (players : List (Option GameplayPlayerState)) :
    nameAt (mapSlots (fun _ => hideJoin) players) = nameAt players := by
  funext seat
  rw [nameAt, nameAt, slotAt_mapSlots, Option.map_map]
  rfl

theorem spaceView_hideJoin (players : List (Option GameplayPlayerState)) :
    spaceView (mapSlots (fun _ => hideJoin) players) = spaceView players := by
  funext definition property
  unfold spaceView
  rw [nameAt_hideJoin]

theorem tradeView_hideJoin (players : List (Option GameplayPlayerState)) :
    tradeView (mapSlots (fun _ => hideJoin) players) = tradeView players := by
  funext trade
  unfold tradeView
  rw [nameAt_hideJoin]

theorem terminalView_hideJoin (players : List (Option GameplayPlayerState)) :
    terminalView (mapSlots (fun _ => hideJoin) players) = terminalView players := by
  have hranking : rankingView (mapSlots (fun _ => hideJoin) players) = rankingView players := by
    funext entry
    unfold rankingView
    rw [nameAt_hideJoin]
  funext terminal
  unfold terminalView
  rw [nameAt_hideJoin, hranking]

theorem publicView_redacted (state : GameplayAggregateState) :
    publicView (redacted state) = publicView state := by
  have hterminal : terminalOf (redacted state) = terminalOf state := by
    cases state <;> rfl
  have hturn : publicTurn (redacted state) = publicTurn state := by
    cases state <;> rfl
  unfold publicView
  rw [base_redacted, hterminal, hturn]
  simp only [redactedBase, mapSlots_mapSlots, spaceView_hideJoin, tradeView_hideJoin,
    terminalView_hideJoin]
  rfl

/-! ### Reading a view back -/

theorem publicDice_injective : Function.Injective publicDice := by
  intro roll roll' h
  obtain ⟨⟨first, second⟩, total, doubles⟩ := roll
  obtain ⟨⟨first', second'⟩, total', doubles'⟩ := roll'
  simpa [publicDice, and_assoc] using h

/-- The published terms of a valid trade are of no other terms. -/
theorem publicTerms_inj {terms terms' : TradeTerms} (hvalid : validTerms terms = true)
    (h : publicTerms (termsForEvent terms) = publicTerms (termsForEvent terms')) :
    terms = terms' := by
  cases terms with
  | moneyOnly offeredCash requestedCash =>
    simp only [validTerms, decide_eq_true_eq] at hvalid
    cases terms' <;> simp only [publicTerms, termsForEvent, TermsPublicState.mk.injEq,
      reduceCtorEq, false_and, true_and] at h
    rw [cash_toString_inj hvalid.1 h.1, cash_toString_inj hvalid.2.1 h.2.1]
  | propertyOnly offered requested =>
    cases terms' <;> simp only [publicTerms, termsForEvent, TermsPublicState.mk.injEq,
      reduceCtorEq, false_and, true_and] at h
    rw [h.1, h.2]
  | moneyForProperty offeredCash requested =>
    simp only [validTerms, decide_eq_true_eq] at hvalid
    cases terms' <;> simp only [publicTerms, termsForEvent, TermsPublicState.mk.injEq,
      reduceCtorEq, false_and, true_and, Option.some.injEq] at h
    rw [cash_toString_inj hvalid.1 h.1, h.2]
  | propertyForMoney offered requestedCash =>
    simp only [validTerms, decide_eq_true_eq] at hvalid
    cases terms' <;> simp only [publicTerms, termsForEvent, TermsPublicState.mk.injEq,
      reduceCtorEq, false_and, true_and, and_true, Option.some.injEq] at h
    rw [cash_toString_inj hvalid.2.1 h.1, h.2]

/-- A published player is of one player, but for the time they joined. -/
theorem publicPlayer_inj {properties properties' : List PropertyState}
    {player player' : GameplayPlayerState} (hcash : IsMatchCash player.cash)
    (h : publicPlayer properties player = publicPlayer properties' player') :
    hideJoin player = hideJoin player' := by
  obtain ⟨⟨seat, status, cash, position, jailed, turns, doubles, missed, cards⟩, id, joined⟩ :=
    player
  obtain ⟨⟨seat', status', cash', position', jailed', turns', doubles', missed', cards'⟩, id',
    joined'⟩ := player'
  simp only [publicPlayer, GameplayPlayerPublicState.mk.injEq] at h
  obtain ⟨rfl, rfl, rfl, htext, rfl, rfl, rfl, rfl, rfl, rfl, -⟩ := h
  obtain rfl : cash = cash' := cash_toString_inj hcash htext
  rfl

/-- Lists that look alike are the same where entries that look alike are. -/
theorem eq_of_map_eq {α β : Type} {f g : α → β} {l l' : List α} (h : l.map f = l'.map g)
    (hinj : ∀ a ∈ l, ∀ a' ∈ l', f a = g a' → a = a') : l = l' := by
  induction l generalizing l' with
  | nil => exact (List.map_eq_nil_iff.1 h.symm).symm
  | cons a rest ih =>
    obtain ⟨a', rest', rfl, ha, hrest⟩ := List.map_eq_cons_iff.1 h.symm
    rw [hinj a (List.mem_cons_self ..) a' (List.mem_cons_self ..) ha.symm,
      ih hrest.symm fun b hb b' hb' =>
        hinj b (List.mem_cons_of_mem _ hb) b' (List.mem_cons_of_mem _ hb')]

/-! ### Two games that look alike -/

section Alike

variable {state state' : GameplayAggregateState} (h : isValidGameplayAggregateState state = true)
  (h' : isValidGameplayAggregateState state' = true) (hview : publicView state = publicView state')
include h h' hview

/-- The seats are taken by the same players. -/
theorem players_alike : mapSlots (fun _ => hideJoin) state.base.players
    = mapSlots (fun _ => hideJoin) state'.base.players := by
  have hseats : (publicView state).seats = (publicView state').seats := by rw [hview]
  refine ext_slotAt ?_ fun i => ?_
  · rw [length_mapSlots, length_mapSlots, (table_of_valid h).2.length_players,
      (table_of_valid h').2.length_players]
  · have hslot := congrArg (fun seats => slotAt seats i) hseats
    simp only [publicView, slotAt_mapSlots] at hslot
    rw [slotAt_mapSlots, slotAt_mapSlots]
    cases hplayer : slotAt state.base.players i with
    | none =>
      rw [hplayer, Option.map_none, eq_comm, Option.map_eq_none_iff] at hslot
      rw [hslot]
    | some player =>
      rw [hplayer, Option.map_some, eq_comm, Option.map_eq_some_iff] at hslot
      obtain ⟨player', hplayer', hpublic⟩ := hslot
      rw [hplayer', Option.map_some, Option.map_some,
        publicPlayer_inj ((table_of_valid h).2.cash hplayer) hpublic.symm]

/-- Names are given out alike. -/
theorem nameAt_alike : nameAt state.base.players = nameAt state'.base.players := by
  rw [← nameAt_hideJoin, players_alike h h' hview, nameAt_hideJoin]

/-- A name that stands for two seats in two games that look alike stands for one. -/
theorem seat_alike {seat seat' : ℕ} {player player' : GameplayPlayerState}
    (hslot : slotAt state.base.players seat = some player)
    (hslot' : slotAt state'.base.players seat' = some player')
    (hname : nameAt state.base.players seat = nameAt state'.base.players seat') : seat = seat' := by
  have hsame := congrArg (fun players => slotAt players seat) (players_alike h h' hview)
  simp only [slotAt_mapSlots, hslot, Option.map_some] at hsame
  obtain ⟨other, hother, -⟩ := Option.map_eq_some_iff.1 hsame.symm
  rw [nameAt_alike h h' hview, nameAt_of_slot hslot'] at hname
  exact (nameAt_eq_iff (table_of_valid h').2 hother hslot').1 hname

/-- A space that looks the same has the same owner and the same buildings. -/
theorem property_alike {i : ℕ} {definition : BoardSpaceDefinition}
    {property property' : PropertyState}
    (hp : state.base.properties[i]? = some property)
    (hp' : state'.base.properties[i]? = some property')
    (hvalid : ValidPropertyState definition i property)
    (hvalid' : ValidPropertyState definition i property')
    (hspace : spaceView state.base.players definition property
      = spaceView state'.base.players definition property') : property = property' := by
  have howners := (table_of_valid h).2.owner i property
  have howners' := (table_of_valid h').2.owner i property'
  obtain ⟨position, owner, houses, hasHotel, mortgaged⟩ := property
  obtain ⟨position', owner', houses', hasHotel', mortgaged'⟩ := property'
  obtain rfl : position = i := hvalid.position_eq
  obtain rfl : position' = position := hvalid'.position_eq
  unfold spaceView at hspace
  by_cases hown : isOwnableSpace definition = true
  · simp only [if_pos hown, BoardSpacePublicState.ownable.injEq, true_and] at hspace
    obtain ⟨hnames, rfl, rfl, rfl⟩ := hspace
    suffices howner : owner = owner' by rw [howner]
    cases owner with
    | none =>
      rw [Option.map_none, eq_comm, Option.map_eq_none_iff] at hnames
      exact hnames.symm
    | some seat =>
      rw [Option.map_some, eq_comm, Option.map_eq_some_iff] at hnames
      obtain ⟨seat', rfl, hname⟩ := hnames
      obtain ⟨player, hslot, -⟩ := howners seat hp rfl
      obtain ⟨player', hslot', -⟩ := howners' seat' hp' rfl
      rw [seat_alike h h' hview hslot hslot' hname.symm]
  · -- nobody owns such a space, so nothing is on it
    have hnone : owner = none := hvalid.ownable_of_owned (by simpa using hown)
    have hnone' : owner' = none := hvalid'.ownable_of_owned (by simpa using hown)
    obtain ⟨rfl, rfl, rfl⟩ : mortgaged = false ∧ houses = 0 ∧ hasHotel = false :=
      hvalid.unowned_clean hnone
    obtain ⟨rfl, rfl, rfl⟩ : mortgaged' = false ∧ houses' = 0 ∧ hasHotel' = false :=
      hvalid'.unowned_clean hnone'
    rw [hnone, hnone']

/-- The spaces have the same owners and buildings. -/
theorem properties_alike : state.base.properties = state'.base.properties := by
  have htable := (table_of_valid h).2
  have htable' := (table_of_valid h').2
  have hboard : (publicView state).board = (publicView state').board := by rw [hview]
  refine List.ext_getElem? fun i => ?_
  by_cases hi : i < 40
  · obtain ⟨definition, hd⟩ := exists_boardSpace hi
    obtain ⟨property, hp⟩ := exists_property htable.properties_valid hi
    obtain ⟨property', hp'⟩ := exists_property htable'.properties_valid hi
    have hvalid := validPropertyState_of_getElem? htable.properties_valid hp hd
    have hvalid' := validPropertyState_of_getElem? htable'.properties_valid hp' hd
    have hspace : spaceView state.base.players definition property
        = spaceView state'.base.players definition property' := by
      have hboth := congrArg (fun board => board[i]?) hboard
      simpa [publicView, List.getElem?_zipWith, hd, hp, hp'] using hboth
    rw [hp, hp']
    exact congrArg some (property_alike h h' hview hp hp' hvalid hvalid' hspace)
  · rw [List.getElem?_eq_none (by rw [length_properties htable.properties_valid]; omega),
      List.getElem?_eq_none (by rw [length_properties htable'.properties_valid]; omega)]

/-- The book is the same. -/
theorem activeTrades_alike (hbook : WellFormedBook state.base)
    (hbook' : WellFormedBook state'.base) :
    state.base.activeTrades = state'.base.activeTrades := by
  have htrades : (publicView state).activeTrades = (publicView state').activeTrades := by rw [hview]
  refine eq_of_map_eq htrades fun trade htrade trade' htrade' hsame => ?_
  have hterms : validTerms trade.terms = true := (validTrade_of_mem h htrade).2.2.2.2.1
  obtain ⟨proposer, hproposer, -⟩ := hbook.proposer trade htrade
  obtain ⟨receiver, hreceiver, -⟩ := hbook.receiver trade htrade
  obtain ⟨proposer', hproposer', -⟩ := hbook'.proposer trade' htrade'
  obtain ⟨receiver', hreceiver', -⟩ := hbook'.receiver trade' htrade'
  obtain ⟨tradeId, first, second, terms, createdAtMs, expiresAtMs⟩ := trade
  obtain ⟨tradeId', first', second', terms', createdAtMs', expiresAtMs'⟩ := trade'
  simp only [tradeView, TradePublicState.mk.injEq] at hsame
  obtain ⟨hpublic, rfl, hfirst, hsecond, rfl, rfl⟩ := hsame
  obtain rfl : terms = terms' := publicTerms_inj hterms hpublic
  obtain rfl : first = first' := seat_alike h h' hview hproposer hproposer' hfirst
  obtain rfl : second = second' := seat_alike h h' hview hreceiver hreceiver' hsecond
  rfl

theorem inventory_alike : state.base.housesRemaining = state'.base.housesRemaining ∧
    state.base.hotelsRemaining = state'.base.hotelsRemaining := by
  obtain ⟨-, hhouses, hhotels⟩ := isValidBuildingInventory_iff.1 (table_of_valid h).2.stock
  obtain ⟨-, hhouses', hhotels'⟩ := isValidBuildingInventory_iff.1 (table_of_valid h').2.stock
  rw [properties_alike h h' hview] at hhouses hhotels
  simp only [GameplayAggregateStateBase.inventory] at hhouses hhotels hhouses' hhotels'
  omega

/-- All of the shared fields that are shown are the same. -/
theorem base_alike (hbook : WellFormedBook state.base) (hbook' : WellFormedBook state'.base) :
    redactedBase state.base = redactedBase state'.base := by
  have hversion : state.base.stateVersion = state'.base.stateVersion :=
    congrArg GameplayPublicState.stateVersion hview
  have hgame : state.base.gameId = state'.base.gameId := congrArg GameplayPublicState.gameId hview
  have hdice : state.base.lastDice = state'.base.lastDice :=
    Option.map_injective publicDice_injective (congrArg GameplayPublicState.lastDice hview)
  obtain ⟨hhouses, hhotels⟩ := inventory_alike h h' hview
  unfold redactedBase
  rw [players_alike h h' hview, properties_alike h h' hview,
    activeTrades_alike h h' hview hbook hbook', hversion, hgame, hdice, hhouses, hhotels]

end Alike

/-- Games in progress that look alike are in the same turn. -/
theorem turn_alike {state state' : ActiveGameplayAggregateState} (h : ValidActive state)
    (h' : ValidActive state')
    (hturn : publicTurn (.inProgress state) = publicTurn (.inProgress state')) :
    { state.turn with emittedWarnings := [] } = { state'.turn with emittedWarnings := [] } ∧
      state.bankruptcyRequiredSeatIndex = state'.bankruptcyRequiredSeatIndex := by
  simp only [publicTurn, GameplayTurnState.active.injEq] at hturn
  obtain ⟨hphase, hseat, hstarted, hdeadline⟩ := hturn
  refine ⟨by simp only [hphase, hseat, hstarted, hdeadline], ?_⟩
  -- a bankruptcy is required of the current seat, in its own phase
  obtain ⟨hnone, hother⟩ | ⟨hsome, hbankrupt⟩ := h.turn.bankruptcy <;>
    obtain ⟨hnone', hother'⟩ | ⟨hsome', hbankrupt'⟩ := h'.turn.bankruptcy
  · rw [hnone, hnone']
  · exact absurd (hphase.trans hbankrupt') hother
  · exact absurd (hphase.symm.trans hbankrupt) hother'
  · rw [hsome, hsome', hseat]

/-- Finished games that look alike have ended alike. -/
theorem terminal_alike {state state' : FinishedGameplayAggregateState} (h : ValidFinished state)
    (h' : ValidFinished state')
    (hview : publicView (.finished state) = publicView (.finished state')) :
    state.terminal = state'.terminal := by
  have hvalid : isValidGameplayAggregateState (.finished state) = true := isValidFinished_iff.2 h
  have hvalid' : isValidGameplayAggregateState (.finished state') = true :=
    isValidFinished_iff.2 h'
  have hfits := (Snapshot.fits_of_valid hvalid).2
  have hterminal : terminalView state.players state.terminal
      = terminalView state'.players state'.terminal :=
    Option.some.inj (congrArg GameplayPublicState.terminal hview)
  obtain ⟨first, rest, hranking, -, hfirst⟩ := ranking_head h
  obtain ⟨first', rest', hranking', -, hfirst'⟩ := ranking_head h'
  obtain ⟨winner, hwinner, -⟩ := ranking_seated h (hranking ▸ List.mem_cons_self ..)
  obtain ⟨winner', hwinner', -⟩ := ranking_seated h' (hranking' ▸ List.mem_cons_self ..)
  rw [hfirst] at hwinner
  rw [hfirst'] at hwinner'
  obtain ⟨-, -, -, hentitled, -⟩ := h.terminal
  obtain ⟨-, -, -, hentitled', -⟩ := h'.terminal
  simp only [terminalView, GameplayTerminalState.mk.injEq] at hterminal
  obtain ⟨hreason, hname, hended, hranks, -⟩ := hterminal
  have hseat : state.terminal.winnerSeatIndex = state'.terminal.winnerSeatIndex :=
    seat_alike hvalid hvalid' hview hwinner hwinner' hname
  have hsame : state.terminal.ranking = state'.terminal.ranking := by
    refine eq_of_map_eq hranks fun entry hentry entry' _ hsame => ?_
    have hcash := (hfits.ranking entry hentry).netWorth
    obtain ⟨rank, seatIndex, netWorth⟩ := entry
    obtain ⟨rank', seatIndex', netWorth'⟩ := entry'
    simp only [rankingView, RankingEntryPublicState.mk.injEq] at hsame
    obtain ⟨rfl, rfl, -, htext⟩ := hsame
    obtain rfl : netWorth = netWorth' := cash_toString_inj hcash htext
    rfl
  rw [hseat, ← hentitled'] at hentitled
  have hext : ∀ {t t' : TerminalOutcome}, t.reason = t'.reason →
      t.winnerSeatIndex = t'.winnerSeatIndex → t.endedAtMs = t'.endedAtMs →
      t.ranking = t'.ranking → t.settlementEntitlement.winnerSeatIndex
        = t'.settlementEntitlement.winnerSeatIndex → t = t' := by
    rintro ⟨_, _, _, _, ⟨_⟩⟩ ⟨_, _, _, _, ⟨_⟩⟩ rfl rfl rfl rfl rfl
    rfl
  exact hext hreason hseat hended hsame hentitled

/-- Two valid games that look alike differ in what is hidden only. -/
theorem redacted_of_publicView {state state' : GameplayAggregateState}
    (h : isValidGameplayAggregateState state = true)
    (h' : isValidGameplayAggregateState state' = true) (hbook : WellFormedBook state.base)
    (hbook' : WellFormedBook state'.base) (hview : publicView state = publicView state') :
    redacted state = redacted state' := by
  have hbase := base_alike h h' hview hbook hbook'
  have hturn : publicTurn state = publicTurn state' := congrArg GameplayPublicState.turn hview
  cases state with
  | inProgress state =>
    cases state' with
    | inProgress state' =>
      obtain ⟨hsame, hrequired⟩ := turn_alike (isValidActive_iff.1 h) (isValidActive_iff.1 h') hturn
      simp only [redacted, hsame, hrequired]
      rw [show redactedBase state.toGameplayAggregateStateBase = _ from hbase]
      rfl
    | finished state' => cases hturn
  | finished state =>
    cases state' with
    | inProgress state' => cases hturn
    | finished state' =>
      have hterminal := terminal_alike (isValidFinished_iff.1 h) (isValidFinished_iff.1 h') hview
      simp only [redacted, hterminal]
      rw [show redactedBase state.toGameplayAggregateStateBase = _ from hbase]
      rfl

/-- The messages of two states, of one started game or of two, are the same exactly when the states
differ in what is hidden only. -/
theorem published_iff_redacted {start start' state state' : GameplayAggregateState}
    {commands commands' : List AcceptedCommand} (hstart : StartedGame start)
    (hstart' : StartedGame start') (hrun : Run Accepts start commands state)
    (hrun' : Run Accepts start' commands' state')
    (h : isValidGameplayAggregateState state = true)
    (h' : isValidGameplayAggregateState state' = true) :
    publicGameplayState state = publicGameplayState state' ↔ redacted state = redacted state' := by
  have hbook := wellFormedBook_of_run hstart hrun
  have hbook' := wellFormedBook_of_run hstart' hrun'
  rw [publicGameplayState_eq h hbook, publicGameplayState_eq h' hbook', Except.ok.injEq]
  constructor
  · exact redacted_of_publicView h h' hbook hbook'
  · intro hredacted
    rw [← publicView_redacted, hredacted, publicView_redacted]

/-- The lobby of two players, with another generator. -/
def reseededLobby : InProgressGameState := { twoPlayerLobby with rng := ⟨"other", "seed", 0, 0⟩ }

/-- The other generator rolls one and two as well. -/
def reseededRolls : GameplayCommand × GameplayCommandContext :=
  (⟨1, .turn .resolveRandomDice⟩,
    ⟨.internal, 10, scriptedSource [0, 1] reseededLobby.rng, none⟩)

/-- Two games with different generators look alike after the same roll. -/
theorem published_iff_redacted_rng : ∃ start start' rolled rolled' state state',
    StartedGame start ∧ StartedGame start' ∧ Run Accepts start [rolled] state ∧
    Run Accepts start' [rolled'] state' ∧ state.base.rng ≠ state'.base.rng ∧
    redacted state = redacted state' := by
  have hgames : (gameOf twoPlayerLobby).any (fun start => (gameOf reseededLobby).any fun start' =>
      (nextState start (rolls 1 2 1 10)).any fun state => (nextState start' reseededRolls).any
        fun state' => isValidGameplayAggregateState state && isValidGameplayAggregateState state' &&
          decide (state.base.rng ≠ state'.base.rng) &&
          decide (publicView state = publicView state')) = true := by
    decide +kernel
  obtain ⟨start, hstart, hgames⟩ := (Option.any_eq_true _ _).1 hgames
  obtain ⟨start', hstart', hgames⟩ := (Option.any_eq_true _ _).1 hgames
  obtain ⟨state, hstate, hgames⟩ := (Option.any_eq_true _ _).1 hgames
  obtain ⟨state', hstate', hcheck⟩ := (Option.any_eq_true _ _).1 hgames
  simp only [Bool.and_eq_true, decide_eq_true_eq] at hcheck
  obtain ⟨⟨⟨hvalid, hvalid'⟩, hrng⟩, hview⟩ := hcheck
  obtain ⟨active, hinit, rfl⟩ := Option.map_eq_some_iff.1 hstart
  obtain ⟨active', hinit', rfl⟩ := Option.map_eq_some_iff.1 hstart'
  obtain ⟨events, hrolls⟩ := nextState_eq_some.1 hstate
  obtain ⟨events', hrolls'⟩ := nextState_eq_some.1 hstate'
  have hstarted : StartedGame (.inProgress active) := ⟨twoPlayerLobby, active, hinit, rfl⟩
  have hstarted' : StartedGame (.inProgress active') := ⟨reseededLobby, active', hinit', rfl⟩
  have hrun : Run Accepts (.inProgress active) [_] state := .cons hrolls (.nil _)
  have hrun' : Run Accepts (.inProgress active') [_] state' := .cons hrolls' (.nil _)
  refine ⟨_, _, _, _, state, state', hstarted, hstarted', hrun, hrun', hrng, ?_⟩
  refine (published_iff_redacted hstarted hstarted' hrun hrun' hvalid hvalid').1 ?_
  rw [published_of_run hstarted hrun, published_of_run hstarted' hrun', if_pos hvalid,
    if_pos hvalid', hview]

end Pootown.Server

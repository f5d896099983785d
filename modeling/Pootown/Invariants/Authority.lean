import Mathlib.Tactic
import Pootown.Invariants.Trades

/-!
# Who drives the game

Every accepted command names its actor, and only the current player moves the turn.

* `GameplayCommandBody.isInternal`, `GameplayCommandBody.isPlayerTrade`: the commands of the server,
  and those any active player may send;
* `transitionGameplay_actor`: who an accepted command comes from;
* `DiffersAtMost`: the frame of a trade, and `only_current_player_drives`.
-/

namespace Pootown

open Fallible Slots

/-! ### Actors -/

/-- The commands of the server: random draws, the clean-up of trades, and the timers. -/
def GameplayCommandBody.isInternal : GameplayCommandBody → Bool
  | .turn .resolveRandomDice => true
  | .card (.resolveRandomCard _) => true
  | .trade .cleanupExpiredTrades => true
  | .timeout _ => true
  | _ => false

/-- The trade commands of the players. -/
def GameplayCommandBody.isPlayerTrade : GameplayCommandBody → Bool
  | .trade (.createTrade _ _) => true
  | .trade (.acceptTrade _) => true
  | .trade (.rejectTrade _) => true
  | .trade (.cancelTrade _) => true
  | _ => false

/-- The actor is the current player. -/
def FromCurrent (state : ActiveGameplayAggregateState) (context : GameplayCommandContext) : Prop :=
  ∃ current, IsCurrent state current ∧ context.actor = .player current.playerId

/-- Where an accepted command may come from. -/
inductive ActorOf (state : ActiveGameplayAggregateState) (context : GameplayCommandContext)
    (body : GameplayCommandBody) : Prop
  | server : body.isInternal = true → context.actor = .internal → ActorOf state context body
  | trader (playerId : String) : body.isPlayerTrade = true → context.actor = .player playerId →
      ActorOf state context body
  | current : body.isInternal = false → body.isPlayerTrade = false → FromCurrent state context →
      ActorOf state context body

section Actors

variable {state state' : ActiveGameplayAggregateState} {expected : ℤ}
  {context : GameplayCommandContext} {events : List GameplayDomainEvent}

theorem transitionGameplayTurn_actor {command : GameplayTurnCommand}
    (h : transitionGameplayTurn state command expected context = .ok (state', events)) :
    ActorOf state context (.turn command) := by
  obtain ⟨-, current, hc, hauth, -⟩ := transitionGameplayTurn_step h
  have hplayer : ∀ playerId, context.actor = .player playerId →
      (activeGameplayPlayer state).any (fun player => player.playerId == playerId) = true →
      FromCurrent state context := by
    intro playerId hactor hany
    rw [activeGameplayPlayer_eq_some.2 hc, Option.any_some, beq_iff_eq] at hany
    exact ⟨current, hc, by rw [hactor, hany]⟩
  cases command with
  | resolveRandomDice =>
    refine .server rfl ?_
    simpa [playerActorAuthorized] using hauth
  | rollDice =>
    cases hactor : context.actor with
    | internal => simp [playerActorAuthorized, hactor] at hauth
    | player playerId =>
      simp only [playerActorAuthorized, hactor] at hauth
      exact .current rfl rfl (hplayer playerId hactor hauth)
  | endTurn =>
    cases hactor : context.actor with
    | internal => simp [playerActorAuthorized, hactor] at hauth
    | player playerId =>
      simp only [playerActorAuthorized, hactor] at hauth
      exact .current rfl rfl (hplayer playerId hactor hauth)

theorem transitionGameplayProperty_actor {command : GameplayPropertyCommand}
    (h : transitionGameplayProperty state command expected context = .ok (state', events)) :
    FromCurrent state context := by
  simp only [transitionGameplayProperty, bind_eq_ok, require_eq_ok, requireSome_eq_ok,
    exists_const, checkCommand_eq_ok, activeGameplayPlayer_eq_some] at h
  obtain ⟨-, current, hc, hactor, -⟩ := h
  exact ⟨current, hc, hactor⟩

theorem transitionGameplayJail_actor {command : GameplayJailCommand}
    (h : transitionGameplayJail state command expected context = .ok (state', events)) :
    FromCurrent state context := by
  simp only [transitionGameplayJail, bind_eq_ok, require_eq_ok, requireSome_eq_ok,
    exists_const, checkCommand_eq_ok, activeGameplayPlayer_eq_some] at h
  obtain ⟨-, current, hc, hactor, -⟩ := h
  exact ⟨current, hc, hactor⟩

theorem transitionGameplayCard_actor {command : GameplayCardCommand}
    (h : transitionGameplayCard state command expected context = .ok (state', events)) :
    ActorOf state context (.card command) := by
  simp only [transitionGameplayCard, bind_eq_ok, require_eq_ok, requireSome_eq_ok,
    exists_const, checkCommand_eq_ok, activeGameplayPlayer_eq_some] at h
  obtain ⟨-, current, hc, hauth, -⟩ := h
  cases command with
  | resolveRandomCard deck => exact .server rfl (by simpa [cardActorAuthorized] using hauth)
  | drawChanceCard =>
    exact .current rfl rfl ⟨current, hc, by simpa [cardActorAuthorized] using hauth⟩
  | drawCommunityChestCard =>
    exact .current rfl rfl ⟨current, hc, by simpa [cardActorAuthorized] using hauth⟩

/-- A trade command that needs an actor comes from a player. -/
theorem tradeActor_player {actor : GameplayPlayerState}
    (h : tradeActor state context = .ok actor) : ∃ playerId, context.actor = .player playerId := by
  unfold tradeActor at h
  split at h
  · cases h
  next playerId hactor => exact ⟨playerId, hactor⟩

theorem transitionGameplayTrade_actor {command : GameplayTradeCommand}
    (h : transitionGameplayTrade state command expected context = .ok (state', events)) :
    ActorOf state context (.trade command) := by
  simp only [transitionGameplayTrade, bind_eq_ok, require_eq_ok, exists_const,
    checkCommand_eq_ok] at h
  obtain ⟨-, -, h⟩ := h
  cases command with
  | cleanupExpiredTrades =>
    simp only [transitionCleanupExpiredTrades, bind_eq_ok, require_eq_ok, exists_const] at h
    exact .server rfl h.1
  | createTrade receiverId terms =>
    simp only [transitionCreateTrade, bind_eq_ok] at h
    obtain ⟨actor, hactor, -⟩ := h
    obtain ⟨playerId, hplayer⟩ := tradeActor_player hactor
    exact .trader playerId rfl hplayer
  | acceptTrade tradeId | rejectTrade tradeId | cancelTrade tradeId =>
    simp only [transitionSettleTrade, bind_eq_ok] at h
    obtain ⟨actor, hactor, -⟩ := h
    obtain ⟨playerId, hplayer⟩ := tradeActor_player hactor
    exact .trader playerId rfl hplayer

/-- An accepted command comes from the server, from a trader, or from the current player. -/
theorem transitionGameplay_actor {next : GameplayAggregateState} {command : GameplayCommand}
    (h : transitionGameplay (.inProgress state) command context = .ok (next, events)) :
    ActorOf state context command.body := by
  simp only [transitionGameplay, bind_eq_ok, require_eq_ok, exists_const] at h
  obtain ⟨-, -, h⟩ := h
  unfold routeGameplay at h
  cases hbody : command.body with
  | turn body =>
    simp only [hbody] at h
    obtain ⟨active, hturn, -⟩ := keepsPlaying_eq_ok.1 h
    exact transitionGameplayTurn_actor hturn
  | property body =>
    simp only [hbody] at h
    obtain ⟨active, hproperty, -⟩ := keepsPlaying_eq_ok.1 h
    exact .current rfl rfl (transitionGameplayProperty_actor hproperty)
  | jail body =>
    simp only [hbody] at h
    obtain ⟨active, hjail, -⟩ := keepsPlaying_eq_ok.1 h
    exact .current rfl rfl (transitionGameplayJail_actor hjail)
  | card body =>
    simp only [hbody] at h
    obtain ⟨active, hcard, -⟩ := keepsPlaying_eq_ok.1 h
    exact transitionGameplayCard_actor hcard
  | declareBankruptcy =>
    simp only [hbody] at h
    obtain ⟨-, -, current, resolution, hc, hactor, -⟩ := transitionGameplayBankruptcy_step h
    exact .current rfl rfl ⟨current, hc, hactor⟩
  | trade body =>
    simp only [hbody] at h
    obtain ⟨active, htrade, -⟩ := keepsPlaying_eq_ok.1 h
    exact transitionGameplayTrade_actor htrade
  | timeout body =>
    simp only [hbody] at h
    exact .server rfl (transitionGameplayTimeout_step h).2.1

end Actors

/-! ### The frame of a trade -/

/-- `state'` is `state` one version on, with another book of trades, other cash on the seats of
`parties` and other owners of the spaces of `spaces`; nothing else differs. -/
def DiffersAtMost (parties spaces : Set ℕ) (state state' : ActiveGameplayAggregateState) : Prop :=
  ∃ (trades : List PendingTrade) (cash : ℕ → ℤ → ℤ) (owner : PropertyState → Option ℕ),
    (∀ seat ∉ parties, ∀ amount, cash seat amount = amount) ∧
    (∀ property, property.position ∉ spaces → owner property = property.ownerSeatIndex) ∧
    state' = { state with
      stateVersion := state.stateVersion + 1
      players := mapSlots (fun seat player => { player with cash := cash seat player.cash })
        state.players
      properties := state.properties.map fun property =>
        { property with ownerSeatIndex := owner property }
      activeTrades := trades }

/-- The trade a command settles: the first one under the id it accepts. -/
def settledTrade (state : ActiveGameplayAggregateState) : GameplayCommandBody → Option PendingTrade
  | .trade (.acceptTrade tradeId) => state.activeTrades.find? fun trade => trade.tradeId = tradeId
  | _ => none

/-- The seats of the two parties of the settled trade. -/
def settledParties (state : ActiveGameplayAggregateState) (body : GameplayCommandBody) : Set ℕ :=
  {seat | ∃ trade, settledTrade state body = some trade ∧
    (seat = trade.proposerSeatIndex ∨ seat = trade.receiverSeatIndex)}

/-- The spaces named in the settled trade. -/
def settledSpaces (state : ActiveGameplayAggregateState) (body : GameplayCommandBody) : Set ℕ :=
  {position | ∃ trade, settledTrade state body = some trade ∧
    ((propertyTerms trade.terms).1 = some position ∨
      (propertyTerms trade.terms).2 = some position)}

theorem withBook_differs (parties spaces : Set ℕ) (state : ActiveGameplayAggregateState)
    (trades : List PendingTrade) : DiffersAtMost parties spaces state (withBook state trades) := by
  refine ⟨trades, fun _ amount => amount, fun property => property.ownerSeatIndex,
    fun _ _ _ => rfl, fun _ _ => rfl, ?_⟩
  have hplayers : mapSlots (fun _ player => { player with cash := player.cash }) state.players
      = state.players := mapSlots_id fun _ _ _ => rfl
  have hproperties : (state.properties.map fun property =>
      { property with ownerSeatIndex := property.ownerSeatIndex }) = state.properties :=
    List.map_id' _
  rw [hplayers, hproperties]
  rfl

/-- A trade command touches the book, and the cash and the spaces of the trade it settles. -/
theorem TradeStep.differs {state state' : ActiveGameplayAggregateState} {nowMs : ℤ}
    {command : GameplayTradeCommand} {events : List GameplayDomainEvent}
    (h : TradeStep state nowMs command state' events) :
    DiffersAtMost (settledParties state (.trade command)) (settledSpaces state (.trade command))
      state state' := by
  cases h with
  | accepted tradeId trades trade proposer receiver expired hsub hactive hs =>
    have hfound : settledTrade state (.trade (.acceptTrade tradeId)) = some trade := hs.found
    refine ⟨trades, settledCash trade proposer receiver,
      fun property => newOwner trade property.position property.ownerSeatIndex, ?_, ?_, ?_⟩
    · intro seat hseat amount
      have hproposer : seat ≠ trade.proposerSeatIndex := fun heq =>
        hseat ⟨trade, hfound, .inl heq⟩
      have hreceiver : seat ≠ trade.receiverSeatIndex := fun heq =>
        hseat ⟨trade, hfound, .inr heq⟩
      rw [settledCash, if_neg hproposer, if_neg hreceiver]
    · intro property hspace
      have hoffered : (propertyTerms trade.terms).1 ≠ some property.position := fun heq =>
        hspace ⟨trade, hfound, .inl heq⟩
      have hrequested : (propertyTerms trade.terms).2 ≠ some property.position := fun heq =>
        hspace ⟨trade, hfound, .inr heq⟩
      show newOwner trade property.position property.ownerSeatIndex = _
      rw [newOwner, if_neg hoffered, if_neg hrequested]
    · rw [afterSettlement, exchangeProperties_eq_map]
      rfl
  | _ => exact withBook_differs ..

/-- Only the current player drives the turn.  What is accepted from another player is a trade
command, and changes nothing but the book and what the settled trade names; and the commands of the
server are exactly those accepted from the internal actor. -/
theorem only_current_player_drives (state : ActiveGameplayAggregateState)
    (state' : GameplayAggregateState) (command : GameplayCommand)
    (context : GameplayCommandContext) (events : List GameplayDomainEvent)
    (h : transitionGameplay (.inProgress state) command context = .ok (state', events)) :
    (∀ playerId, context.actor = .player playerId →
      (∀ current, IsCurrent state current → current.playerId ≠ playerId) →
      command.body.isPlayerTrade = true ∧ ∃ active, state' = .inProgress active ∧
        DiffersAtMost (settledParties state command.body) (settledSpaces state command.body)
          state active) ∧
    (command.body.isInternal = true ↔ context.actor = .internal) := by
  have hactor := transitionGameplay_actor h
  constructor
  · intro playerId hplayer hother
    have htrade : command.body.isPlayerTrade = true := by
      cases hactor with
      | server hinternal hserver => rw [hplayer] at hserver; cases hserver
      | trader trader htrade _ => exact htrade
      | current _ _ hcurrent =>
        obtain ⟨current, hc, hfrom⟩ := hcurrent
        rw [hplayer] at hfrom
        cases hfrom
        exact absurd rfl (hother current hc)
    refine ⟨htrade, ?_⟩
    obtain ⟨-, hstep⟩ := transitionGameplay_step h
    cases hbody : command.body with
    | trade body =>
      rw [hbody] at hstep
      cases hstep with
      | trade _ active _ hnone hstep => exact ⟨active, rfl, hstep.differs⟩
    | _ => rw [hbody] at htrade; cases htrade
  · cases hactor with
    | server hinternal hserver => exact iff_of_true hinternal hserver
    | trader playerId htrade hplayer =>
      refine iff_of_false ?_ (by rw [hplayer]; simp)
      cases hbody : command.body with
      | trade body =>
        rw [hbody] at htrade
        cases body <;> first | exact Bool.false_ne_true | cases htrade
      | _ => rw [hbody] at htrade; cases htrade
    | current hinternal _ hcurrent =>
      obtain ⟨current, -, hplayer⟩ := hcurrent
      exact iff_of_false (by rw [hinternal]; exact Bool.false_ne_true) (by rw [hplayer]; simp)

/-- The rule at work: bob opens a trade while it is alice's turn. -/
theorem only_current_player_drives_bob : ∃ state active events,
    twoPlayerGame [] = some (.inProgress state) ∧
    transitionGameplay (.inProgress state)
      (plays "bob" (.trade (.createTrade "alice" (.moneyOnly 10 0))) 1 10).1
      (plays "bob" (.trade (.createTrade "alice" (.moneyOnly 10 0))) 1 10).2
      = .ok (.inProgress active, events) ∧
    state.turn.currentSeatIndex = 0 ∧ DiffersAtMost ∅ ∅ state active := by
  obtain ⟨state, state', events, hstart, hok, hcheck⟩ := exists_of_acceptedWith (twoPlayerGame [])
    (plays "bob" (.trade (.createTrade "alice" (.moneyOnly 10 0))) 1 10)
    (fun state _ _ => state.turn.currentSeatIndex == 0 &&
      (activeGameplayPlayer state).all fun player => player.playerId != "bob") (by decide +kernel)
  simp only [Bool.and_eq_true, beq_iff_eq] at hcheck
  have hother : ∀ current, IsCurrent state current → current.playerId ≠ "bob" := by
    intro current hc
    have hall := hcheck.2
    rw [activeGameplayPlayer_eq_some.2 hc, Option.all_some, bne_iff_ne] at hall
    exact hall
  obtain ⟨-, active, rfl, hdiff⟩ :=
    (only_current_player_drives state state' _ _ events hok).1 "bob" rfl hother
  refine ⟨state, active, events, hstart, hok, hcheck.1, ?_⟩
  have hparties : settledParties state
      (plays "bob" (.trade (.createTrade "alice" (.moneyOnly 10 0))) 1 10).1.body = ∅ :=
    Set.eq_empty_of_forall_notMem fun _ ⟨_, hnone, _⟩ => nomatch hnone
  have hspaces : settledSpaces state
      (plays "bob" (.trade (.createTrade "alice" (.moneyOnly 10 0))) 1 10).1.body = ∅ :=
    Set.eq_empty_of_forall_notMem fun _ ⟨_, hnone, _⟩ => nomatch hnone
  rwa [hparties, hspaces] at hdiff

end Pootown

import Confetti.Invariants.Batches
import Confetti.Invariants.Escrow
import Confetti.Protocol.Deployment

/-! How a loan may move through its states, and under which conditions collateral is
seized or released on the way. -/
namespace Confetti
open Outcome TransitionSystem

/-- The moves of a loan's life; a step may also leave it where it is. -/
def LoanState.follows (next : LoanState) : LoanState → Bool
  | .None => next = .None ∨ next = .Active
  | .Created => next = .Created
  | .Active => next = .Active ∨ next = .BuyItNow ∨ next = .Repaid
  | .BuyItNow => next = .BuyItNow ∨ next = .Active ∨ next = .Defaulted
  | .Repaid => next = .Repaid
  | .Defaulted => next = .Defaulted

/-- The debt of a loan at the index its reserve is updated to. -/
structure ChargedAt (s s' : State) (loan : LoanData) (vi debt : Nat) : Prop where
  index : ReserveLogic.updatedBorrowIndex (s.pool.reserves loan.reserveAsset)
    (s.debtTokens loan.reserveAsset).scaledTotalSupply s.timestamp = .ok vi
  stored : (s'.pool.reserves loan.reserveAsset).variableBorrowIndex = vi
  debt_eq : rayMul loan.scaledAmount vi = .ok debt

/-- A sale starts with an offer for an unsafe loan that covers its debt and the
liquidation price. -/
structure FirstOffer (s s' : State) (loan : LoanData) (vi debt threshold liquidate price : Nat) :
    Prop where
  charged : ChargedAt s s' loan vi debt
  prices : SalePrices s loan.reserveAsset loan.nftAsset threshold liquidate
  unsafe_debt : threshold < debt
  covers_debt : debt ≤ price
  covers_liquidation : liquidate ≤ price

/-- The events of a step are its transfers, and the balances follow from them. -/
structure Pays (s s' : State) (asset : Address) (events : List Transfer) : Prop where
  transfers : newTransfers s s' = events
  balances : (s'.erc20 asset).balances = settled (s.erc20 asset).balances events

inductive LegitimateMove (s : State) (operation : Operation) (s' : State) (loanId : Nat) : Prop
  | stays (h : (s'.loanStore.loans loanId).state = (s.loanStore.loans loanId).state)
  | opened {p : ExecuteBorrowParams} {n : Nat}
      (hbefore : (s.loanStore.loans loanId).state = .None)
      (hafter : (s'.loanStore.loans loanId).state = .Active)
      (hcall : operation = .user (.ofBorrow n p))
  | offered {p : ExecuteBuyItNowParams} {n vi debt threshold liquidate : Nat}
      (hbefore : (s.loanStore.loans loanId).state = .Active)
      (hafter : (s'.loanStore.loans loanId).state = .BuyItNow)
      (hcall : operation = .user (.ofBuyItNow n p))
      (hloan : s.loanStore.nftToLoanIds p.nftAsset p.nftTokenId = loanId)
      (h : FirstOffer s s' (s.loanStore.loans loanId) vi debt threshold liquidate p.buyItNowPrice)
  | redeemed {p : ExecuteRedeemParams} {n : Nat}
      (hbefore : (s.loanStore.loans loanId).state = .BuyItNow)
      (hafter : (s'.loanStore.loans loanId).state = .Active)
      (hcall : operation = .user (.ofRedeem n p))
      (hloan : s.loanStore.nftToLoanIds p.nftAsset p.nftTokenId = loanId)
  | repaid {p : ExecuteRepayParams} {n vi debt : Nat}
      (hbefore : (s.loanStore.loans loanId).state = .Active)
      (hafter : (s'.loanStore.loans loanId).state = .Repaid)
      (hcall : operation = .user (.ofRepay n p))
      (hloan : s.loanStore.nftToLoanIds p.nftAsset p.nftTokenId = loanId)
      (hcharged : ChargedAt s s' (s.loanStore.loans loanId) vi debt)
      (hpays : Pays s s' (s.loanStore.loans loanId).reserveAsset
        [⟨(s.loanStore.loans loanId).reserveAsset, .account n,
          .cToken (s.loanStore.loans loanId).reserveAsset, debt⟩])
  | defaulted {p : ExecuteLiquidateParams} {n vi debt : Nat}
      (hbefore : (s.loanStore.loans loanId).state = .BuyItNow)
      (hafter : (s'.loanStore.loans loanId).state = .Defaulted)
      (hcall : operation = .user (.ofLiquidate n p))
      (hloan : s.loanStore.nftToLoanIds p.nftAsset p.nftTokenId = loanId)
      (hcharged : ChargedAt s s' (s.loanStore.loans loanId) vi debt)
      (hpays : Pays s s' (s.loanStore.loans loanId).reserveAsset
        (liquidationEvents (s.loanStore.loans loanId).reserveAsset (.account n)
          (s.loanStore.loans loanId).borrower (s.loanStore.loans loanId).buyItNowPrice debt))

variable {s s' : State} {operation : Operation} {loanId other : Nat}

theorem LegitimateMove.follows (h : LegitimateMove s operation s' loanId) :
    (s'.loanStore.loans loanId).state.follows (s.loanStore.loans loanId).state = true := by
  cases h with
  | stays h =>
    rw [h]
    cases (s.loanStore.loans loanId).state <;> decide
  | opened hbefore hafter =>
    rw [hbefore, hafter]
    decide
  | offered hbefore hafter =>
    rw [hbefore, hafter]
    decide
  | redeemed hbefore hafter =>
    rw [hbefore, hafter]
    decide
  | repaid hbefore hafter =>
    rw [hbefore, hafter]
    decide
  | defaulted hbefore hafter =>
    rw [hbefore, hafter]
    decide

/-! ### One step -/

theorem PoolStep.charged {li vi debt : Nat} {loan : LoanData}
    (h : PoolStep s loan.reserveAsset li vi s') (hdebt : rayMul loan.scaledAmount vi = .ok debt) :
    ChargedAt s s' loan vi debt := by
  obtain ⟨_, haccrual⟩ := h.accrual
  obtain ⟨_, _, hpool⟩ := h.pool
  refine ⟨haccrual.variableBorrowIndex, ?_, hdebt⟩
  rw [hpool, LendPoolStorage.setReserve_reserves, Function.update_self]
  rfl

theorem Cash.pays {asset : Address} {program : ERC20 → Except Revert ERC20}
    {events : List Transfer} (h : Cash s asset program events s')
    (hrecorded : Recorded program events) : Pays s s' asset events :=
  ⟨h.newTransfers, h.balances hrecorded⟩

theorem LoanReplaced.moves {loan : LoanData} (h : LoanReplaced s other loan s')
    (hmove : loanId = other → (s'.loanStore.loans loanId).state = loan.state →
      LegitimateMove s operation s' loanId) : LegitimateMove s operation s' loanId := by
  by_cases hloan : loanId = other
  · apply hmove hloan
    rw [h.loanStore, LoanStore.withLoan_loans, hloan, Function.update_self]
  · apply LegitimateMove.stays
    rw [h.loanStore, LoanStore.withLoan_loans, Function.update_of_ne hloan]

theorem LoanClosed.moves {ended : LoanData} {receiver : Address}
    (h : LoanClosed s other ended receiver s')
    (hmove : loanId = other → (s'.loanStore.loans loanId).state = ended.state →
      LegitimateMove s operation s' loanId) : LegitimateMove s operation s' loanId := by
  by_cases hloan : loanId = other
  · apply hmove hloan
    rw [h.loanStore, LoanStore.closed_loans, hloan, Function.update_self]
  · apply LegitimateMove.stays
    rw [h.loanStore, LoanStore.closed_loans, Function.update_of_ne hloan]

theorem BorrowEffect.moves {p : ExecuteBorrowParams} {n li vi scaled : Nat}
    (hcall : operation = .user (.ofBorrow n p)) (hb : BookValid s)
    (h : BorrowEffect s p s' li vi scaled) : LegitimateMove s operation s' loanId := by
  rcases h.book with hopened | htopped
  · by_cases hnew : loanId = s.loanStore.loanIdTracker
    · apply LegitimateMove.opened
      · rw [hb.fresh loanId (Nat.le_of_eq hnew.symm)]
        rfl
      · rw [hopened.loanStore, LoanStore.opened_loans, hnew, Function.update_self]
        rfl
      · exact hcall
    · apply LegitimateMove.stays
      rw [hopened.loanStore, LoanStore.opened_loans, Function.update_of_ne hnew]
  · apply htopped.replaced.moves
    intro hloan hafter
    subst hloan
    exact .stays hafter

theorem RepayEffect.moves {p : ExecuteRepayParams} {n li vi debt paid scaled : Nat}
    (hcall : operation = .user (.ofRepay n p)) (hn : p.initiator = .account n)
    (h : RepayEffect s p (s.loanOf p.nftAsset p.nftTokenId) s' li vi debt paid scaled) :
    LegitimateMove s operation s' loanId := by
  rcases h.book with ⟨-, -, hpartly⟩ | ⟨hle, hclosed⟩
  · apply hpartly.moves
    intro hloan hafter
    subst hloan
    exact .stays hafter
  · apply hclosed.moves
    intro hloan hafter
    subst hloan
    have hpaid : paid = debt := h.paid_eq.trans (Nat.min_eq_right hle)
    have hpays := h.cash.pays (recorded_transferFrom _)
    rw [hn, hpaid] at hpays
    exact .repaid h.active hafter hcall rfl (h.step.charged h.debt_eq) hpays

theorem BuyItNowEffect.moves {p : ExecuteBuyItNowParams} {n li vi debt threshold liquidate : Nat}
    (hcall : operation = .user (.ofBuyItNow n p))
    (h : BuyItNowEffect s p (s.loanOf p.nftAsset p.nftTokenId) s' li vi debt threshold liquidate) :
    LegitimateMove s operation s' loanId := by
  apply h.replaced.moves
  intro hloan hafter
  subst hloan
  rcases h.turn with ⟨hactive, -, hrisk, hliquidate⟩ | ⟨hsale, -, -⟩
  · exact .offered hactive hafter hcall rfl
      ⟨h.step.charged h.debt_eq, h.prices, hrisk, h.covered, hliquidate⟩
  · exact .stays (hafter.trans hsale.symm)

theorem Redemption.moves {p : ExecuteRedeemParams} {n li vi debt fine scaled lr vr : Nat}
    {cTokens : Address → CToken} {token : ERC20} (hcall : operation = .user (.ofRedeem n p))
    (h : Redemption s p (s.loanOf p.nftAsset p.nftTokenId) li vi cTokens debt fine scaled lr vr
      token) :
    LegitimateMove s operation (afterRedemption s p (s.loanOf p.nftAsset p.nftTokenId) li vi cTokens
      fine scaled lr vr token) loanId := by
  apply h.replaced.moves
  intro hloan hafter
  subst hloan
  exact .redeemed h.sale hafter hcall rfl

theorem Liquidation.moves {p : ExecuteLiquidateParams} {n li vi debt scaled lr vr : Nat}
    {cTokens : Address → CToken} {token : ERC20} (hcall : operation = .user (.ofLiquidate n p))
    (hn : p.initiator = .account n)
    (h : Liquidation s p (s.loanOf p.nftAsset p.nftTokenId) li vi cTokens debt scaled lr vr token) :
    LegitimateMove s operation (afterLiquidation s p (s.loanOf p.nftAsset p.nftTokenId) li vi cTokens
      debt scaled lr vr token) loanId := by
  apply h.closed.moves
  intro hloan hafter
  subst hloan
  have hpays := h.cash.pays (recorded_liquidation _ _ _ _ _)
  rw [hn] at hpays
  exact .defaulted h.sale hafter hcall rfl (h.step.charged h.debt_eq) hpays

/-- Every accepted operation moves every loan legitimately. -/
theorem legitimate_move (hreg : Regular s) (hrun : operation.run s = .ok s') (loanId : Nat) :
    LegitimateMove s operation s' loanId := by
  rcases hreg.cases hrun with haction | ⟨-, hkept⟩
  · cases haction with
    | deposit _ h => exact .stays (by rw [h.book.loanStore])
    | withdraw _ h => exact .stays (by rw [h.book.loanStore])
    | borrow hcall _ h => exact h.moves hcall hreg.book
    | repay hcall hn h => exact h.moves hcall hn
    | buyItNow hcall _ h => exact h.moves hcall
    | redeem hcall _ h hs =>
      subst hs
      exact h.moves hcall
    | liquidate hcall hn h hs =>
      subst hs
      exact h.moves hcall hn
  · exact .stays (by rw [hkept.loanStore])

/-! ### Whole runs -/

variable {s₀ : State} {history : List (Transition State Operation)}

/-- The states a loan goes through. -/
def lifeline (s₀ : State) (history : List (Transition State Operation)) (loanId : Nat) :
    List LoanState :=
  (s₀.loanStore.loans loanId).state ::
    history.map fun t => (t.post.loanStore.loans loanId).state

theorem lifeline_last (hrun : Run operations s₀ history s) :
    (lifeline s₀ history loanId).getLast? = some (s.loanStore.loans loanId).state := by
  cases hrun with
  | nil => rfl
  | snoc _ _ => simp [lifeline, List.getLast?_cons]

theorem lifeline_chain (hs₀ : Reachable operations s₀) (hrun : Run operations s₀ history s) :
    (lifeline s₀ history loanId).IsChain fun before after => after.follows before = true := by
  induction hrun with
  | nil => exact .singleton _
  | @snoc m s' operation history hrun hstep ih =>
    have hreg := regular_of_reachable (hrun.reachable hs₀)
    have hmove := (legitimate_move hreg hstep loanId).follows
    have hsnoc : lifeline s₀ (history ++ [⟨m, operation, s'⟩]) loanId =
        lifeline s₀ history loanId ++ [(s'.loanStore.loans loanId).state] := by
      simp [lifeline]
    rw [hsnoc, List.isChain_append]
    refine ⟨ih, .singleton _, ?_⟩
    intro before hbefore after hafter
    rw [lifeline_last hrun] at hbefore
    cases hbefore
    cases hafter
    exact hmove

/-- No loan exists at the start; every step of every run moves every loan by one of the
legitimate moves or leaves its state alone, and so do the steps of a batch. -/
theorem loans_move_legitimately (hs₀ : Genesis s₀) (hrun : Run operations s₀ history s) :
    (∀ loanId, (s₀.loanStore.loans loanId).state = .None) ∧
      (∀ loanId, (lifeline s₀ history loanId).IsChain fun before after =>
        after.follows before = true) ∧
      (∀ t ∈ history, ∀ loanId, LegitimateMove t.pre t.label t.post loanId) ∧
      ∀ transaction s', Transaction.run s transaction = .ok s' →
        ∃ items, Run operations s items s' ∧
          ∀ t ∈ items, ∀ loanId, LegitimateMove t.pre t.label t.post loanId := by
  have hreach : Reachable operations s₀ := .initial hs₀
  have hlegitimate : ∀ {m m' : State} {items : List (Transition State Operation)},
      Reachable operations m → Run operations m items m' →
        ∀ t ∈ items, ∀ loanId, LegitimateMove t.pre t.label t.post loanId := by
    intro m m' items hm hitems t ht loanId
    obtain ⟨hpre, hstep⟩ := hitems.transition_reachable hm t ht
    exact legitimate_move (regular_of_reachable hpre) hstep loanId
  refine ⟨?_, fun loanId => lifeline_chain hreach hrun, hlegitimate hreach hrun, ?_⟩
  · intro loanId
    rw [hs₀.loanStore]
    rfl
  · intro transaction s' h
    have hs := hrun.reachable hreach
    obtain ⟨items, hitems, -⟩ := Transaction.runs (regular_of_reachable hs) h
    exact ⟨items, hitems, hlegitimate hs hitems⟩

/-- A loan that is opened and put on sale. -/
theorem loans_move_legitimately_on_sale :
    (lifeline sampleWorld (trace operations sampleWorld (sampleLending ++ sampleOffer)) 1).IsChain
        (fun before after => after.follows before = true) ∧
      (sampleOnSale.loanOf sampleMarket.nftAsset 7).state = .BuyItNow :=
  ⟨(loans_move_legitimately (State.fresh_genesis (by decide) _ _ _) (trace_run _ _)).2.1 1,
    by decide +kernel⟩

end Confetti

import Confetti.Invariants.Batches
import Confetti.Protocol.Deployment

/-! The rates stored by an operation are the strategy's answer to the balances the
operation leaves behind. -/
namespace Confetti
open Outcome TransitionSystem

/-- What the strategy of a reserve returns for the cash, the debt and the reserve
factor as they stand. -/
def State.strategyRates (s : State) (asset : Address) : Except Revert (Nat × Nat) := do
  let reserve := s.pool.reserves asset
  let debtAsset ← State.debtTokenAt reserve.debtTokenAddress
  let totalVariableDebt ← rayMul (s.debtTokens debtAsset).scaledTotalSupply
    reserve.variableBorrowIndex
  let interestRate ← s.interestRateAt reserve.interestRateAddress
  interestRate.calculateInterestRates ((s.erc20 asset).balances reserve.cTokenAddress)
    totalVariableDebt reserve.configuration.getReserveFactor

def RatesDescribe (s : State) (asset : Address) : Prop :=
  s.strategyRates asset = .ok ((s.pool.reserves asset).currentLiquidityRate,
    (s.pool.reserves asset).currentVariableBorrowRate)

def UserCall.reserve (s : State) : UserCall → Address
  | .deposit _ asset _ _ => asset
  | .withdraw _ asset _ _ => asset
  | .borrow _ asset _ _ _ _ => asset
  | .repay _ nftAsset nftTokenId _ => (s.loanOf nftAsset nftTokenId).reserveAsset
  | .buyItNow _ nftAsset nftTokenId _ _ => (s.loanOf nftAsset nftTokenId).reserveAsset
  | .redeem _ nftAsset nftTokenId _ _ => (s.loanOf nftAsset nftTokenId).reserveAsset
  | .liquidate _ nftAsset nftTokenId _ => (s.loanOf nftAsset nftTokenId).reserveAsset
  | _ => .zero

def UserCall.payee (s : State) : UserCall → Address
  | .withdraw _ _ _ recipient => recipient
  | .borrow caller _ _ _ _ _ => .account caller
  | .redeem _ nftAsset nftTokenId _ _ => (s.loanOf nftAsset nftTokenId).buyItNowBuyerAddress
  | .liquidate _ nftAsset nftTokenId _ => (s.loanOf nftAsset nftTokenId).borrower
  | _ => .zero

variable {s s₁ s' : State} {asset spender sender recipient : Address} {amount added taken : Nat}

/-- The compensation arguments must make up for what the cash still has to move. -/
theorem ratesDescribe_of_update
    (h : ReserveLogic.updateInterestRates s asset (s.pool.reserves asset).cTokenAddress added taken =
      .ok s₁)
    (hpool : s'.pool = s₁.pool) (hdebt : s'.debtTokens = s₁.debtTokens)
    (hinterest : s'.interestRates = s₁.interestRates)
    (hcash : (s'.erc20 asset).balances (s.pool.reserves asset).cTokenAddress + taken =
      (s.erc20 asset).balances (s.pool.reserves asset).cTokenAddress + added) :
    RatesDescribe s' asset := by
  obtain ⟨debtAsset, debt, interestRate, rates, hdebtToken, htotal, hrate, hrates, -, -, rfl⟩ :=
    ReserveLogic.updateInterestRates_eq_ok.mp h
  simp only [InterestRate.calculateInterestRatesAfter, bind_eq_ok, Uint256.add_eq_ok,
    Uint256.sub_eq_ok] at hrates
  obtain ⟨_, ⟨-, rfl⟩, available, ⟨-, rfl⟩, hrates⟩ := hrates
  have hreserve : s'.pool.reserves asset =
      (s.pool.reserves asset).withRates rates.1 rates.2 := by
    rw [hpool, LendPoolStorage.setReserve_reserves, Function.update_self]
  have hfinal : (s'.erc20 asset).balances (s.pool.reserves asset).cTokenAddress =
      (s.erc20 asset).balances (s.pool.reserves asset).cTokenAddress + added - taken := by
    omega
  unfold RatesDescribe
  simp only [State.strategyRates, bind_eq_ok, State.debtTokenAt_eq_ok, State.interestRateAt_eq_ok,
    hreserve, hdebt, hinterest]
  refine ⟨debtAsset, hdebtToken, debt, htotal, interestRate, hrate, ?_⟩
  change interestRate.calculateInterestRates
    ((s'.erc20 asset).balances (s.pool.reserves asset).cTokenAddress) debt _ = _
  rw [hfinal]
  exact hrates

theorem ratesDescribe_of_accepted (li now : Nat) {vi supply lr vr : Nat}
    (hlisted : (s.pool.reserves asset).Listed asset)
    (h : RatesAccept s asset vi added supply lr vr)
    (hreserve : s'.pool.reserves asset =
      ((s.pool.reserves asset).accrued li vi now).withRates lr vr)
    (hsupply : (s'.debtTokens asset).ledger.totalSupply = supply)
    (hinterest : s'.interestRates = s.interestRates)
    (hcash : (s'.erc20 asset).balances (.cToken asset) =
      (s.erc20 asset).balances (.cToken asset) + added) : RatesDescribe s' asset := by
  obtain ⟨debt, interestRate, htotal, hrate, hrates, -, -⟩ := h
  simp only [InterestRate.calculateInterestRatesAfter, bind_eq_ok, Uint256.add_eq_ok,
    Uint256.sub_eq_ok, Nat.sub_zero] at hrates
  obtain ⟨_, ⟨-, rfl⟩, available, ⟨-, rfl⟩, hrates⟩ := hrates
  unfold RatesDescribe
  simp only [State.strategyRates, bind_eq_ok, State.debtTokenAt_eq_ok, State.interestRateAt_eq_ok,
    hreserve, hinterest]
  refine ⟨asset, hlisted.debtToken, debt, ?_, interestRate, hrate, ?_⟩
  · change rayMul (s'.debtTokens asset).ledger.totalSupply vi = .ok debt
    rw [hsupply]
    exact htotal
  · change interestRate.calculateInterestRates
      ((s'.erc20 asset).balances (s.pool.reserves asset).cTokenAddress) debt _ = _
    rw [hlisted.cToken, hcash]
    exact hrates

/-! ### Cash in and out of the cToken -/

theorem cash_received
    (h : s.safeTransferFrom asset spender sender recipient amount = .ok s')
    (hne : sender ≠ recipient) :
    (s'.erc20 asset).balances recipient = (s.erc20 asset).balances recipient + amount := by
  obtain ⟨token, htoken, rfl⟩ := State.safeTransferFrom_eq_ok.mp h
  obtain ⟨-, -, -, -, -, -, rfl⟩ := ERC20.transferFrom_eq_ok.mp htoken
  simp only [Function.update_self]
  exact ERC20.moved_recipient hne

theorem cash_paid {self token : ERC20}
    (h : ERC20.transfer asset self sender recipient amount = .ok token)
    (hne : recipient ≠ sender) :
    token.balances sender + amount = self.balances sender := by
  obtain ⟨-, -, hbalance, -, rfl⟩ := ERC20.transfer_eq_ok.mp h
  change ERC20.moved self.balances sender recipient amount sender + amount = _
  rw [ERC20.moved_sender hne.symm]
  omega

/-! ### The seven operations -/

theorem deposit_rates {p : ExecuteDepositParams} (hw : Wired s)
    (hinitiator : p.initiator ≠ .cToken p.asset) (h : SupplyLogic.executeDeposit s p = .ok s') :
    RatesDescribe s' p.asset := by
  obtain ⟨li, vi, cTokens, s₂, s₃, minted, haccrual, hrates, hcash, -, rfl⟩ := deposit_parts hw h
  rw [← haccrual.accrued_cToken] at hrates
  have hreceived := cash_received hcash hinitiator
  obtain ⟨_, _, _, _, -, -, -, -, -, -, rfl⟩ := ReserveLogic.updateInterestRates_eq_ok.mp hrates
  obtain ⟨token, -, rfl⟩ := State.safeTransferFrom_eq_ok.mp hcash
  refine ratesDescribe_of_update hrates rfl rfl rfl ?_
  rw [haccrual.accrued_cToken]
  exact hreceived

theorem withdraw_rates {p : ExecuteWithdrawParams} {withdrawn : Nat} (hw : Wired s)
    (hrecipient : p.recipient ≠ .cToken p.asset)
    (h : SupplyLogic.executeWithdraw s p = .ok (s', withdrawn)) : RatesDescribe s' p.asset := by
  simp only [SupplyLogic.executeWithdraw, bind_eq_ok, updateState_iff hw, pure_eq_ok,
    Prod.mk.injEq] at h
  obtain ⟨_, -, _, -, _, -, _, -, _, ⟨li, vi, cTokens, haccrual, rfl⟩, s₂, hrates, s₃, hburn, rfl,
    rfl⟩ := h
  rw [haccrual.listed.cToken] at hrates hburn
  obtain ⟨cAsset, scaled, token, hasset, -, -, -, hpaid, rfl⟩ := CToken.burn_eq_ok.mp hburn
  obtain rfl : p.asset = cAsset := Address.cToken.inj hasset
  have hleft := cash_paid hpaid hrecipient
  rw [← haccrual.accrued_cToken] at hrates
  obtain ⟨_, _, _, _, -, -, -, -, -, -, rfl⟩ := ReserveLogic.updateInterestRates_eq_ok.mp hrates
  refine ratesDescribe_of_update hrates rfl rfl rfl ?_
  rw [haccrual.accrued_cToken]
  simp only [Function.update_self]
  exact hleft

theorem borrow_rates {p : ExecuteBorrowParams} (hw : Wired s)
    (hinitiator : p.initiator ≠ .cToken p.asset) (h : BorrowLogic.borrow s p = .ok s') :
    RatesDescribe s' p.asset := by
  obtain ⟨li, vi, cTokens, s₂, debtTokens, s₃, haccrual, ⟨_, _, _, rfl⟩, -, hrates, hpay⟩ :=
    borrow_parts hw h
  obtain ⟨cAsset, token, hasset, hpaid, rfl⟩ := CToken.transferUnderlyingTo_eq_ok.mp hpay
  obtain rfl := Address.cToken.inj hasset
  have hleft := cash_paid hpaid hinitiator
  rw [← haccrual.accrued_cToken] at hrates
  obtain ⟨_, _, _, _, -, -, -, -, -, -, rfl⟩ := ReserveLogic.updateInterestRates_eq_ok.mp hrates
  refine ratesDescribe_of_update hrates rfl rfl rfl ?_
  rw [haccrual.accrued_cToken]
  simp only [Function.update_self]
  exact hleft

theorem repay_rates {p : ExecuteRepayParams} {r : Nat × Bool} (hw : Wired s)
    (hinitiator : p.initiator ≠ .cToken (s.loanOf p.nftAsset p.nftTokenId).reserveAsset)
    (h : BorrowLogic.repay s p = .ok (s', r)) :
    RatesDescribe s' (s.loanOf p.nftAsset p.nftTokenId).reserveAsset := by
  obtain ⟨li, vi, cTokens, s₂, debtTokens, s₃, s₄, haccrual, ⟨_, _, _, rfl⟩, hrates, hcash, hgiven⟩ :=
    repay_parts hw h
  rw [← haccrual.accrued_cToken] at hrates
  have hreceived := cash_received hcash hinitiator
  obtain ⟨_, _, _, _, -, -, -, -, -, -, rfl⟩ := ReserveLogic.updateInterestRates_eq_ok.mp hrates
  obtain ⟨token, -, rfl⟩ := State.safeTransferFrom_eq_ok.mp hcash
  obtain ⟨_, _, _, rfl⟩ := hgiven
  refine ratesDescribe_of_update hrates rfl rfl rfl ?_
  rw [haccrual.accrued_cToken]
  exact hreceived

theorem buyItNow_rates {p : ExecuteBuyItNowParams}
    (h : LiquidateLogic.executeBuyItNow s p = .ok s') :
    RatesDescribe s' (s.loanOf p.nftAsset p.nftTokenId).reserveAsset := by
  simp only [LiquidateLogic.executeBuyItNow, bind_eq_ok] at h
  simp only [getCollateralLoanId_eq, getLoan_eq_loanOf] at h
  obtain ⟨_, -, _, -, _, -, _, -, _, -, _, -, _, -, s₃, -, hrates⟩ := h
  have hfinal := hrates
  obtain ⟨_, _, _, _, -, -, -, -, -, -, rfl⟩ := ReserveLogic.updateInterestRates_eq_ok.mp hfinal
  exact ratesDescribe_of_update hrates rfl rfl rfl rfl

theorem redeem_rates {p : ExecuteRedeemParams} {paid : Nat} (hw : Wired s)
    (hinitiator : p.initiator ≠ .cToken (s.loanOf p.nftAsset p.nftTokenId).reserveAsset)
    (hbuyer : (s.loanOf p.nftAsset p.nftTokenId).buyItNowBuyerAddress ≠
      .cToken (s.loanOf p.nftAsset p.nftTokenId).reserveAsset)
    (hrun : LiquidateLogic.executeRedeem s p = .ok (s', paid)) :
    RatesDescribe s' (s.loanOf p.nftAsset p.nftTokenId).reserveAsset := by
  obtain ⟨li, vi, cTokens, debt, fine, scaled, lr, vr, token, h, rfl, -⟩ :=
    (executeRedeem_eq_ok hw).mp hrun
  have hcash := h.cash.balances (recorded_redemption _ _ _ _ _ _)
  refine ratesDescribe_of_accepted li s.timestamp h.accrual.listed h.rates ?_ ?_ rfl ?_
  · simp only [afterRedemption, LendPoolStorage.setReserve_reserves, Function.update_self]
  · simp only [afterRedemption, Function.update_self]
    rfl
  · rw [hcash]
    simp only [redemptionEvents, settled, List.foldr]
    rw [ERC20.moved_of_ne hinitiator.symm hbuyer.symm, ERC20.moved_of_ne (by simp) hbuyer.symm,
      ERC20.moved_recipient hinitiator]

theorem settled_liquidation {initiator borrower : Address} {price debt : Nat}
    {balances : Address → Nat} (hinitiator : initiator ≠ .cToken asset)
    (hborrower : borrower ≠ .cToken asset) :
    settled balances (liquidationEvents asset initiator borrower price debt) (.cToken asset) =
      balances (.cToken asset) + debt := by
  have hpool : Address.cToken asset ≠ .lendPool := by simp
  have hextra : settled balances (if debt - price > 0 then
      [⟨asset, initiator, .lendPool, debt - price⟩] else []) (.cToken asset) =
        balances (.cToken asset) := by
    split
    · exact ERC20.moved_of_ne hinitiator.symm hpool
    · rfl
  have hremain : ∀ before, settled before (if price - debt > 0 then
      [⟨asset, .lendPool, borrower, price - debt⟩] else []) (.cToken asset) =
        before (.cToken asset) := by
    intro before
    split
    · exact ERC20.moved_of_ne hpool hborrower.symm
    · rfl
  unfold liquidationEvents
  rw [settled_append, settled_append, hremain]
  change ERC20.moved (settled balances _) .lendPool (.cToken asset) debt (.cToken asset) = _
  rw [ERC20.moved_recipient hpool.symm, hextra]

theorem liquidate_rates {p : ExecuteLiquidateParams} {paid : Nat} (hw : Wired s) (hf : Filed s)
    (hinitiator : p.initiator ≠ .cToken (s.loanOf p.nftAsset p.nftTokenId).reserveAsset)
    (hborrower : (s.loanOf p.nftAsset p.nftTokenId).borrower ≠
      .cToken (s.loanOf p.nftAsset p.nftTokenId).reserveAsset)
    (hrun : LiquidateLogic.executeLiquidate s p = .ok (s', paid)) :
    RatesDescribe s' (s.loanOf p.nftAsset p.nftTokenId).reserveAsset := by
  obtain ⟨li, vi, cTokens, debt, scaled, lr, vr, token, h, rfl, -⟩ :=
    (executeLiquidate_eq_ok hw hf).mp hrun
  have hcash := h.cash.balances (recorded_liquidation _ _ _ _ _)
  refine ratesDescribe_of_accepted li s.timestamp h.accrual.listed h.rates ?_ ?_ rfl ?_
  · simp only [afterLiquidation, LendPoolStorage.setReserve_reserves, Function.update_self]
  · simp only [afterLiquidation, Function.update_self]
    rfl
  · rw [hcash]
    exact settled_liquidation hinitiator hborrower

/-- After every operation of the pool the stored rates of its reserve are the ones
the strategy returns for the final cash, the final debt and the reserve factor. -/
theorem stored_rates_current {call : UserCall} (hs : Reachable transactions s)
    (hpool : call.entersPool = true) (hpayee : call.payee s ≠ .cToken (call.reserve s))
    (h : Operation.run s (.user call) = .ok s') : RatesDescribe s' (call.reserve s) := by
  have hreg := regular_of_reachable (reachable_operations hs)
  have hw := hreg.sound.wired
  have haccount : ∀ (n : Nat) (asset : Address), Address.account n ≠ .cToken asset := by
    intro n asset
    simp
  cases call with
  | deposit caller asset amount onBehalfOf =>
    exact deposit_rates hw (haccount _ _) (LendPool.of_whenNotPaused h)
  | withdraw caller asset amount recipient =>
    obtain ⟨⟨_, _⟩, h, rfl⟩ := map_eq_ok.mp h
    exact withdraw_rates hw hpayee (LendPool.of_whenNotPaused h)
  | borrow caller asset amount nftAsset nftTokenId onBehalfOf =>
    exact borrow_rates hw (haccount _ _) (LendPool.of_whenNotPaused h)
  | repay caller nftAsset nftTokenId amount =>
    obtain ⟨⟨_, _⟩, h, rfl⟩ := map_eq_ok.mp h
    exact repay_rates hw (haccount _ _) (LendPool.of_whenNotPaused h)
  | buyItNow caller nftAsset nftTokenId buyItNowPrice onBehalfOf =>
    exact buyItNow_rates (LendPool.of_whenNotPaused h)
  | redeem caller nftAsset nftTokenId amount buyItNowFine =>
    obtain ⟨⟨_, _⟩, h, rfl⟩ := map_eq_ok.mp h
    refine redeem_rates hw ?_ ?_ (LendPool.of_whenNotPaused h)
    · exact haccount _ _
    · exact hpayee
  | liquidate caller nftAsset nftTokenId amount =>
    obtain ⟨⟨_, _⟩, h, rfl⟩ := map_eq_ok.mp h
    refine liquidate_rates hw hreg.book.toFiled ?_ ?_ (LendPool.of_whenNotPaused h)
    · exact haccount _ _
    · exact hpayee
  | transferCToken | transferCTokenFrom | approveCToken | approveDelegation | createCNFT =>
    cases hpool

/-- The borrower redeems: the cToken is paid, and so is the buyer. -/
def sampleRedeem : UserCall := .redeem 2 sampleMarket.nftAsset 7 (25 * 10 ^ 18) (10 * 10 ^ 18)

theorem stored_rates_current_redeemed : ∃ s', Operation.run sampleOnSale (.user sampleRedeem) =
    .ok s' ∧ RatesDescribe s' sampleMarket.asset := by
  have hcheck : passes (Operation.run sampleOnSale (.user sampleRedeem)) (fun _ => true) = true := by
    decide +kernel
  obtain ⟨s', h, -⟩ := exists_of_passes hcheck
  have hreserve : sampleRedeem.reserve sampleOnSale = sampleMarket.asset := by decide +kernel
  have hpayee : sampleRedeem.payee sampleOnSale ≠ .cToken sampleMarket.asset := by decide +kernel
  rw [← hreserve] at hpayee ⊢
  exact ⟨s', h, stored_rates_current (reachable_transactions sampleOnSale_reachable) rfl hpayee h⟩

end Confetti

import Confetti.Effects.LoanBook

/-! What a successful offer, redemption and liquidation do, component by component. -/
namespace Confetti
open Outcome HalfUp GenericLogic LiquidateLogic

/-- Threshold and liquidation price of an NFT, both in units of the reserve. -/
def SalePrices (s : State) (asset nftAsset : Address) (threshold liquidate : Nat) : Prop :=
  ∃ price, nftPriceInReserve s asset nftAsset = .ok price ∧
    percentMul price (s.pool.nfts nftAsset).configuration.getCollateralParams.2.1 = .ok threshold ∧
      (s.pool.nfts nftAsset).configuration.getCollateralParams.2.2 ≤ PERCENTAGE_FACTOR ∧
        percentMul price (PERCENTAGE_FACTOR -
          (s.pool.nfts nftAsset).configuration.getCollateralParams.2.2) = .ok liquidate

def salePrices (s : State) (asset nftAsset : Address) : Except Revert (Nat × Nat) := do
  let price ← nftPriceInReserve s asset nftAsset
  let params := (s.pool.nfts nftAsset).configuration.getCollateralParams
  let threshold ← percentMul price params.2.1
  let discount ← Uint256.sub PERCENTAGE_FACTOR params.2.2
  let liquidate ← percentMul price discount
  pure (threshold, liquidate)

theorem salePrices_eq_ok {s : State} {asset nftAsset : Address} {prices : Nat × Nat} :
    salePrices s asset nftAsset = .ok prices ↔
      SalePrices s asset nftAsset prices.1 prices.2 := by
  simp only [salePrices, SalePrices, bind_eq_ok, Uint256.sub_eq_ok, pure_eq_ok]
  constructor
  · rintro ⟨price, hprice, threshold, hthreshold, _, ⟨hbonus, rfl⟩, liquidate, hliquidate, rfl⟩
    exact ⟨price, hprice, hthreshold, hbonus, hliquidate⟩
  · rintro ⟨price, hprice, hthreshold, hbonus, hliquidate⟩
    exact ⟨price, hprice, _, hthreshold, _, ⟨hbonus, rfl⟩, _, hliquidate, rfl⟩

def offeredLoan (s : State) (p : ExecuteBuyItNowParams) (loan : LoanData) (debt : Nat) : LoanData :=
  LendPoolLoan.offered s loan p.onBehalfOf p.buyItNowPrice debt

structure BuyItNowEffect (s : State) (p : ExecuteBuyItNowParams) (loan : LoanData) (s' : State)
    (li vi debt threshold liquidate : Nat) : Prop where
  registered : s.loanStore.nftToLoanIds p.nftAsset p.nftTokenId ≠ 0
  onBehalfOf : p.onBehalfOf ≠ .zero
  price_pos : 0 < p.buyItNowPrice
  step : PoolStep s loan.reserveAsset li vi s'
  debt_eq : rayMul loan.scaledAmount vi = .ok debt
  prices : SalePrices s loan.reserveAsset loan.nftAsset threshold liquidate
  covered : debt ≤ p.buyItNowPrice
  turn :
    (loan.state = .Active ∧ loan.buyItNowStartTimestamp = 0 ∧ threshold < debt ∧
      liquidate ≤ p.buyItNowPrice) ∨
    (loan.state = .BuyItNow ∧ loan.buyItNowStartTimestamp ≠ 0 ∧
      loan.buyItNowPrice < p.buyItNowPrice)
  replaced : LoanReplaced s (s.loanStore.nftToLoanIds p.nftAsset p.nftTokenId)
    (offeredLoan s p loan debt) s'
  debtTokens : s'.debtTokens = s.debtTokens
  cash : Cash s loan.reserveAsset (fun token => ERC20.transferFrom loan.reserveAsset token .lendPool
      p.initiator .lendPool p.buyItNowPrice)
    [⟨loan.reserveAsset, p.initiator, .lendPool, p.buyItNowPrice⟩] s'

variable {s s' : State} {asset nftAsset other : Address} {li vi : Nat} {cTokens : Address → CToken}

theorem nftPriceInReserve_accrued :
    nftPriceInReserve (s.accrued asset li vi cTokens) other nftAsset =
      nftPriceInReserve s other nftAsset := by
  unfold nftPriceInReserve reserveUnit
  rw [accrued_configuration]
  rfl

theorem liquidatePrice_eq_ok {loanId : Nat} {r : Nat × Nat × Nat} :
    calculateLoanLiquidatePrice s loanId asset nftAsset = .ok r ↔
      LendPoolLoan.borrowAmount s (s.loanStore.loans loanId) = .ok r.1 ∧
        SalePrices s asset nftAsset r.2.1 r.2.2 := by
  rw [calculateLoanLiquidatePrice_eq_ok]
  apply and_congr_right
  intro _
  constructor
  · rintro ⟨price, discount, hprice, hthreshold, hdiscount, hliquidate⟩
    obtain ⟨hbonus, rfl⟩ := Uint256.sub_eq_ok.mp hdiscount
    exact ⟨price, hprice, hthreshold, hbonus, hliquidate⟩
  · rintro ⟨price, hprice, hthreshold, hbonus, hliquidate⟩
    exact ⟨price, _, hprice, hthreshold, Uint256.sub_eq_ok.mpr ⟨hbonus, rfl⟩, hliquidate⟩

theorem liquidatePrice_accrued {loanId : Nat} {r : Nat × Nat × Nat}
    (hasset : (s.loanStore.loans loanId).reserveAsset = asset) :
    calculateLoanLiquidatePrice (s.accrued asset li vi cTokens) loanId asset nftAsset = .ok r ↔
      rayMul (s.loanStore.loans loanId).scaledAmount vi = .ok r.1 ∧
        SalePrices s asset nftAsset r.2.1 r.2.2 := by
  have hdebt : LendPoolLoan.borrowAmount (s.accrued asset li vi cTokens)
      ((s.accrued asset li vi cTokens).loanStore.loans loanId) =
        rayMul (s.loanStore.loans loanId).scaledAmount vi := borrowAmount_accrued _ hasset
  rw [liquidatePrice_eq_ok, hdebt]
  unfold SalePrices
  rw [nftPriceInReserve_accrued]
  rfl

theorem PoolStep.salePrices {threshold liquidate : Nat} (h : PoolStep s asset li vi s') :
    SalePrices s' asset nftAsset threshold liquidate ↔
      SalePrices s asset nftAsset threshold liquidate := by
  obtain ⟨_, _, hpool⟩ := h.pool
  have hdecimals : (s'.pool.reserves asset).configuration =
      (s.pool.reserves asset).configuration := by
    rw [hpool, LendPoolStorage.setReserve_reserves, Function.update_self]
    rfl
  have hprice : nftPriceInReserve s' asset nftAsset = nftPriceInReserve s asset nftAsset := by
    unfold nftPriceInReserve reserveUnit State.getNFTPrice State.getReservePrice
    rw [hdecimals, h.world.nftOracle, h.world.reserveOracle]
  unfold SalePrices
  rw [hprice, h.nfts]

section BuyItNow

variable {p : ExecuteBuyItNowParams}

private theorem checkFirstOffer_spec {price debt threshold liquidate : Nat} {u : Unit}
    (h : checkFirstOffer price debt threshold liquidate = .ok u) :
    threshold < debt ∧ liquidate ≤ price ∧ debt ≤ price := by
  simpa only [checkFirstOffer, bind_eq_ok, require_eq_ok, exists_const, gt_iff_lt, ge_iff_le] using h

private theorem checkNextOffer_spec {now duration price debt : Nat} {loan : LoanData} {u : Unit}
    (h : checkNextOffer now loan duration price debt = .ok u) : debt ≤ price := by
  obtain ⟨_, hle, -⟩ := bind_eq_ok.mp h
  exact require_eq_ok.mp hle

/-- Whose turn it is: the first offer needs an unsafe loan, the next one a better price. -/
private theorem turn_spec {loan : LoanData} {now duration price debt threshold liquidate : Nat}
    {u : Unit}
    (hcheck : (if loan.state = .Active then checkFirstOffer price debt threshold liquidate
      else checkNextOffer now loan duration price debt) = .ok u)
    (hturn : if loan.buyItNowStartTimestamp = 0 then loan.state = .Active
      else loan.state = .BuyItNow ∧ loan.buyItNowPrice < price) :
    debt ≤ price ∧
      ((loan.state = .Active ∧ loan.buyItNowStartTimestamp = 0 ∧ threshold < debt ∧
        liquidate ≤ price) ∨
      (loan.state = .BuyItNow ∧ loan.buyItNowStartTimestamp ≠ 0 ∧ loan.buyItNowPrice < price)) := by
  by_cases hstart : loan.buyItNowStartTimestamp = 0
  · rw [if_pos hstart] at hturn
    rw [if_pos hturn] at hcheck
    obtain ⟨hover, hliquidate, hcovered⟩ := checkFirstOffer_spec hcheck
    exact ⟨hcovered, .inl ⟨hturn, hstart, hover, hliquidate⟩⟩
  · rw [if_neg hstart] at hturn
    rw [if_neg (by rw [hturn.1]; decide)] at hcheck
    exact ⟨checkNextOffer_spec hcheck, .inr ⟨hturn.1, hstart, hturn.2⟩⟩

theorem buyItNow_effect (hw : Wired s) (h : executeBuyItNow s p = .ok s') :
    ∃ li vi debt threshold liquidate, BuyItNowEffect s p (s.loanOf p.nftAsset p.nftTokenId) s' li vi
      debt threshold liquidate := by
  simp only [executeBuyItNow, bind_eq_ok, require_eq_ok, exists_const, updateState_iff hw] at h
  simp only [getCollateralLoanId_eq, getLoan_eq_loanOf] at h
  obtain ⟨hbehalf, hid, _, hvalid, _, ⟨li, vi, cTokens, haccrual, rfl⟩, ⟨debt, threshold, liquidate⟩,
    hprices, _, hcheck, s₂, hoffer, s₃, hlock, hrates⟩ := h
  obtain ⟨-, hstate, hpos⟩ := ValidationLogic.validateBuyItNow_eq_ok.mp hvalid
  obtain ⟨hdebt, hsale⟩ := (liquidatePrice_accrued rfl).mp hprices
  obtain ⟨hturn, rfl⟩ := LendPoolLoan.buyItNowLoan_spec hoffer
  obtain ⟨token, hpaid, rfl⟩ := safeTransferFrom_eq_paid.mp hlock
  obtain ⟨_, _, _, rates, -, -, -, -, -, -, rfl⟩ := ReserveLogic.updateInterestRates_eq_ok.mp hrates
  obtain ⟨hcovered, hturn⟩ := turn_spec hcheck hturn
  refine ⟨li, vi, debt, threshold, liquidate, hid, hbehalf, hpos, ?_, hdebt, hsale, hcovered, hturn,
    ⟨rfl, rfl, rfl⟩, rfl, ⟨token, hpaid, rfl⟩, rfl⟩
  refine ⟨⟨rfl, rfl, rfl, rfl, rfl, rfl⟩, ⟨cTokens, haccrual⟩, rates.1, rates.2, ?_⟩
  simp [State.pays, State.withLoan, State.accrued]

end BuyItNow

section Redeem

def redemptionPayments (asset initiator buyer : Address) (amount price fine : Nat)
    (token : ERC20) : Except Revert ERC20 := do
  let token ← ERC20.transferFrom asset token .lendPool initiator (.cToken asset) amount
  let token ← ERC20.transfer asset token .lendPool buyer price
  ERC20.transferFrom asset token .lendPool initiator buyer fine

def redemptionEvents (asset initiator buyer : Address) (amount price fine : Nat) :
    List Transfer :=
  [⟨asset, initiator, buyer, fine⟩, ⟨asset, .lendPool, buyer, price⟩,
    ⟨asset, initiator, .cToken asset, amount⟩]

theorem recorded_redemption (asset initiator buyer : Address) (amount price fine : Nat) :
    Recorded (redemptionPayments asset initiator buyer amount price fine)
      (redemptionEvents asset initiator buyer amount price fine) := by
  change Recorded _ (([⟨asset, initiator, buyer, fine⟩] ++ [⟨asset, .lendPool, buyer, price⟩]) ++
    [⟨asset, initiator, .cToken asset, amount⟩])
  apply Recorded.bind
  · exact recorded_transferFrom asset
  · apply Recorded.bind
    · exact recorded_transfer asset
    · exact recorded_transferFrom asset

structure Redemption (s : State) (p : ExecuteRedeemParams) (loan : LoanData) (li vi : Nat)
    (cTokens : Address → CToken) (debt fine scaled liquidityRate variableRate : Nat)
    (token : ERC20) : Prop where
  registered : s.loanStore.nftToLoanIds p.nftAsset p.nftTokenId ≠ 0
  active : ValidationLogic.BothActive (s.pool.reserves loan.reserveAsset)
    (s.pool.nfts loan.nftAsset)
  sale : loan.state = .BuyItNow
  buyer : loan.buyItNowBuyerAddress ≠ .zero
  amount_pos : 0 < p.amount
  window : ∃ redeemEndTimestamp, endTimestamp loan.buyItNowStartTimestamp
    (s.pool.nfts loan.nftAsset).configuration.getRedeemDuration = .ok redeemEndTimestamp ∧
      s.timestamp ≤ redeemEndTimestamp
  accrual : Accrual s loan.reserveAsset li vi cTokens
  debt_eq : rayMul loan.scaledAmount vi = .ok debt
  prices : ∃ threshold liquidate, SalePrices s loan.reserveAsset loan.nftAsset threshold liquidate
  fine_eq : ∃ minFine, calculateLoanBuyItNowFine (s.accrued loan.reserveAsset li vi cTokens)
    loan.reserveAsset loan.nftAsset loan = .ok (minFine, fine)
  check : checkRedeem p debt fine (s.pool.nfts loan.nftAsset).configuration.getRedeemThreshold =
    .ok ()
  scaled_eq : rayDiv p.amount vi = .ok scaled
  scaled_ne : scaled ≠ 0
  scaled_le : scaled ≤ loan.scaledAmount
  borrower : loan.borrower ≠ .zero
  burned : scaled ≤ (s.debtTokens loan.reserveAsset).ledger.balances loan.borrower ∧
    scaled ≤ (s.debtTokens loan.reserveAsset).ledger.totalSupply
  rates : RatesAccept s loan.reserveAsset vi p.amount
    ((s.debtTokens loan.reserveAsset).ledger.totalSupply - scaled) liquidityRate variableRate
  paid : redemptionPayments loan.reserveAsset p.initiator loan.buyItNowBuyerAddress p.amount
    loan.buyItNowPrice fine (s.erc20 loan.reserveAsset) = .ok token
  total : p.amount + fine ≤ Uint256.max

def afterRedemption (s : State) (p : ExecuteRedeemParams) (loan : LoanData) (li vi : Nat)
    (cTokens : Address → CToken) (fine scaled liquidityRate variableRate : Nat) (token : ERC20) :
    State :=
  { s with
    pool := s.pool.setReserve loan.reserveAsset
      (((s.pool.reserves loan.reserveAsset).accrued li vi s.timestamp).withRates liquidityRate
        variableRate)
    cTokens
    loanStore := s.loanStore.withLoan (s.loanStore.nftToLoanIds p.nftAsset p.nftTokenId)
      (LendPoolLoan.redeemed loan scaled)
    debtTokens := Function.update s.debtTokens loan.reserveAsset
      ((s.debtTokens loan.reserveAsset).debited loan.borrower scaled)
    erc20 := Function.update s.erc20 loan.reserveAsset token
    transfers := redemptionEvents loan.reserveAsset p.initiator loan.buyItNowBuyerAddress p.amount
      loan.buyItNowPrice fine ++ s.transfers }

variable {p : ExecuteRedeemParams} {paid : Nat}

private theorem redemption_paid {initiator buyer : Address} {amount price fine : Nat}
    (hbuyer : buyer ≠ .zero) :
    (∃ m, s.safeTransferFrom asset .lendPool initiator (.cToken asset) amount = .ok m ∧
      ∃ m', (if buyer ≠ .zero then do
          let m ← m.safeTransfer asset .lendPool buyer price
          m.safeTransferFrom asset .lendPool initiator buyer fine
        else pure m) = .ok m' ∧
        ∃ total, Uint256.add amount fine = .ok total ∧
          (pure (m', total) : Except Revert (State × Nat)) = .ok (s', paid)) ↔
      ∃ token, redemptionPayments asset initiator buyer amount price fine (s.erc20 asset) =
          .ok token ∧ amount + fine ≤ Uint256.max ∧
        s' = s.pays asset token (redemptionEvents asset initiator buyer amount price fine) ∧
          paid = amount + fine := by
  have hpaid : (∃ m, s.safeTransferFrom asset .lendPool initiator (.cToken asset) amount = .ok m ∧
      (if buyer ≠ .zero then do
          let m ← m.safeTransfer asset .lendPool buyer price
          m.safeTransferFrom asset .lendPool initiator buyer fine
        else pure m) = .ok s') ↔
      Paid s asset (redemptionPayments asset initiator buyer amount price fine)
        (redemptionEvents asset initiator buyer amount price fine) s' := by
    simp only [if_pos hbuyer, bind_eq_ok, safeTransfer_eq_paid, safeTransferFrom_eq_paid, paid_comp]
    rfl
  simp only [Uint256.add_eq_ok, pure_eq_ok, Prod.mk.injEq]
  constructor
  · rintro ⟨m, hm, m', hm', _, ⟨hmax, rfl⟩, rfl, rfl⟩
    obtain ⟨token, htoken, hs⟩ := hpaid.mp ⟨m, hm, hm'⟩
    exact ⟨token, htoken, hmax, hs, rfl⟩
  · rintro ⟨token, htoken, hmax, hs, rfl⟩
    obtain ⟨m, hm, hm'⟩ := hpaid.mpr ⟨token, htoken, hs⟩
    exact ⟨m, hm, s', hm', _, ⟨hmax, rfl⟩, rfl, rfl⟩

theorem executeRedeem_eq_ok (hw : Wired s) :
    executeRedeem s p = .ok (s', paid) ↔
      ∃ li vi cTokens debt fine scaled lr vr token,
        Redemption s p (s.loanOf p.nftAsset p.nftTokenId) li vi cTokens debt fine scaled lr vr
          token ∧
        s' = afterRedemption s p (s.loanOf p.nftAsset p.nftTokenId) li vi cTokens fine scaled lr vr
          token ∧ paid = p.amount + fine := by
  simp only [executeRedeem, bind_eq_ok, require_eq_ok, exists_const, updateState_iff hw]
  simp only [getCollateralLoanId_eq, getLoan_eq_loanOf]
  constructor
  · rintro ⟨hid, _, hvalid, endTs, hend, hwindow, _, ⟨li, vi, cTokens, haccrual, rfl⟩,
      ⟨debt, threshold, liquidate⟩, hprices, ⟨minFine, fine⟩, hfine, _, hcheck, s₂, hredeem,
      debtTokens, hburn, s₃, hrates, hcash⟩
    obtain ⟨hactive, hsale, hbuyer, hpos⟩ := ValidationLogic.validateRedeem_eq_ok.mp hvalid
    obtain ⟨hdebt, hsaleprices⟩ := (liquidatePrice_accrued rfl).mp hprices
    simp only [accrued_variableBorrowIndex, haccrual.accrued_cToken, haccrual.accrued_debtToken]
      at hredeem hburn hrates hcash
    obtain ⟨-, scaled, hscaled, hne, hle, rfl⟩ := LendPoolLoan.redeemLoan_eq_ok.mp hredeem
    obtain ⟨scaled', lr, vr, hscaled', -, hborrower, hburned, haccept, rfl⟩ :=
      (settle_iff haccrual ⟨_, _, _, rfl⟩).mp ⟨_, hburn, hrates⟩
    obtain rfl : scaled' = scaled := Except.ok.inj (hscaled'.symm.trans hscaled)
    obtain ⟨token, hpaid, hmax, rfl, rfl⟩ := (redemption_paid hbuyer).mp hcash
    exact ⟨li, vi, cTokens, debt, fine, scaled', lr, vr, token,
      ⟨hid, hactive, hsale, hbuyer, hpos, ⟨endTs, hend, hwindow⟩, haccrual, hdebt, ⟨_, _, hsaleprices⟩,
        ⟨minFine, hfine⟩, hcheck, hscaled, hne, hle, hborrower, hburned, haccept, hpaid, hmax⟩,
      rfl, rfl⟩
  · rintro ⟨li, vi, cTokens, debt, fine, scaled, lr, vr, token, h, rfl, rfl⟩
    obtain ⟨endTs, hend, hwindow⟩ := h.window
    obtain ⟨threshold, liquidate, hprices⟩ := h.prices
    obtain ⟨minFine, hfine⟩ := h.fine_eq
    refine ⟨h.registered, (), ValidationLogic.validateRedeem_eq_ok.mpr
      ⟨h.active, h.sale, h.buyer, h.amount_pos⟩, endTs, hend, hwindow, _,
      ⟨li, vi, cTokens, h.accrual, rfl⟩, (debt, threshold, liquidate),
      (liquidatePrice_accrued rfl).mpr ⟨h.debt_eq, hprices⟩, (minFine, fine), hfine, (), h.check, ?_⟩
    simp only [accrued_variableBorrowIndex, h.accrual.accrued_cToken, h.accrual.accrued_debtToken]
    refine ⟨_, LendPoolLoan.redeemLoan_eq_ok.mpr
      ⟨h.sale, scaled, h.scaled_eq, h.scaled_ne, h.scaled_le, rfl⟩, ?_⟩
    obtain ⟨debtTokens, hburn, hrates⟩ := (settle_iff h.accrual ⟨_, _, _, rfl⟩).mpr
      ⟨scaled, lr, vr, h.scaled_eq, h.scaled_ne, h.borrower, h.burned, h.rates, rfl⟩
    exact ⟨debtTokens, hburn, _, hrates,
      (redemption_paid h.buyer).mpr ⟨token, h.paid, h.total, rfl, rfl⟩⟩

section Effect

variable {loan : LoanData} {debt fine scaled lr vr : Nat} {token : ERC20}

theorem Redemption.step (h : Redemption s p loan li vi cTokens debt fine scaled lr vr token) :
    PoolStep s loan.reserveAsset li vi
      (afterRedemption s p loan li vi cTokens fine scaled lr vr token) :=
  ⟨⟨rfl, rfl, rfl, rfl, rfl, rfl⟩, ⟨cTokens, h.accrual⟩, lr, vr, rfl⟩

theorem Redemption.replaced (_ : Redemption s p loan li vi cTokens debt fine scaled lr vr token) :
    LoanReplaced s (s.loanStore.nftToLoanIds p.nftAsset p.nftTokenId)
      (LendPoolLoan.redeemed loan scaled)
      (afterRedemption s p loan li vi cTokens fine scaled lr vr token) :=
  ⟨rfl, rfl, rfl⟩

theorem Redemption.cash (h : Redemption s p loan li vi cTokens debt fine scaled lr vr token) :
    Cash s loan.reserveAsset
      (redemptionPayments loan.reserveAsset p.initiator loan.buyItNowBuyerAddress p.amount
        loan.buyItNowPrice fine)
      (redemptionEvents loan.reserveAsset p.initiator loan.buyItNowBuyerAddress p.amount
        loan.buyItNowPrice fine)
      (afterRedemption s p loan li vi cTokens fine scaled lr vr token) :=
  ⟨⟨token, h.paid, rfl⟩, rfl⟩

end Effect

end Redeem

section Liquidate

/-- What the price leaves open, then the debt, then what the price leaves over. -/
def liquidationPayments (asset initiator borrower : Address) (price debt : Nat) (token : ERC20) :
    Except Revert ERC20 := do
  let token ← (if debt - price > 0 then
      ERC20.transferFrom asset token .lendPool initiator .lendPool (debt - price)
    else pure token)
  let token ← ERC20.transfer asset token .lendPool (.cToken asset) debt
  if price - debt > 0 then ERC20.transfer asset token .lendPool borrower (price - debt)
  else pure token

def liquidationEvents (asset initiator borrower : Address) (price debt : Nat) : List Transfer :=
  (if price - debt > 0 then [⟨asset, .lendPool, borrower, price - debt⟩] else []) ++
    [⟨asset, .lendPool, .cToken asset, debt⟩] ++
      (if debt - price > 0 then [⟨asset, initiator, .lendPool, debt - price⟩] else [])

theorem recorded_liquidation (asset initiator borrower : Address) (price debt : Nat) :
    Recorded (liquidationPayments asset initiator borrower price debt)
      (liquidationEvents asset initiator borrower price debt) := by
  apply Recorded.bind
  · exact (recorded_transferFrom asset).ite
  · apply Recorded.bind
    · exact recorded_transfer asset
    · exact (recorded_transfer asset).ite

structure Liquidation (s : State) (p : ExecuteLiquidateParams) (loan : LoanData) (li vi : Nat)
    (cTokens : Address → CToken) (debt scaled liquidityRate variableRate : Nat)
    (token : ERC20) : Prop where
  registered : s.loanStore.nftToLoanIds p.nftAsset p.nftTokenId ≠ 0
  active : ValidationLogic.BothActive (s.pool.reserves loan.reserveAsset)
    (s.pool.nfts loan.nftAsset)
  sale : loan.state = .BuyItNow
  buyer : loan.buyItNowBuyerAddress ≠ .zero
  started : loan.buyItNowStartTimestamp < s.timestamp
  accrual : Accrual s loan.reserveAsset li vi cTokens
  debt_eq : rayMul loan.scaledAmount vi = .ok debt
  prices : ∃ threshold liquidate, SalePrices s loan.reserveAsset loan.nftAsset threshold liquidate
  extra : loan.buyItNowPrice < debt → debt - loan.buyItNowPrice ≤ p.amount
  releasable : LendPoolLoan.Releasable s loan
  scaled_eq : rayDiv debt vi = .ok scaled
  scaled_ne : scaled ≠ 0
  borrower : loan.borrower ≠ .zero
  burned : scaled ≤ (s.debtTokens loan.reserveAsset).ledger.balances loan.borrower ∧
    scaled ≤ (s.debtTokens loan.reserveAsset).ledger.totalSupply
  rates : RatesAccept s loan.reserveAsset vi debt
    ((s.debtTokens loan.reserveAsset).ledger.totalSupply - scaled) liquidityRate variableRate
  paid : liquidationPayments loan.reserveAsset p.initiator loan.borrower loan.buyItNowPrice debt
    (s.erc20 loan.reserveAsset) = .ok token
  accepts : s.acceptsERC721 loan.buyItNowBuyerAddress = true

def liquidatedLoan (loan : LoanData) (debt : Nat) : LoanData :=
  { loan with
    state := .Defaulted
    buyItNowBorrowAmount := debt }

def afterLiquidation (s : State) (p : ExecuteLiquidateParams) (loan : LoanData) (li vi : Nat)
    (cTokens : Address → CToken) (debt scaled liquidityRate variableRate : Nat) (token : ERC20) :
    State :=
  { s with
    pool := s.pool.setReserve loan.reserveAsset
      (((s.pool.reserves loan.reserveAsset).accrued li vi s.timestamp).withRates liquidityRate
        variableRate)
    cTokens
    loanStore := s.loanStore.closed (s.loanStore.nftToLoanIds p.nftAsset p.nftTokenId)
      (liquidatedLoan loan debt)
    debtTokens := Function.update s.debtTokens loan.reserveAsset
      ((s.debtTokens loan.reserveAsset).debited loan.borrower scaled)
    erc20 := Function.update s.erc20 loan.reserveAsset token
    transfers := liquidationEvents loan.reserveAsset p.initiator loan.borrower loan.buyItNowPrice
      debt ++ s.transfers
    erc721 := Function.update s.erc721 loan.nftAsset
      ((s.erc721 loan.nftAsset).given loan.buyItNowBuyerAddress loan.nftTokenId)
    cNFTs := Function.update s.cNFTs loan.nftAsset
      ⟨Function.update (s.cNFTs loan.nftAsset).owners loan.nftTokenId .zero,
        Function.update (s.cNFTs loan.nftAsset).minters loan.nftTokenId .zero⟩ }

variable {p : ExecuteLiquidateParams} {paid : Nat}

private theorem liquidation_paid {initiator borrower buyer : Address}
    {price debt extra tokenId : Nat} :
    (∃ m, (if debt - price > 0 then
          s.safeTransferFrom asset .lendPool initiator .lendPool (debt - price)
        else pure s) = .ok m ∧
      ∃ m', m.safeTransfer asset .lendPool (.cToken asset) debt = .ok m' ∧
        ∃ m'', (if price - debt > 0 then m'.safeTransfer asset .lendPool borrower (price - debt)
            else pure m') = .ok m'' ∧
          ∃ last, m''.safeTransferNFT nftAsset .lendPool .lendPool buyer tokenId = .ok last ∧
            (pure (last, extra) : Except Revert (State × Nat)) = .ok (s', paid)) ↔
      ∃ token, liquidationPayments asset initiator borrower price debt (s.erc20 asset) =
          .ok token ∧
        (s.pays asset token (liquidationEvents asset initiator borrower price debt)).safeTransferNFT
            nftAsset .lendPool .lendPool buyer tokenId = .ok s' ∧ paid = extra := by
  have hpaid : ∀ last, (∃ m, (if debt - price > 0 then
          s.safeTransferFrom asset .lendPool initiator .lendPool (debt - price)
        else pure s) = .ok m ∧
      ∃ m', m.safeTransfer asset .lendPool (.cToken asset) debt = .ok m' ∧
        (if price - debt > 0 then m'.safeTransfer asset .lendPool borrower (price - debt)
          else pure m') = .ok last) ↔
      Paid s asset (liquidationPayments asset initiator borrower price debt)
        (liquidationEvents asset initiator borrower price debt) last := by
    intro last
    simp only [ite_eq_paid safeTransfer_eq_paid, ite_eq_paid safeTransferFrom_eq_paid,
      safeTransfer_eq_paid, paid_comp]
    rfl
  simp only [pure_eq_ok, Prod.mk.injEq]
  constructor
  · rintro ⟨m, hm, m', hm', m'', hm'', _, hgive, rfl, rfl⟩
    obtain ⟨token, htoken, rfl⟩ := (hpaid m'').mp ⟨m, hm, m', hm', hm''⟩
    exact ⟨token, htoken, hgive, rfl⟩
  · rintro ⟨token, htoken, hgive, rfl⟩
    obtain ⟨m, hm, m', hm', hm''⟩ := (hpaid _).mpr ⟨token, htoken, rfl⟩
    exact ⟨m, hm, m', hm', _, hm'', s', hgive, rfl, rfl⟩

theorem executeLiquidate_eq_ok (hw : Wired s) (hf : Filed s) :
    executeLiquidate s p = .ok (s', paid) ↔
      ∃ li vi cTokens debt scaled lr vr token,
        Liquidation s p (s.loanOf p.nftAsset p.nftTokenId) li vi cTokens debt scaled lr vr token ∧
        s' = afterLiquidation s p (s.loanOf p.nftAsset p.nftTokenId) li vi cTokens debt scaled lr vr
          token ∧ paid = debt - (s.loanOf p.nftAsset p.nftTokenId).buyItNowPrice := by
  simp only [executeLiquidate, bind_eq_ok, require_eq_ok, exists_const, updateState_iff hw]
  simp only [getCollateralLoanId_eq, getLoan_eq_loanOf]
  constructor
  · rintro ⟨hid, _, hvalid, hstarted, _, ⟨li, vi, cTokens, haccrual, rfl⟩,
      ⟨debt, threshold, liquidate⟩, hprices, hextra, s₂, hclose, debtTokens, hburn, s₃, hrates,
      hcash⟩
    obtain ⟨_, htoken⟩ := hf p.nftAsset p.nftTokenId hid
    obtain ⟨hactive, hsale, hbuyer⟩ := ValidationLogic.validateLiquidate_eq_ok.mp hvalid
    obtain ⟨hdebt, hsaleprices⟩ := (liquidatePrice_accrued rfl).mp hprices
    simp only [accrued_variableBorrowIndex, haccrual.accrued_cToken, haccrual.accrued_debtToken]
      at hburn hrates hcash
    rw [hw.nft_of_ne hactive.1] at hclose
    obtain ⟨-, hreleasable, rfl⟩ := LendPoolLoan.liquidateLoan_eq_ok.mp hclose
    obtain ⟨scaled, lr, vr, hscaled, hne, hborrower, hburned, haccept, rfl⟩ :=
      (settle_iff haccrual ⟨_, _, _, rfl⟩).mp ⟨_, hburn, hrates⟩
    obtain ⟨token, hpaid, hgive, rfl⟩ := liquidation_paid.mp hcash
    obtain ⟨-, haccepts, rfl⟩ := (hand_on_eq_ok
      (s.accrued (s.loanOf p.nftAsset p.nftTokenId).reserveAsset li vi cTokens)
      (s.loanStore.nftToLoanIds p.nftAsset p.nftTokenId)
      (liquidatedLoan (s.loanOf p.nftAsset p.nftTokenId) debt) (by rfl) (by rfl) htoken).mp hgive
    exact ⟨li, vi, cTokens, debt, scaled, lr, vr, token,
      ⟨hid, hactive, hsale, hbuyer, hstarted, haccrual, hdebt, ⟨_, _, hsaleprices⟩, hextra,
        hreleasable, hscaled, hne, hborrower, hburned, haccept, hpaid, haccepts⟩, rfl, rfl⟩
  · rintro ⟨li, vi, cTokens, debt, scaled, lr, vr, token, h, rfl, rfl⟩
    obtain ⟨_, htoken⟩ := hf p.nftAsset p.nftTokenId h.registered
    obtain ⟨threshold, liquidate, hprices⟩ := h.prices
    refine ⟨h.registered, (), ValidationLogic.validateLiquidate_eq_ok.mpr
      ⟨h.active, h.sale, h.buyer⟩, h.started, _, ⟨li, vi, cTokens, h.accrual, rfl⟩,
      (debt, threshold, liquidate), (liquidatePrice_accrued rfl).mpr ⟨h.debt_eq, hprices⟩, h.extra, ?_⟩
    simp only [accrued_variableBorrowIndex, h.accrual.accrued_cToken, h.accrual.accrued_debtToken]
    rw [hw.nft_of_ne h.active.1]
    refine ⟨_, LendPoolLoan.liquidateLoan_eq_ok.mpr ⟨h.sale, h.releasable, rfl⟩, ?_⟩
    obtain ⟨debtTokens, hburn, hrates⟩ := (settle_iff h.accrual ⟨_, _, _, rfl⟩).mpr
      ⟨scaled, lr, vr, h.scaled_eq, h.scaled_ne, h.borrower, h.burned, h.rates, rfl⟩
    refine ⟨debtTokens, hburn, _, hrates, liquidation_paid.mpr ⟨token, h.paid, ?_, rfl⟩⟩
    exact (hand_on_eq_ok
      (s.accrued (s.loanOf p.nftAsset p.nftTokenId).reserveAsset li vi cTokens)
      (s.loanStore.nftToLoanIds p.nftAsset p.nftTokenId)
      (liquidatedLoan (s.loanOf p.nftAsset p.nftTokenId) debt) (by rfl) (by rfl) htoken).mpr
        ⟨h.buyer, h.accepts, rfl⟩

section Effect

variable {loan : LoanData} {debt scaled lr vr : Nat} {token : ERC20}

theorem Liquidation.step (h : Liquidation s p loan li vi cTokens debt scaled lr vr token) :
    PoolStep s loan.reserveAsset li vi
      (afterLiquidation s p loan li vi cTokens debt scaled lr vr token) :=
  ⟨⟨rfl, rfl, rfl, rfl, rfl, rfl⟩, ⟨cTokens, h.accrual⟩, lr, vr, rfl⟩

theorem Liquidation.closed (h : Liquidation s p loan li vi cTokens debt scaled lr vr token) :
    LoanClosed s (s.loanStore.nftToLoanIds p.nftAsset p.nftTokenId) (liquidatedLoan loan debt)
      loan.buyItNowBuyerAddress
      (afterLiquidation s p loan li vi cTokens debt scaled lr vr token) :=
  ⟨h.releasable, h.buyer, h.accepts, rfl, rfl, rfl⟩

theorem Liquidation.debtTokens
    (_ : Liquidation s p loan li vi cTokens debt scaled lr vr token) :
    (afterLiquidation s p loan li vi cTokens debt scaled lr vr token).debtTokens =
      Function.update s.debtTokens loan.reserveAsset
        ((s.debtTokens loan.reserveAsset).debited loan.borrower scaled) := rfl

theorem Liquidation.cash (h : Liquidation s p loan li vi cTokens debt scaled lr vr token) :
    Cash s loan.reserveAsset
      (liquidationPayments loan.reserveAsset p.initiator loan.borrower loan.buyItNowPrice debt)
      (liquidationEvents loan.reserveAsset p.initiator loan.borrower loan.buyItNowPrice debt)
      (afterLiquidation s p loan li vi cTokens debt scaled lr vr token) :=
  ⟨⟨token, h.paid, rfl⟩, rfl⟩

theorem Liquidation.scaled_all (h : Liquidation s p loan li vi cTokens debt scaled lr vr token) :
    scaled = loan.scaledAmount :=
  rayDiv_of_rayMul h.accrual.RAY_le h.debt_eq h.scaled_eq

end Effect

end Liquidate

end Confetti

import Confetti.Effects.Positions

/-! How an operation moves cash, debts and deposits of its reserve after the accrual, and
the cash that its new rates are computed for. -/
namespace Confetti
open Outcome HalfUp

/-- After the accrual with these indexes, whatever cash and debt an operation adds makes up for
the deposits it adds, up to half an index on either side. Its rates assume no more cash than
there is. -/
structure Rebalanced (s : State) (asset : Address) (li vi : Nat) (cTokens : Address → CToken)
    (cash debt : Nat) (s' : State) : Prop where
  step : PoolStep s asset li vi s'
  accrual : Accrual s asset li vi cTokens
  cash_le : cash ≤ (s'.erc20 asset).balances (.cToken asset)
  debt_eq : rayMul (s'.debtTokens asset).scaledTotalSupply vi = .ok debt
  rates : ∃ interestRate : InterestRate, interestRate.calculateInterestRates cash debt
    (s.pool.reserves asset).configuration.getReserveFactor =
      .ok ((s'.pool.reserves asset).currentLiquidityRate,
        (s'.pool.reserves asset).currentVariableBorrowRate)
  moved : 2 * ((s'.cTokens asset).scaledTotalSupply * li +
        (s.erc20 asset).balances (.cToken asset) * RAY +
      (s.debtTokens asset).scaledTotalSupply * vi) ≤
    2 * ((cTokens asset).scaledTotalSupply * li + cash * RAY +
      (s'.debtTokens asset).scaledTotalSupply * vi) + (li + vi)
  aside : ∀ other, other ≠ asset → s'.cTokens other = s.cTokens other ∧
    s'.debtTokens other = s.debtTokens other ∧ s'.erc20 other = s.erc20 other

variable {s s₁ s₂ s' : State} {asset : Address} {li vi added taken : Nat}
  {cTokens : Address → CToken}

theorem scaled_worth {amount index scaled : Nat} (hindex : 0 < index)
    (h : rayDiv amount index = .ok scaled) :
    2 * (scaled * index) ≤ 2 * (amount * RAY) + index ∧
      2 * (amount * RAY) ≤ 2 * (scaled * index) + index := by
  obtain ⟨-, -, rfl⟩ := rayDiv_eq_ok.mp h
  have hle := halfUp_mul_le (amount * RAY) index
  have hlt := lt_halfUp_succ_mul (amount * RAY) hindex
  rw [Nat.add_mul, Nat.one_mul] at hlt
  omega

/-- The rates after a movement are those of the cash that it leaves. -/
theorem updated_rates
    (h : ReserveLogic.updateInterestRates s₁ asset (.cToken asset) added taken = .ok s₂)
    (hdebtToken : (s₁.pool.reserves asset).debtTokenAddress = .debtToken asset) :
    ∃ cash debt, cash + taken = (s₁.erc20 asset).balances (.cToken asset) + added ∧
      rayMul (s₁.debtTokens asset).scaledTotalSupply
          (s₁.pool.reserves asset).variableBorrowIndex = .ok debt ∧
        ∃ (interestRate : InterestRate) (rates : Nat × Nat),
          interestRate.calculateInterestRates cash debt
              (s₁.pool.reserves asset).configuration.getReserveFactor = .ok rates ∧
            s₂ = { s₁ with
              pool := s₁.pool.setReserve asset
                ((s₁.pool.reserves asset).withRates rates.1 rates.2) } := by
  obtain ⟨debtAsset, debt, interestRate, rates, hdebt, htotal, -, hrates, -, -, rfl⟩ :=
    ReserveLogic.updateInterestRates_eq_ok.mp h
  obtain rfl : debtAsset = asset := Address.debtToken.inj (hdebt.symm.trans hdebtToken)
  simp only [InterestRate.calculateInterestRatesAfter, bind_eq_ok, Uint256.add_eq_ok,
    Uint256.sub_eq_ok] at hrates
  obtain ⟨_, ⟨-, rfl⟩, cash, ⟨hcash, rfl⟩, hrates⟩ := hrates
  exact ⟨_, debt, by omega, htotal, interestRate, rates, hrates, rfl⟩

theorem rates_after_accrual {debtTokens : Address → DebtToken}
    (ha : Accrual s asset li vi cTokens) (hframe : BookFrame (s.accrued asset li vi cTokens) s₁)
    (h : ReserveLogic.updateInterestRates { s₁ with debtTokens } asset (.cToken asset) added
      taken = .ok s₂) :
    ∃ cash debt, cash + taken = (s.erc20 asset).balances (.cToken asset) + added ∧
      rayMul (debtTokens asset).scaledTotalSupply vi = .ok debt ∧
        ∃ (interestRate : InterestRate) (rates : Nat × Nat),
          interestRate.calculateInterestRates cash debt
              (s.pool.reserves asset).configuration.getReserveFactor = .ok rates ∧
            s₂ = { s₁ with
              debtTokens
              pool := s.pool.setReserve asset
                (((s.pool.reserves asset).accrued li vi s.timestamp).withRates rates.1
                  rates.2) } := by
  obtain ⟨loanStore, erc721, cNFTs, rfl⟩ := hframe
  obtain ⟨cash, debt, hcash, hdebt, interestRate, rates, hrates, rfl⟩ :=
    updated_rates h ha.accrued_debtToken
  simp only [accrued_variableBorrowIndex] at hdebt
  simp only [accrued_configuration] at hrates
  refine ⟨cash, debt, hcash, hdebt, interestRate, rates, hrates, ?_⟩
  simp only [accrued_withRates]

/-! ### The seven operations -/

theorem Accrual.li_pos (h : Accrual s asset li vi cTokens) : 0 < li :=
  Nat.lt_of_lt_of_le RAY_pos (h.accrued_listed 0).RAY_le_liquidityIndex

theorem Accrual.vi_pos (h : Accrual s asset li vi cTokens) : 0 < vi :=
  Nat.lt_of_lt_of_le RAY_pos h.RAY_le

theorem Accrual.cTokens_eq (h : Accrual s asset li vi cTokens) :
    ∃ cToken, cTokens = Function.update s.cTokens asset cToken :=
  ⟨_, ReserveLogic.mintToTreasury_spec h.listed.cToken h.treasury⟩

theorem rebalanced_of {cash debt : Nat} {self : CToken} {debtToken : DebtToken} {token : ERC20}
    {interestRate : InterestRate} {rates : Nat × Nat} (ha : Accrual s asset li vi cTokens)
    (hworld : SameWorld s s')
    (hpool : s'.pool = s.pool.setReserve asset
      (((s.pool.reserves asset).accrued li vi s.timestamp).withRates rates.1 rates.2))
    (hcTokens : s'.cTokens = Function.update cTokens asset self)
    (hdebtTokens : s'.debtTokens = Function.update s.debtTokens asset debtToken)
    (herc20 : s'.erc20 = Function.update s.erc20 asset token)
    (hdebt : rayMul debtToken.scaledTotalSupply vi = .ok debt)
    (hrates : interestRate.calculateInterestRates cash debt
      (s.pool.reserves asset).configuration.getReserveFactor = .ok rates)
    (hcash : cash ≤ token.balances (.cToken asset))
    (hmoved : 2 * (self.scaledTotalSupply * li + (s.erc20 asset).balances (.cToken asset) * RAY +
        (s.debtTokens asset).scaledTotalSupply * vi) ≤
      2 * ((cTokens asset).scaledTotalSupply * li + cash * RAY +
        debtToken.scaledTotalSupply * vi) + (li + vi)) :
    Rebalanced s asset li vi cTokens cash debt s' where
  step := ⟨hworld, ⟨cTokens, ha⟩, rates.1, rates.2, hpool⟩
  accrual := ha
  cash_le := by
    rw [herc20, Function.update_self]
    exact hcash
  debt_eq := by
    rw [hdebtTokens, Function.update_self]
    exact hdebt
  rates := by
    rw [hpool, LendPoolStorage.setReserve_reserves, Function.update_self]
    exact ⟨interestRate, hrates⟩
  moved := by
    rw [hcTokens, hdebtTokens, Function.update_self, Function.update_self]
    exact hmoved
  aside := by
    intro other hother
    obtain ⟨cToken, rfl⟩ := ha.cTokens_eq
    rw [hcTokens, hdebtTokens, herc20]
    simp [hother]

section Moved

variable {balances : Address → Nat} {sender recipient holder : Address} {amount cash : Nat}

theorem received_le (hne : sender ≠ recipient) (hcash : cash = balances recipient + amount) :
    cash ≤ ERC20.moved balances sender recipient amount recipient := by
  rw [ERC20.moved_recipient hne]
  exact Nat.le_of_eq hcash

theorem left_le (hcash : cash + amount = balances sender) :
    cash ≤ ERC20.moved balances sender recipient amount sender := by
  by_cases hself : sender = recipient
  · subst hself
    simp [ERC20.moved]
    omega
  · rw [ERC20.moved_sender hself]
    omega

end Moved

theorem deposit_rebalanced {p : ExecuteDepositParams} (hw : Wired s)
    (hinitiator : p.initiator ≠ .cToken p.asset) (h : SupplyLogic.executeDeposit s p = .ok s') :
    ∃ li vi cTokens cash debt, Rebalanced s p.asset li vi cTokens cash debt s' := by
  obtain ⟨li, vi, cTokens, s₂, s₃, minted, ha, hrates, hcash, hminted, rfl⟩ := deposit_parts hw h
  obtain ⟨cash, debt, hbalance, hdebt, interestRate, rates, hnew, rfl⟩ :=
    rates_after_accrual ha (BookFrame.refl _) hrates
  obtain ⟨token, htoken, rfl⟩ := State.safeTransferFrom_eq_ok.mp hcash
  obtain ⟨-, -, -, -, -, -, rfl⟩ := ERC20.transferFrom_eq_ok.mp htoken
  obtain ⟨own, scaled, hown, hscaled, -, rfl⟩ := CToken.mint_spec hminted
  obtain rfl : p.asset = own := Address.cToken.inj hown
  simp only [LendPoolStorage.setReserve_reserves, Function.update_self] at hscaled
  have hworth := scaled_worth ha.li_pos hscaled
  refine ⟨li, vi, _, cash, debt, rebalanced_of ha ⟨rfl, rfl, rfl, rfl, rfl, rfl⟩ rfl rfl
    (Function.update_eq_self p.asset s.debtTokens).symm rfl hdebt hnew ?_ ?_⟩
  · exact received_le hinitiator hbalance
  · change 2 * (((cTokens p.asset).scaledTotalSupply + scaled) * li + _ + _) ≤ _
    obtain rfl : cash = (s.erc20 p.asset).balances (.cToken p.asset) + p.amount := hbalance
    rw [Nat.add_mul, Nat.add_mul]
    omega

theorem RatesAllow.cash {lr vr : Nat} (h : RatesAllow s asset vi taken lr vr) :
    ∃ cash debt, cash + taken = (s.erc20 asset).balances (.cToken asset) ∧
      rayMul (s.debtTokens asset).scaledTotalSupply vi = .ok debt ∧
        ∃ interestRate : InterestRate, interestRate.calculateInterestRates cash debt
          (s.pool.reserves asset).configuration.getReserveFactor = .ok (lr, vr) := by
  obtain ⟨debt, interestRate, hdebt, -, hrates, -, -⟩ := h
  simp only [InterestRate.calculateInterestRatesAfter, bind_eq_ok, Uint256.add_eq_ok,
    Uint256.sub_eq_ok] at hrates
  obtain ⟨_, ⟨-, rfl⟩, _, ⟨hle, rfl⟩, hrates⟩ := hrates
  exact ⟨_, debt, by omega, hdebt, interestRate, hrates⟩

theorem RatesAccept.cash {supply lr vr : Nat} (h : RatesAccept s asset vi added supply lr vr) :
    ∃ debt, rayMul supply vi = .ok debt ∧ ∃ interestRate : InterestRate,
      interestRate.calculateInterestRates ((s.erc20 asset).balances (.cToken asset) + added) debt
        (s.pool.reserves asset).configuration.getReserveFactor = .ok (lr, vr) := by
  obtain ⟨debt, interestRate, hdebt, -, hrates, -, -⟩ := h
  simp only [InterestRate.calculateInterestRatesAfter, bind_eq_ok, Uint256.add_eq_ok,
    Uint256.sub_eq_ok] at hrates
  obtain ⟨_, ⟨-, rfl⟩, _, ⟨-, rfl⟩, hrates⟩ := hrates
  exact ⟨debt, hdebt, interestRate, hrates⟩

theorem withdraw_rebalanced {p : ExecuteWithdrawParams} {withdrawn : Nat} (hw : Wired s)
    (h : SupplyLogic.executeWithdraw s p = .ok (s', withdrawn)) :
    ∃ li vi cTokens cash debt, Rebalanced s p.asset li vi cTokens cash debt s' := by
  obtain ⟨_, li, vi, cTokens, scaled, lr, vr, token, hpart, rfl⟩ := (executeWithdraw_eq_ok hw).mp h
  obtain ⟨cash, debt, hbalance, hdebt, interestRate, hnew⟩ := hpart.rates.cash
  obtain ⟨-, -, -, -, rfl⟩ := ERC20.transfer_eq_ok.mp hpart.paid
  have hworth := scaled_worth hpart.accrual.li_pos hpart.scaled_eq
  refine ⟨li, vi, _, cash, debt, rebalanced_of hpart.accrual
    ⟨rfl, rfl, rfl, rfl, rfl, rfl⟩ rfl rfl (Function.update_eq_self p.asset s.debtTokens).symm rfl
    hdebt hnew ?_ ?_⟩
  · exact left_le hbalance
  · have hsupply : scaled ≤ (cTokens p.asset).scaledTotalSupply := hpart.burned.2.2
    obtain ⟨rest, hrest⟩ := Nat.exists_eq_add_of_le hsupply
    change 2 * (((cTokens p.asset).scaledTotalSupply - scaled) * li + _ + _) ≤ _
    rw [hrest, Nat.add_sub_cancel_left, ← hbalance, Nat.add_mul, Nat.add_mul]
    omega

theorem borrow_rebalanced {p : ExecuteBorrowParams} (hw : Wired s)
    (h : BorrowLogic.borrow s p = .ok s') :
    ∃ li vi cTokens cash debt, Rebalanced s p.asset li vi cTokens cash debt s' := by
  obtain ⟨li, vi, cTokens, s₂, debtTokens, s₃, ha, hframe, hmint, hrates, hpay⟩ :=
    borrow_parts hw h
  obtain ⟨cash, debt, hbalance, hdebt, interestRate, rates, hnew, rfl⟩ :=
    rates_after_accrual ha hframe hrates
  obtain ⟨loanStore, erc721, cNFTs, rfl⟩ := hframe
  obtain ⟨own, scaled, self, hown, hscaled, -, -, -, hself, rfl⟩ := DebtToken.mint_spec hmint
  obtain rfl : p.asset = own := Address.debtToken.inj hown
  obtain ⟨own, token, hown, htoken, rfl⟩ := CToken.transferUnderlyingTo_eq_ok.mp hpay
  obtain rfl : p.asset = own := Address.cToken.inj hown
  obtain ⟨-, -, -, -, rfl⟩ := ERC20.transfer_eq_ok.mp htoken
  have hworth := scaled_worth ha.vi_pos hscaled
  simp only [Function.update_self] at hdebt
  refine ⟨li, vi, _, cash, debt, rebalanced_of ha ⟨rfl, rfl, rfl, rfl, rfl, rfl⟩ rfl
    (Function.update_eq_self p.asset cTokens).symm rfl rfl hdebt hnew ?_ ?_⟩
  · exact left_le hbalance
  · change _ ≤ 2 * (_ + _ + (self.ledger.totalSupply + scaled) * vi) + _
    rw [hself, ← DebtToken.scaledTotalSupply]
    rw [Nat.add_zero] at hbalance
    rw [← hbalance, Nat.add_mul, Nat.add_mul]
    omega

private theorem paid_back {supply scaled amount before cash cTokens : Nat}
    (hcash : cash = before + amount) (hle : scaled ≤ supply) (hvi : 0 < vi)
    (hscaled : rayDiv amount vi = .ok scaled) :
    2 * (cTokens * li + before * RAY + supply * vi) ≤
      2 * (cTokens * li + cash * RAY + (supply - scaled) * vi) + (li + vi) := by
  have hworth := scaled_worth hvi hscaled
  obtain ⟨rest, rfl⟩ := Nat.exists_eq_add_of_le hle
  rw [hcash, Nat.add_sub_cancel_left, Nat.add_mul, Nat.add_mul]
  omega

theorem repay_rebalanced {p : ExecuteRepayParams} {r : Nat × Bool} (hw : Wired s) (hf : Filed s)
    (hinitiator : p.initiator ≠ .cToken (s.loanOf p.nftAsset p.nftTokenId).reserveAsset)
    (h : BorrowLogic.repay s p = .ok (s', r)) :
    ∃ li vi cTokens cash debt, Rebalanced s (s.loanOf p.nftAsset p.nftTokenId).reserveAsset li vi
      cTokens cash debt s' := by
  obtain ⟨li', vi', owed, scaled, heffect, -⟩ := repay_effect hw hf h
  obtain ⟨li, vi, cTokens, s₂, debtTokens, s₃, s₄, ha, hframe, hrates, hcash, hgiven⟩ :=
    repay_parts hw h
  obtain ⟨cash, debt, hbalance, hdebt, interestRate, rates, hnew, rfl⟩ :=
    rates_after_accrual ha hframe hrates
  obtain ⟨_, _, _, rfl⟩ := hframe
  obtain ⟨token, htoken, rfl⟩ := State.safeTransferFrom_eq_ok.mp hcash
  obtain ⟨-, -, -, -, -, -, rfl⟩ := ERC20.transferFrom_eq_ok.mp htoken
  obtain ⟨_, _, _, rfl⟩ := hgiven
  obtain rfl : vi' = vi := Except.ok.inj (heffect.step.next.symm.trans ha.variableBorrowIndex)
  have hburned : debtTokens = _ := heffect.debtTokens
  rw [hburned, Function.update_self] at hdebt
  refine ⟨li, vi', _, cash, debt, rebalanced_of ha ⟨rfl, rfl, rfl, rfl, rfl, rfl⟩ rfl
    (Function.update_eq_self _ cTokens).symm hburned rfl hdebt hnew ?_ ?_⟩
  · exact received_le hinitiator hbalance
  · exact paid_back hbalance heffect.burned.2 ha.vi_pos heffect.scaled_eq

private theorem rates_of_kept_cash {address : Address} {token : ERC20} {events : List Transfer}
    (ha : Accrual s asset li vi cTokens) (hframe : BookFrame (s.accrued asset li vi cTokens) s₁)
    (haddress : address = .cToken asset)
    (h : ReserveLogic.updateInterestRates (s₁.pays asset token events) asset address 0 0 = .ok s')
    (hkept : token.balances (.cToken asset) = (s.erc20 asset).balances (.cToken asset)) :
    ∃ debt, Rebalanced s asset li vi cTokens ((s.erc20 asset).balances (.cToken asset)) debt s' := by
  subst haddress
  obtain ⟨_, _, _, rfl⟩ := hframe
  obtain ⟨cash, debt, hbalance, hdebt, interestRate, rates, hnew, rfl⟩ :=
    updated_rates h ha.accrued_debtToken
  simp only [State.pays, accrued_variableBorrowIndex, accrued_configuration, Function.update_self,
    hkept, Nat.add_zero] at hbalance hdebt hnew
  subst hbalance
  refine ⟨debt, rebalanced_of ha ⟨rfl, rfl, rfl, rfl, rfl, rfl⟩ ?_
    (Function.update_eq_self _ cTokens).symm (Function.update_eq_self _ s.debtTokens).symm rfl hdebt
    hnew (Nat.le_of_eq hkept.symm) (Nat.le_add_right _ _)⟩
  simp only [State.pays, accrued_withRates]

theorem buyItNow_rebalanced {p : ExecuteBuyItNowParams} (hw : Wired s)
    (hinitiator : p.initiator ≠ .cToken (s.loanOf p.nftAsset p.nftTokenId).reserveAsset)
    (h : LiquidateLogic.executeBuyItNow s p = .ok s') :
    ∃ li vi cTokens cash debt, Rebalanced s (s.loanOf p.nftAsset p.nftTokenId).reserveAsset li vi
      cTokens cash debt s' := by
  simp only [LiquidateLogic.executeBuyItNow, bind_eq_ok, updateState_iff hw] at h
  simp only [getCollateralLoanId_eq, getLoan_eq_loanOf] at h
  obtain ⟨_, -, _, -, _, -, _, ⟨li, vi, cTokens, ha, rfl⟩, _, -, _, -, s₃, hbook, s₄, hcash,
    hrates⟩ := h
  obtain ⟨-, rfl⟩ := LendPoolLoan.buyItNowLoan_spec hbook
  obtain ⟨token, htoken, rfl⟩ := safeTransferFrom_eq_paid.mp hcash
  obtain ⟨-, -, -, -, -, -, rfl⟩ := ERC20.transferFrom_eq_ok.mp htoken
  have hpool : Address.cToken (s.loanOf p.nftAsset p.nftTokenId).reserveAsset ≠ .lendPool := by simp
  obtain ⟨debt, h⟩ := rates_of_kept_cash ha ⟨_, _, _, rfl⟩ ha.accrued_cToken hrates
    (ERC20.moved_of_ne hinitiator.symm hpool)
  exact ⟨li, vi, cTokens, _, debt, h⟩

theorem redeem_rebalanced {p : ExecuteRedeemParams} {paid : Nat} (hw : Wired s)
    (hinitiator : p.initiator ≠ .cToken (s.loanOf p.nftAsset p.nftTokenId).reserveAsset)
    (h : LiquidateLogic.executeRedeem s p = .ok (s', paid)) :
    ∃ li vi cTokens cash debt, Rebalanced s (s.loanOf p.nftAsset p.nftTokenId).reserveAsset li vi
      cTokens cash debt s' := by
  obtain ⟨li, vi, cTokens, owed, fine, scaled, lr, vr, token, hpart, rfl, -⟩ :=
    (executeRedeem_eq_ok hw).mp h
  obtain ⟨debt, hdebt, interestRate, hnew⟩ := hpart.rates.cash
  refine ⟨li, vi, cTokens, _, debt, rebalanced_of hpart.accrual ⟨rfl, rfl, rfl, rfl, rfl, rfl⟩ rfl
    (Function.update_eq_self _ cTokens).symm rfl rfl hdebt hnew ?_
    (paid_back rfl hpart.burned.2 hpart.accrual.vi_pos hpart.scaled_eq)⟩
  have hpool : Address.cToken (s.loanOf p.nftAsset p.nftTokenId).reserveAsset ≠ .lendPool := by simp
  rw [recorded_redemption _ _ _ _ _ _ _ _ hpart.paid]
  simp only [redemptionEvents, settled, List.foldr]
  apply (received_le hinitiator rfl).trans
  exact (ERC20.le_moved hpool).trans (ERC20.le_moved hinitiator.symm)

/-- The debt of a liquidated loan reaches the reserve, whoever gets the rest of the price. -/
theorem le_settled_liquidation {initiator borrower : Address} {price debt : Nat}
    {balances : Address → Nat} (hinitiator : initiator ≠ .cToken asset) :
    balances (.cToken asset) + debt ≤
      settled balances (liquidationEvents asset initiator borrower price debt) (.cToken asset) := by
  have hpool : Address.cToken asset ≠ .lendPool := by simp
  have hextra : balances (.cToken asset) ≤ settled balances (if debt - price > 0 then
      [⟨asset, initiator, .lendPool, debt - price⟩] else []) (.cToken asset) := by
    split
    · change _ ≤ ERC20.moved balances initiator .lendPool (debt - price) (.cToken asset)
      exact ERC20.le_moved hinitiator.symm
    · exact Nat.le_refl _
  have hremain : ∀ before, before (.cToken asset) ≤ settled before (if price - debt > 0 then
      [⟨asset, .lendPool, borrower, price - debt⟩] else []) (.cToken asset) := by
    intro before
    split
    · change _ ≤ ERC20.moved before .lendPool borrower (price - debt) (.cToken asset)
      exact ERC20.le_moved hpool
    · exact Nat.le_refl _
  unfold liquidationEvents
  rw [settled_append, settled_append]
  refine Nat.le_trans ?_ (hremain _)
  change _ ≤ ERC20.moved (settled balances _) .lendPool (.cToken asset) debt (.cToken asset)
  rw [ERC20.moved_recipient hpool.symm]
  exact Nat.add_le_add_right hextra debt

theorem liquidate_rebalanced {p : ExecuteLiquidateParams} {paid : Nat} (hw : Wired s)
    (hf : Filed s)
    (hinitiator : p.initiator ≠ .cToken (s.loanOf p.nftAsset p.nftTokenId).reserveAsset)
    (h : LiquidateLogic.executeLiquidate s p = .ok (s', paid)) :
    ∃ li vi cTokens cash debt, Rebalanced s (s.loanOf p.nftAsset p.nftTokenId).reserveAsset li vi
      cTokens cash debt s' := by
  obtain ⟨li, vi, cTokens, owed, scaled, lr, vr, token, hpart, rfl, -⟩ :=
    (executeLiquidate_eq_ok hw hf).mp h
  obtain ⟨debt, hdebt, interestRate, hnew⟩ := hpart.rates.cash
  refine ⟨li, vi, cTokens, _, debt, rebalanced_of hpart.accrual ⟨rfl, rfl, rfl, rfl, rfl, rfl⟩ rfl
    (Function.update_eq_self _ cTokens).symm rfl rfl hdebt hnew ?_
    (paid_back rfl hpart.burned.2 hpart.accrual.vi_pos hpart.scaled_eq)⟩
  rw [recorded_liquidation _ _ _ _ _ _ _ hpart.paid]
  exact le_settled_liquidation hinitiator

end Confetti

import Confetti.Effects.Selling
import Confetti.Protocol.LendPool

/-! The pool's quotes about an NFT, and what becomes of them when the reserve is
updated in the same block: nothing, where the view shows the index that is stored. -/
namespace Confetti
open Outcome GenericLogic

variable {s s' : State} {asset nftAsset : Address} {nftTokenId li vi : Nat}
  {cTokens : Address → CToken}

/-- The view's debt index is this one. -/
def ShowsDebtIndex (s : State) (asset : Address) (vi : Nat) : Prop :=
  ReserveLogic.getNormalizedDebt (s.pool.reserves asset) s.timestamp = .ok vi

theorem ShowsDebtIndex.borrowAmount (h : ShowsDebtIndex s asset vi) {loan : LoanData}
    (hasset : loan.reserveAsset = asset) :
    LendPoolLoan.borrowAmount s loan = rayMul loan.scaledAmount vi := by
  unfold LendPoolLoan.borrowAmount
  by_cases hzero : loan.scaledAmount = 0
  · rw [if_pos hzero, hzero, rayMul_zero_left]
    rfl
  · rw [if_neg hzero, hasset, h, ok_bind]

theorem calculateNftCollateralData_spec (hasset : asset ≠ .zero) {r : Nat × Nat}
    (h : calculateNftCollateralData s asset nftAsset = .ok r) :
    nftPriceInReserve s asset nftAsset = .ok r.2 := by
  simp only [calculateNftCollateralData, if_pos hasset, bind_eq_ok, pure_eq_ok] at h
  obtain ⟨nft, hnft, unit, hunit, reserve, hreserve, weighted, hweighted, price, hprice, rfl⟩ := h
  simp only [nftPriceInReserve, bind_eq_ok]
  refine ⟨nft, hnft, reserve, hreserve, unit, hunit, weighted, ?_, hprice⟩
  rw [Uint256.mul, Nat.mul_comm]
  exact hweighted

theorem calculateNftDebtData_spec {loanId : Nat} {r : Nat × Nat}
    (h : calculateNftDebtData s asset loanId = .ok r) :
    LendPoolLoan.borrowAmount s (s.loanStore.loans loanId) = .ok r.2 := by
  simp only [calculateNftDebtData, bind_eq_ok, LendPoolLoan.getLoanReserveBorrowAmount_eq_ok,
    pure_eq_ok] at h
  obtain ⟨_, -, _, -, _, ⟨-, hborrowed⟩, _, -, _, -, rfl⟩ := h
  exact hborrowed

/-- Collateral, debt and what is derived from them, for an NFT with a loan. -/
structure DebtQuote (s : State) (nftAsset : Address) (loan : LoanData)
    (data : LendPool.NftDebtData) : Prop where
  collateral : nftPriceInReserve s loan.reserveAsset nftAsset = .ok data.totalCollateral
  debt : LendPoolLoan.borrowAmount s loan = .ok data.totalDebt
  availableBorrows : calculateAvailableBorrows data.totalCollateral data.totalDebt
    (s.pool.nfts nftAsset).configuration.getCollateralParams.1 = .ok data.availableBorrows
  healthFactor : loan.state = .Active →
    calculateHealthFactorFromBalances data.totalCollateral data.totalDebt
      (s.pool.nfts nftAsset).configuration.getCollateralParams.2.1 = .ok data.healthFactor

theorem getNftDebtData_spec {data : LendPool.NftDebtData}
    (hid : s.loanStore.nftToLoanIds nftAsset nftTokenId ≠ 0)
    (hasset : (s.loanOf nftAsset nftTokenId).reserveAsset ≠ .zero)
    (h : LendPool.getNftDebtData s nftAsset nftTokenId = .ok data) :
    DebtQuote s nftAsset (s.loanOf nftAsset nftTokenId) data := by
  have hid' : LendPoolLoan.getCollateralLoanId s nftAsset nftTokenId ≠ 0 := hid
  simp only [LendPool.getNftDebtData, if_neg hid', bind_eq_ok, pure_eq_ok] at h
  obtain ⟨collateral, hcollateral, debt, hdebt, available, havailable, health, hhealth, rfl⟩ := h
  refine ⟨calculateNftCollateralData_spec hasset hcollateral, calculateNftDebtData_spec hdebt,
    havailable, ?_⟩
  intro hactive
  have hactive' : (LendPoolLoan.getLoan s
      (LendPoolLoan.getCollateralLoanId s nftAsset nftTokenId)).state = .Active := hactive
  rw [if_pos hactive'] at hhealth
  exact hhealth

theorem getNftDebtData_totalDebt {data : LendPool.NftDebtData}
    (hid : s.loanStore.nftToLoanIds nftAsset nftTokenId ≠ 0)
    (h : LendPool.getNftDebtData s nftAsset nftTokenId = .ok data) :
    LendPoolLoan.borrowAmount s (s.loanOf nftAsset nftTokenId) = .ok data.totalDebt := by
  have hid' : LendPoolLoan.getCollateralLoanId s nftAsset nftTokenId ≠ 0 := hid
  simp only [LendPool.getNftDebtData, if_neg hid', bind_eq_ok, pure_eq_ok] at h
  obtain ⟨_, -, debt, hdebt, _, -, _, -, rfl⟩ := h
  exact calculateNftDebtData_spec hdebt

/-- The quoted price is the liquidation price, or the debt if that is more. -/
theorem getNftLiquidatePrice_spec {quote : Nat × Nat}
    (hid : s.loanStore.nftToLoanIds nftAsset nftTokenId ≠ 0)
    (h : LendPool.getNftLiquidatePrice s nftAsset nftTokenId = .ok quote) :
    ∃ threshold liquidate,
      LendPoolLoan.borrowAmount s (s.loanOf nftAsset nftTokenId) = .ok quote.2 ∧
        SalePrices s (s.loanOf nftAsset nftTokenId).reserveAsset
          (s.loanOf nftAsset nftTokenId).nftAsset threshold liquidate ∧
          quote.1 = max liquidate quote.2 := by
  have hid' : LendPoolLoan.getCollateralLoanId s nftAsset nftTokenId ≠ 0 := hid
  simp only [LendPool.getNftLiquidatePrice, if_neg hid', bind_eq_ok, pure_eq_ok] at h
  obtain ⟨⟨debt, threshold, liquidate⟩, hprices, rfl⟩ := h
  obtain ⟨hdebt, hsale⟩ := liquidatePrice_eq_ok.mp hprices
  refine ⟨threshold, liquidate, hdebt, hsale, ?_⟩
  simp only
  split <;> omega

theorem getNftBuyItNowData_spec {quote : LendPool.NftBuyItNowData}
    (hid : s.loanStore.nftToLoanIds nftAsset nftTokenId ≠ 0)
    (h : LendPool.getNftBuyItNowData s nftAsset nftTokenId = .ok quote) :
    ∃ minFine, calculateLoanBuyItNowFine s (s.loanOf nftAsset nftTokenId).reserveAsset nftAsset
      (s.loanOf nftAsset nftTokenId) = .ok (minFine, quote.buyItNowFine) := by
  have hid' : LendPoolLoan.getCollateralLoanId s nftAsset nftTokenId ≠ 0 := hid
  simp only [LendPool.getNftBuyItNowData, if_pos hid', bind_eq_ok, pure_eq_ok] at h
  obtain ⟨⟨minFine, fine⟩, hfine, rfl⟩ := h
  exact ⟨minFine, hfine⟩

/-- The update of a reserve changes a fine only by way of the debt. -/
theorem calculateLoanBuyItNowFine_accrued {loan : LoanData}
    (hborrow : LendPoolLoan.borrowAmount (s.accrued asset li vi cTokens)
      (s.loanStore.loans loan.loanId) =
        LendPoolLoan.borrowAmount s (s.loanStore.loans loan.loanId)) :
    calculateLoanBuyItNowFine (s.accrued asset li vi cTokens) asset nftAsset loan =
      calculateLoanBuyItNowFine s asset nftAsset loan := by
  have hborrow' : LendPoolLoan.borrowAmount (s.accrued asset li vi cTokens)
      ((s.accrued asset li vi cTokens).loanStore.loans loan.loanId) =
        LendPoolLoan.borrowAmount s (s.loanStore.loans loan.loanId) := hborrow
  simp only [calculateLoanBuyItNowFine, LendPoolLoan.getLoanReserveBorrowAmount, reserveUnit,
    hborrow', accrued_configuration]
  rfl

end Confetti

import Confetti.Configuration.NftConfiguration
import Confetti.Configuration.ReserveConfiguration
import Confetti.Protocol.LendPoolLoan

/-! `GenericLogic`: what an NFT and a loan are worth in units of the reserve, and
the prices and fines derived from that. -/
namespace Confetti
open Outcome

/-- `1 ether` -/
def ETHER : Nat := 10 ^ 18

def HEALTH_FACTOR_LIQUIDATION_THRESHOLD : Nat := ETHER

namespace GenericLogic
open LendPoolLoan

def reserveUnit (s : State) (reserveAsset : Address) : Except Revert Nat :=
  Uint256.pow 10 (s.pool.reserves reserveAsset).configuration.getDecimals

def calculateNftDebtData (s : State) (reserveAddress : Address) (loanId : Nat) :
    Except Revert (Nat × Nat) := do
  let unit ← reserveUnit s reserveAddress
  let reserveUnitPrice ← s.getReservePrice reserveAddress
  let borrowed ← getLoanReserveBorrowAmount s loanId
  let weighted ← Uint256.mul borrowed.2 reserveUnitPrice
  let totalDebtInETH ← Uint256.div weighted unit
  pure (totalDebtInETH, borrowed.2)

def calculateNftCollateralData (s : State) (reserveAddress nftAddress : Address) :
    Except Revert (Nat × Nat) := do
  let nftUnitPrice ← s.getNFTPrice nftAddress
  if reserveAddress ≠ .zero then do
    let unit ← reserveUnit s reserveAddress
    let reserveUnitPrice ← s.getReservePrice reserveAddress
    let weighted ← Uint256.mul nftUnitPrice unit
    let totalCollateralInReserve ← Uint256.div weighted reserveUnitPrice
    pure (nftUnitPrice, totalCollateralInReserve)
  else pure (nftUnitPrice, 0)

def calculateHealthFactorFromBalances (totalCollateral totalDebt liquidationThreshold : Nat) :
    Except Revert Nat :=
  if totalDebt = 0 then pure Uint256.max
  else do
    let threshold ← percentMul totalCollateral liquidationThreshold
    wadDiv threshold totalDebt

def calculateAvailableBorrows (totalCollateral totalDebt ltv : Nat) : Except Revert Nat := do
  let availableBorrows ← percentMul totalCollateral ltv
  if availableBorrows < totalDebt then pure 0 else pure (availableBorrows - totalDebt)

/-- Collateral and debt in the reserve, and the health factor between them. -/
def calculateLoanData (s : State) (reserveAddress nftAddress : Address) (loanId : Nat) :
    Except Revert (Nat × Nat × Nat) := do
  let params := (s.pool.nfts nftAddress).configuration.getCollateralParams
  let debt ← (if loanId ≠ 0 then calculateNftDebtData s reserveAddress loanId else pure (0, 0))
  let collateral ← calculateNftCollateralData s reserveAddress nftAddress
  let healthFactor ← calculateHealthFactorFromBalances collateral.2 debt.2 params.2.1
  pure (collateral.2, debt.2, healthFactor)

/-- Debt, threshold price and liquidation price of a loan. Its sale may start once
the debt exceeds the threshold price. -/
def calculateLoanLiquidatePrice (s : State) (loanId : Nat) (reserveAsset nftAsset : Address) :
    Except Revert (Nat × Nat × Nat) := do
  let borrowed ← getLoanReserveBorrowAmount s loanId
  let params := (s.pool.nfts nftAsset).configuration.getCollateralParams
  let nftPriceInETH ← s.getNFTPrice nftAsset
  let reservePriceInETH ← s.getReservePrice reserveAsset
  let unit ← reserveUnit s reserveAsset
  let weighted ← Uint256.mul unit nftPriceInETH
  let nftPriceInReserve ← Uint256.div weighted reservePriceInETH
  let thresholdPrice ← percentMul nftPriceInReserve params.2.1
  let discount ← Uint256.sub PERCENTAGE_FACTOR params.2.2
  let liquidatePrice ← percentMul nftPriceInReserve discount
  pure (borrowed.2, thresholdPrice, liquidatePrice)

def calculateLoanBuyItNowFine (s : State) (reserveAsset nftAsset : Address) (loanData : LoanData) :
    Except Revert (Nat × Nat) :=
  if loanData.buyItNowPrice = 0 then pure (0, 0)
  else do
    let configuration := (s.pool.nfts nftAsset).configuration
    let reservePriceInETH ← s.getReservePrice reserveAsset
    let unit ← reserveUnit s reserveAsset
    let weighted ← Uint256.mul ETHER unit
    let baseBuyItNowFineInReserve ← Uint256.div weighted reservePriceInETH
    let minBuyItNowFineInReserve ← percentMul baseBuyItNowFineInReserve
      configuration.getMinBuyItNowFine
    let borrowed ← getLoanReserveBorrowAmount s loanData.loanId
    let buyItNowFineInReserve ← percentMul borrowed.2 configuration.getRedeemFine
    if buyItNowFineInReserve < minBuyItNowFineInReserve then
      pure (minBuyItNowFineInReserve, minBuyItNowFineInReserve)
    else pure (minBuyItNowFineInReserve, buyItNowFineInReserve)

variable {s : State} {loanId : Nat} {reserveAsset nftAsset : Address}

/-- The price of an NFT in the smallest denomination of a reserve. -/
def nftPriceInReserve (s : State) (reserveAsset nftAsset : Address) : Except Revert Nat := do
  let nftPriceInETH ← s.getNFTPrice nftAsset
  let reservePriceInETH ← s.getReservePrice reserveAsset
  let unit ← reserveUnit s reserveAsset
  let weighted ← Uint256.mul unit nftPriceInETH
  Uint256.div weighted reservePriceInETH

theorem calculateLoanLiquidatePrice_eq_ok {r : Nat × Nat × Nat} :
    calculateLoanLiquidatePrice s loanId reserveAsset nftAsset = .ok r ↔
      borrowAmount s (s.loanStore.loans loanId) = .ok r.1 ∧ ∃ price discount,
        nftPriceInReserve s reserveAsset nftAsset = .ok price ∧
          percentMul price (s.pool.nfts nftAsset).configuration.getCollateralParams.2.1 =
            .ok r.2.1 ∧
            Uint256.sub PERCENTAGE_FACTOR
                (s.pool.nfts nftAsset).configuration.getCollateralParams.2.2 = .ok discount ∧
              percentMul price discount = .ok r.2.2 := by
  simp only [calculateLoanLiquidatePrice, nftPriceInReserve, bind_eq_ok,
    getLoanReserveBorrowAmount_eq_ok, pure_eq_ok]
  constructor
  · rintro ⟨borrowed, ⟨-, hborrow⟩, nft, hnft, reserve, hreserve, unit, hunit, weighted, hweighted,
      price, hprice, threshold, hthreshold, discount, hdiscount, liquidate, hliquidate, rfl⟩
    exact ⟨hborrow, price, discount,
      ⟨nft, hnft, reserve, hreserve, unit, hunit, weighted, hweighted, hprice⟩, hthreshold,
      hdiscount, hliquidate⟩
  · rintro ⟨hborrow, price, discount, ⟨nft, hnft, reserve, hreserve, unit, hunit, weighted,
      hweighted, hprice⟩, hthreshold, hdiscount, hliquidate⟩
    exact ⟨(_, r.1), ⟨rfl, hborrow⟩, nft, hnft, reserve, hreserve, unit, hunit, weighted, hweighted,
      price, hprice, _, hthreshold, discount, hdiscount, _, hliquidate, rfl⟩

section Faults

variable {bad : Revert → Prop}

theorem avoids_calculateLoanLiquidatePrice (hbad : BalanceFault bad) :
    Avoids bad (calculateLoanLiquidatePrice s loanId reserveAsset nftAsset) := by
  refine (avoids_getLoanReserveBorrowAmount hbad _ _).bind fun _ _ => ?_
  refine (State.avoids_oraclePrice hbad _).bind fun _ _ => ?_
  refine (State.avoids_oraclePrice hbad _).bind fun _ _ => ?_
  refine (Uint256.avoids_pow hbad.panic _ _).bind fun _ _ => ?_
  refine (Uint256.avoids_mul hbad.panic _ _).bind fun _ _ => ?_
  refine (Uint256.avoids_div hbad.panic _ _).bind fun _ _ => ?_
  refine (avoids_percentMul hbad.panic hbad.error _ _).bind fun _ _ => ?_
  refine (Uint256.avoids_sub hbad.panic _ _).bind fun _ _ => ?_
  exact (avoids_percentMul hbad.panic hbad.error _ _).bind fun _ _ => avoids_pure _

theorem avoids_calculateLoanBuyItNowFine (hbad : BalanceFault bad) (loanData : LoanData) :
    Avoids bad (calculateLoanBuyItNowFine s reserveAsset nftAsset loanData) := by
  refine avoids_ite (fun _ => avoids_pure _) fun _ => ?_
  refine (State.avoids_oraclePrice hbad _).bind fun _ _ => ?_
  refine (Uint256.avoids_pow hbad.panic _ _).bind fun _ _ => ?_
  refine (Uint256.avoids_mul hbad.panic _ _).bind fun _ _ => ?_
  refine (Uint256.avoids_div hbad.panic _ _).bind fun _ _ => ?_
  refine (avoids_percentMul hbad.panic hbad.error _ _).bind fun _ _ => ?_
  refine (avoids_getLoanReserveBorrowAmount hbad _ _).bind fun _ _ => ?_
  refine (avoids_percentMul hbad.panic hbad.error _ _).bind fun _ _ => ?_
  exact avoids_ite (fun _ => avoids_pure _) fun _ => avoids_pure _

end Faults

end GenericLogic

end Confetti

import Confetti.Logic.GenericLogic

/-! `ValidationLogic`: the checks every action of the pool starts with. -/
namespace Confetti
open Outcome

namespace ValidationLogic
open GenericLogic

def validateDeposit (reserve : ReserveData) (amount : Nat) : Except Revert Unit := do
  let flags := reserve.configuration.getFlags
  require (amount ≠ 0) (.error .VL_INVALID_AMOUNT)
  require (flags.1 = true) (.error .VL_NO_ACTIVE_RESERVE)
  require (flags.2.1 = false) (.error .VL_RESERVE_FROZEN)

def validateWithdraw (reserveData : ReserveData) (amount userBalance : Nat) :
    Except Revert Unit := do
  require (amount ≠ 0) (.error .VL_INVALID_AMOUNT)
  require (amount ≤ userBalance) (.error .VL_NOT_ENOUGH_AVAILABLE_USER_BALANCE)
  require (reserveData.configuration.getFlags.1 = true) (.error .VL_NO_ACTIVE_RESERVE)

/-- An existing loan can only be topped up in its reserve, for its borrower. -/
def validateBorrowedLoan (loanData : LoanData) (user reserveAsset : Address) :
    Except Revert Unit := do
  require (loanData.state = .Active) (.error .LPL_INVALID_LOAN_STATE)
  require (reserveAsset = loanData.reserveAsset)
    (.error .VL_SPECIFIED_RESERVE_NOT_BORROWED_BY_USER)
  require (user = loanData.borrower) (.error .VL_SPECIFIED_LOAN_NOT_BORROWED_BY_USER)

def validateBorrow (s : State) (user reserveAsset : Address) (amount : Nat) (nftAsset : Address)
    (loanId : Nat) : Except Revert Unit := do
  let reserveData := s.pool.reserves reserveAsset
  let nftData := s.pool.nfts nftAsset
  require (reserveData.cTokenAddress ≠ .zero) (.error .VL_INVALID_RESERVE_ADDRESS)
  require (nftData.cNFTAddress ≠ .zero) (.error .LPC_INVALIED_CNFT_ADDRESS)
  require (amount > 0) (.error .VL_INVALID_AMOUNT)
  (if loanId ≠ 0 then validateBorrowedLoan (s.loanStore.loans loanId) user reserveAsset
    else pure ())
  let flags := reserveData.configuration.getFlags
  require (flags.1 = true) (.error .VL_NO_ACTIVE_RESERVE)
  require (flags.2.1 = false) (.error .VL_RESERVE_FROZEN)
  require (flags.2.2.1 = true) (.error .VL_BORROWING_NOT_ENABLED)
  let nftFlags := nftData.configuration.getFlags
  require (nftFlags.1 = true) (.error .VL_NO_ACTIVE_NFT)
  require (nftFlags.2 = false) (.error .VL_NFT_FROZEN)
  let params := nftData.configuration.getCollateralParams
  let data ← calculateLoanData s reserveAsset nftAsset loanId
  require (data.1 > 0) (.error .VL_COLLATERAL_BALANCE_IS_0)
  require (data.2.2 > HEALTH_FACTOR_LIQUIDATION_THRESHOLD)
    (.error .VL_HEALTH_FACTOR_LOWER_THAN_LIQUIDATION_THRESHOLD)
  let newDebt ← Uint256.add data.2.1 amount
  let amountOfCollateralNeeded ← percentDiv newDebt params.1
  require (amountOfCollateralNeeded ≤ data.1) (.error .VL_COLLATERAL_CANNOT_COVER_NEW_BORROW)

def validateActive (reserveData : ReserveData) (nftData : NftData) : Except Revert Unit := do
  require (nftData.cNFTAddress ≠ .zero) (.error .LPC_INVALIED_CNFT_ADDRESS)
  require (reserveData.cTokenAddress ≠ .zero) (.error .VL_INVALID_RESERVE_ADDRESS)
  require (reserveData.configuration.getActive = true) (.error .VL_NO_ACTIVE_RESERVE)
  require (nftData.configuration.getActive = true) (.error .VL_NO_ACTIVE_NFT)

def validateRepay (reserveData : ReserveData) (nftData : NftData) (loanData : LoanData)
    (amountSent borrowAmount : Nat) : Except Revert Unit := do
  validateActive reserveData nftData
  require (amountSent > 0) (.error .VL_INVALID_AMOUNT)
  require (borrowAmount > 0) (.error .VL_NO_DEBT_OF_SELECTED_TYPE)
  require (loanData.state = .Active) (.error .LPL_INVALID_LOAN_STATE)

def validateBuyItNow (reserveData : ReserveData) (nftData : NftData) (loanData : LoanData)
    (buyItNowPrice : Nat) : Except Revert Unit := do
  validateActive reserveData nftData
  require (loanData.state = .Active ∨ loanData.state = .BuyItNow)
    (.error .LPL_INVALID_LOAN_STATE)
  require (buyItNowPrice > 0) (.error .VL_INVALID_AMOUNT)

def validateLiquidate (reserveData : ReserveData) (nftData : NftData) (loanData : LoanData) :
    Except Revert Unit := do
  validateActive reserveData nftData
  require (loanData.state = .BuyItNow) (.error .LPL_INVALID_LOAN_STATE)
  require (loanData.buyItNowBuyerAddress ≠ .zero) (.error .LPL_INVALID_BUYITNOW_BUYER_ADDRESS)

/-- A liquidation's checks, and a positive amount. -/
def validateRedeem (reserveData : ReserveData) (nftData : NftData) (loanData : LoanData)
    (amount : Nat) : Except Revert Unit := do
  validateLiquidate reserveData nftData loanData
  require (amount > 0) (.error .VL_INVALID_AMOUNT)

def BothActive (reserveData : ReserveData) (nftData : NftData) : Prop :=
  nftData.cNFTAddress ≠ .zero ∧ reserveData.cTokenAddress ≠ .zero ∧
    reserveData.configuration.getActive = true ∧ nftData.configuration.getActive = true

variable {reserveData : ReserveData} {nftData : NftData} {loanData : LoanData}
  {amount debt price : Nat}

theorem validateWithdraw_eq_ok {balance : Nat} {u : Unit} :
    validateWithdraw reserveData amount balance = .ok u ↔
      amount ≠ 0 ∧ amount ≤ balance ∧ reserveData.configuration.getFlags.1 = true := by
  simp only [validateWithdraw, bind_eq_ok, require_eq_ok, exists_const]

theorem validateActive_eq_ok {u : Unit} :
    validateActive reserveData nftData = .ok u ↔ BothActive reserveData nftData := by
  simp only [validateActive, bind_eq_ok, require_eq_ok, exists_const, BothActive]

theorem validateRepay_eq_ok {u : Unit} :
    validateRepay reserveData nftData loanData amount debt = .ok u ↔
      BothActive reserveData nftData ∧ 0 < amount ∧ 0 < debt ∧ loanData.state = .Active := by
  simp only [validateRepay, bind_eq_ok, validateActive_eq_ok, require_eq_ok, exists_const]

theorem validateBuyItNow_eq_ok {u : Unit} :
    validateBuyItNow reserveData nftData loanData price = .ok u ↔
      BothActive reserveData nftData ∧
        (loanData.state = .Active ∨ loanData.state = .BuyItNow) ∧ 0 < price := by
  simp only [validateBuyItNow, bind_eq_ok, validateActive_eq_ok, require_eq_ok, exists_const]

theorem validateLiquidate_eq_ok {u : Unit} :
    validateLiquidate reserveData nftData loanData = .ok u ↔
      BothActive reserveData nftData ∧ loanData.state = .BuyItNow ∧
        loanData.buyItNowBuyerAddress ≠ .zero := by
  simp only [validateLiquidate, bind_eq_ok, validateActive_eq_ok, require_eq_ok, exists_const]

theorem validateRedeem_eq_ok {u : Unit} :
    validateRedeem reserveData nftData loanData amount = .ok u ↔
      BothActive reserveData nftData ∧ loanData.state = .BuyItNow ∧
        loanData.buyItNowBuyerAddress ≠ .zero ∧ 0 < amount := by
  simp only [validateRedeem, bind_eq_ok, validateLiquidate_eq_ok, require_eq_ok, exists_const,
    and_assoc]

section Faults

variable {bad : Revert → Prop}

theorem avoids_validateWithdraw (hbad : BalanceFault bad) (balance : Nat) :
    Avoids bad (validateWithdraw reserveData amount balance) := by
  refine (avoids_require fun _ => hbad.error _).bind fun _ _ => ?_
  refine (avoids_require fun _ => hbad.error _).bind fun _ _ => ?_
  exact avoids_require fun _ => hbad.error _

theorem avoids_validateActive (hbad : BalanceFault bad) :
    Avoids bad (validateActive reserveData nftData) := by
  refine (avoids_require fun _ => hbad.error _).bind fun _ _ => ?_
  refine (avoids_require fun _ => hbad.error _).bind fun _ _ => ?_
  refine (avoids_require fun _ => hbad.error _).bind fun _ _ => ?_
  exact avoids_require fun _ => hbad.error _

theorem avoids_validateRepay (hbad : BalanceFault bad) :
    Avoids bad (validateRepay reserveData nftData loanData amount debt) := by
  refine (avoids_validateActive hbad).bind fun _ _ => ?_
  refine (avoids_require fun _ => hbad.error _).bind fun _ _ => ?_
  refine (avoids_require fun _ => hbad.error _).bind fun _ _ => ?_
  exact avoids_require fun _ => hbad.error _

theorem avoids_validateLiquidate (hbad : BalanceFault bad) :
    Avoids bad (validateLiquidate reserveData nftData loanData) := by
  refine (avoids_validateActive hbad).bind fun _ _ => ?_
  refine (avoids_require fun _ => hbad.error _).bind fun _ _ => ?_
  exact avoids_require fun _ => hbad.error _

theorem avoids_validateRedeem (hbad : BalanceFault bad) :
    Avoids bad (validateRedeem reserveData nftData loanData amount) :=
  (avoids_validateLiquidate hbad).bind fun _ _ => avoids_require fun _ => hbad.error _

end Faults

end ValidationLogic

end Confetti

import Confetti.Logic.ReserveLogic
import Confetti.Logic.ValidationLogic

/-! `SupplyLogic`: deposits and withdrawals. -/
namespace Confetti
open Outcome

namespace SupplyLogic
open ReserveLogic

def executeDeposit (s : State) (params : ExecuteDepositParams) : Except Revert State := do
  require (params.onBehalfOf ≠ .zero) (.error .VL_INVALID_ONBEHALFOF_ADDRESS)
  let cToken := (s.pool.reserves params.asset).cTokenAddress
  require (cToken ≠ .zero) (.error .VL_INVALID_RESERVE_ADDRESS)
  ValidationLogic.validateDeposit (s.pool.reserves params.asset) params.amount
  let s ← updateState s params.asset
  let s ← updateInterestRates s params.asset cToken params.amount 0
  let s ← s.safeTransferFrom params.asset .lendPool params.initiator cToken params.amount
  let cTokens ← CToken.mint s.cTokens cToken params.onBehalfOf params.amount
    (s.pool.reserves params.asset).liquidityIndex
  pure { s with cTokens }

/-- The withdrawn amount is returned with the new state. -/
def executeWithdraw (s : State) (params : ExecuteWithdrawParams) : Except Revert (State × Nat) := do
  require (params.recipient ≠ .zero) (.error .VL_INVALID_TARGET_ADDRESS)
  let cToken := (s.pool.reserves params.asset).cTokenAddress
  require (cToken ≠ .zero) (.error .VL_INVALID_RESERVE_ADDRESS)
  let userBalance ← CToken.balanceOf s cToken params.initiator
  let amountToWithdraw := if params.amount = Uint256.max then userBalance else params.amount
  ValidationLogic.validateWithdraw (s.pool.reserves params.asset) amountToWithdraw userBalance
  let s ← updateState s params.asset
  let s ← updateInterestRates s params.asset cToken 0 amountToWithdraw
  let s ← CToken.burn s cToken params.initiator params.recipient amountToWithdraw
    (s.pool.reserves params.asset).liquidityIndex
  pure (s, amountToWithdraw)

end SupplyLogic

end Confetti

import Mathlib.Logic.Basic

/-! Addresses and the reasons a transaction can revert with. -/
namespace Confetti

/-- Accounts, told apart as far as the protocol tells them apart. The proxies the
configurator and the cNFT registry deploy are named by the asset they are
deployed for: an asset is initialized at most once, so the name is fresh. -/
inductive Address
  | zero
  | account (n : Nat)
  | lendPool
  | lendPoolLoan
  | cToken (asset : Address)
  | debtToken (asset : Address)
  | cNFT (asset : Address)
  deriving DecidableEq, Repr

/-- Senders of transactions and third-party contracts. The protocol's own
contracts only issue the calls written in their code. -/
def Address.isExternal : Address → Bool
  | .account _ => true
  | _ => false

/-- The `Errors` library. -/
inductive Errors
  | CALLER_NOT_ONBEHALFOF_OR_IN_WHITELIST
  | MATH_MULTIPLICATION_OVERFLOW
  | MATH_DIVISION_BY_ZERO
  | VL_INVALID_AMOUNT
  | VL_NO_ACTIVE_RESERVE
  | VL_RESERVE_FROZEN
  | VL_NOT_ENOUGH_AVAILABLE_USER_BALANCE
  | VL_BORROWING_NOT_ENABLED
  | VL_COLLATERAL_BALANCE_IS_0
  | VL_HEALTH_FACTOR_LOWER_THAN_LIQUIDATION_THRESHOLD
  | VL_COLLATERAL_CANNOT_COVER_NEW_BORROW
  | VL_NO_DEBT_OF_SELECTED_TYPE
  | VL_NO_ACTIVE_NFT
  | VL_NFT_FROZEN
  | VL_INVALID_ONBEHALFOF_ADDRESS
  | VL_INVALID_TARGET_ADDRESS
  | VL_INVALID_RESERVE_ADDRESS
  | VL_SPECIFIED_LOAN_NOT_BORROWED_BY_USER
  | VL_SPECIFIED_RESERVE_NOT_BORROWED_BY_USER
  | LP_IS_PAUSED
  | LP_NO_MORE_RESERVES_ALLOWED
  | LP_NOT_CONTRACT
  | LP_BORROW_NOT_EXCEED_LIQUIDATION_THRESHOLD
  | LP_NO_MORE_NFTS_ALLOWED
  | LP_INVALIED_USER_NFT_AMOUNT
  | LP_NFT_IS_NOT_USED_AS_COLLATERAL
  | LP_CALLER_MUST_BE_AN_CTOKEN
  | LP_INVALIED_NFT_AMOUNT
  | LP_NFT_HAS_USED_AS_COLLATERAL
  | LP_AMOUNT_LESS_THAN_EXTRA_DEBT
  | LP_AMOUNT_LESS_THAN_REDEEM_THRESHOLD
  | LP_AMOUNT_GREATER_THAN_MAX_REPAY
  | LPL_INVALID_LOAN_STATE
  | LPL_INVALID_LOAN_AMOUNT
  | LPL_INVALID_TAKEN_AMOUNT
  | LPL_AMOUNT_OVERFLOW
  | LPL_BUYITNOW_PRICE_LESS_THAN_LIQUIDATION_PRICE
  | LPL_BUYITNOW_PRICE_LESS_THAN_HIGHEST_PRICE
  | LPL_BUYITNOW_REDEEM_DURATION_HAS_END
  | LPL_BUYITNOW_DURATION_HAS_END
  | LPL_BUYITNOW_PRICE_LESS_THAN_BORROW
  | LPL_INVALID_BUYITNOW_BUYER_ADDRESS
  | LPL_INVALID_BUYITNOW_FINE
  | LPL_BUYITNOW_DURATION_NOT_START
  | CT_INVALID_MINT_AMOUNT
  | CT_INVALID_BURN_AMOUNT
  | CT_BORROW_ALLOWANCE_NOT_ENOUGH
  | RL_RESERVE_ALREADY_INITIALIZED
  | RL_LIQUIDITY_INDEX_OVERFLOW
  | RL_VARIABLE_BORROW_INDEX_OVERFLOW
  | RL_LIQUIDITY_RATE_OVERFLOW
  | RL_VARIABLE_BORROW_RATE_OVERFLOW
  | LPC_RESERVE_LIQUIDITY_NOT_0
  | LPC_INVALID_CONFIGURATION
  | LPC_INVALIED_CNFT_ADDRESS
  | LPC_NFT_LIQUIDITY_NOT_0
  | RC_INVALID_LTV
  | RC_INVALID_LIQ_THRESHOLD
  | RC_INVALID_LIQ_BONUS
  | RC_INVALID_DECIMALS
  | RC_INVALID_RESERVE_FACTOR
  | RC_INVALID_REDEEM_DURATION
  | RC_INVALID_BUYITNOW_DURATION
  | RC_INVALID_REDEEM_FINE
  | RC_INVALID_REDEEM_THRESHOLD
  | RC_INVALID_MIN_BUYITNOW_FINE
  deriving DecidableEq, Repr

def Errors.code : Errors → String
  | .CALLER_NOT_ONBEHALFOF_OR_IN_WHITELIST => "104"
  | .MATH_MULTIPLICATION_OVERFLOW => "200"
  | .MATH_DIVISION_BY_ZERO => "202"
  | .VL_INVALID_AMOUNT => "301"
  | .VL_NO_ACTIVE_RESERVE => "302"
  | .VL_RESERVE_FROZEN => "303"
  | .VL_NOT_ENOUGH_AVAILABLE_USER_BALANCE => "304"
  | .VL_BORROWING_NOT_ENABLED => "305"
  | .VL_COLLATERAL_BALANCE_IS_0 => "306"
  | .VL_HEALTH_FACTOR_LOWER_THAN_LIQUIDATION_THRESHOLD => "307"
  | .VL_COLLATERAL_CANNOT_COVER_NEW_BORROW => "308"
  | .VL_NO_DEBT_OF_SELECTED_TYPE => "309"
  | .VL_NO_ACTIVE_NFT => "310"
  | .VL_NFT_FROZEN => "311"
  | .VL_INVALID_ONBEHALFOF_ADDRESS => "314"
  | .VL_INVALID_TARGET_ADDRESS => "315"
  | .VL_INVALID_RESERVE_ADDRESS => "316"
  | .VL_SPECIFIED_LOAN_NOT_BORROWED_BY_USER => "317"
  | .VL_SPECIFIED_RESERVE_NOT_BORROWED_BY_USER => "318"
  | .LP_IS_PAUSED => "401"
  | .LP_NO_MORE_RESERVES_ALLOWED => "402"
  | .LP_NOT_CONTRACT => "403"
  | .LP_BORROW_NOT_EXCEED_LIQUIDATION_THRESHOLD => "404"
  | .LP_NO_MORE_NFTS_ALLOWED => "406"
  | .LP_INVALIED_USER_NFT_AMOUNT => "407"
  | .LP_NFT_IS_NOT_USED_AS_COLLATERAL => "409"
  | .LP_CALLER_MUST_BE_AN_CTOKEN => "410"
  | .LP_INVALIED_NFT_AMOUNT => "411"
  | .LP_NFT_HAS_USED_AS_COLLATERAL => "412"
  | .LP_AMOUNT_LESS_THAN_EXTRA_DEBT => "414"
  | .LP_AMOUNT_LESS_THAN_REDEEM_THRESHOLD => "415"
  | .LP_AMOUNT_GREATER_THAN_MAX_REPAY => "416"
  | .LPL_INVALID_LOAN_STATE => "480"
  | .LPL_INVALID_LOAN_AMOUNT => "481"
  | .LPL_INVALID_TAKEN_AMOUNT => "482"
  | .LPL_AMOUNT_OVERFLOW => "483"
  | .LPL_BUYITNOW_PRICE_LESS_THAN_LIQUIDATION_PRICE => "484"
  | .LPL_BUYITNOW_PRICE_LESS_THAN_HIGHEST_PRICE => "485"
  | .LPL_BUYITNOW_REDEEM_DURATION_HAS_END => "486"
  | .LPL_BUYITNOW_DURATION_HAS_END => "489"
  | .LPL_BUYITNOW_PRICE_LESS_THAN_BORROW => "491"
  | .LPL_INVALID_BUYITNOW_BUYER_ADDRESS => "492"
  | .LPL_INVALID_BUYITNOW_FINE => "494"
  | .LPL_BUYITNOW_DURATION_NOT_START => "495"
  | .CT_INVALID_MINT_AMOUNT => "501"
  | .CT_INVALID_BURN_AMOUNT => "502"
  | .CT_BORROW_ALLOWANCE_NOT_ENOUGH => "503"
  | .RL_RESERVE_ALREADY_INITIALIZED => "601"
  | .RL_LIQUIDITY_INDEX_OVERFLOW => "602"
  | .RL_VARIABLE_BORROW_INDEX_OVERFLOW => "603"
  | .RL_LIQUIDITY_RATE_OVERFLOW => "604"
  | .RL_VARIABLE_BORROW_RATE_OVERFLOW => "605"
  | .LPC_RESERVE_LIQUIDITY_NOT_0 => "700"
  | .LPC_INVALID_CONFIGURATION => "701"
  | .LPC_INVALIED_CNFT_ADDRESS => "703"
  | .LPC_NFT_LIQUIDITY_NOT_0 => "705"
  | .RC_INVALID_LTV => "730"
  | .RC_INVALID_LIQ_THRESHOLD => "731"
  | .RC_INVALID_LIQ_BONUS => "732"
  | .RC_INVALID_DECIMALS => "733"
  | .RC_INVALID_RESERVE_FACTOR => "734"
  | .RC_INVALID_REDEEM_DURATION => "735"
  | .RC_INVALID_BUYITNOW_DURATION => "736"
  | .RC_INVALID_REDEEM_FINE => "737"
  | .RC_INVALID_REDEEM_THRESHOLD => "738"
  | .RC_INVALID_MIN_BUYITNOW_FINE => "739"

inductive ERC20Fault
  | approveToZero
  | transferFromZero
  | transferToZero
  | transferExceedsBalance
  | transferExceedsAllowance
  | mintToZero
  | burnFromZero
  | burnExceedsBalance
  deriving DecidableEq, Repr

def ERC20Fault.text : ERC20Fault → String
  | .approveToZero => "ERC20: approve to the zero address"
  | .transferFromZero => "ERC20: transfer from the zero address"
  | .transferToZero => "ERC20: transfer to the zero address"
  | .transferExceedsBalance => "ERC20: transfer amount exceeds balance"
  | .transferExceedsAllowance => "ERC20: transfer amount exceeds allowance"
  | .mintToZero => "ERC20: mint to the zero address"
  | .burnFromZero => "ERC20: burn from the zero address"
  | .burnExceedsBalance => "ERC20: burn amount exceeds balance"

/-- Why a transaction was rolled back. An ERC-20 reason carries the token that
raised it and the account that was short. -/
inductive Revert
  | error (reason : Errors)
  | message (text : String)
  | panic
  | nonContract (target : Address)
  | erc20 (token holder : Address) (fault : ERC20Fault)
  deriving DecidableEq, Repr

/-- A set of reasons that all complain about a missing token balance. -/
def BalanceFault (bad : Revert → Prop) : Prop :=
  ∀ e, bad e → ∃ token holder,
    e = .erc20 token holder .transferExceedsBalance ∨ e = .erc20 token holder .burnExceedsBalance

namespace BalanceFault

variable {bad : Revert → Prop}

theorem panic (hbad : BalanceFault bad) : ¬bad .panic := fun h => by
  obtain ⟨_, _, h | h⟩ := hbad _ h <;> cases h

theorem error (hbad : BalanceFault bad) (reason : Errors) : ¬bad (.error reason) := fun h => by
  obtain ⟨_, _, h | h⟩ := hbad _ h <;> cases h

theorem message (hbad : BalanceFault bad) (text : String) : ¬bad (.message text) := fun h => by
  obtain ⟨_, _, h | h⟩ := hbad _ h <;> cases h

theorem nonContract (hbad : BalanceFault bad) (target : Address) : ¬bad (.nonContract target) :=
  fun h => by obtain ⟨_, _, h | h⟩ := hbad _ h <;> cases h

theorem erc20 (hbad : BalanceFault bad) {token holder : Address} {fault : ERC20Fault}
    (htransfer : fault ≠ .transferExceedsBalance) (hburn : fault ≠ .burnExceedsBalance) :
    ¬bad (.erc20 token holder fault) := fun h => by
  obtain ⟨_, _, h | h⟩ := hbad _ h
  · cases h
    exact htransfer rfl
  · cases h
    exact hburn rfl

end BalanceFault

end Confetti

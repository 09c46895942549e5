import Confetti.Configuration.ReserveConfiguration
import Confetti.Protocol.CToken
import Confetti.Protocol.DebtToken

/-! `ReserveLogic`: accrue the indexes, mint the treasury's share of the interest,
and store the rates that apply from the next second on. -/
namespace Confetti
open Outcome HalfUp

def ReserveData.accrued (self : ReserveData) (liquidityIndex variableBorrowIndex now : Nat) :
    ReserveData :=
  { self with liquidityIndex, variableBorrowIndex, lastUpdateTimestamp := uint40 now }

def ReserveData.withRates (self : ReserveData) (liquidityRate variableRate : Nat) : ReserveData :=
  { self with
    currentLiquidityRate := liquidityRate
    currentVariableBorrowRate := variableRate }

namespace ReserveLogic

/-- The treasury's percentage of the interest charged between two debt indexes. -/
def treasuryAmount (reserveFactor scaledVariableDebt previousVariableBorrowIndex
    newVariableBorrowIndex : Nat) : Except Revert Nat := do
  let previousVariableDebt ← rayMul scaledVariableDebt previousVariableBorrowIndex
  let currentVariableDebt ← rayMul scaledVariableDebt newVariableBorrowIndex
  let totalDebtAccrued ← Uint256.sub currentVariableDebt previousVariableDebt
  percentMul totalDebtAccrued reserveFactor

/-- `_mintToTreasury` -/
def mintToTreasury (cTokens : Address → CToken) (reserve : ReserveData)
    (scaledVariableDebt previousVariableBorrowIndex newLiquidityIndex
      newVariableBorrowIndex : Nat) : Except Revert (Address → CToken) :=
  let reserveFactor := reserve.configuration.getReserveFactor
  if reserveFactor = 0 then pure cTokens
  else do
    let amountToMint ← treasuryAmount reserveFactor scaledVariableDebt
      previousVariableBorrowIndex newVariableBorrowIndex
    if amountToMint ≠ 0 then
      CToken.mintToTreasury cTokens reserve.cTokenAddress amountToMint newLiquidityIndex
    else pure cTokens

def updateState (s : State) (asset : Address) : Except Revert State := do
  let reserve := s.pool.reserves asset
  let debtAsset ← State.debtTokenAt reserve.debtTokenAddress
  let scaledVariableDebt := (s.debtTokens debtAsset).ledger.totalSupply
  let updated ← updateIndexes reserve scaledVariableDebt reserve.liquidityIndex
    reserve.variableBorrowIndex reserve.lastUpdateTimestamp s.timestamp
  let cTokens ← mintToTreasury s.cTokens updated.1 scaledVariableDebt
    reserve.variableBorrowIndex updated.2.1 updated.2.2
  pure { s with pool := s.pool.setReserve asset updated.1, cTokens }

def updateInterestRates (s : State) (asset cTokenAddress : Address)
    (liquidityAdded liquidityTaken : Nat) : Except Revert State := do
  let reserve := s.pool.reserves asset
  let debtAsset ← State.debtTokenAt reserve.debtTokenAddress
  let totalVariableDebt ← rayMul (s.debtTokens debtAsset).ledger.totalSupply
    reserve.variableBorrowIndex
  let interestRate ← s.interestRateAt reserve.interestRateAddress
  let rates ← interestRate.calculateInterestRatesAfter ((s.erc20 asset).balances cTokenAddress)
    liquidityAdded liquidityTaken totalVariableDebt reserve.configuration.getReserveFactor
  require (rates.1 ≤ Uint128.max) (.error .RL_LIQUIDITY_RATE_OVERFLOW)
  require (rates.2 ≤ Uint128.max) (.error .RL_VARIABLE_BORROW_RATE_OVERFLOW)
  let updated := reserve.withRates (uint128 rates.1) (uint128 rates.2)
  pure { s with pool := s.pool.setReserve asset updated }

def init (reserve : ReserveData) (cTokenAddress debtTokenAddress interestRateAddress : Address) :
    Except Revert ReserveData := do
  require (reserve.cTokenAddress = .zero) (.error .RL_RESERVE_ALREADY_INITIALIZED)
  pure { reserve with
    liquidityIndex := RAY
    variableBorrowIndex := RAY
    cTokenAddress, debtTokenAddress, interestRateAddress }

variable {s s' : State} {asset cTokenAddress : Address} {added taken : Nat}

theorem updateState_eq_ok :
    updateState s asset = .ok s' ↔ ∃ debtAsset li vi cTokens,
      (s.pool.reserves asset).debtTokenAddress = .debtToken debtAsset ∧
        updatedLiquidityIndex (s.pool.reserves asset) s.timestamp = .ok li ∧
          updatedBorrowIndex (s.pool.reserves asset)
              (s.debtTokens debtAsset).ledger.totalSupply s.timestamp = .ok vi ∧
            mintToTreasury s.cTokens (s.pool.reserves asset)
                (s.debtTokens debtAsset).ledger.totalSupply
                (s.pool.reserves asset).variableBorrowIndex li vi = .ok cTokens ∧
              s' = { s with
                pool := s.pool.setReserve asset
                  ((s.pool.reserves asset).accrued li vi s.timestamp)
                cTokens } := by
  simp only [updateState, bind_eq_ok, State.debtTokenAt_eq_ok, pure_eq_ok]
  constructor
  · rintro ⟨debtAsset, hdebt, ⟨reserve, li, vi⟩, hindexes, cTokens, hmint, rfl⟩
    obtain ⟨hli, hvi, rfl⟩ := updateIndexes_eq_ok.mp hindexes
    exact ⟨debtAsset, li, vi, cTokens, hdebt, hli, hvi, hmint, rfl⟩
  · rintro ⟨debtAsset, li, vi, cTokens, hdebt, hli, hvi, hmint, rfl⟩
    exact ⟨debtAsset, hdebt, _, updateIndexes_eq_ok.mpr ⟨hli, hvi, rfl⟩, cTokens, hmint, rfl⟩

theorem updateInterestRates_eq_ok :
    updateInterestRates s asset cTokenAddress added taken = .ok s' ↔
      ∃ debtAsset debt interestRate rates,
        (s.pool.reserves asset).debtTokenAddress = .debtToken debtAsset ∧
          rayMul (s.debtTokens debtAsset).ledger.totalSupply
              (s.pool.reserves asset).variableBorrowIndex = .ok debt ∧
            s.interestRates (s.pool.reserves asset).interestRateAddress = some interestRate ∧
              interestRate.calculateInterestRatesAfter ((s.erc20 asset).balances cTokenAddress)
                  added taken debt (s.pool.reserves asset).configuration.getReserveFactor =
                .ok rates ∧
                rates.1 ≤ Uint128.max ∧ rates.2 ≤ Uint128.max ∧
                  s' = { s with
                    pool := s.pool.setReserve asset
                      ((s.pool.reserves asset).withRates rates.1 rates.2) } := by
  simp only [updateInterestRates, bind_eq_ok, State.debtTokenAt_eq_ok, require_eq_ok,
    exists_const, State.interestRateAt_eq_ok, pure_eq_ok]
  constructor
  · rintro ⟨debtAsset, hdebt, debt, hmul, interestRate, hrate, rates, hrates, hl, hv, rfl⟩
    rw [uint128_of_le hl, uint128_of_le hv]
    exact ⟨debtAsset, debt, interestRate, rates, hdebt, hmul, hrate, hrates, hl, hv, rfl⟩
  · rintro ⟨debtAsset, debt, interestRate, rates, hdebt, hmul, hrate, hrates, hl, hv, rfl⟩
    exact ⟨debtAsset, hdebt, debt, hmul, interestRate, hrate, rates, hrates, hl, hv,
      by rw [uint128_of_le hl, uint128_of_le hv]⟩

/-- The interest charged on a scaled debt between two debt indexes. -/
def interestCharged (scaledVariableDebt previousVariableBorrowIndex newVariableBorrowIndex : Nat) :
    Nat :=
  halfUp (scaledVariableDebt * newVariableBorrowIndex) RAY -
    halfUp (scaledVariableDebt * previousVariableBorrowIndex) RAY

/-- The scaled position that a percentage of the interest is worth at a liquidity index. -/
def treasuryShare (reserveFactor interest liquidityIndex : Nat) : Nat :=
  halfUp (halfUp (interest * reserveFactor) PERCENTAGE_FACTOR * RAY) liquidityIndex

theorem treasuryAmount_spec {reserveFactor scaled previous new amount : Nat}
    (h : treasuryAmount reserveFactor scaled previous new = .ok amount) :
    amount = halfUp (interestCharged scaled previous new * reserveFactor) PERCENTAGE_FACTOR := by
  simp only [treasuryAmount, bind_eq_ok, rayMul_eq_ok, Uint256.sub_eq_ok, percentMul_eq_ok] at h
  obtain ⟨_, ⟨-, rfl⟩, _, ⟨-, rfl⟩, _, ⟨-, rfl⟩, -, rfl⟩ := h
  rfl

theorem mintToTreasury_spec {cTokens cTokens' : Address → CToken} {reserve : ReserveData}
    {scaled previous li vi : Nat} (hcToken : reserve.cTokenAddress = .cToken asset)
    (h : mintToTreasury cTokens reserve scaled previous li vi = .ok cTokens') :
    cTokens' = Function.update cTokens asset ((cTokens asset).credited (cTokens asset).treasury
      (treasuryShare reserve.configuration.getReserveFactor (interestCharged scaled previous vi)
        li)) := by
  unfold mintToTreasury at h
  by_cases hfactor : reserve.configuration.getReserveFactor = 0
  · simp only [if_pos hfactor, pure_eq_ok] at h
    have hshare : treasuryShare reserve.configuration.getReserveFactor
        (interestCharged scaled previous vi) li = 0 := by simp [treasuryShare, hfactor]
    rw [hshare, CToken.credited_zero, Function.update_eq_self, h]
  · simp only [if_neg hfactor] at h
    obtain ⟨amount, hamount, h⟩ := bind_eq_ok.mp h
    have hvalue := treasuryAmount_spec hamount
    unfold treasuryShare
    rw [← hvalue]
    by_cases hzero : amount = 0
    · rw [if_neg (not_not.mpr hzero), pure_eq_ok] at h
      rw [hzero, Nat.zero_mul, halfUp_zero, CToken.credited_zero, Function.update_eq_self, h]
    · rw [if_pos hzero, hcToken] at h
      obtain ⟨minted, hminted, -, rfl⟩ := (CToken.mintToTreasury_eq_ok hzero).mp h
      obtain ⟨-, -, rfl⟩ := rayDiv_eq_ok.mp hminted
      rfl

theorem init_eq_ok {reserve reserve' : ReserveData} {cToken debtToken interestRate : Address} :
    init reserve cToken debtToken interestRate = .ok reserve' ↔
      reserve.cTokenAddress = .zero ∧ reserve' = { reserve with
        liquidityIndex := RAY
        variableBorrowIndex := RAY
        cTokenAddress := cToken
        debtTokenAddress := debtToken
        interestRateAddress := interestRate } := by
  simp only [init, bind_eq_ok, require_eq_ok, exists_const, pure_eq_ok]
  exact and_congr_right fun _ => eq_comm

section Faults

variable {bad : Revert → Prop}

theorem avoids_mintToTreasury (hbad : BalanceFault bad) (cTokens : Address → CToken)
    (reserve : ReserveData) (scaled previous li vi : Nat) :
    Avoids bad (mintToTreasury cTokens reserve scaled previous li vi) := by
  refine avoids_ite (fun _ => avoids_pure _) fun _ => ?_
  refine Avoids.bind ?_ fun _ _ => ?_
  · refine (avoids_rayMul hbad.panic hbad.error _ _).bind fun _ _ => ?_
    refine (avoids_rayMul hbad.panic hbad.error _ _).bind fun _ _ => ?_
    refine (Uint256.avoids_sub hbad.panic _ _).bind fun _ _ => ?_
    exact avoids_percentMul hbad.panic hbad.error _ _
  · exact avoids_ite (fun _ => CToken.avoids_mintToTreasury hbad) fun _ => avoids_pure _

theorem avoids_updateState (hbad : BalanceFault bad) (s : State) (asset : Address) :
    Avoids bad (updateState s asset) := by
  refine (DebtToken.avoids_debtTokenAt hbad _).bind fun _ _ => ?_
  refine (avoids_updateIndexes hbad.panic hbad.error _ _ _ _ _ _).bind fun _ _ => ?_
  exact (avoids_mintToTreasury hbad _ _ _ _ _ _).bind fun _ _ => avoids_pure _

theorem avoids_updateInterestRates (hbad : BalanceFault bad) (s : State)
    (asset cTokenAddress : Address) (added taken : Nat) :
    Avoids bad (updateInterestRates s asset cTokenAddress added taken) := by
  refine (DebtToken.avoids_debtTokenAt hbad _).bind fun _ _ => ?_
  refine (avoids_rayMul hbad.panic hbad.error _ _).bind fun _ _ => ?_
  refine Avoids.bind ?_ fun _ _ => ?_
  · unfold State.interestRateAt
    split
    · exact avoids_ok _
    · exact avoids_error (hbad.nonContract _)
  refine (InterestRate.avoids_calculateInterestRatesAfter _ hbad.panic hbad.error
    _ _ _ _ _).bind fun _ _ => ?_
  refine (avoids_require fun _ => hbad.error _).bind fun _ _ => ?_
  exact (avoids_require fun _ => hbad.error _).bind fun _ _ => avoids_pure _

end Faults

end ReserveLogic

end Confetti

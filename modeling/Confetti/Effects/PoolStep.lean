import Confetti.Protocol.LendPool

/-! What every operation of the pool has in common: it accrues the indexes of one
reserve, stores new rates for it, and leaves the outside world alone. -/
namespace Confetti
open Outcome HalfUp

/-- A listed reserve is wired to the proxies of its asset, and both indexes are at least
one ray and fit their slots. -/
structure ReserveData.Listed (asset : Address) (reserve : ReserveData) : Prop where
  cToken : reserve.cTokenAddress = .cToken asset
  debtToken : reserve.debtTokenAddress = .debtToken asset
  RAY_le_liquidityIndex : RAY ≤ reserve.liquidityIndex
  RAY_le_variableBorrowIndex : RAY ≤ reserve.variableBorrowIndex
  liquidityIndex_le : reserve.liquidityIndex ≤ Uint128.max
  variableBorrowIndex_le : reserve.variableBorrowIndex ≤ Uint128.max

/-- A reserve is either untouched or listed, and its clock fits the slot. -/
structure ReserveWired (asset : Address) (reserve : ReserveData) : Prop where
  clock : reserve.lastUpdateTimestamp < 2 ^ 40
  listed : (reserve.cTokenAddress = .zero ∧ reserve.debtTokenAddress = .zero) ∨
    reserve.Listed asset

structure Wired (s : State) : Prop where
  reserve : ∀ asset, ReserveWired asset (s.pool.reserves asset)
  nft : ∀ asset, (s.pool.nfts asset).cNFTAddress = .zero ∨
    (s.pool.nfts asset).cNFTAddress = .cNFT asset
  proxy : ∀ asset, s.cNFTProxys asset = .zero ∨ s.cNFTProxys asset = .cNFT asset

theorem ReserveWired.of_cToken {asset : Address} {reserve : ReserveData}
    (h : ReserveWired asset reserve) (hcToken : reserve.cTokenAddress ≠ .zero) :
    reserve.Listed asset := h.listed.resolve_left fun hzero => hcToken hzero.1

theorem ReserveWired.of_cTokenAt {asset other : Address} {reserve : ReserveData}
    (h : ReserveWired asset reserve) (hcToken : State.cTokenAt reserve.cTokenAddress = .ok other) :
    asset = other := by
  have haddress := State.cTokenAt_eq_ok.mp hcToken
  have hlisted : reserve.Listed asset := by
    apply h.of_cToken
    rw [haddress]
    exact fun hzero => by cases hzero
  exact Address.cToken.inj (hlisted.cToken.symm.trans haddress)

theorem ReserveWired.of_debtToken {asset other : Address} {reserve : ReserveData}
    (h : ReserveWired asset reserve) (hdebt : reserve.debtTokenAddress = .debtToken other) :
    other = asset ∧ reserve.Listed asset := by
  rcases h.listed with ⟨-, hzero⟩ | hlisted
  · rw [hzero] at hdebt
    cases hdebt
  · rw [hlisted.debtToken] at hdebt
    cases hdebt
    exact ⟨rfl, hlisted⟩

theorem ReserveWired.reconfigured {asset : Address} {reserve : ReserveData}
    (h : ReserveWired asset reserve) (configuration : ReserveConfigurationMap)
    (interestRateAddress : Address) (id : Nat) :
    ReserveWired asset { reserve with configuration, interestRateAddress, id } := by
  refine ⟨h.clock, ?_⟩
  rcases h.listed with hzero | hlisted
  · exact .inl hzero
  · exact .inr ⟨hlisted.cToken, hlisted.debtToken, hlisted.RAY_le_liquidityIndex,
      hlisted.RAY_le_variableBorrowIndex, hlisted.liquidityIndex_le,
      hlisted.variableBorrowIndex_le⟩

theorem Wired.nft_of_ne {s : State} (h : Wired s) {asset : Address}
    (hne : (s.pool.nfts asset).cNFTAddress ≠ .zero) :
    (s.pool.nfts asset).cNFTAddress = .cNFT asset := (h.nft asset).resolve_left hne

structure SameWorld (s s' : State) : Prop where
  timestamp : s'.timestamp = s.timestamp
  interestRates : s'.interestRates = s.interestRates
  reserveOracle : s'.reserveOracle = s.reserveOracle
  nftOracle : s'.nftOracle = s.nftOracle
  cNFTProxys : s'.cNFTProxys = s.cNFTProxys
  accounts : s'.accounts = s.accounts

def State.accrued (s : State) (asset : Address) (li vi : Nat) (cTokens : Address → CToken) : State :=
  { s with
    pool := s.pool.setReserve asset ((s.pool.reserves asset).accrued li vi s.timestamp)
    cTokens }

structure Accrual (s : State) (asset : Address) (li vi : Nat) (cTokens : Address → CToken) :
    Prop where
  listed : (s.pool.reserves asset).Listed asset
  liquidityIndex : ReserveLogic.updatedLiquidityIndex (s.pool.reserves asset) s.timestamp = .ok li
  variableBorrowIndex : ReserveLogic.updatedBorrowIndex (s.pool.reserves asset)
    (s.debtTokens asset).ledger.totalSupply s.timestamp = .ok vi
  treasury : ReserveLogic.mintToTreasury s.cTokens (s.pool.reserves asset)
    (s.debtTokens asset).ledger.totalSupply (s.pool.reserves asset).variableBorrowIndex li vi =
      .ok cTokens

variable {s s₁ s' : State} {asset asset' : Address} {li vi : Nat} {cTokens : Address → CToken}

theorem updateState_iff (hw : Wired s) :
    ReserveLogic.updateState s asset = .ok s₁ ↔
      ∃ li vi cTokens, Accrual s asset li vi cTokens ∧ s₁ = s.accrued asset li vi cTokens := by
  rw [ReserveLogic.updateState_eq_ok]
  constructor
  · rintro ⟨debtAsset, li, vi, cTokens, hdebt, hli, hvi, hmint, rfl⟩
    obtain ⟨rfl, hlisted⟩ := (hw.reserve asset).of_debtToken hdebt
    exact ⟨li, vi, cTokens, ⟨hlisted, hli, hvi, hmint⟩, rfl⟩
  · rintro ⟨li, vi, cTokens, h, rfl⟩
    exact ⟨asset, li, vi, cTokens, h.listed.debtToken, h.liquidityIndex, h.variableBorrowIndex,
      h.treasury, rfl⟩

theorem Accrual.RAY_le (h : Accrual s asset li vi cTokens) : RAY ≤ vi :=
  h.listed.RAY_le_variableBorrowIndex.trans
    (ReserveLogic.le_updatedBorrowIndex h.variableBorrowIndex)

theorem Accrual.accrued_listed (h : Accrual s asset li vi cTokens) (now : Nat) :
    ((s.pool.reserves asset).accrued li vi now).Listed asset where
  cToken := h.listed.cToken
  debtToken := h.listed.debtToken
  RAY_le_liquidityIndex := h.listed.RAY_le_liquidityIndex.trans
    (ReserveLogic.le_updatedLiquidityIndex h.liquidityIndex)
  RAY_le_variableBorrowIndex := h.RAY_le
  liquidityIndex_le := ReserveLogic.updatedLiquidityIndex_le h.listed.liquidityIndex_le
    h.liquidityIndex
  variableBorrowIndex_le := ReserveLogic.updatedBorrowIndex_le h.listed.variableBorrowIndex_le
    h.variableBorrowIndex

@[simp] theorem accrued_reserve :
    (s.accrued asset li vi cTokens).pool.reserves asset =
      (s.pool.reserves asset).accrued li vi s.timestamp := by
  simp [State.accrued]

@[simp] theorem accrued_liquidityIndex :
    ((s.accrued asset li vi cTokens).pool.reserves asset).liquidityIndex = li := by
  rw [accrued_reserve]
  rfl

@[simp] theorem accrued_variableBorrowIndex :
    ((s.accrued asset li vi cTokens).pool.reserves asset).variableBorrowIndex = vi := by
  rw [accrued_reserve]
  rfl

theorem Accrual.accrued_cToken (h : Accrual s asset li vi cTokens) :
    ((s.accrued asset li vi cTokens).pool.reserves asset).cTokenAddress = .cToken asset := by
  rw [accrued_reserve]
  exact h.listed.cToken

theorem Accrual.accrued_debtToken (h : Accrual s asset li vi cTokens) :
    ((s.accrued asset li vi cTokens).pool.reserves asset).debtTokenAddress = .debtToken asset := by
  rw [accrued_reserve]
  exact h.listed.debtToken

theorem accrued_configuration :
    ((s.accrued asset li vi cTokens).pool.reserves asset').configuration =
      (s.pool.reserves asset').configuration := by
  by_cases hother : asset' = asset
  · subst hother
    rw [accrued_reserve]
    rfl
  · simp [State.accrued, hother]

theorem accrued_interestRateAddress :
    ((s.accrued asset li vi cTokens).pool.reserves asset').interestRateAddress =
      (s.pool.reserves asset').interestRateAddress := by
  by_cases hother : asset' = asset
  · subst hother
    rw [accrued_reserve]
    rfl
  · simp [State.accrued, hother]

theorem accrued_withRates (liquidityRate variableRate : Nat) :
    (s.accrued asset li vi cTokens).pool.setReserve asset
        (((s.accrued asset li vi cTokens).pool.reserves asset).withRates liquidityRate
          variableRate) =
      s.pool.setReserve asset
        (((s.pool.reserves asset).accrued li vi s.timestamp).withRates liquidityRate
          variableRate) := by
  simp [State.accrued]

theorem getNormalizedDebt_accrued (reserve : ReserveData) (now : Nat) :
    ReserveLogic.getNormalizedDebt (reserve.accrued li vi now) now = .ok vi := by
  simp [ReserveLogic.getNormalizedDebt, ReserveData.accrued, pure, Except.pure]

theorem borrowAmount_accrued (loan : LoanData) (hasset : loan.reserveAsset = asset) :
    LendPoolLoan.borrowAmount (s.accrued asset li vi cTokens) loan =
      rayMul loan.scaledAmount vi := by
  unfold LendPoolLoan.borrowAmount
  by_cases hzero : loan.scaledAmount = 0
  · rw [if_pos hzero, hzero, rayMul_zero_left]
    rfl
  · rw [if_neg hzero, hasset, accrued_reserve]
    change (ReserveLogic.getNormalizedDebt _ s.timestamp >>= _) = _
    rw [getNormalizedDebt_accrued, ok_bind]

structure PoolStep (s : State) (asset : Address) (li vi : Nat) (s' : State) : Prop where
  world : SameWorld s s'
  accrual : ∃ cTokens, Accrual s asset li vi cTokens
  pool : ∃ liquidityRate variableRate, s'.pool = s.pool.setReserve asset
    (((s.pool.reserves asset).accrued li vi s.timestamp).withRates liquidityRate variableRate)

def State.nextBorrowIndex (s : State) (asset : Address) : Except Revert Nat :=
  ReserveLogic.updatedBorrowIndex (s.pool.reserves asset) (s.debtTokens asset).scaledTotalSupply
    s.timestamp

theorem PoolStep.next (h : PoolStep s asset li vi s') : s.nextBorrowIndex asset = .ok vi := by
  obtain ⟨_, haccrual⟩ := h.accrual
  exact haccrual.variableBorrowIndex

theorem PoolStep.borrowAmount (h : PoolStep s asset li vi s') (loan : LoanData)
    (hasset : loan.reserveAsset = asset) :
    LendPoolLoan.borrowAmount s' loan = rayMul loan.scaledAmount vi := by
  obtain ⟨liquidityRate, variableRate, hpool⟩ := h.pool
  have hreserve : s'.pool.reserves asset = ((s.pool.reserves asset).accrued li vi
      s.timestamp).withRates liquidityRate variableRate := by
    rw [hpool, LendPoolStorage.setReserve_reserves, Function.update_self]
  have hindex : ReserveLogic.getNormalizedDebt (s'.pool.reserves asset) s'.timestamp =
      .ok vi := by
    rw [hreserve, h.world.timestamp]
    simp [ReserveLogic.getNormalizedDebt, ReserveData.accrued, ReserveData.withRates, pure,
      Except.pure]
  unfold LendPoolLoan.borrowAmount
  by_cases hzero : loan.scaledAmount = 0
  · rw [if_pos hzero, hzero, rayMul_zero_left]
    rfl
  · rw [if_neg hzero, hasset, hindex, ok_bind]

theorem PoolStep.RAY_le (h : PoolStep s asset li vi s') : RAY ≤ vi :=
  h.accrual.elim fun _ ha => ha.RAY_le

theorem PoolStep.nfts (h : PoolStep s asset li vi s') : s'.pool.nfts = s.pool.nfts := by
  obtain ⟨_, _, hpool⟩ := h.pool
  rw [hpool, LendPoolStorage.setReserve_nfts]

theorem PoolStep.paused (h : PoolStep s asset li vi s') : s'.pool.paused = s.pool.paused := by
  obtain ⟨_, _, hpool⟩ := h.pool
  rw [hpool, LendPoolStorage.setReserve_paused]

theorem PoolStep.view_eq {β : Type} (view : ReserveData → β)
    (hview : ∀ (reserve : ReserveData) (now liquidityRate variableRate : Nat),
      view ((reserve.accrued li vi now).withRates liquidityRate variableRate) = view reserve)
    (h : PoolStep s asset li vi s') (other : Address) :
    view (s'.pool.reserves other) = view (s.pool.reserves other) := by
  obtain ⟨_, _, hpool⟩ := h.pool
  rw [hpool, LendPoolStorage.setReserve_reserves]
  by_cases hother : other = asset
  · subst hother
    rw [Function.update_self]
    exact hview _ _ _ _
  · rw [Function.update_of_ne hother]

theorem PoolStep.configuration (h : PoolStep s asset li vi s') (other : Address) :
    (s'.pool.reserves other).configuration = (s.pool.reserves other).configuration :=
  h.view_eq ReserveData.configuration (fun _ _ _ _ => rfl) other

theorem PoolStep.cTokenAddress (h : PoolStep s asset li vi s') (other : Address) :
    (s'.pool.reserves other).cTokenAddress = (s.pool.reserves other).cTokenAddress :=
  h.view_eq ReserveData.cTokenAddress (fun _ _ _ _ => rfl) other

theorem PoolStep.wired (h : PoolStep s asset li vi s') (hw : Wired s) : Wired s' where
  reserve := by
    intro other
    obtain ⟨_, ha⟩ := h.accrual
    obtain ⟨_, _, hpool⟩ := h.pool
    rw [hpool, LendPoolStorage.setReserve_reserves]
    by_cases hother : other = asset
    · subst hother
      rw [Function.update_self]
      exact ⟨uint40_lt s.timestamp, .inr
        ⟨ha.listed.cToken, ha.listed.debtToken, (ha.accrued_listed 0).RAY_le_liquidityIndex,
          ha.RAY_le, (ha.accrued_listed 0).liquidityIndex_le,
          (ha.accrued_listed 0).variableBorrowIndex_le⟩⟩
    · rw [Function.update_of_ne hother]
      exact hw.reserve other
  nft := by
    rw [h.nfts]
    exact hw.nft
  proxy := by
    rw [h.world.cNFTProxys]
    exact hw.proxy

end Confetti

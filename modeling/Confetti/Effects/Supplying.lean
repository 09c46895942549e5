import Confetti.Effects.LoanBook

/-! What a successful deposit and a successful withdrawal do to loans, debts and cash. -/
namespace Confetti
open Outcome SupplyLogic

/-- The depositors' side of a reserve moves cash and leaves every loan alone. -/
structure SupplyEffect (s : State) (asset : Address) (li vi : Nat)
    (program : ERC20 → Except Revert ERC20) (events : List Transfer) (s' : State) : Prop where
  step : PoolStep s asset li vi s'
  book : BookUnchanged s s'
  debtTokens : s'.debtTokens = s.debtTokens
  cash : Cash s asset program events s'

variable {s s' : State} {asset cTokenAddress : Address} {li vi added taken : Nat}

private theorem rates_frame {cTokens : Address → CToken} {s₂ : State}
    (h : ReserveLogic.updateInterestRates (s.accrued asset li vi cTokens) asset cTokenAddress added
      taken = .ok s₂) :
    ∃ liquidityRate variableRate, s₂ = { s.accrued asset li vi cTokens with
      pool := s.pool.setReserve asset
        (((s.pool.reserves asset).accrued li vi s.timestamp).withRates liquidityRate
          variableRate) } := by
  obtain ⟨_, _, _, rates, -, -, -, -, -, -, rfl⟩ := ReserveLogic.updateInterestRates_eq_ok.mp h
  refine ⟨rates.1, rates.2, ?_⟩
  rw [accrued_withRates]

theorem deposit_parts {p : ExecuteDepositParams} (hw : Wired s)
    (h : executeDeposit s p = .ok s') :
    ∃ li vi cTokens s₂ s₃ minted, Accrual s p.asset li vi cTokens ∧
      ReserveLogic.updateInterestRates (s.accrued p.asset li vi cTokens) p.asset (.cToken p.asset)
        p.amount 0 = .ok s₂ ∧
      s₂.safeTransferFrom p.asset .lendPool p.initiator (.cToken p.asset) p.amount = .ok s₃ ∧
      CToken.mint s₃.cTokens (.cToken p.asset) p.onBehalfOf p.amount
        (s₃.pool.reserves p.asset).liquidityIndex = .ok minted ∧
      s' = { s₃ with cTokens := minted } := by
  simp only [executeDeposit, bind_eq_ok, updateState_iff hw, pure_eq_ok] at h
  obtain ⟨_, -, _, -, _, -, _, ⟨li, vi, cTokens, haccrual, rfl⟩, s₂, hrates, s₃, hcash, minted,
    hminted, rfl⟩ := h
  rw [haccrual.listed.cToken] at hrates hcash hminted
  exact ⟨li, vi, cTokens, s₂, s₃, minted, haccrual, hrates, hcash, hminted, rfl⟩

theorem deposit_effect {p : ExecuteDepositParams} (hw : Wired s)
    (h : executeDeposit s p = .ok s') :
    ∃ li vi, SupplyEffect s p.asset li vi
      (fun token => ERC20.transferFrom p.asset token .lendPool p.initiator (.cToken p.asset) p.amount)
      [⟨p.asset, p.initiator, .cToken p.asset, p.amount⟩] s' := by
  obtain ⟨li, vi, cTokens, s₂, s₃, minted, haccrual, hrates, hcash, -, rfl⟩ := deposit_parts hw h
  obtain ⟨lr, vr, rfl⟩ := rates_frame hrates
  obtain ⟨token, hpaid, rfl⟩ := State.safeTransferFrom_eq_ok.mp hcash
  exact ⟨li, vi, ⟨⟨rfl, rfl, rfl, rfl, rfl, rfl⟩, ⟨cTokens, haccrual⟩, lr, vr, rfl⟩,
    ⟨rfl, rfl, rfl⟩, rfl, ⟨token, hpaid, rfl⟩, rfl⟩

/-- The rate strategy of a reserve accepts that an amount is taken at a debt index. -/
def RatesAllow (s : State) (asset : Address) (vi taken liquidityRate variableRate : Nat) : Prop :=
  ∃ debt interestRate, rayMul (s.debtTokens asset).ledger.totalSupply vi = .ok debt ∧
    s.interestRates (s.pool.reserves asset).interestRateAddress = some interestRate ∧
      interestRate.calculateInterestRatesAfter ((s.erc20 asset).balances (.cToken asset)) 0 taken
          debt (s.pool.reserves asset).configuration.getReserveFactor =
        .ok (liquidityRate, variableRate) ∧
        liquidityRate ≤ Uint128.max ∧ variableRate ≤ Uint128.max

structure Withdrawal (s : State) (p : ExecuteWithdrawParams) (balance amount li vi : Nat)
    (cTokens : Address → CToken) (scaled liquidityRate variableRate : Nat) (token : ERC20) :
    Prop where
  recipient : p.recipient ≠ .zero
  balance_eq : CToken.balanceOf s (.cToken p.asset) p.initiator = .ok balance
  amount_eq : amount = if p.amount = Uint256.max then balance else p.amount
  amount_ne : amount ≠ 0
  amount_le : amount ≤ balance
  active : (s.pool.reserves p.asset).configuration.getFlags.1 = true
  accrual : Accrual s p.asset li vi cTokens
  rates : RatesAllow s p.asset vi amount liquidityRate variableRate
  scaled_eq : rayDiv amount li = .ok scaled
  scaled_ne : scaled ≠ 0
  burned : (cTokens p.asset).Burnable p.initiator scaled
  paid : ERC20.transfer p.asset (s.erc20 p.asset) (.cToken p.asset) p.recipient amount = .ok token

def afterWithdrawal (s : State) (p : ExecuteWithdrawParams) (amount li vi : Nat)
    (cTokens : Address → CToken) (scaled liquidityRate variableRate : Nat) (token : ERC20) :
    State :=
  { s with
    pool := s.pool.setReserve p.asset
      (((s.pool.reserves p.asset).accrued li vi s.timestamp).withRates liquidityRate variableRate)
    cTokens := Function.update cTokens p.asset ((cTokens p.asset).debited p.initiator scaled)
    erc20 := Function.update s.erc20 p.asset token
    transfers := ⟨p.asset, .cToken p.asset, p.recipient, amount⟩ :: s.transfers }

theorem updateInterestRates_accrued {cTokens : Address → CToken} {s₂ : State}
    (ha : Accrual s asset li vi cTokens) :
    ReserveLogic.updateInterestRates (s.accrued asset li vi cTokens) asset (.cToken asset) 0 taken =
        .ok s₂ ↔
      ∃ lr vr, RatesAllow s asset vi taken lr vr ∧ s₂ = { s.accrued asset li vi cTokens with
        pool := s.pool.setReserve asset
          (((s.pool.reserves asset).accrued li vi s.timestamp).withRates lr vr) } := by
  rw [ReserveLogic.updateInterestRates_eq_ok]
  simp only [ha.accrued_debtToken, accrued_variableBorrowIndex, accrued_configuration,
    accrued_interestRateAddress, Address.debtToken.injEq, RatesAllow,
    accrued_withRates]
  constructor
  · rintro ⟨_, debt, interestRate, ⟨lr, vr⟩, rfl, hdebt, hrate, hnew, hlr, hvr, rfl⟩
    exact ⟨lr, vr, ⟨debt, interestRate, hdebt, hrate, hnew, hlr, hvr⟩, rfl⟩
  · rintro ⟨lr, vr, ⟨debt, interestRate, hdebt, hrate, hnew, hlr, hvr⟩, rfl⟩
    exact ⟨asset, debt, interestRate, (lr, vr), rfl, hdebt, hrate, hnew, hlr, hvr, rfl⟩

theorem executeWithdraw_eq_ok {p : ExecuteWithdrawParams} {withdrawn : Nat} (hw : Wired s) :
    executeWithdraw s p = .ok (s', withdrawn) ↔
      ∃ balance li vi cTokens scaled lr vr token,
        Withdrawal s p balance withdrawn li vi cTokens scaled lr vr token ∧
          s' = afterWithdrawal s p withdrawn li vi cTokens scaled lr vr token := by
  simp only [executeWithdraw, ValidationLogic.validateWithdraw_eq_ok, bind_eq_ok, require_eq_ok,
    exists_const, updateState_iff hw, pure_eq_ok, Prod.mk.injEq]
  constructor
  · rintro ⟨hrecipient, -, balance, hbalance, ⟨hne, hle, hactive⟩, _,
      ⟨li, vi, cTokens, haccrual, rfl⟩, s₂, hrates, s₃, hburn, rfl, rfl⟩
    rw [haccrual.listed.cToken] at hbalance hrates hburn
    obtain ⟨lr, vr, hallow, rfl⟩ := (updateInterestRates_accrued haccrual).mp hrates
    obtain ⟨own, scaled, token, hown, hscaled, hscaledNe, hburned, hpaid, rfl⟩ :=
      CToken.burn_eq_ok.mp hburn
    obtain rfl : p.asset = own := Address.cToken.inj hown
    simp only [LendPoolStorage.setReserve_reserves, Function.update_self] at hscaled
    exact ⟨balance, li, vi, cTokens, scaled, lr, vr, token, ⟨hrecipient, hbalance, rfl, hne, hle,
      hactive, haccrual, hallow, hscaled, hscaledNe, hburned, hpaid⟩, rfl⟩
  · rintro ⟨balance, li, vi, cTokens, scaled, lr, vr, token, h, rfl⟩
    have hlisted := h.accrual.listed.cToken
    obtain rfl := h.amount_eq
    rw [hlisted]
    have hrates := (updateInterestRates_accrued h.accrual).mpr ⟨lr, vr, h.rates, rfl⟩
    refine ⟨h.recipient, by simp, balance, h.balance_eq, ⟨h.amount_ne, h.amount_le, h.active⟩,
      _, ⟨li, vi, cTokens, h.accrual, rfl⟩, _, hrates, _, CToken.burn_eq_ok.mpr
        ⟨p.asset, scaled, token, rfl, ?_, h.scaled_ne, h.burned, h.paid, rfl⟩, rfl, rfl⟩
    simp only [LendPoolStorage.setReserve_reserves, Function.update_self]
    exact h.scaled_eq

theorem withdraw_effect {p : ExecuteWithdrawParams} {withdrawn : Nat} (hw : Wired s)
    (h : executeWithdraw s p = .ok (s', withdrawn)) :
    ∃ li vi, SupplyEffect s p.asset li vi
      (fun token => ERC20.transfer p.asset token (.cToken p.asset) p.recipient withdrawn)
      [⟨p.asset, .cToken p.asset, p.recipient, withdrawn⟩] s' := by
  obtain ⟨_, li, vi, cTokens, _, lr, vr, token, hwithdrawal, rfl⟩ :=
    (executeWithdraw_eq_ok hw).mp h
  exact ⟨li, vi, ⟨⟨rfl, rfl, rfl, rfl, rfl, rfl⟩, ⟨cTokens, hwithdrawal.accrual⟩, lr, vr, rfl⟩,
    ⟨rfl, rfl, rfl⟩, rfl, ⟨token, hwithdrawal.paid, rfl⟩, rfl⟩

end Confetti

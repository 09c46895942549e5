import Confetti.Effects.Steps

/-! What users' calls do to the depositors' positions, and to debts and delegated credit. -/
namespace Confetti
open Outcome

/-- Beside the treasury's share, a deposit mints and a withdrawal burns. -/
inductive DepositorsMove (call : UserCall) (asset : Address) (li : Nat)
    (cTokens : Address → CToken) (s' : State) : Prop
  | kept (h : s'.cTokens = cTokens)
  | minted {n amount scaled : Nat} {onBehalfOf : Address}
      (hcall : call = .deposit n asset amount onBehalfOf)
      (hscaled : rayDiv amount li = .ok scaled) (hne : scaled ≠ 0)
      (h : s'.cTokens = Function.update cTokens asset
        ((cTokens asset).credited onBehalfOf scaled))
  | burned {n amount withdrawn scaled : Nat} {recipient : Address}
      (hcall : call = .withdraw n asset amount recipient)
      (hscaled : rayDiv withdrawn li = .ok scaled)
      (h : s'.cTokens = Function.update cTokens asset
        ((cTokens asset).debited (.account n) scaled))

variable {s s' : State} {asset user : Address} {li vi : Nat} {cTokens : Address → CToken}

theorem Accrual.balance_eq (ha : Accrual s asset li vi cTokens)
    (htreasury : user ≠ (s.cTokens asset).treasury) (other : Address) :
    (cTokens other).ledger.balances user = (s.cTokens other).ledger.balances user := by
  rw [ReserveLogic.mintToTreasury_spec ha.listed.cToken ha.treasury, Function.update_apply]
  split
  · rename_i heq
    rw [heq]
    exact Function.update_of_ne htreasury _ _
  · rfl

theorem Accrual.treasury_eq (ha : Accrual s asset li vi cTokens) (other : Address) :
    (cTokens other).treasury = (s.cTokens other).treasury := by
  rw [ReserveLogic.mintToTreasury_spec ha.listed.cToken ha.treasury, Function.update_apply]
  split
  · rename_i heq
    rw [heq]
    rfl
  · rfl

theorem deposit_positions {p : ExecuteDepositParams} (hw : Wired s)
    (h : SupplyLogic.executeDeposit s p = .ok s') :
    ∃ li vi cTokens scaled, Accrual s p.asset li vi cTokens ∧ rayDiv p.amount li = .ok scaled ∧
      scaled ≠ 0 ∧ s'.cTokens = Function.update cTokens p.asset
        ((cTokens p.asset).credited p.onBehalfOf scaled) := by
  obtain ⟨li, vi, cTokens, s₂, s₃, minted, haccrual, hrates, hcash, hmint, rfl⟩ :=
    deposit_parts hw h
  obtain ⟨_, _, _, rates, -, -, -, -, -, -, rfl⟩ :=
    ReserveLogic.updateInterestRates_eq_ok.mp hrates
  obtain ⟨token, -, rfl⟩ := State.safeTransferFrom_eq_ok.mp hcash
  obtain ⟨own, scaled, hcToken, hscaled, hne, rfl⟩ := CToken.mint_spec hmint
  obtain rfl := Address.cToken.inj hcToken
  refine ⟨li, vi, cTokens, scaled, haccrual, ?_, hne, rfl⟩
  rw [← hscaled]
  simp [ReserveData.withRates, ReserveData.accrued]

theorem withdraw_positions {p : ExecuteWithdrawParams} {withdrawn : Nat} (hw : Wired s)
    (h : SupplyLogic.executeWithdraw s p = .ok (s', withdrawn)) :
    ∃ li vi cTokens scaled balance, Accrual s p.asset li vi cTokens ∧
      CToken.balanceOf s (.cToken p.asset) p.initiator = .ok balance ∧
        withdrawn = (if p.amount = Uint256.max then balance else p.amount) ∧
          rayDiv withdrawn li = .ok scaled ∧
            scaled ≤ (cTokens p.asset).ledger.balances p.initiator ∧
              s'.cTokens = Function.update cTokens p.asset
                ((cTokens p.asset).debited p.initiator scaled) := by
  obtain ⟨balance, li, vi, cTokens, scaled, lr, vr, token, hwithdrawal, rfl⟩ :=
    (executeWithdraw_eq_ok hw).mp h
  exact ⟨li, vi, cTokens, scaled, balance, hwithdrawal.accrual, hwithdrawal.balance_eq,
    hwithdrawal.amount_eq, hwithdrawal.scaled_eq, hwithdrawal.burned.2.1, rfl⟩

theorem borrow_positions {p : ExecuteBorrowParams} (hw : Wired s)
    (h : BorrowLogic.borrow s p = .ok s') :
    ∃ li vi cTokens, Accrual s p.asset li vi cTokens ∧ s'.cTokens = cTokens ∧
      DebtToken.mint s.debtTokens (.debtToken p.asset) p.initiator p.onBehalfOf p.amount vi =
        .ok s'.debtTokens := by
  obtain ⟨li, vi, cTokens, s₂, debtTokens, s₃, haccrual, ⟨_, _, _, rfl⟩, hmint, hrates, hpay⟩ :=
    borrow_parts hw h
  obtain ⟨_, token, -, -, rfl⟩ := CToken.transferUnderlyingTo_eq_ok.mp hpay
  obtain ⟨_, _, _, rates, -, -, -, -, -, -, rfl⟩ :=
    ReserveLogic.updateInterestRates_eq_ok.mp hrates
  exact ⟨li, vi, cTokens, haccrual, rfl, hmint⟩

theorem repay_positions {p : ExecuteRepayParams} {r : Nat × Bool} (hw : Wired s)
    (h : BorrowLogic.repay s p = .ok (s', r)) :
    ∃ li vi, Accrual s (s.loanOf p.nftAsset p.nftTokenId).reserveAsset li vi s'.cTokens := by
  obtain ⟨li, vi, cTokens, s₂, debtTokens, s₃, s₄, haccrual, ⟨_, _, _, rfl⟩, hrates, hcash, hgiven⟩ :=
    repay_parts hw h
  obtain ⟨_, _, _, rates, -, -, -, -, -, -, rfl⟩ :=
    ReserveLogic.updateInterestRates_eq_ok.mp hrates
  obtain ⟨token, -, rfl⟩ := State.safeTransferFrom_eq_ok.mp hcash
  obtain ⟨_, _, _, rfl⟩ := hgiven
  exact ⟨li, vi, haccrual⟩

theorem buyItNow_positions {p : ExecuteBuyItNowParams} (hw : Wired s)
    (h : LiquidateLogic.executeBuyItNow s p = .ok s') :
    ∃ li vi, Accrual s (s.loanOf p.nftAsset p.nftTokenId).reserveAsset li vi s'.cTokens := by
  simp only [LiquidateLogic.executeBuyItNow, bind_eq_ok, updateState_iff hw] at h
  simp only [getCollateralLoanId_eq, getLoan_eq_loanOf] at h
  obtain ⟨_, -, _, -, _, -, _, ⟨li, vi, cTokens, haccrual, rfl⟩, _, -, _, -, s₃, hbook, s₄, hcash,
    hrates⟩ := h
  obtain ⟨_, _, _, rates, -, -, -, -, -, -, rfl⟩ :=
    ReserveLogic.updateInterestRates_eq_ok.mp hrates
  obtain ⟨token, -, rfl⟩ := State.safeTransferFrom_eq_ok.mp hcash
  obtain ⟨-, rfl⟩ := LendPoolLoan.buyItNowLoan_spec hbook
  exact ⟨li, vi, haccrual⟩

theorem depositors_move (hw : Wired s) (hf : Filed s) {call : UserCall}
    (hpool : call.entersPool = true) (h : call.run s = .ok s') :
    ∃ asset li vi cTokens, Accrual s asset li vi cTokens ∧
      DepositorsMove call asset li cTokens s' := by
  cases call with
  | deposit caller asset amount onBehalfOf =>
    obtain ⟨li, vi, cTokens, scaled, haccrual, hscaled, hne, hcTokens⟩ :=
      deposit_positions hw (LendPool.of_whenNotPaused h)
    exact ⟨asset, li, vi, cTokens, haccrual, .minted rfl hscaled hne hcTokens⟩
  | withdraw caller asset amount recipient =>
    obtain ⟨⟨_, _⟩, h, rfl⟩ := map_eq_ok.mp h
    obtain ⟨li, vi, cTokens, scaled, _, haccrual, -, -, hscaled, -, hcTokens⟩ :=
      withdraw_positions hw (LendPool.of_whenNotPaused h)
    exact ⟨asset, li, vi, cTokens, haccrual, .burned rfl hscaled hcTokens⟩
  | borrow caller asset amount nftAsset nftTokenId onBehalfOf =>
    obtain ⟨li, vi, cTokens, haccrual, hcTokens, -⟩ :=
      borrow_positions hw (LendPool.of_whenNotPaused h)
    exact ⟨asset, li, vi, cTokens, haccrual, .kept hcTokens⟩
  | repay caller nftAsset nftTokenId amount =>
    obtain ⟨⟨_, _⟩, h, rfl⟩ := map_eq_ok.mp h
    obtain ⟨li, vi, haccrual⟩ := repay_positions hw (LendPool.of_whenNotPaused h)
    exact ⟨_, li, vi, _, haccrual, .kept rfl⟩
  | buyItNow caller nftAsset nftTokenId buyItNowPrice onBehalfOf =>
    obtain ⟨li, vi, haccrual⟩ := buyItNow_positions hw (LendPool.of_whenNotPaused h)
    exact ⟨_, li, vi, _, haccrual, .kept rfl⟩
  | redeem caller nftAsset nftTokenId amount buyItNowFine =>
    obtain ⟨⟨_, _⟩, h, rfl⟩ := map_eq_ok.mp h
    obtain ⟨li, vi, cTokens, _, _, _, _, _, _, hredeem, rfl, -⟩ :=
      (executeRedeem_eq_ok hw).mp (LendPool.of_whenNotPaused h)
    exact ⟨_, li, vi, cTokens, hredeem.accrual, .kept rfl⟩
  | liquidate caller nftAsset nftTokenId amount =>
    obtain ⟨⟨_, _⟩, h, rfl⟩ := map_eq_ok.mp h
    obtain ⟨li, vi, cTokens, _, _, _, _, _, hliquidate, rfl, -⟩ :=
      (executeLiquidate_eq_ok hw hf).mp (LendPool.of_whenNotPaused h)
    exact ⟨_, li, vi, cTokens, hliquidate.accrual, .kept rfl⟩
  | transferCToken | transferCTokenFrom | approveCToken | approveDelegation | createCNFT =>
    cases hpool

/-! ### Debts -/

def UserCall.usesCredit : UserCall → Bool
  | .borrow .. | .approveDelegation .. => true
  | _ => false

/-- Debt is minted by a borrow and burned when it is paid; credit is delegated by its
owner. -/
inductive DebtMove (s : State) (call : UserCall) (s' : State) : Prop
  | kept (hcall : call.usesCredit = false) (h : s'.debtTokens = s.debtTokens)
  | minted {n amount nftTokenId vi : Nat} {asset nftAsset onBehalfOf : Address}
      (hcall : call = .borrow n asset amount nftAsset nftTokenId onBehalfOf)
      (h : DebtToken.mint s.debtTokens (.debtToken asset) (.account n) onBehalfOf amount vi =
        .ok s'.debtTokens)
  | burned {asset borrower : Address} {scaled : Nat}
      (hcall : call.usesCredit = false)
      (h : s'.debtTokens = Function.update s.debtTokens asset
        ((s.debtTokens asset).debited borrower scaled))
  | delegated {n amount : Nat} {asset delegatee : Address}
      (hcall : call = .approveDelegation n asset delegatee amount)
      (h : s'.debtTokens = Function.update s.debtTokens asset { s.debtTokens asset with
        borrowAllowances := ERC20.allowed (s.debtTokens asset).borrowAllowances (.account n)
          delegatee amount })

theorem debt_move (hw : Wired s) (hf : Filed s) {call : UserCall} (h : call.run s = .ok s') :
    DebtMove s call s' := by
  cases call with
  | deposit caller asset amount onBehalfOf =>
    obtain ⟨_, _, h⟩ := deposit_effect hw (LendPool.of_whenNotPaused h)
    exact .kept rfl h.debtTokens
  | withdraw caller asset amount recipient =>
    obtain ⟨⟨_, _⟩, h, rfl⟩ := map_eq_ok.mp h
    obtain ⟨_, _, h⟩ := withdraw_effect hw (LendPool.of_whenNotPaused h)
    exact .kept rfl h.debtTokens
  | borrow caller asset amount nftAsset nftTokenId onBehalfOf =>
    obtain ⟨_, _, _, -, -, hmint⟩ := borrow_positions hw (LendPool.of_whenNotPaused h)
    exact .minted rfl hmint
  | repay caller nftAsset nftTokenId amount =>
    obtain ⟨⟨_, _, _⟩, h, rfl⟩ := map_eq_ok.mp h
    obtain ⟨_, _, _, _, h, -⟩ := repay_effect hw hf (LendPool.of_whenNotPaused h)
    exact .burned rfl h.debtTokens
  | buyItNow caller nftAsset nftTokenId buyItNowPrice onBehalfOf =>
    obtain ⟨_, _, _, _, _, h⟩ := buyItNow_effect hw (LendPool.of_whenNotPaused h)
    exact .kept rfl h.debtTokens
  | redeem caller nftAsset nftTokenId amount buyItNowFine =>
    obtain ⟨⟨_, _⟩, h, rfl⟩ := map_eq_ok.mp h
    obtain ⟨_, _, _, _, _, _, _, _, _, -, rfl, -⟩ :=
      (executeRedeem_eq_ok hw).mp (LendPool.of_whenNotPaused h)
    exact .burned rfl rfl
  | liquidate caller nftAsset nftTokenId amount =>
    obtain ⟨⟨_, _⟩, h, rfl⟩ := map_eq_ok.mp h
    obtain ⟨_, _, _, _, _, _, _, _, -, rfl, -⟩ :=
      (executeLiquidate_eq_ok hw hf).mp (LendPool.of_whenNotPaused h)
    exact .burned rfl rfl
  | transferCToken caller asset recipient amount =>
    obtain ⟨_, rfl⟩ := CToken.transfer_frame h
    exact .kept rfl rfl
  | transferCTokenFrom caller asset sender recipient amount =>
    obtain ⟨_, rfl⟩ := CToken.transferFrom_frame h
    exact .kept rfl rfl
  | approveCToken caller asset spender amount =>
    obtain ⟨_, rfl⟩ := CToken.approve_frame h
    exact .kept rfl rfl
  | approveDelegation caller asset delegatee amount =>
    obtain ⟨_, hdebt, rfl⟩ := bind_pure_eq_ok.mp h
    obtain ⟨own, hown, rfl⟩ := DebtToken.approveDelegation_eq_ok.mp hdebt
    obtain ⟨rfl, -⟩ := (hw.reserve asset).of_debtToken hown
    exact .delegated rfl rfl
  | createCNFT nftAsset =>
    obtain rfl := CNFTRegistry.createCNFT_spec h
    exact .kept rfl rfl

end Confetti

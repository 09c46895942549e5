import Confetti.Gateway.WETHGateway
import Confetti.Properties.FullWithdrawal
import Confetti.Properties.Views

/-! Withdrawals through the gateway. It is sent the scaled amount and may withdraw what
that is worth; where rounding makes it worth less than the amount, nothing is withdrawn. -/
namespace Confetti
open Outcome HalfUp TransitionSystem ReserveLogic

/-- The units of an amount are worth the amount again. -/
def Returnable (amount index : Nat) : Prop :=
  (amount * RAY + index / 2) % index ≤ index / 2 + RAY / 2

instance (amount index : Nat) : Decidable (Returnable amount index) :=
  inferInstanceAs (Decidable (_ ≤ _))

theorem returnable_iff (amount : Nat) {index : Nat} :
    amount ≤ halfUp (halfUp (amount * RAY) index * index) RAY ↔ Returnable amount index := by
  rw [le_halfUp_iff RAY_pos]
  unfold Returnable halfUp
  have hsplit := Nat.div_add_mod (amount * RAY + index / 2) index
  rw [Nat.mul_comm] at hsplit
  omega

/-- The wrapped ether contract pays out: nobody holds more than there is, and it has the
ether for all of it. -/
structure WETHBacked (setup : GatewaySetup) (w : World) : Prop where
  covered : (w.state.erc20 setup.wethAsset).Covered
  ether : (w.state.erc20 setup.wethAsset).totalSupply ≤ w.ether setup.wethAsset

/-- An amount of ether that an account could withdraw from the pool itself, and may
withdraw through a gateway that holds no cTokens. -/
structure AffordableETH (setup : GatewaySetup) (w : World) (n amount index : Nat) (m : State) :
    Prop where
  index_eq : getNormalizedIncome (w.state.pool.reserves setup.wethAsset) w.state.timestamp =
    .ok index
  update : updateState w.state setup.wethAsset = .ok m
  positive : 0 < amount
  within : ∃ balance,
    CToken.balanceOf w.state (.cToken setup.wethAsset) (.account n) = .ok balance ∧
      amount ≤ balance
  paysOut : PaysOut w.state m setup.wethAsset amount (.account setup.wethGateway)
  allowance : amount ≤ (w.state.cTokens setup.wethAsset).ledger.allowances (.account n)
    (.account setup.wethGateway)
  gateway_empty : w.state.position setup.wethAsset (.account setup.wethGateway) = 0
  not_weth : .account n ≠ setup.wethAsset
  receives : w.receives setup (.account n) = true
  weth : WETHBacked setup w

/-- The gateway pays the amount, and the pool burns the units that the gateway was sent. -/
def WithdrawsSent (setup : GatewaySetup) (w : World) (n amount index : Nat) (m : State) : Prop :=
  ∃ w' scaled, WETHGateway.withdrawETH setup w n amount (.account n) = .ok w' ∧
    rayDiv amount index = .ok scaled ∧
    (w'.state.cTokens setup.wethAsset).ledger.totalSupply + scaled =
      (m.cTokens setup.wethAsset).ledger.totalSupply

section Treasury

variable {cTokens cTokens' minted : Address → CToken} {reserve : ReserveData} {asset : Address}
  {supply previous li vi : Nat}

theorem mintToTreasury_of_covered (hcToken : reserve.cTokenAddress = .cToken asset)
    (htreasury : (cTokens' asset).treasury = (cTokens asset).treasury)
    (hsupply : (cTokens' asset).ledger.totalSupply = (cTokens asset).ledger.totalSupply)
    (hcovered : (cTokens' asset).ledger.Covered)
    (h : mintToTreasury cTokens reserve supply previous li vi = .ok minted) :
    Succeeds (mintToTreasury cTokens' reserve supply previous li vi) := by
  unfold mintToTreasury at *
  by_cases hfactor : reserve.configuration.getReserveFactor = 0
  · simp only [if_pos hfactor]
    exact succeeds_ok cTokens'
  · simp only [if_neg hfactor] at h ⊢
    obtain ⟨amount, hamount, h⟩ := bind_eq_ok.mp h
    rw [hamount, ok_bind]
    by_cases hzero : amount = 0
    · rw [if_neg (not_not.mpr hzero)]
      exact succeeds_ok cTokens'
    · rw [if_pos hzero, hcToken] at h ⊢
      obtain ⟨scaled, hscaled, ⟨hne, hfits, -⟩, -⟩ := (CToken.mintToTreasury_eq_ok hzero).mp h
      have hbalance : (cTokens' asset).ledger.balances (cTokens' asset).treasury ≤
          (cTokens' asset).ledger.totalSupply := ERC20.Covered.single_le hcovered
      refine ⟨_, (CToken.mintToTreasury_eq_ok hzero).mpr ⟨scaled, hscaled, ⟨?_, ?_, ?_⟩, rfl⟩⟩
      · rw [htreasury]
        exact hne
      · rw [hsupply]
        exact hfits
      · omega

end Treasury

variable {s m : State} {asset : Address} {li vi : Nat} {cTokens : Address → CToken}

theorem withLedger_self (s : State) (asset : Address) (ledger : ERC20) :
    (CToken.withLedger s asset ledger).cTokens asset = { s.cTokens asset with ledger } :=
  Function.update_self _ _ _

theorem Accrual.of_transferred (ha : Accrual s asset li vi cTokens) {ledger : ERC20}
    (hcovered : ledger.Covered)
    (hsupply : ledger.totalSupply = (s.cTokens asset).ledger.totalSupply) :
    ∃ cTokens', Accrual (CToken.withLedger s asset ledger) asset li vi cTokens' ∧
      (cTokens' asset).ledger.totalSupply = (cTokens asset).ledger.totalSupply := by
  have hself := withLedger_self s asset ledger
  have hmint : Succeeds (mintToTreasury (CToken.withLedger s asset ledger).cTokens
      (s.pool.reserves asset) (s.debtTokens asset).ledger.totalSupply
      (s.pool.reserves asset).variableBorrowIndex li vi) := by
    apply mintToTreasury_of_covered ha.listed.cToken _ _ _ ha.treasury
    · rw [hself]
    · rw [hself]
      exact hsupply
    · rw [hself]
      exact hcovered
  obtain ⟨cTokens', htreasury⟩ := hmint
  refine ⟨cTokens', ⟨ha.listed, ha.liquidityIndex, ha.variableBorrowIndex, htreasury⟩, ?_⟩
  rw [mintToTreasury_spec ha.listed.cToken htreasury, mintToTreasury_spec ha.listed.cToken
    ha.treasury, Function.update_self, Function.update_self]
  change ((CToken.withLedger s asset ledger).cTokens asset).ledger.totalSupply + _ =
    (s.cTokens asset).ledger.totalSupply + _
  rw [hself]
  exact congrArg (· + _) hsupply

theorem PaysOut.of_transferred {amount : Nat} {recipient : Address} {ledger : ERC20}
    {cTokens' : Address → CToken} (ha : Accrual s asset li vi cTokens)
    (ha' : Accrual (CToken.withLedger s asset ledger) asset li vi cTokens')
    (h : PaysOut s (s.accrued asset li vi cTokens) asset amount recipient) :
    PaysOut (CToken.withLedger s asset ledger)
      ((CToken.withLedger s asset ledger).accrued asset li vi cTokens') asset amount recipient := by
  obtain ⟨s₂, hrates⟩ := h.rates
  obtain ⟨lr, vr, hallow, -⟩ := (updateInterestRates_accrued ha).mp hrates
  have hscaled := h.scaled
  rw [accrued_liquidityIndex] at hscaled
  refine ⟨h.unpaused, h.recipient_ne, h.active,
    ⟨_, (updateInterestRates_accrued ha').mpr ⟨lr, vr, hallow, rfl⟩⟩, ?_, h.cash⟩
  rw [accrued_liquidityIndex]
  exact hscaled

variable {setup : GatewaySetup} {w w' : World} {n amount index : Nat}

/-- The ledger the gateway finds after it was sent the scaled amount. -/
structure SentToGateway (setup : GatewaySetup) (w : World) (n scaled : Nat) (ledger : ERC20) :
    Prop where
  position : ledger.balances (.account setup.wethGateway) = scaled
  scaled_le : scaled ≤ w.state.position setup.wethAsset (.account n)
  supply : ledger.totalSupply = (w.state.cTokens setup.wethAsset).ledger.totalSupply

namespace AffordableETH

theorem sender (h : AffordableETH setup w n amount index m) :
    (∃ value, rayMul (w.state.position setup.wethAsset (.account n)) index = .ok value ∧
      amount ≤ value) ∧ n ≠ setup.wethGateway := by
  obtain ⟨balance, hbalance, hwithin⟩ := h.within
  obtain ⟨index', hindex, hmul⟩ := balanceOf_eq_ok.mp hbalance
  obtain rfl : index' = index := Except.ok.inj (hindex.symm.trans h.index_eq)
  refine ⟨⟨balance, hmul, hwithin⟩, ?_⟩
  intro hsame
  rw [hsame, h.gateway_empty, rayMul_zero_left] at hmul
  have hzero := Except.ok.inj hmul
  have hpositive := h.positive
  omega

theorem ne_max (h : AffordableETH setup w n amount index m) {scaled : Nat}
    (hscaled : rayDiv amount index = .ok scaled) : amount ≠ Uint256.max := by
  intro hmax
  have hfits := (rayDiv_eq_ok.mp hscaled).2.1
  have hscale : amount * 2 ≤ amount * RAY := Nat.mul_le_mul_left amount (by decide)
  have hpositive := h.positive
  omega

theorem transferred (hs : Reachable operations w.state)
    (h : AffordableETH setup w n amount index m) :
    ∃ scaled ledger, rayDiv amount index = .ok scaled ∧
      w.call (.user (.transferCTokenFrom setup.wethGateway setup.wethAsset (.account n)
        (.account setup.wethGateway) amount)) =
          .ok { w with state := CToken.withLedger w.state setup.wethAsset ledger } ∧
      SentToGateway setup w n scaled ledger := by
  obtain ⟨li, vi, cTokens, ha, rfl⟩ :=
    (updateState_iff (regular_of_reachable hs).sound.wired).mp h.update
  obtain ⟨⟨value, hvalue, hwithin⟩, hother⟩ := h.sender
  have hray : RAY ≤ index := ha.listed.RAY_le_liquidityIndex.trans (le_shown h.index_eq)
  have hlater : index ≤ li := shown_le_updated h.index_eq ha.liquidityIndex
  have hpos := RAY_pos
  have hunits : amount * RAY + index / 2 ≤ Uint256.max := by
    obtain ⟨_, hscaled, -⟩ := h.paysOut.scaled
    rw [accrued_liquidityIndex] at hscaled
    have hfits := (rayDiv_eq_ok.mp hscaled).2.1
    omega
  have hscaled : rayDiv amount index = .ok (halfUp (amount * RAY) index) :=
    rayDiv_eq_ok.mpr ⟨by omega, hunits, rfl⟩
  have hposition : halfUp (amount * RAY) index ≤ w.state.position setup.wethAsset (.account n) :=
    rayDiv_le_of_le_rayMul hray hvalue hwithin hscaled
  have hfits : w.state.position setup.wethAsset (.account n) ≤ Uint256.max := by
    have hproduct := (rayMul_eq_ok.mp hvalue).1
    have hscale := Nat.le_mul_of_pos_right (w.state.position setup.wethAsset (.account n))
      (hpos.trans_le hray)
    omega
  have haccounts : Address.account n ≠ .account setup.wethGateway := by
    intro hsame
    exact hother (Address.account.inj hsame)
  have hreceived : ERC20.moved (w.state.cTokens setup.wethAsset).ledger.balances (.account n)
      (.account setup.wethGateway) (halfUp (amount * RAY) index) (.account setup.wethGateway) =
        halfUp (amount * RAY) index := by
    have hempty : (w.state.cTokens setup.wethAsset).ledger.balances
      (.account setup.wethGateway) = 0 := h.gateway_empty
    rw [ERC20.moved_recipient haccounts, hempty, Nat.zero_add]
  have htransfer : CToken.transferScaled w.state setup.wethAsset (.account n)
      (.account setup.wethGateway) amount =
        .ok { (w.state.cTokens setup.wethAsset).ledger with
          balances := ERC20.moved (w.state.cTokens setup.wethAsset).ledger.balances (.account n)
            (.account setup.wethGateway) (halfUp (amount * RAY) index) } := by
    refine CToken.transferScaled_eq_ok.mpr ⟨index, _, h.index_eq, ⟨value, hvalue⟩, ⟨0, ?_⟩, hscaled,
      ERC20.transfer_eq_ok.mpr ⟨by simp, by simp, hposition, ?_, rfl⟩, h.paysOut.unpaused,
        ha.listed.cToken.symm⟩
    · rw [show (w.state.cTokens setup.wethAsset).ledger.balances (.account setup.wethGateway) = 0
        from h.gateway_empty]
      exact rayMul_zero_left index
    · rw [hreceived]
      omega
  have hrun := CToken.transferFrom_eq_ok.mpr ⟨setup.wethAsset, _, ha.listed.cToken, htransfer,
    h.allowance, by simp, rfl⟩
  exact ⟨_, _, hscaled, bind_eq_ok.mpr ⟨_, hrun, rfl⟩, hreceived, hposition, rfl⟩

/-- The pool pays the gateway out of what it was sent exactly when the units it was sent
are worth the amount. -/
theorem withdraw_succeeds_iff (hs : Reachable operations w.state)
    (h : AffordableETH setup w n amount index m) {scaled : Nat} {ledger : ERC20}
    (hscaled : rayDiv amount index = .ok scaled) (hsent : SentToGateway setup w n scaled ledger)
    (hsentState : Reachable operations (CToken.withLedger w.state setup.wethAsset ledger)) :
    Succeeds (LendPool.withdraw (CToken.withLedger w.state setup.wethAsset ledger)
        (.account setup.wethGateway) setup.wethAsset amount (.account setup.wethGateway)) ↔
      Returnable amount index := by
  have hw := (regular_of_reachable hs).sound.wired
  obtain ⟨li, vi, cTokens, ha, rfl⟩ := (updateState_iff hw).mp h.update
  have hledger : ((CToken.withLedger w.state setup.wethAsset ledger).cTokens
      setup.wethAsset).ledger = ledger := by
    rw [withLedger_self]
  have hcovered : ledger.Covered := by
    have hall := positionsCovered_of_reachable hsentState setup.wethAsset
    rwa [hledger] at hall
  obtain ⟨cTokens', ha', -⟩ := ha.of_transferred hcovered hsent.supply
  obtain ⟨⟨value, hvalue, hwithin⟩, -⟩ := h.sender
  obtain ⟨balance, hbalance⟩ : Succeeds (rayMul scaled index) :=
    ⟨_, rayMul_of_le hsent.scaled_le hvalue⟩
  have hshown : CToken.balanceOf (CToken.withLedger w.state setup.wethAsset ledger)
      (.cToken setup.wethAsset) (.account setup.wethGateway) = .ok balance := by
    refine balanceOf_eq_ok.mpr ⟨index, h.index_eq, ?_⟩
    unfold State.position
    rw [hledger, hsent.position]
    exact hbalance
  have hworth : amount ≤ balance ↔ Returnable amount index := by
    obtain ⟨-, rfl⟩ := rayMul_eq_ok.mp hbalance
    obtain ⟨-, -, rfl⟩ := rayDiv_eq_ok.mp hscaled
    exact returnable_iff amount
  have hrequest : amount = if amount = Uint256.max then balance else amount :=
    (if_neg (h.ne_max hscaled)).symm
  constructor
  · rintro ⟨⟨s', paid⟩, hrun⟩
    obtain ⟨balance', _, _, _, _, _, _, _, hwithdrawal, -⟩ :=
      (executeWithdraw_eq_ok (regular_of_reachable hsentState).sound.wired).mp
        (LendPool.of_whenNotPaused hrun)
    obtain rfl : balance' = balance := Except.ok.inj (hwithdrawal.balance_eq.symm.trans hshown)
    have hpaid : paid = amount := hwithdrawal.amount_eq.trans (if_neg (h.ne_max hscaled))
    have hle := hwithdrawal.amount_le
    rw [hpaid] at hle
    exact hworth.mp hle
  · intro hreturnable
    have hupdate : updateState (CToken.withLedger w.state setup.wethAsset ledger)
        setup.wethAsset = .ok ((CToken.withLedger w.state setup.wethAsset ledger).accrued
          setup.wethAsset li vi cTokens') :=
      (updateState_iff (regular_of_reachable hsentState).sound.wired).mpr
        ⟨li, vi, cTokens', ha', rfl⟩
    exact (Confetti.withdraw_succeeds_iff hsentState (by simp) hshown hupdate hrequest
      (Nat.ne_of_gt h.positive) (hworth.mpr hreturnable)).mpr (h.paysOut.of_transferred ha ha')

theorem burned (hs : Reachable operations w.state)
    (h : AffordableETH setup w n amount index m) {scaled paid : Nat} {ledger : ERC20} {s' : State}
    (hsent : SentToGateway setup w n scaled ledger)
    (hreached : Reachable operations (CToken.withLedger w.state setup.wethAsset ledger))
    (hne : amount ≠ Uint256.max)
    (hrun : LendPool.withdraw (CToken.withLedger w.state setup.wethAsset ledger)
        (.account setup.wethGateway) setup.wethAsset amount (.account setup.wethGateway) =
      .ok (s', paid)) :
    ∃ burned token, rayDiv amount (m.pool.reserves setup.wethAsset).liquidityIndex = .ok burned ∧
      (s'.cTokens setup.wethAsset).ledger.totalSupply + burned =
        (m.cTokens setup.wethAsset).ledger.totalSupply ∧
      ERC20.transfer setup.wethAsset (w.state.erc20 setup.wethAsset) (.cToken setup.wethAsset)
        (.account setup.wethGateway) amount = .ok token ∧
      s'.erc20 = Function.update w.state.erc20 setup.wethAsset token := by
  have hw := (regular_of_reachable hs).sound.wired
  obtain ⟨li, vi, cTokens, ha, rfl⟩ := (updateState_iff hw).mp h.update
  have hcovered : ledger.Covered := by
    have hall := positionsCovered_of_reachable hreached setup.wethAsset
    rwa [withLedger_self] at hall
  obtain ⟨balance, li', vi', cTokens', burned, lr, vr, token, hwithdrawal, rfl⟩ :=
    (executeWithdraw_eq_ok (regular_of_reachable hreached).sound.wired).mp
      (LendPool.of_whenNotPaused hrun)
  obtain rfl : paid = amount := hwithdrawal.amount_eq.trans (if_neg hne)
  obtain ⟨cTokens₁, ha', hsupply⟩ := ha.of_transferred hcovered hsent.supply
  obtain rfl : li' = li :=
    Except.ok.inj (hwithdrawal.accrual.liquidityIndex.symm.trans ha'.liquidityIndex)
  obtain rfl : vi' = vi :=
    Except.ok.inj (hwithdrawal.accrual.variableBorrowIndex.symm.trans ha'.variableBorrowIndex)
  obtain rfl : cTokens' = cTokens₁ :=
    Except.ok.inj (hwithdrawal.accrual.treasury.symm.trans ha'.treasury)
  refine ⟨burned, token, ?_, ?_, hwithdrawal.paid, rfl⟩
  · rw [accrued_liquidityIndex]
    exact hwithdrawal.scaled_eq
  · have hburned := hwithdrawal.burned.2.2
    change (Function.update cTokens' setup.wethAsset ((cTokens' setup.wethAsset).debited
      (.account setup.wethGateway) burned) setup.wethAsset).ledger.totalSupply + burned =
        (cTokens setup.wethAsset).ledger.totalSupply
    rw [Function.update_self, ← hsupply]
    exact Nat.sub_add_cancel hburned

theorem withdrawETH_eq_ok (h : AffordableETH setup w n amount index m) {ledger : ERC20}
    (hne : amount ≠ Uint256.max) (hlisted : (w.state.pool.reserves setup.wethAsset).cTokenAddress =
      .cToken setup.wethAsset)
    (hcall : w.call (.user (.transferCTokenFrom setup.wethGateway setup.wethAsset (.account n)
      (.account setup.wethGateway) amount)) =
        .ok { w with state := CToken.withLedger w.state setup.wethAsset ledger }) :
    WETHGateway.withdrawETH setup w n amount (.account n) = .ok w' ↔ ∃ s' paid w₂,
      LendPool.withdraw (CToken.withLedger w.state setup.wethAsset ledger)
        (.account setup.wethGateway) setup.wethAsset amount (.account setup.wethGateway) =
          .ok (s', paid) ∧
      (World.called { w with state := CToken.withLedger w.state setup.wethAsset ledger }
        (.withdraw setup.wethGateway setup.wethAsset amount (.account setup.wethGateway))
          s').withdrawWETH setup setup.wethGateway amount = .ok w₂ ∧
      w₂.safeTransferETH setup setup.wethGateway (.account n) amount = .ok w' := by
  obtain ⟨balance, hbalance, -⟩ := h.within
  simp only [WETHGateway.withdrawETH, checkValidCallerAndOnBehalfOf, true_or, bind_eq_ok,
    require_eq_ok, exists_const, true_and, hlisted, hbalance, ok_bind, if_neg hne, hcall,
    World.callPool_eq_ok, UserCall.run, map_eq_ok]
  constructor
  · rintro ⟨_, ⟨_, ⟨⟨s', paid⟩, hrun, rfl⟩, rfl⟩, w₂, hunwrap, hpay⟩
    exact ⟨_, paid, w₂, hrun, hunwrap, hpay⟩
  · rintro ⟨s', paid, w₂, hrun, hunwrap, hpay⟩
    exact ⟨_, ⟨_, ⟨_, hrun, rfl⟩, rfl⟩, w₂, hunwrap, hpay⟩

end AffordableETH

theorem WETHBacked.pays (h : WETHBacked setup w)
    (hbalance : amount ≤ (w.state.erc20 setup.wethAsset).balances (.account setup.wethGateway))
    (hne : .account n ≠ setup.wethAsset) (hreceives : w.receives setup (.account n) = true) :
    ∃ w₁ w₂, w.withdrawWETH setup setup.wethGateway amount = .ok w₁ ∧
      w₁.safeTransferETH setup setup.wethGateway (.account n) amount = .ok w₂ := by
  have hsupply : amount ≤ (w.state.erc20 setup.wethAsset).totalSupply :=
    hbalance.trans (ERC20.Covered.single_le h.covered)
  have hgateway : setup.wethAsset ≠ .account setup.wethGateway := by
    intro hsame
    have hnodup := setup.nodup
    rw [Address.account.inj hsame] at hnodup
    simp at hnodup
  refine ⟨_, _, World.withdrawWETH_eq_ok.mpr ⟨_, ERC20.burn_eq_ok.mpr ⟨by simp, hbalance, hsupply,
    rfl⟩, hsupply.trans h.ether, rfl⟩, (World.safeTransferETH_eq_ok hne).mpr
      ⟨?_, hreceives, rfl⟩⟩
  change amount ≤ ERC20.moved w.ether setup.wethAsset (.account setup.wethGateway) amount
    (.account setup.wethGateway)
  rw [ERC20.moved_recipient hgateway]
  exact Nat.le_add_left _ _

theorem AffordableETH.withdrawsSent_iff (hs : Reachable operations w.state)
    (h : AffordableETH setup w n amount index m) :
    WithdrawsSent setup w n amount index m ↔
      Returnable amount index ∧
        rayDiv amount index = rayDiv amount (m.pool.reserves setup.wethAsset).liquidityIndex := by
  have hw := (regular_of_reachable hs).sound.wired
  obtain ⟨scaled, ledger, hscaled, hcall, hsent⟩ := h.transferred hs
  obtain ⟨li, vi, cTokens, ha, rfl⟩ := (updateState_iff hw).mp h.update
  obtain ⟨balance, hbalance, -⟩ := h.within
  have hreached : Reachable operations (CToken.withLedger w.state setup.wethAsset ledger) := by
    obtain ⟨state, hrun, hstate⟩ := World.call_eq_ok.mp hcall
    have hsame : CToken.withLedger w.state setup.wethAsset ledger = state :=
      congrArg World.state hstate
    have hstep : operations.step w.state (.user (.transferCTokenFrom setup.wethGateway
      setup.wethAsset (.account n) (.account setup.wethGateway) amount)) = .ok state := hrun
    rw [hsame]
    exact .step hs hstep
  have hiff := h.withdraw_succeeds_iff hs hscaled hsent hreached
  have hne := h.ne_max hscaled
  constructor
  · rintro ⟨w', scaled', hrun, hscaled', hsupply⟩
    obtain rfl : scaled' = scaled := Except.ok.inj (hscaled'.symm.trans hscaled)
    obtain ⟨s', paid, w₂, hwithdraw, hunwrap, hpay⟩ :=
      (h.withdrawETH_eq_ok hne ha.listed.cToken hcall).mp hrun
    refine ⟨hiff.mp ⟨_, hwithdraw⟩, ?_⟩
    obtain ⟨burned, token, hburned, hburnedSupply, -⟩ := h.burned hs hsent hreached hne hwithdraw
    obtain ⟨_, -, -, rfl⟩ := World.withdrawWETH_eq_ok.mp hunwrap
    obtain ⟨-, -, rfl⟩ := (World.safeTransferETH_eq_ok h.not_weth).mp hpay
    rw [hburned, hscaled]
    apply congrArg Except.ok
    change (s'.cTokens setup.wethAsset).ledger.totalSupply + scaled' = _ at hsupply
    omega
  · rintro ⟨hreturnable, hsame⟩
    obtain ⟨⟨s', paid⟩, hwithdraw⟩ := hiff.mpr hreturnable
    obtain ⟨burned, token, hburned, hburnedSupply, hpaid, herc20⟩ :=
      h.burned hs hsent hreached hne hwithdraw
    obtain ⟨-, -, hcash, -, rfl⟩ := ERC20.transfer_eq_ok.mp hpaid
    have hweth : WETHBacked setup (World.called { w with
        state := CToken.withLedger w.state setup.wethAsset ledger }
        (.withdraw setup.wethGateway setup.wethAsset amount (.account setup.wethGateway)) s') := by
      constructor
      · change (s'.erc20 setup.wethAsset).Covered
        rw [herc20, Function.update_self]
        exact ERC20.Covered.moved h.weth.covered hcash _
      · change (s'.erc20 setup.wethAsset).totalSupply ≤ w.ether setup.wethAsset
        rw [herc20, Function.update_self]
        exact h.weth.ether
    have hreceived : amount ≤ (s'.erc20 setup.wethAsset).balances (.account setup.wethGateway) := by
      rw [herc20, Function.update_self]
      change amount ≤ ERC20.moved (w.state.erc20 setup.wethAsset).balances
        (.cToken setup.wethAsset) (.account setup.wethGateway) amount (.account setup.wethGateway)
      rw [ERC20.moved_recipient (by simp)]
      exact Nat.le_add_left _ _
    obtain ⟨w₂, w', hunwrap, hpay⟩ := hweth.pays hreceived h.not_weth h.receives
    refine ⟨w', scaled, (h.withdrawETH_eq_ok hne ha.listed.cToken hcall).mpr
      ⟨s', paid, w₂, hwithdraw, hunwrap, hpay⟩, hscaled, ?_⟩
    obtain ⟨_, -, -, rfl⟩ := World.withdrawWETH_eq_ok.mp hunwrap
    obtain ⟨-, -, rfl⟩ := (World.safeTransferETH_eq_ok h.not_weth).mp hpay
    obtain rfl : scaled = burned := by
      rw [hscaled, hburned] at hsame
      exact Except.ok.inj hsame
    exact hburnedSupply

theorem AffordableETH.index_unique (hs : Reachable operations w.state)
    (h : AffordableETH setup w n amount index m) (hslot : w.state.timestamp < 2 ^ 40) :
    index = (m.pool.reserves setup.wethAsset).liquidityIndex := by
  have hw := (regular_of_reachable hs).sound.wired
  obtain ⟨li, vi, cTokens, ha, rfl⟩ := (updateState_iff hw).mp h.update
  rw [accrued_liquidityIndex]
  exact income_of_slot ha.listed hslot h.index_eq ha.liquidityIndex

/-- What an account could withdraw itself, the gateway withdraws exactly if the units are worth
the amount again, and if both indexes round it to these units. The latter they do as long as
the time fits its slot. -/
theorem withdrawETH_accepts_iff_returnable (hs : Reachable operations w.state)
    (h : AffordableETH setup w n amount index m) :
    (WithdrawsSent setup w n amount index m ↔
      Returnable amount index ∧
        rayDiv amount index = rayDiv amount (m.pool.reserves setup.wethAsset).liquidityIndex) ∧
    (w.state.timestamp < 2 ^ 40 →
      (WithdrawsSent setup w n amount index m ↔ Returnable amount index)) := by
  refine ⟨h.withdrawsSent_iff hs, fun hslot => ?_⟩
  rw [h.withdrawsSent_iff hs, ← h.index_unique hs hslot]
  exact and_iff_left rfl

/-! ### Savings in ether -/

def sampleSetup : GatewaySetup where
  weth := 100
  wethGateway := 101
  punkGateway := 102
  wrappedPunks := 103
  proxy := 104
  nodup := by decide

/-- The sample market is one of WETH, and most of the cash has left it for a while. -/
def sampleSaved : State :=
  replayed operations sampleLent
    [.user (.withdraw 1 sampleMarket.asset (950 * 10 ^ 18) (.account 1)),
      .user (.approveCToken 1 sampleMarket.asset (.account 101) (10 ^ 24)),
      .world (.tick 22000000)]

def sampleSaver : World where
  state := sampleSaved
  ether := fun a => if a = .account 100 then 10 ^ 30 else 0
  acceptsETH := fun _ => true
  punks := ⟨false, fun _ => .zero, fun _ => 0, fun _ => ⟨false, .zero, 0, .zero⟩,
    fun _ => ⟨false, .zero, 0⟩, fun _ => 0⟩
  wrapperPaused := false
  wethWhitelist := fun _ => false
  punkWhitelist := fun _ => false
  poolCalls := []

theorem sampleSaved_reachable : Reachable operations sampleSaved :=
  replayed_reachable sampleLent_reachable _

private theorem sampleSaver_backed : WETHBacked sampleSetup sampleSaver := by
  have hlent : TokensBacked sampleLent :=
    sampleWorld_backed.run (.initial (State.fresh_genesis (by decide) _ _ _))
      (trace_run sampleWorld sampleLending)
  have hsaved : TokensBacked sampleSaved := hlent.run sampleLent_reachable (trace_run sampleLent _)
  exact ⟨(hsaved _).covers, by decide +kernel⟩

/-- Account 1 can withdraw the amount from the pool itself, and the indexes pass a check. -/
private def sampleCheck (amount : Nat) (indexes : Nat → Nat → Bool) : Bool :=
  passes (getNormalizedIncome (sampleSaved.pool.reserves sampleMarket.asset)
      sampleSaved.timestamp) fun index =>
    passes (updateState sampleSaved sampleMarket.asset) fun m =>
      indexes index (m.pool.reserves sampleMarket.asset).liquidityIndex &&
      passes (CToken.balanceOf sampleSaved (.cToken sampleMarket.asset) (.account 1))
          (fun balance => decide (amount ≤ balance)) &&
        passes (updateInterestRates m sampleMarket.asset (.cToken sampleMarket.asset) 0 amount)
          (fun _ => true) &&
        passes (rayDiv amount (m.pool.reserves sampleMarket.asset).liquidityIndex)
          (fun scaled => decide (scaled ≠ 0)) &&
        passes (ERC20.transfer sampleMarket.asset (sampleSaved.erc20 sampleMarket.asset)
          (.cToken sampleMarket.asset) (.account 101) amount) (fun _ => true)

private theorem sample_affordable {amount : Nat} {indexes : Nat → Nat → Bool}
    (hpositive : 0 < amount) (hallowance : amount ≤ 10 ^ 24)
    (hcheck : sampleCheck amount indexes = true) :
    ∃ index m, AffordableETH sampleSetup sampleSaver 1 amount index m ∧
      indexes index (m.pool.reserves sampleMarket.asset).liquidityIndex = true := by
  obtain ⟨index, hindex, hcheck⟩ := exists_of_passes hcheck
  obtain ⟨m, hupdate, hcheck⟩ := exists_of_passes hcheck
  simp only [Bool.and_eq_true] at hcheck
  obtain ⟨⟨⟨⟨hindexes, hbalance⟩, hrates⟩, hscaled⟩, hcash⟩ := hcheck
  obtain ⟨balance, hbalance, hwithin⟩ := exists_of_passes hbalance
  obtain ⟨s₂, hrates, -⟩ := exists_of_passes hrates
  obtain ⟨scaled, hscaled, hne⟩ := exists_of_passes hscaled
  obtain ⟨token, hcash, -⟩ := exists_of_passes hcash
  have hallowed : (sampleSaved.cTokens sampleMarket.asset).ledger.allowances (.account 1)
      (.account 101) = 10 ^ 24 := by decide +kernel
  exact ⟨index, m, ⟨hindex, hupdate, hpositive, ⟨balance, hbalance, of_decide_eq_true hwithin⟩,
    ⟨by decide +kernel, by decide, by decide +kernel, ⟨s₂, hrates⟩,
      ⟨scaled, hscaled, of_decide_eq_true hne⟩, ⟨token, hcash⟩⟩,
    Nat.le_trans hallowance (Nat.le_of_eq hallowed.symm), by decide +kernel, by decide, rfl,
    sampleSaver_backed⟩, hindexes⟩

/-- Two ether are withdrawn. -/
theorem withdrawETH_accepts_iff_returnable_two :
    ∃ w', WETHGateway.withdrawETH sampleSetup sampleSaver 1 (2 * 10 ^ 18) (.account 1) = .ok w' := by
  have hcheck : sampleCheck (2 * 10 ^ 18) (fun index li =>
      decide (Returnable (2 * 10 ^ 18) index) && decide (index = li)) = true := by decide +kernel
  obtain ⟨index, m, h, hindexes⟩ := sample_affordable (by decide) (by decide) hcheck
  obtain ⟨hreturnable, hsame⟩ := (Bool.and_eq_true _ _).mp hindexes
  obtain ⟨w', -, hrun, -⟩ := (withdrawETH_accepts_iff_returnable sampleSaved_reachable h).1.mpr
    ⟨of_decide_eq_true hreturnable, congrArg _ (of_decide_eq_true hsame)⟩
  exact ⟨w', hrun⟩

/-- One ether is refused, although the account could withdraw it itself. -/
theorem one_ether_refused :
    ∃ index m, Reachable operations sampleSaver.state ∧
      AffordableETH sampleSetup sampleSaver 1 (10 ^ 18) index m ∧
        fault (WETHGateway.withdrawETH sampleSetup sampleSaver 1 (10 ^ 18) (.account 1)) =
          some (.error .VL_NOT_ENOUGH_AVAILABLE_USER_BALANCE) := by
  have hcheck : sampleCheck (10 ^ 18) (fun _ _ => true) = true := by decide +kernel
  obtain ⟨index, m, h, -⟩ := sample_affordable (by decide) (by decide) hcheck
  exact ⟨index, m, sampleSaved_reachable, h, by decide +kernel⟩

end Confetti

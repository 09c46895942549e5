import Confetti.Invariants.Escrow

/-! No payment of the pool fails because the debt tokens or the pool's own cash fall
short. -/
namespace Confetti
open Outcome TransitionSystem FiniteLedger

structure Solvent (s : State) : Prop where
  regular : Regular s
  ledger : LedgerAgrees s
  escrow : EscrowCovered s

variable {s s' : State}

theorem solvent_of_reachable (h : Reachable operations s) : Solvent s :=
  ⟨regular_of_reachable h, ledgerAgrees_of_reachable h, escrowCovered_of_reachable h⟩

theorem Solvent.step (h : Solvent s) {operation : Operation} (hs : operation.run s = .ok s') :
    Solvent s' :=
  ⟨h.regular.step hs, h.ledger.step h.regular hs, h.escrow.step h.regular hs⟩

theorem Solvent.scaledAmount_le (h : Solvent s) {nftAsset : Address} {nftTokenId : Nat}
    (hreg : s.loanStore.nftToLoanIds nftAsset nftTokenId ≠ 0) :
    (s.loanOf nftAsset nftTokenId).scaledAmount ≤
        (s.debtTokens (s.loanOf nftAsset nftTokenId).reserveAsset).ledger.balances
          (s.loanOf nftAsset nftTokenId).borrower ∧
      (s.loanOf nftAsset nftTokenId).scaledAmount ≤
        (s.debtTokens (s.loanOf nftAsset nftTokenId).reserveAsset).ledger.totalSupply := by
  have hlive := h.regular.book.registered_live hreg
  have hlt := h.regular.book.lt_tracker hlive
  rw [h.ledger.balance, h.ledger.supply]
  have hone : LoanData.owed (s.loanOf nftAsset nftTokenId).reserveAsset
      (s.loanOf nftAsset nftTokenId).borrower (s.loanOf nftAsset nftTokenId) =
        (s.loanOf nftAsset nftTokenId).scaledAmount := by
    rw [LoanData.owed, spot, if_pos ⟨rfl, rfl⟩]
    exact openAmount_of_live hlive
  have hall : LoanData.owedTotal (s.loanOf nftAsset nftTokenId).reserveAsset
      (s.loanOf nftAsset nftTokenId) = (s.loanOf nftAsset nftTokenId).scaledAmount := by
    rw [LoanData.owedTotal, spot, if_pos rfl]
    exact openAmount_of_live hlive
  constructor
  · calc
      _ = LoanData.owed _ _ (s.loanOf nftAsset nftTokenId) := hone.symm
      _ ≤ _ := le_sumLoans _ hlt
  · calc
      _ = LoanData.owedTotal _ (s.loanOf nftAsset nftTokenId) := hall.symm
      _ ≤ _ := le_sumLoans _ hlt

theorem Solvent.price_le (h : Solvent s) {nftAsset : Address} {nftTokenId : Nat}
    (hreg : s.loanStore.nftToLoanIds nftAsset nftTokenId ≠ 0)
    (hsale : (s.loanOf nftAsset nftTokenId).state = .BuyItNow) :
    (s.loanOf nftAsset nftTokenId).buyItNowPrice ≤
      (s.erc20 (s.loanOf nftAsset nftTokenId).reserveAsset).balances .lendPool := by
  have hlt := h.regular.book.lt_tracker (h.regular.book.registered_live hreg)
  have hone : LoanData.locked (s.loanOf nftAsset nftTokenId).reserveAsset
      (s.loanOf nftAsset nftTokenId) = (s.loanOf nftAsset nftTokenId).buyItNowPrice := by
    rw [LoanData.locked, spot, if_pos rfl, escrow_of_sale hsale]
  calc
    _ = LoanData.locked _ (s.loanOf nftAsset nftTokenId) := hone.symm
    _ ≤ s.sumLoans (LoanData.locked _) := le_sumLoans _ hlt
    _ ≤ _ := h.escrow _

def DebtShort (e : Revert) : Prop :=
  ∃ asset holder, e = .erc20 (.debtToken asset) holder .burnExceedsBalance

def PoolShort (e : Revert) : Prop := ∃ token, e = .erc20 token .lendPool .transferExceedsBalance

def Shortfall (e : Revert) : Prop := DebtShort e ∨ PoolShort e

theorem shortfall_balanceFault : BalanceFault Shortfall := by
  rintro e (⟨asset, holder, rfl⟩ | ⟨token, rfl⟩)
  · exact ⟨_, _, .inr rfl⟩
  · exact ⟨_, _, .inl rfl⟩

theorem not_shortfall_sender {token sender : Address} (hne : sender ≠ .lendPool) :
    ¬Shortfall (.erc20 token sender .transferExceedsBalance) := by
  rintro (⟨_, _, h⟩ | ⟨_, h⟩)
  · cases h
  · cases h
    exact hne rfl

section Transfers

variable {asset spender sender recipient nftAsset : Address} {amount tokenId : Nat}

theorem avoids_safeTransfer (hbalance : amount ≤ (s.erc20 asset).balances sender) :
    Avoids Shortfall (s.safeTransfer asset sender recipient amount) :=
  (ERC20.avoids_transfer shortfall_balanceFault
    (fun hlt => absurd hbalance (Nat.not_le_of_lt hlt))).bind fun _ _ => avoids_pure _

theorem avoids_safeTransferFrom (hne : sender ≠ .lendPool) :
    Avoids Shortfall (s.safeTransferFrom asset spender sender recipient amount) :=
  (ERC20.avoids_transferFrom shortfall_balanceFault
    (fun _ => not_shortfall_sender hne)).bind fun _ _ => avoids_pure _

theorem avoids_safeTransferNFT :
    Avoids Shortfall (s.safeTransferNFT nftAsset spender sender recipient tokenId) :=
  (ERC721.avoids_safeTransferFrom shortfall_balanceFault.message).bind fun _ _ => avoids_pure _

theorem avoids_endTimestamp (start days : Nat) :
    Avoids Shortfall (LiquidateLogic.endTimestamp start days) :=
  (Uint256.avoids_mul shortfall_balanceFault.panic _ _).bind fun _ _ =>
    Uint256.avoids_add shortfall_balanceFault.panic _ _

theorem avoids_checkRedeem (p : ExecuteRedeemParams) (debt fine redeemThreshold : Nat) :
    Avoids Shortfall (LiquidateLogic.checkRedeem p debt fine redeemThreshold) := by
  have hbad := shortfall_balanceFault
  refine (avoids_require fun _ => hbad.error _).bind fun _ _ => ?_
  refine (avoids_percentMul hbad.panic hbad.error _ _).bind fun _ _ => ?_
  refine (avoids_require fun _ => hbad.error _).bind fun _ _ => ?_
  exact (avoids_percentMul hbad.panic hbad.error _ _).bind fun _ _ =>
    avoids_require fun _ => hbad.error _

/-- A burn of at most what is owed cannot fall short. -/
theorem avoids_burn_of_le {debtTokens : Address → DebtToken} {holder : Address} {index : Nat}
    (hle : ∀ scaled, rayDiv amount index = .ok scaled →
      scaled ≤ (debtTokens asset).ledger.balances holder) :
    Avoids Shortfall (DebtToken.burn debtTokens (.debtToken asset) holder amount index) := by
  refine DebtToken.avoids_burn shortfall_balanceFault ?_
  intro other scaled hother hscaled hlt
  cases hother
  exact absurd (hle scaled hscaled) (Nat.not_le_of_lt hlt)

end Transfers

/-! ### The three payments of a debt -/

section Pay

variable {loan : LoanData} {li vi debt amount : Nat} {asset : Address}
  {cTokens : Address → CToken}

private theorem burn_le (h : Solvent s) {nftAsset : Address} {nftTokenId : Nat}
    (hreg : s.loanStore.nftToLoanIds nftAsset nftTokenId ≠ 0) (hray : RAY ≤ vi)
    (hdebt : rayMul (s.loanOf nftAsset nftTokenId).scaledAmount vi = .ok debt)
    (hle : amount ≤ debt) (scaled : Nat) (hscaled : rayDiv amount vi = .ok scaled) :
    scaled ≤ (s.debtTokens (s.loanOf nftAsset nftTokenId).reserveAsset).ledger.balances
      (s.loanOf nftAsset nftTokenId).borrower :=
  (rayDiv_le_of_le_rayMul hray hdebt hle hscaled).trans (h.scaledAmount_le hreg).1

theorem avoids_repay (h : Solvent s) {p : ExecuteRepayParams} (hp : p.initiator ≠ .lendPool) :
    Avoids Shortfall (BorrowLogic.repay s p) := by
  have hbad := shortfall_balanceFault
  have hw := h.regular.sound.wired
  unfold BorrowLogic.repay
  refine (avoids_require fun _ => hbad.error _).bind fun _ hid => ?_
  have hid := require_eq_ok.mp hid
  rw [getCollateralLoanId_eq] at *
  simp only [getLoan_eq_loanOf]
  refine (ReserveLogic.avoids_updateState hbad _ _).bind fun s₁ hs₁ => ?_
  obtain ⟨li, vi, cTokens, haccrual, rfl⟩ := (updateState_iff hw).mp hs₁
  refine (LendPoolLoan.avoids_getLoanReserveBorrowAmount hbad _ _).bind fun borrowed hborrowed => ?_
  have hdebt : LendPoolLoan.borrowAmount (s.accrued _ li vi cTokens)
      (s.loanOf p.nftAsset p.nftTokenId) = .ok borrowed.2 :=
    (LendPoolLoan.getLoanReserveBorrowAmount_eq_ok.mp hborrowed).2
  rw [borrowAmount_accrued _ rfl] at hdebt
  refine (ValidationLogic.avoids_validateRepay hbad).bind fun _ hvalid => ?_
  obtain ⟨⟨hnft, -⟩, hamount, -, -⟩ := ValidationLogic.validateRepay_eq_ok.mp hvalid
  simp only [accrued_variableBorrowIndex, haccrual.accrued_cToken, haccrual.accrued_debtToken]
  refine Avoids.bind (avoids_ite (fun _ => LendPoolLoan.avoids_updateLoan hbad _ _ _ _ _)
    fun _ => LendPoolLoan.avoids_repayLoan hbad _ _ _) fun s₂ hs₂ => ?_
  have hdebts : s₂.debtTokens = s.debtTokens := by
    split at hs₂
    · obtain ⟨-, _, -, -, -, rfl⟩ := (LendPoolLoan.updateLoan_take_eq_ok hamount).mp hs₂
      rfl
    · have hcNFT : ((s.accrued (s.loanOf p.nftAsset p.nftTokenId).reserveAsset li vi
          cTokens).pool.nfts (s.loanOf p.nftAsset p.nftTokenId).nftAsset).cNFTAddress =
        .cNFT (s.loanOf p.nftAsset p.nftTokenId).nftAsset := hw.nft_of_ne hnft
      rw [hcNFT] at hs₂
      obtain ⟨-, -, rfl⟩ := LendPoolLoan.repayLoan_eq_ok.mp hs₂
      rfl
  refine Avoids.bind (avoids_burn_of_le ?_) fun _ _ => ?_
  · rw [hdebts]
    apply burn_le h hid haccrual.RAY_le hdebt
    split
    · rename_i hpart
      exact Nat.le_of_lt (of_decide_eq_true hpart)
    · exact le_rfl
  refine (ReserveLogic.avoids_updateInterestRates hbad _ _ _ _ _).bind fun _ _ => ?_
  refine (avoids_safeTransferFrom hp).bind fun _ _ => ?_
  exact Avoids.bind (avoids_ite (fun _ => avoids_safeTransferNFT) fun _ => avoids_pure _)
    fun _ _ => avoids_pure _

theorem avoids_executeRedeem (h : Solvent s) {p : ExecuteRedeemParams}
    (hp : p.initiator ≠ .lendPool) : Avoids Shortfall (LiquidateLogic.executeRedeem s p) := by
  have hbad := shortfall_balanceFault
  have hw := h.regular.sound.wired
  unfold LiquidateLogic.executeRedeem
  refine (avoids_require fun _ => hbad.error _).bind fun _ hid => ?_
  have hid := require_eq_ok.mp hid
  rw [getCollateralLoanId_eq] at *
  simp only [getLoan_eq_loanOf]
  refine (ValidationLogic.avoids_validateRedeem hbad).bind fun _ hvalid => ?_
  obtain ⟨-, hsale, -, -⟩ := ValidationLogic.validateRedeem_eq_ok.mp hvalid
  refine (avoids_endTimestamp _ _).bind fun _ _ => ?_
  refine (avoids_require fun _ => hbad.error _).bind fun _ _ => ?_
  refine (ReserveLogic.avoids_updateState hbad _ _).bind fun s₁ hs₁ => ?_
  obtain ⟨li, vi, cTokens, haccrual, rfl⟩ := (updateState_iff hw).mp hs₁
  refine (GenericLogic.avoids_calculateLoanLiquidatePrice hbad).bind fun prices hprices => ?_
  obtain ⟨hdebt, -⟩ := (liquidatePrice_accrued rfl).mp hprices
  refine (GenericLogic.avoids_calculateLoanBuyItNowFine hbad _).bind fun _ _ => ?_
  refine (avoids_checkRedeem _ _ _ _).bind fun _ _ => ?_
  simp only [accrued_variableBorrowIndex, haccrual.accrued_cToken, haccrual.accrued_debtToken]
  refine (LendPoolLoan.avoids_redeemLoan hbad _ _ _ _).bind fun s₂ hs₂ => ?_
  obtain ⟨-, scaled, hscaled, -, hle, rfl⟩ := LendPoolLoan.redeemLoan_eq_ok.mp hs₂
  refine Avoids.bind (avoids_burn_of_le ?_) fun _ _ => ?_
  · intro scaled' hscaled'
    cases hscaled.symm.trans hscaled'
    exact Nat.le_trans hle (h.scaledAmount_le hid).1
  refine (ReserveLogic.avoids_updateInterestRates hbad _ _ _ _ _).bind fun s₃ hs₃ => ?_
  obtain ⟨_, _, _, _, -, -, -, -, -, -, rfl⟩ := ReserveLogic.updateInterestRates_eq_ok.mp hs₃
  refine (avoids_safeTransferFrom hp).bind fun s₄ hs₄ => ?_
  obtain ⟨token, htoken, rfl⟩ := State.safeTransferFrom_eq_ok.mp hs₄
  refine Avoids.bind (avoids_ite (fun _ => ?_) fun _ => avoids_pure _) fun _ _ => ?_
  · refine Avoids.bind (avoids_safeTransfer ?_) fun _ _ => avoids_safeTransferFrom hp
    simp only [Function.update_self]
    -- the repayment has not touched what the pool holds
    exact (h.price_le hid hsale).trans (nets_transferFrom_of_ne hp.symm _ _ htoken)
  · exact (Uint256.avoids_add hbad.panic _ _).bind fun _ _ => avoids_pure _

private theorem avoids_payOut {initiator borrower buyer nftAsset : Address}
    {price extra tokenId : Nat} (hinitiator : initiator ≠ .lendPool)
    (hprice : price ≤ (s.erc20 asset).balances .lendPool) :
    Avoids Shortfall (do
      let s ← (if debt - price > 0 then
          s.safeTransferFrom asset .lendPool initiator .lendPool (debt - price)
        else pure s)
      let s ← s.safeTransfer asset .lendPool (.cToken asset) debt
      let s ← (if price - debt > 0 then s.safeTransfer asset .lendPool borrower (price - debt)
        else pure s)
      let s ← s.safeTransferNFT nftAsset .lendPool .lendPool buyer tokenId
      pure (s, extra)) := by
  refine Avoids.bind (avoids_ite (fun _ => avoids_safeTransferFrom hinitiator)
    fun _ => avoids_pure _) fun m hm => ?_
  obtain ⟨token, htoken, rfl⟩ := (ite_eq_paid safeTransferFrom_eq_paid).mp hm
  have hextra := (nets_transferFrom_recipient hinitiator).ite (fun hc => by omega) _ token htoken
  refine Avoids.bind (avoids_safeTransfer ?_) fun m' hm' => ?_
  · simp only [State.pays, Function.update_self]
    omega
  obtain ⟨token', htoken', rfl⟩ := State.safeTransfer_eq_ok.mp hm'
  have hpaid := nets_transfer_sender _ token' htoken'
  simp only [State.pays, Function.update_self] at hpaid
  refine Avoids.bind (avoids_ite (fun _ => avoids_safeTransfer ?_) fun _ => avoids_pure _)
    fun _ _ => avoids_safeTransferNFT.bind fun _ _ => avoids_pure _
  simp only [Function.update_self]
  omega

theorem avoids_executeLiquidate (h : Solvent s) {p : ExecuteLiquidateParams}
    (hp : p.initiator ≠ .lendPool) : Avoids Shortfall (LiquidateLogic.executeLiquidate s p) := by
  have hbad := shortfall_balanceFault
  have hw := h.regular.sound.wired
  unfold LiquidateLogic.executeLiquidate
  refine (avoids_require fun _ => hbad.error _).bind fun _ hid => ?_
  have hid := require_eq_ok.mp hid
  rw [getCollateralLoanId_eq] at *
  simp only [getLoan_eq_loanOf]
  refine (ValidationLogic.avoids_validateLiquidate hbad).bind fun _ hvalid => ?_
  obtain ⟨hactive, hsale, -⟩ := ValidationLogic.validateLiquidate_eq_ok.mp hvalid
  refine (avoids_require fun _ => hbad.error _).bind fun _ _ => ?_
  refine (ReserveLogic.avoids_updateState hbad _ _).bind fun s₁ hs₁ => ?_
  obtain ⟨li, vi, cTokens, haccrual, rfl⟩ := (updateState_iff hw).mp hs₁
  refine (GenericLogic.avoids_calculateLoanLiquidatePrice hbad).bind fun prices hprices => ?_
  obtain ⟨hdebt, -⟩ := (liquidatePrice_accrued rfl).mp hprices
  refine (avoids_require fun _ => hbad.error _).bind fun _ _ => ?_
  simp only [accrued_variableBorrowIndex, haccrual.accrued_cToken, haccrual.accrued_debtToken]
  rw [hw.nft_of_ne hactive.1]
  refine (LendPoolLoan.avoids_liquidateLoan hbad _ _ _ _).bind fun s₂ hs₂ => ?_
  obtain ⟨-, -, rfl⟩ := LendPoolLoan.liquidateLoan_eq_ok.mp hs₂
  refine Avoids.bind (avoids_burn_of_le (burn_le h hid haccrual.RAY_le hdebt le_rfl)) fun _ _ => ?_
  refine (ReserveLogic.avoids_updateInterestRates hbad _ _ _ _ _).bind fun s₃ hs₃ => ?_
  obtain ⟨_, _, _, _, -, -, -, -, -, -, rfl⟩ := ReserveLogic.updateInterestRates_eq_ok.mp hs₃
  exact avoids_payOut hp (h.price_le hid hsale)

theorem avoids_executeBatchRepay (h : Solvent s) (hpaused : s.pool.paused = false)
    {p : ExecuteBatchRepayParams} {n : Nat} (hp : p.initiator = .account n) :
    Avoids Shortfall (BorrowLogic.executeBatchRepay s p) := by
  have hbad := shortfall_balanceFault
  have hitems : ∀ item ∈ BorrowLogic.repayItems p, item.initiator = .account n :=
    fun item hitem => (repayItems_initiator item hitem).trans hp
  refine (avoids_require fun _ => hbad.message _).bind fun _ _ => ?_
  refine (avoids_require fun _ => hbad.message _).bind fun _ _ => ?_
  refine foldlM_avoids (fun m => Solvent m.1 ∧ m.1.pool.paused = false) _ ?_ ?_ _
    ⟨h, hpaused⟩
  · rintro ⟨m, done⟩ item m' hitem ⟨hm, hopen⟩ hnext
    obtain ⟨⟨m', r⟩, hrepay, rfl⟩ := bind_pure_eq_ok.mp hnext
    obtain ⟨_, _, _, _, heffect, -⟩ :=
      repay_effect hm.regular.sound.wired hm.regular.book.toFiled hrepay
    exact ⟨hm.step (run_ofRepay (hitems item hitem) hopen hrepay), heffect.step.paused.trans hopen⟩
  · rintro ⟨m, done⟩ item hitem ⟨hm, -⟩
    refine (avoids_repay hm ?_).bind fun _ _ => avoids_pure _
    simp [hitems item hitem]

end Pay

/-! ### The entry points of the pool -/

section Entry

variable {n amount fine nftTokenId : Nat} {nftAsset : Address}

private theorem avoids_entry {α : Type} {program : Except Revert α}
    (h : s.pool.paused = false → Avoids Shortfall program) :
    Avoids Shortfall (LendPool.whenNotPaused s >>= fun _ => program) :=
  (avoids_require fun _ => shortfall_balanceFault.error _).bind fun _ hopen =>
    h (require_eq_ok.mp hopen)

theorem LendPool.avoids_repay (h : Solvent s) :
    Avoids Shortfall (LendPool.repay s (.account n) nftAsset nftTokenId amount) :=
  avoids_entry fun _ => Confetti.avoids_repay h (by simp)

theorem LendPool.avoids_batchRepay (h : Solvent s) (nftAssets : List Address)
    (nftTokenIds amounts : List Nat) :
    Avoids Shortfall (LendPool.batchRepay s (.account n) nftAssets nftTokenIds amounts) :=
  avoids_entry fun hopen => avoids_executeBatchRepay h hopen rfl

theorem LendPool.avoids_redeem (h : Solvent s) :
    Avoids Shortfall (LendPool.redeem s (.account n) nftAsset nftTokenId amount fine) :=
  avoids_entry fun _ => avoids_executeRedeem h (by simp)

theorem LendPool.avoids_liquidate (h : Solvent s) :
    Avoids Shortfall (LendPool.liquidate s (.account n) nftAsset nftTokenId amount) :=
  avoids_entry fun _ => avoids_executeLiquidate h (by simp)

end Entry

end Confetti

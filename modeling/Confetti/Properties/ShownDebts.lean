import Confetti.Effects.Borrowing
import Confetti.Effects.Frames
import Confetti.Gateway.PunkGateway
import Confetti.Properties.ExactQuotes

/-! What the views show of deposits, debts and loans before an update of the reserve, and what
the operations and the gateways charge for a loan in the same block. -/
namespace Confetti
open Outcome TransitionSystem ReserveLogic GenericLogic

/-- What the operations on the loan of an NFT charge for it now, if its debt is this. -/
structure DebtCharged (s : State) (nftAsset : Address) (nftTokenId : Nat) (loan : LoanData)
    (debt : Nat) : Prop where
  repay : ∀ user amount s' paid all,
    LendPool.repay s user nftAsset nftTokenId amount = .ok (s', paid, all) →
      paid = min amount debt ∧ all = decide (debt ≤ amount) ∧
        Pays s s' loan.reserveAsset
          [⟨loan.reserveAsset, user, .cToken loan.reserveAsset, min amount debt⟩]
  redeem : ∀ user amount buyItNowFine s' paid,
    LendPool.redeem s user nftAsset nftTokenId amount buyItNowFine = .ok (s', paid) →
      WithinBounds debt (s.pool.nfts nftAsset).configuration.getRedeemThreshold amount ∧
        ∃ minFine fine, calculateLoanBuyItNowFine s loan.reserveAsset nftAsset loan =
          .ok (minFine, fine) ∧ paid = amount + fine
  liquidate : ∀ user amount s' paid,
    LendPool.liquidate s user nftAsset nftTokenId amount = .ok (s', paid) →
      paid = debt - loan.buyItNowPrice ∧ Pays s s' loan.reserveAsset
        (liquidationEvents loan.reserveAsset user loan.borrower loan.buyItNowPrice debt)

/-- What the gateways work out for a repayment is what the pool then takes of them. -/
structure Precomputed (s : State) (nftAsset : Address) (nftTokenId debt : Nat) : Prop where
  repayETH : ∀ setup w msgValue amount accAmount w' paid all, w.state = s →
    WETHGateway.repayItemETH setup w msgValue nftAsset nftTokenId amount accAmount =
        .ok (w', paid, all) →
      paid = if amount < debt then amount else debt
  repayPunk : ∀ setup w msgSender amount w' paid all, w.state = s → setup.punkAsset = nftAsset →
    PunkGateway.repayItem setup w msgSender nftTokenId amount = .ok (w', paid, all) →
      paid = if debt < amount then debt else amount
  repayPunkETH : ∀ setup w msgSender msgValue amount accAmount w' paid all, w.state = s →
    setup.punkAsset = nftAsset →
      PunkGateway.repayItemETH setup w msgSender msgValue nftTokenId amount accAmount =
          .ok (w', paid, all) →
        paid = if amount < debt then amount else debt

/-- What the views show before an update is what the update charges and credits, and what the
operations and the gateways then ask for. -/
structure ViewsAgree (s : State) (asset : Address) (s' : State) : Prop where
  income : getNormalizedIncome (s.pool.reserves asset) s.timestamp =
    .ok (s'.pool.reserves asset).liquidityIndex
  debt : getNormalizedDebt (s.pool.reserves asset) s.timestamp =
    .ok (s'.pool.reserves asset).variableBorrowIndex
  deposits : ∀ user, CToken.balanceOf s (.cToken asset) user =
    rayMul ((s.cTokens asset).scaledBalanceOf user) (s'.pool.reserves asset).liquidityIndex
  debts : ∀ user, DebtToken.balanceOf s (.debtToken asset) user =
    rayMul ((s.debtTokens asset).scaledBalanceOf user)
      (s'.pool.reserves asset).variableBorrowIndex
  loans : ∀ loanId, (s.loanStore.loans loanId).reserveAsset = asset →
    LendPoolLoan.getLoanReserveBorrowAmount s loanId =
      Prod.mk asset <$> rayMul (s.loanStore.loans loanId).scaledAmount
        (s'.pool.reserves asset).variableBorrowIndex
  nftDebtData : ∀ nftAsset nftTokenId data,
    s.loanStore.nftToLoanIds nftAsset nftTokenId ≠ 0 →
      (s.loanOf nftAsset nftTokenId).reserveAsset = asset →
        LendPool.getNftDebtData s nftAsset nftTokenId = .ok data →
          rayMul (s.loanOf nftAsset nftTokenId).scaledAmount
            (s'.pool.reserves asset).variableBorrowIndex = .ok data.totalDebt
  charged : ∀ nftAsset nftTokenId debt, s.loanStore.nftToLoanIds nftAsset nftTokenId ≠ 0 →
    LendPoolLoan.getLoanReserveBorrowAmount s (s.loanStore.nftToLoanIds nftAsset nftTokenId) =
        .ok (asset, debt) →
      DebtCharged s nftAsset nftTokenId (s.loanOf nftAsset nftTokenId) debt ∧
        Precomputed s nftAsset nftTokenId debt

/-- The debt index that the views show is the one that an update stores. -/
structure IndexShown (s : State) (asset : Address) (vi : Nat) : Prop where
  shown : ShowsDebtIndex s asset vi
  stored : updatedBorrowIndex (s.pool.reserves asset) (s.debtTokens asset).ledger.totalSupply
    s.timestamp = .ok vi

/-- The parts of a sound state that the operations on a loan rely on. -/
structure Kempt (s : State) : Prop where
  wired : Wired s
  filed : Filed s
  named : ∀ nftAsset nftTokenId, s.loanStore.nftToLoanIds nftAsset nftTokenId ≠ 0 →
    s.loanStore.loans (s.loanOf nftAsset nftTokenId).loanId = s.loanOf nftAsset nftTokenId

variable {s s' : State} {asset nftAsset : Address} {now li vi nftTokenId debt : Nat}
  {loan : LoanData} {w w' : World}

theorem kempt_of_reachable (hs : Reachable operations s) : Kempt s := by
  have hreg := regular_of_reachable hs
  exact ⟨hreg.sound.wired, hreg.book.toFiled, fun _ _ hid => hreg.book.loanOf_loanId hid⟩

theorem Kempt.atTime (h : Kempt s) (now : Nat) : Kempt (s.atTime now) :=
  ⟨⟨h.wired.reserve, h.wired.nft, h.wired.proxy⟩, h.filed, h.named⟩

theorem IndexShown.debt_eq {li vi' debt' : Nat} {loan : LoanData} {cTokens : Address → CToken}
    (h : IndexShown s asset vi) (hdebt : rayMul loan.scaledAmount vi = .ok debt)
    (ha : Accrual s asset li vi' cTokens) (hcharged : rayMul loan.scaledAmount vi' = .ok debt') :
    debt' = debt := by
  obtain rfl : vi' = vi := Except.ok.inj (ha.variableBorrowIndex.symm.trans h.stored)
  exact Except.ok.inj (hcharged.symm.trans hdebt)

theorem IndexShown.debtCharged (hk : Kempt s)
    (hid : s.loanStore.nftToLoanIds nftAsset nftTokenId ≠ 0)
    (h : IndexShown s (s.loanOf nftAsset nftTokenId).reserveAsset vi)
    (hdebt : rayMul (s.loanOf nftAsset nftTokenId).scaledAmount vi = .ok debt) :
    DebtCharged s nftAsset nftTokenId (s.loanOf nftAsset nftTokenId) debt := by
  have hnft : (s.loanOf nftAsset nftTokenId).nftAsset = nftAsset :=
    (hk.filed nftAsset nftTokenId hid).1
  refine ⟨?_, ?_, ?_⟩
  · intro user amount s' paid all hrun
    obtain ⟨li, vi', debt', scaled, heffect, hall⟩ :=
      repay_effect hk.wired hk.filed (LendPool.of_whenNotPaused hrun)
    obtain ⟨cTokens, ha⟩ := heffect.step.accrual
    obtain rfl : debt' = debt := h.debt_eq hdebt ha heffect.debt_eq
    have hpaid : paid = min amount debt' := heffect.paid_eq
    have hpays := heffect.cash.pays (recorded_transferFrom _)
    rw [hpaid] at hpays
    exact ⟨hpaid, hall, hpays⟩
  · intro user amount buyItNowFine s' paid hrun
    obtain ⟨li, vi', cTokens, debt', fine, scaled, lr, vr, token, hredemption, -, rfl⟩ :=
      (executeRedeem_eq_ok hk.wired).mp (LendPool.of_whenNotPaused hrun)
    obtain rfl : debt' = debt := h.debt_eq hdebt hredemption.accrual hredemption.debt_eq
    obtain ⟨minFine, hfine⟩ := hredemption.fine_eq
    have hcheck := hredemption.check
    simp only [LiquidateLogic.checkRedeem, bind_eq_ok, require_eq_ok, exists_const] at hcheck
    obtain ⟨-, least, hleast, hle, most, hmost, hge⟩ := hcheck
    rw [hnft] at hleast hfine
    rw [calculateLoanBuyItNowFine_accrued] at hfine
    · exact ⟨⟨least, most, hleast, hle, hmost, hge⟩, minFine, fine, hfine, rfl⟩
    · rw [hk.named nftAsset nftTokenId hid, borrowAmount_accrued _ rfl, h.shown.borrowAmount rfl]
      exact hredemption.debt_eq.trans hdebt.symm
  · intro user amount s' paid hrun
    obtain ⟨li, vi', cTokens, debt', scaled, lr, vr, token, hliquidation, rfl, rfl⟩ :=
      (executeLiquidate_eq_ok hk.wired hk.filed).mp (LendPool.of_whenNotPaused hrun)
    obtain rfl : debt' = debt := h.debt_eq hdebt hliquidation.accrual hliquidation.debt_eq
    exact ⟨rfl, hliquidation.cash.pays (recorded_liquidation _ _ _ _ _)⟩

/-- Calls of tokens in between change neither the terms of the loan nor the index. -/
theorem IndexShown.chargedAfter {call : TokenCall} (hk : Kempt s)
    (hid : s.loanStore.nftToLoanIds nftAsset nftTokenId ≠ 0)
    (h : IndexShown s (s.loanOf nftAsset nftTokenId).reserveAsset vi)
    (hdebt : rayMul (s.loanOf nftAsset nftTokenId).scaledAmount vi = .ok debt)
    (hcall : (Operation.token call).run s = .ok s') :
    DebtCharged s' nftAsset nftTokenId (s.loanOf nftAsset nftTokenId) debt := by
  obtain ⟨erc20, transfers, erc721, cNFTs, rfl⟩ := TokenCall.frame hcall
  have hk' : Kempt { s with erc20, transfers, erc721, cNFTs } :=
    ⟨⟨hk.wired.reserve, hk.wired.nft, hk.wired.proxy⟩, hk.filed, hk.named⟩
  exact IndexShown.debtCharged hk' hid ⟨h.shown, h.stored⟩ hdebt

theorem World.repay_paid {caller amount paid : Nat} {all : Bool}
    (hcharged : DebtCharged w.state nftAsset nftTokenId loan debt)
    (h : w.repay caller nftAsset nftTokenId amount = .ok (w', paid, all)) :
    paid = min amount debt := by
  obtain ⟨⟨s', r⟩, hrepay, hpure⟩ := bind_eq_ok.mp h
  obtain ⟨rfl, rfl⟩ := Prod.mk.inj (pure_eq_ok.mp hpure)
  exact (hcharged.repay _ _ _ _ _ hrepay).1

theorem IndexShown.precomputed (hk : Kempt s)
    (hid : s.loanStore.nftToLoanIds nftAsset nftTokenId ≠ 0)
    (h : IndexShown s (s.loanOf nftAsset nftTokenId).reserveAsset vi)
    (hdebt : rayMul (s.loanOf nftAsset nftTokenId).scaledAmount vi = .ok debt) :
    Precomputed s nftAsset nftTokenId debt := by
  have hshown : LendPoolLoan.getLoanReserveBorrowAmount s
      (s.loanStore.nftToLoanIds nftAsset nftTokenId) =
        .ok ((s.loanOf nftAsset nftTokenId).reserveAsset, debt) :=
    LendPoolLoan.getLoanReserveBorrowAmount_eq_ok.mpr
      ⟨rfl, (h.shown.borrowAmount rfl).trans hdebt⟩
  have hETH : ∀ setup w msgValue amount accAmount w' paid all, w.state = s →
      WETHGateway.repayItemETH setup w msgValue nftAsset nftTokenId amount accAmount =
          .ok (w', paid, all) →
        paid = if amount < debt then amount else debt := by
    intro setup w msgValue amount accAmount w' paid all hw hitem
    subst hw
    obtain ⟨_, -, hitem⟩ := bind_eq_ok.mp hitem
    obtain ⟨borrowed, hborrowed, hitem⟩ := bind_eq_ok.mp hitem
    obtain ⟨_, -, hitem⟩ := bind_eq_ok.mp hitem
    obtain ⟨_, -, hitem⟩ := bind_eq_ok.mp hitem
    obtain ⟨_, -, hitem⟩ := bind_eq_ok.mp hitem
    obtain ⟨m, hwrap, hrepay⟩ := bind_eq_ok.mp hitem
    obtain ⟨m', hsend, hmint⟩ := bind_eq_ok.mp hwrap
    obtain ⟨-, rfl⟩ := World.sendEther_eq_ok.mp hsend
    obtain ⟨s', hcall, rfl⟩ := World.call_eq_ok.mp hmint
    rw [World.repay_paid (h.chargedAfter hk hid hdebt hcall) hrepay]
    split <;> omega
  refine ⟨hETH, ?_, ?_⟩
  · intro setup w msgSender amount w' paid all hw hasset hitem
    subst hw hasset
    obtain ⟨_, -, hitem⟩ := bind_eq_ok.mp hitem
    obtain ⟨borrowed, hborrowed, hitem⟩ := bind_eq_ok.mp hitem
    obtain rfl : borrowed = _ := Except.ok.inj (hborrowed.symm.trans hshown)
    obtain ⟨m, hpull, hitem⟩ := bind_eq_ok.mp hitem
    obtain ⟨⟨m', r⟩, hrepay, hitem⟩ := bind_eq_ok.mp hitem
    obtain ⟨_, -, hpure⟩ := bind_eq_ok.mp hitem
    obtain ⟨s', hcall, rfl⟩ := World.call_eq_ok.mp hpull
    obtain ⟨-, rfl⟩ := Prod.mk.inj (pure_eq_ok.mp hpure)
    rw [World.repay_paid (h.chargedAfter hk hid hdebt hcall) hrepay]
    change min (if debt < amount then debt else amount) debt = _
    split <;> omega
  · intro setup w msgSender msgValue amount accAmount w' paid all hw hasset hitem
    subst hw hasset
    obtain ⟨_, -, hitem⟩ := bind_eq_ok.mp hitem
    obtain ⟨_, -, hitem⟩ := bind_eq_ok.mp hitem
    obtain ⟨borrowed, hborrowed, hitem⟩ := bind_eq_ok.mp hitem
    obtain ⟨_, -, hitem⟩ := bind_eq_ok.mp hitem
    obtain ⟨_, -, hitem⟩ := bind_eq_ok.mp hitem
    obtain ⟨m, hsend, hitem⟩ := bind_eq_ok.mp hitem
    obtain ⟨⟨m', r⟩, hrepay, hitem⟩ := bind_eq_ok.mp hitem
    obtain ⟨_, -, hpure⟩ := bind_eq_ok.mp hitem
    obtain ⟨-, rfl⟩ := World.sendEther_eq_ok.mp hsend
    obtain ⟨-, rfl⟩ := Prod.mk.inj (pure_eq_ok.mp hpure)
    -- the WETH gateway looks the debt up once more
    obtain ⟨⟨m'', paid', all'⟩, hinner, hrefund⟩ := bind_eq_ok.mp hrepay
    obtain ⟨_, -, hpure⟩ := bind_eq_ok.mp hrefund
    obtain ⟨-, hresult⟩ := Prod.mk.inj (pure_eq_ok.mp hpure)
    obtain ⟨rfl, rfl⟩ := Prod.mk.inj hresult
    exact hETH _ _ _ _ _ _ _ _ (by rfl) hinner

theorem viewsAgree_of_indexes (hk : Kempt s)
    (hincome : getNormalizedIncome (s.pool.reserves asset) s.timestamp =
      .ok (s'.pool.reserves asset).liquidityIndex)
    (h : IndexShown s asset (s'.pool.reserves asset).variableBorrowIndex) :
    ViewsAgree s asset s' := by
  have hdebt : getNormalizedDebt (s.pool.reserves asset) s.timestamp =
    .ok (s'.pool.reserves asset).variableBorrowIndex := h.shown
  refine ⟨hincome, hdebt, ?_, ?_, ?_, ?_, ?_⟩
  · intro user
    unfold CToken.balanceOf
    simp only [State.cTokenAt, ok_bind, hincome]
    rfl
  · intro user
    unfold DebtToken.balanceOf
    simp only [State.debtTokenAt, ok_bind, hdebt]
    split
    · rename_i hzero
      rw [hzero, rayMul_zero_left]
      rfl
    · rfl
  · intro loanId hasset
    unfold LendPoolLoan.getLoanReserveBorrowAmount
    simp only [h.shown.borrowAmount hasset, hasset]
    rfl
  · intro nftAsset nftTokenId data hid hasset hdata
    exact (h.shown.borrowAmount hasset).symm.trans (getNftDebtData_totalDebt hid hdata)
  · intro nftAsset nftTokenId debt hid hshown
    obtain ⟨hasset, hamount⟩ := LendPoolLoan.getLoanReserveBorrowAmount_eq_ok.mp hshown
    change asset = (s.loanOf nftAsset nftTokenId).reserveAsset at hasset
    subst hasset
    have hcharged : rayMul (s.loanOf nftAsset nftTokenId).scaledAmount
        (s'.pool.reserves (s.loanOf nftAsset nftTokenId).reserveAsset).variableBorrowIndex =
          .ok debt := (h.shown.borrowAmount rfl).symm.trans hamount
    exact ⟨h.debtCharged hk hid hcharged, h.precomputed hk hid hcharged⟩

/-- At any time at which a reserve with debt can be updated, the views show what the update
stores and the operations charge exactly if both accrue alike. -/
theorem views_agree_iff (hs : Reachable operations s)
    (hdebt : (s.debtTokens asset).scaledTotalSupply ≠ 0)
    (htime : (s.pool.reserves asset).lastUpdateTimestamp ≤ now)
    (h : updateState (s.atTime now) asset = .ok s') :
    ViewsAgree (s.atTime now) asset s' ↔ AccruesAlike (s.pool.reserves asset) now := by
  have hw := (regular_of_reachable hs).sound.wired
  have hwired : Wired (s.atTime now) := ⟨hw.reserve, hw.nft, hw.proxy⟩
  obtain ⟨li, vi, cTokens, haccrual, rfl⟩ := (updateState_iff hwired).mp h
  have hlisted : (s.pool.reserves asset).Listed asset := haccrual.listed
  have hli : updatedLiquidityIndex (s.pool.reserves asset) now = .ok li :=
    haccrual.liquidityIndex
  have hvi : updatedBorrowIndex (s.pool.reserves asset)
    (s.debtTokens asset).ledger.totalSupply now = .ok vi := haccrual.variableBorrowIndex
  constructor
  · intro hviews
    have hincome := hviews.income
    have hnormalized := hviews.debt
    rw [accrued_liquidityIndex] at hincome
    rw [accrued_variableBorrowIndex] at hnormalized
    exact alike_of_views hlisted (hw.reserve asset).clock htime hli hvi hincome hnormalized
  · intro halike
    apply viewsAgree_of_indexes ((kempt_of_reachable hs).atTime now)
    · rw [accrued_liquidityIndex]
      exact income_of_alike hlisted (fun _ => htime) hli halike
    · rw [accrued_variableBorrowIndex]
      exact ⟨debt_of_alike hlisted (fun _ => htime) hdebt hvi halike, hvi⟩

/-- A day after the loan was taken, depositors earning: account 3 pays off what is shown. -/
theorem views_agree_after_a_day : ∃ s' debt s'' paid all,
    updateState (sampleLent.atTime 1086400) sampleMarket.asset = .ok s' ∧
      ViewsAgree (sampleLent.atTime 1086400) sampleMarket.asset s' ∧
        LendPoolLoan.getLoanReserveBorrowAmount (sampleLent.atTime 1086400) 1 =
            .ok (sampleMarket.asset, debt) ∧ 40 * 10 ^ 18 < debt ∧
          LendPool.repay (sampleLent.atTime 1086400) (.account 3) sampleMarket.nftAsset 7
              (100 * 10 ^ 18) = .ok (s'', paid, all) ∧ paid = min (100 * 10 ^ 18) debt := by
  have hcheck : passes (updateState (sampleLent.atTime 1086400) sampleMarket.asset)
    (fun _ => true) = true := by decide +kernel
  have hshown : passes (LendPoolLoan.getLoanReserveBorrowAmount (sampleLent.atTime 1086400) 1)
    (fun shown => shown.1 = sampleMarket.asset && 40 * 10 ^ 18 < shown.2) = true := by
      decide +kernel
  have hpays : passes (LendPool.repay (sampleLent.atTime 1086400) (.account 3)
    sampleMarket.nftAsset 7 (100 * 10 ^ 18)) (fun _ => true) = true := by decide +kernel
  obtain ⟨s', h, -⟩ := exists_of_passes hcheck
  obtain ⟨⟨asset, debt⟩, hdebt, hmore⟩ := exists_of_passes hshown
  obtain ⟨⟨s'', paid, all⟩, hrepay, -⟩ := exists_of_passes hpays
  have hviews := (views_agree_iff sampleLent_reachable (by decide +kernel) (by decide +kernel)
    h).mpr (by decide +kernel)
  simp only [Bool.and_eq_true, decide_eq_true_eq] at hmore
  obtain ⟨rfl, hmore⟩ := hmore
  obtain ⟨hcharged, -⟩ := hviews.charged sampleMarket.nftAsset 7 debt (by decide +kernel) hdebt
  exact ⟨s', debt, s'', paid, all, h, hviews, hdebt, hmore, hrepay,
    (hcharged.repay _ _ _ _ _ hrepay).1⟩

/-- All interest goes to the treasury, so depositors earn nothing. -/
def untouchedMarket : Market := { sampleMarket with reserveFactor := 10000 }

def untouchedLent : State :=
  replayed operations sampleWorld (untouchedMarket.lending (40 * 10 ^ 18))

def debtShown (s : State) (asset : Address) (s' : State) : Bool :=
  passes (getNormalizedDebt (s.pool.reserves asset) s.timestamp) fun index =>
    index == (s'.pool.reserves asset).variableBorrowIndex

theorem ViewsAgree.debtShown (h : ViewsAgree s asset s') : debtShown s asset s' = true := by
  unfold Confetti.debtShown
  rw [h.debt]
  exact beq_self_eq_true _

/-- The debt index stays where it is while the view compounds. -/
theorem views_disagree :
    ¬∀ s asset now s', Reachable operations s → (s.debtTokens asset).scaledTotalSupply ≠ 0 →
      (s.pool.reserves asset).lastUpdateTimestamp ≤ now →
        updateState (s.atTime now) asset = .ok s' → ViewsAgree (s.atTime now) asset s' := by
  intro h
  have hcheck : passes (updateState (untouchedLent.atTime 1086400) untouchedMarket.asset)
    (fun s' => !debtShown (untouchedLent.atTime 1086400) untouchedMarket.asset s') = true := by
    decide +kernel
  obtain ⟨s', hupdate, hshown⟩ := exists_of_passes hcheck
  have hviews := h untouchedLent untouchedMarket.asset 1086400 s'
    (fresh_reachable (by decide) _ _ _ _) (by decide +kernel) (by decide +kernel) hupdate
  rw [hviews.debtShown] at hshown
  cases hshown

end Confetti

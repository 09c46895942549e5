import Confetti.Effects.Selling
import Confetti.Invariants.Book
import Confetti.Protocol.Deployment

/-! The amounts a loan on sale can be redeemed with: from the threshold of its collection
up to nine tenths of the debt. The threshold is whatever the admin wrote. -/
namespace Confetti
open Outcome HalfUp TransitionSystem ReserveLogic

/-- An amount within the bounds of a redemption that the loan has the units for. -/
structure RedeemAmount (loan : LoanData) (debt redeemThreshold borrowIndex amount : Nat) :
    Prop where
  positive : 0 < amount
  least : ∃ minRepayAmount, percentMul debt redeemThreshold = .ok minRepayAmount ∧
    minRepayAmount ≤ amount
  most : ∃ maxRepayAmount, percentMul debt (PERCENTAGE_FACTOR - TEN_PERCENT) =
    .ok maxRepayAmount ∧ amount ≤ maxRepayAmount
  units : ∃ scaled, rayDiv amount borrowIndex = .ok scaled ∧ 0 < scaled ∧
    scaled ≤ loan.scaledAmount

/-- The threshold is at most ninety percent, or the debt is so small that what it exceeds
them by is rounded away. -/
def ThresholdFits (debt redeemThreshold : Nat) : Prop :=
  debt * (redeemThreshold - 9000) + (debt * 9000 + 5000) % 10000 < 10000

instance (debt redeemThreshold : Nat) : Decidable (ThresholdFits debt redeemThreshold) :=
  inferInstanceAs (Decidable (_ < _))

theorem thresholdFits_of_le {redeemThreshold : Nat} (h : redeemThreshold ≤ 9000) (debt : Nat) :
    ThresholdFits debt redeemThreshold := by
  unfold ThresholdFits
  rw [Nat.sub_eq_zero_of_le h]
  omega

/-! ### Rounding -/

section Rounding

variable {debt redeemThreshold scaled index : Nat}

theorem thresholdFits_iff :
    halfUp (debt * redeemThreshold) PERCENTAGE_FACTOR ≤ halfUp (debt * 9000) PERCENTAGE_FACTOR ↔
      ThresholdFits debt redeemThreshold := by
  rw [halfUp_le_iff (by decide)]
  unfold ThresholdFits halfUp PERCENTAGE_FACTOR
  have hexcess : debt * (redeemThreshold - 9000) = debt * redeemThreshold - debt * 9000 :=
    Nat.mul_sub _ _ _
  omega

theorem most_le (debt : Nat) : halfUp (debt * 9000) PERCENTAGE_FACTOR ≤ debt := by
  unfold halfUp PERCENTAGE_FACTOR
  omega

theorem most_units_pos (hindex : RAY ≤ index) (hscaled : 0 < scaled) :
    0 < halfUp (halfUp (halfUp (scaled * index) RAY * 9000) PERCENTAGE_FACTOR * RAY) index := by
  have hpos := RAY_pos
  rw [halfUp_pos_iff (hpos.trans_le hindex)]
  have hdebt := lt_halfUp_succ_mul (scaled * index) hpos
  generalize halfUp (scaled * index) RAY = debt at *
  have hninth : 9 * debt ≤ 10 * halfUp (debt * 9000) PERCENTAGE_FACTOR + 4 := by
    unfold halfUp PERCENTAGE_FACTOR
    omega
  generalize halfUp (debt * 9000) PERCENTAGE_FACTOR = most at *
  have hunit : index ≤ scaled * index := Nat.le_mul_of_pos_left index hscaled
  have heven : 2 ∣ RAY := two_dvd_RAY
  generalize RAY = ray at *
  have hsplit : (debt + 1) * ray = debt * ray + ray := Nat.succ_mul debt ray
  have hscale : 9 * (debt * ray) ≤ 10 * (most * ray) + 4 * ray := by
    have hmul := Nat.mul_le_mul_right ray hninth
    have hleft : 9 * debt * ray = 9 * (debt * ray) := Nat.mul_assoc _ _ _
    have hright : (10 * most + 4) * ray = 10 * (most * ray) + 4 * ray := by ring
    omega
  by_contra hshort
  -- then the index exceeds twice what the amount is worth, and only a debt of one is left
  have hone : debt ≤ 1 := by
    by_contra htwo
    have hlarge : 2 * ray ≤ debt * ray := Nat.mul_le_mul_right ray (by omega)
    omega
  have hmost : debt * ray ≤ most * ray := Nat.mul_le_mul_right ray (by omega)
  have hsmall : debt * ray ≤ 1 * ray := Nat.mul_le_mul_right ray hone
  omega

end Rounding

/-! ### Amounts -/

section Amounts

variable {loan : LoanData} {debt redeemThreshold vi : Nat}

/-- A threshold of sixteen bits never makes the product overflow. -/
theorem percentMul_debt (hdebt : rayMul loan.scaledAmount vi = .ok debt) (hpositive : 0 < debt)
    (hthreshold : redeemThreshold < 2 ^ 16) :
    percentMul debt redeemThreshold =
      .ok (halfUp (debt * redeemThreshold) PERCENTAGE_FACTOR) := by
  obtain ⟨hfits, rfl⟩ := rayMul_eq_ok.mp hdebt
  refine percentMul_eq_ok.mpr ⟨?_, rfl⟩
  have hworth := halfUp_mul_le (loan.scaledAmount * vi) RAY
  generalize halfUp (loan.scaledAmount * vi) RAY = debt at *
  calc
    debt * redeemThreshold + PERCENTAGE_FACTOR / 2 ≤ debt * redeemThreshold + debt * 5000 :=
      Nat.add_le_add_left (Nat.le_mul_of_pos_left 5000 hpositive) _
    _ = debt * (redeemThreshold + 5000) := (Nat.mul_add _ _ _).symm
    _ ≤ debt * RAY := Nat.mul_le_mul_left debt ((Nat.add_le_add_right hthreshold.le 5000).trans
      (by decide))
    _ ≤ Uint256.max := hworth.trans hfits

theorem rayDiv_most (hindex : RAY ≤ vi) (hslot : vi ≤ Uint128.max)
    (hdebt : rayMul loan.scaledAmount vi = .ok debt) (hpositive : 0 < debt) :
    ∃ scaled, rayDiv (halfUp (debt * 9000) PERCENTAGE_FACTOR) vi = .ok scaled ∧ 0 < scaled ∧
      scaled ≤ loan.scaledAmount := by
  have hunits : 0 < loan.scaledAmount := by
    by_contra hzero
    obtain ⟨-, hvalue⟩ := rayMul_eq_ok.mp hdebt
    rw [Nat.eq_zero_of_not_pos hzero, Nat.zero_mul, halfUp_zero] at hvalue
    omega
  have hscaled : rayDiv (halfUp (debt * 9000) PERCENTAGE_FACTOR) vi =
      .ok (halfUp (halfUp (debt * 9000) PERCENTAGE_FACTOR * RAY) vi) := by
    refine rayDiv_eq_ok.mpr ⟨Nat.ne_of_gt (RAY_pos.trans_le hindex), ?_, rfl⟩
    obtain ⟨hfits, hvalue⟩ := rayMul_eq_ok.mp hdebt
    have hworth : debt * RAY ≤ Uint256.max :=
      hvalue ▸ (halfUp_mul_le (loan.scaledAmount * vi) RAY).trans hfits
    have htenths : 10 * halfUp (debt * 9000) PERCENTAGE_FACTOR ≤ 9 * debt + 5 := by
      unfold halfUp PERCENTAGE_FACTOR
      omega
    have hscale := Nat.mul_le_mul_right RAY htenths
    rw [Nat.mul_assoc, Nat.add_mul, Nat.mul_assoc] at hscale
    have hroom : 5 * RAY + 10 * Uint128.max ≤ Uint256.max := by decide
    generalize Uint256.max = max at *
    generalize Uint128.max = slot at *
    generalize halfUp (debt * 9000) PERCENTAGE_FACTOR * RAY = paid at *
    generalize debt * RAY = owed at *
    generalize RAY = ray at *
    omega
  refine ⟨_, hscaled, ?_, rayDiv_le_of_le_rayMul hindex hdebt (most_le debt) hscaled⟩
  obtain ⟨-, rfl⟩ := rayMul_eq_ok.mp hdebt
  exact most_units_pos hindex hunits

theorem RedeemAmount.thresholdFits {amount : Nat}
    (h : RedeemAmount loan debt redeemThreshold vi amount) : ThresholdFits debt redeemThreshold := by
  obtain ⟨least, hleast, hle⟩ := h.least
  obtain ⟨most, hmost, hge⟩ := h.most
  obtain ⟨-, rfl⟩ := percentMul_eq_ok.mp hleast
  obtain ⟨-, rfl⟩ := percentMul_eq_ok.mp hmost
  exact thresholdFits_iff.mp (hle.trans hge)

theorem exists_redeemAmount_iff (hindex : RAY ≤ vi) (hslot : vi ≤ Uint128.max)
    (hdebt : rayMul loan.scaledAmount vi = .ok debt) (hpositive : 0 < debt)
    (hthreshold : redeemThreshold < 2 ^ 16) :
    (∃ amount, RedeemAmount loan debt redeemThreshold vi amount) ↔
      ThresholdFits debt redeemThreshold := by
  have hleast := percentMul_debt hdebt hpositive hthreshold
  have hmost : percentMul debt (PERCENTAGE_FACTOR - TEN_PERCENT) =
      .ok (halfUp (debt * 9000) PERCENTAGE_FACTOR) := percentMul_debt hdebt hpositive (by decide)
  constructor
  · rintro ⟨amount, h⟩
    exact h.thresholdFits
  · intro hfits
    refine ⟨halfUp (debt * 9000) PERCENTAGE_FACTOR, ?_,
      ⟨_, hleast, thresholdFits_iff.mpr hfits⟩, ⟨_, hmost, le_rfl⟩,
      rayDiv_most hindex hslot hdebt hpositive⟩
    rw [halfUp_pos_iff (by decide)]
    unfold PERCENTAGE_FACTOR
    omega

end Amounts

variable {s m : State} {asset : Address} {loanId debt redeemThreshold : Nat}

theorem Redemption.redeemAmount {p : ExecuteRedeemParams} {loan : LoanData} {token : ERC20}
    {li vi fine scaled lr vr : Nat} {cTokens : Address → CToken}
    (h : Redemption s p loan li vi cTokens debt fine scaled lr vr token) :
    RedeemAmount loan debt (s.pool.nfts loan.nftAsset).configuration.getRedeemThreshold vi
      p.amount := by
  have hcheck := h.check
  simp only [LiquidateLogic.checkRedeem, bind_eq_ok, require_eq_ok, exists_const] at hcheck
  obtain ⟨-, least, hleast, hle, most, hmost, hge⟩ := hcheck
  exact ⟨h.amount_pos, ⟨least, hleast, hle⟩, ⟨most, hmost, hge⟩,
    ⟨scaled, h.scaled_eq, Nat.pos_of_ne_zero h.scaled_ne, h.scaled_le⟩⟩

theorem executeRedeem_thresholdFits (hw : Wired s) {p : ExecuteRedeemParams} {r : State × Nat}
    (h : LiquidateLogic.executeRedeem s p = .ok r)
    (hupdate : updateState s (s.loanOf p.nftAsset p.nftTokenId).reserveAsset = .ok m)
    (hdebt : LendPoolLoan.borrowAmount m (s.loanOf p.nftAsset p.nftTokenId) = .ok debt) :
    ThresholdFits debt (s.pool.nfts
      (s.loanOf p.nftAsset p.nftTokenId).nftAsset).configuration.getRedeemThreshold := by
  obtain ⟨li, vi, cTokens, owed, _, _, _, _, _, hredemption, -⟩ := (executeRedeem_eq_ok hw).mp h
  obtain rfl := Except.ok.inj (hupdate.symm.trans
    ((updateState_iff hw).mpr ⟨li, vi, cTokens, hredemption.accrual, rfl⟩))
  rw [borrowAmount_accrued _ rfl] at hdebt
  obtain rfl := Except.ok.inj (hdebt.symm.trans hredemption.debt_eq)
  exact hredemption.redeemAmount.thresholdFits

/-- Whether a loan on sale can be redeemed with any amount at all is decided by the
threshold of its collection. -/
theorem redeem_possible_iff_threshold_fits (hs : Reachable operations s)
    (hsale : (s.loanStore.loans loanId).state = .BuyItNow)
    (hasset : (s.loanStore.loans loanId).reserveAsset = asset)
    (hthreshold : (s.pool.nfts
      (s.loanStore.loans loanId).nftAsset).configuration.getRedeemThreshold = redeemThreshold)
    (hupdate : updateState s asset = .ok m)
    (hdebt : LendPoolLoan.borrowAmount m (m.loanStore.loans loanId) = .ok debt)
    (hpositive : 0 < debt) :
    (∃ amount, RedeemAmount (s.loanStore.loans loanId) debt redeemThreshold
          (m.pool.reserves asset).variableBorrowIndex amount ∧
        (∀ p fine, p.amount = amount → fine ≤ p.buyItNowFine →
          LiquidateLogic.checkRedeem p debt fine redeemThreshold = .ok ()) ∧
        Succeeds (LendPoolLoan.redeemLoan m loanId amount
          (m.pool.reserves asset).variableBorrowIndex)) ↔
      ThresholdFits debt redeemThreshold := by
  obtain ⟨li, vi, cTokens, ha, rfl⟩ :=
    (updateState_iff (regular_of_reachable hs).sound.wired).mp hupdate
  have hvalue : rayMul (s.loanStore.loans loanId).scaledAmount vi = .ok debt := by
    rw [← hdebt]
    exact (borrowAmount_accrued _ hasset).symm
  have hbits : redeemThreshold < 2 ^ 16 :=
    hthreshold ▸ NftConfigurationMap.layout.get_lt .redeemThreshold _
  have hray : RAY ≤ vi := ha.listed.RAY_le_variableBorrowIndex.trans
    (le_updatedBorrowIndex ha.variableBorrowIndex)
  have hslot : vi ≤ Uint128.max := updatedBorrowIndex_le ha.listed.variableBorrowIndex_le
    ha.variableBorrowIndex
  rw [accrued_variableBorrowIndex,
    ← exists_redeemAmount_iff hray hslot hvalue hpositive hbits]
  constructor
  · rintro ⟨amount, h, -⟩
    exact ⟨amount, h⟩
  · rintro ⟨amount, h⟩
    refine ⟨amount, h, ?_, ?_⟩
    · rintro p fine rfl hfine
      obtain ⟨least, hleast, hle⟩ := h.least
      obtain ⟨most, hmost, hge⟩ := h.most
      simp only [LiquidateLogic.checkRedeem, bind_eq_ok, require_eq_ok, exists_const]
      exact ⟨hfine, least, hleast, hle, most, hmost, hge⟩
    · obtain ⟨scaled, hscaled, hne, hle⟩ := h.units
      exact ⟨_, LendPoolLoan.redeemLoan_eq_ok.mpr
        ⟨hsale, scaled, hscaled, Nat.ne_of_gt hne, hle, rfl⟩⟩

/-! ### Examples -/

/-- The sale after its collection got another threshold. -/
def sampleThreshold (redeemThreshold : Nat) : State :=
  replayed operations sampleOnSale
    [.admin (.setNftRedeemThreshold [sampleMarket.nftAsset] redeemThreshold)]

theorem sampleThreshold_reachable (redeemThreshold : Nat) :
    Reachable operations (sampleThreshold redeemThreshold) :=
  replayed_reachable sampleOnSale_reachable _

private def sampleOwes (redeemThreshold : Nat) (check : Nat → Bool) : Bool :=
  passes (updateState (sampleThreshold redeemThreshold) sampleMarket.asset) fun m =>
    passes (LendPoolLoan.borrowAmount m (m.loanStore.loans 1)) check

theorem redeem_possible_iff_threshold_fits_ninety :
    ∃ m debt amount, updateState (sampleThreshold 9000) sampleMarket.asset = .ok m ∧
      RedeemAmount ((sampleThreshold 9000).loanStore.loans 1) debt 9000
        (m.pool.reserves sampleMarket.asset).variableBorrowIndex amount := by
  have hcheck : sampleOwes 9000 (fun debt => decide (0 < debt)) = true := by decide +kernel
  obtain ⟨m, hupdate, hcheck⟩ := exists_of_passes hcheck
  obtain ⟨debt, hdebt, hpositive⟩ := exists_of_passes hcheck
  have hsale : ((sampleThreshold 9000).loanStore.loans 1).state = .BuyItNow := by decide +kernel
  obtain ⟨amount, h, -⟩ := (redeem_possible_iff_threshold_fits (sampleThreshold_reachable 9000)
    hsale (by decide +kernel) (by decide +kernel) hupdate hdebt
      (of_decide_eq_true hpositive)).mpr (thresholdFits_of_le le_rfl debt)
  exact ⟨m, debt, amount, hupdate, h⟩

/-- The admin asks for ninety-five percent, inside the borrower's window. From then on no
amount redeems the loan. -/
theorem ninety_five_percent_refuses_all :
    ∃ m debt redeemEndTimestamp,
      Operation.run sampleOnSale (.admin (.setNftRedeemThreshold [sampleMarket.nftAsset] 9500)) =
        .ok (sampleThreshold 9500) ∧
      Reachable operations (sampleThreshold 9500) ∧
      ((sampleThreshold 9500).loanStore.loans 1).state = .BuyItNow ∧
      LiquidateLogic.endTimestamp ((sampleThreshold 9500).loanStore.loans 1).buyItNowStartTimestamp
          ((sampleThreshold 9500).pool.nfts sampleMarket.nftAsset).configuration.getRedeemDuration =
        .ok redeemEndTimestamp ∧ (sampleThreshold 9500).timestamp ≤ redeemEndTimestamp ∧
      updateState (sampleThreshold 9500) sampleMarket.asset = .ok m ∧
      LendPoolLoan.borrowAmount m (m.loanStore.loans 1) = .ok debt ∧ 0 < debt ∧
      (¬∃ amount, RedeemAmount ((sampleThreshold 9500).loanStore.loans 1) debt 9500
        (m.pool.reserves sampleMarket.asset).variableBorrowIndex amount) ∧
      ∀ user amount buyItNowFine, ¬Succeeds (LendPool.redeem (sampleThreshold 9500) user
        sampleMarket.nftAsset 7 amount buyItNowFine) := by
  have hcheck : sampleOwes 9500 (fun debt => decide (0 < debt ∧ ¬ThresholdFits debt 9500)) =
    true := by decide +kernel
  obtain ⟨m, hupdate, hcheck⟩ := exists_of_passes hcheck
  obtain ⟨debt, hdebt, hdecided⟩ := exists_of_passes hcheck
  obtain ⟨hpositive, hunfit⟩ := of_decide_eq_true hdecided
  obtain ⟨redeemEndTimestamp, hend, hwindow⟩ := exists_of_passes (show passes
    (LiquidateLogic.endTimestamp ((sampleThreshold 9500).loanStore.loans 1).buyItNowStartTimestamp
      ((sampleThreshold 9500).pool.nfts sampleMarket.nftAsset).configuration.getRedeemDuration)
        (fun e => decide ((sampleThreshold 9500).timestamp ≤ e)) = true by decide +kernel)
  obtain ⟨s', hrun, -⟩ := exists_of_passes (show passes (Operation.run sampleOnSale
    (.admin (.setNftRedeemThreshold [sampleMarket.nftAsset] 9500))) (fun _ => true) = true by
      decide +kernel)
  have hset : sampleThreshold 9500 = s' := by
    have hstep : operations.step sampleOnSale
      (.admin (.setNftRedeemThreshold [sampleMarket.nftAsset] 9500)) = .ok s' := hrun
    unfold sampleThreshold replayed
    rw [hstep]
    rfl
  refine ⟨m, debt, redeemEndTimestamp, hset ▸ hrun, sampleThreshold_reachable _, by decide +kernel,
    hend, of_decide_eq_true hwindow, hupdate, hdebt, hpositive, ?_, ?_⟩
  · rintro ⟨amount, h⟩
    exact hunfit h.thresholdFits
  · rintro user amount buyItNowFine ⟨r, h⟩
    have hw := (regular_of_reachable (sampleThreshold_reachable 9500)).sound.wired
    obtain ⟨_, _, _, -, rfl⟩ := (updateState_iff hw).mp hupdate
    have hid : (sampleThreshold 9500).loanStore.nftToLoanIds sampleMarket.nftAsset 7 = 1 := by
      decide +kernel
    have hloan : (sampleThreshold 9500).loanOf sampleMarket.nftAsset 7 =
        (sampleThreshold 9500).loanStore.loans 1 := congrArg _ hid
    have hthreshold : ((sampleThreshold 9500).pool.nfts ((sampleThreshold 9500).loanStore.loans
        1).nftAsset).configuration.getRedeemThreshold = 9500 := by decide +kernel
    have hasset : ((sampleThreshold 9500).loanStore.loans 1).reserveAsset = sampleMarket.asset := by
      decide +kernel
    have hfits := executeRedeem_thresholdFits hw (LendPool.of_whenNotPaused h)
      (by rw [hloan, hasset]; exact hupdate) (by rw [hloan]; exact hdebt)
    rw [hloan, hthreshold] at hfits
    exact hunfit hfits

end Confetti

import Confetti.Effects.Positions
import Confetti.Invariants.Batches
import Confetti.Properties.DepositorBalances

/-! What a user gets back who turns around within a block: the amount rounded to scaled
units at the index and back, which misses the amount by at most half an index. -/
namespace Confetti
open Outcome TransitionSystem HalfUp ReserveLogic

def scaledUnits (amount index : Nat) : Nat := halfUp (amount * RAY) index

def worth (amount index : Nat) : Nat := halfUp (scaledUnits amount index * index) RAY

/-- How far a value can be from the amount. -/
def slack (index : Nat) : Nat := (index / 2 + RAY / 2) / RAY

structure DepositTrip (amount index paidOut : Nat) : Prop where
  exact : paidOut = worth amount index
  fair_iff : paidOut ≤ amount ↔ 2 * (scaledUnits amount index * index) < (2 * amount + 1) * RAY
  bound : paidOut ≤ amount + slack index

structure LoanTrip (amount index takenIn : Nat) : Prop where
  least : worth amount index ≤ takenIn
  fair : 2 * (amount * RAY) ≤ 2 * (scaledUnits amount index * index) + RAY → amount ≤ takenIn
  bound : amount ≤ takenIn + slack index

variable {s s₁ s₂ : State} {asset nftAsset onBehalfOf recipient : Address}
  {m n amount nftTokenId li vi : Nat}

theorem DepositTrip.of_worth {index paidOut : Nat} (h : paidOut = worth amount index) :
    DepositTrip amount index paidOut where
  exact := h
  fair_iff := by
    rw [h]
    exact halfUp_le_iff_two_mul RAY_pos two_dvd_RAY
  bound := by
    rw [h]
    exact halfUp_scaled_le amount RAY index

theorem LoanTrip.of_worth_le {index takenIn : Nat} (hindex : RAY ≤ index)
    (h : worth amount index ≤ takenIn) : LoanTrip amount index takenIn where
  least := h
  fair := by
    intro hresidue
    exact ((le_halfUp_iff_two_mul RAY_pos).mpr hresidue).trans h
  bound := by
    have hworth : amount ≤ worth amount index + slack index :=
      le_halfUp_scaled amount RAY_pos (RAY_pos.trans_le hindex)
    omega

/-! ### A deposit and a withdrawal -/

theorem PoolStep.stored (h : PoolStep s asset li vi s₁) :
    (s₁.pool.reserves asset).liquidityIndex = li ∧
      (s₁.pool.reserves asset).variableBorrowIndex = vi ∧
        (s₁.pool.reserves asset).lastUpdateTimestamp = uint40 s.timestamp := by
  obtain ⟨_, _, hpool⟩ := h.pool
  rw [hpool, LendPoolStorage.setReserve_reserves, Function.update_self]
  exact ⟨rfl, rfl, rfl⟩

theorem position_after_deposit (hw : Wired s) (hnone : s.position asset (.account n) = 0)
    (htreasury : (s.cTokens asset).treasury ≠ .account n)
    (h : LendPool.deposit s (.account m) asset amount (.account n) = .ok s₁) :
    s₁.position asset (.account n) =
      scaledUnits amount (s₁.pool.reserves asset).liquidityIndex := by
  obtain ⟨li, vi, heffect⟩ := deposit_effect hw (LendPool.of_whenNotPaused h)
  obtain ⟨li', vi', cTokens, scaled, haccrual, hscaled, -, hcTokens⟩ :=
    deposit_positions hw (LendPool.of_whenNotPaused h)
  obtain ⟨_, hsame⟩ := heffect.step.accrual
  have hli : li' = li := Except.ok.inj (haccrual.liquidityIndex.symm.trans hsame.liquidityIndex)
  have hbefore : (cTokens asset).ledger.balances (.account n) = 0 := by
    rw [haccrual.balance_eq htreasury.symm]
    exact hnone
  rw [heffect.step.stored.1, ← hli]
  unfold State.position
  rw [hcTokens, Function.update_self]
  simp only [CToken.credited, Function.update_self]
  rw [hbefore, Nat.zero_add]
  exact (rayDiv_eq_ok.mp hscaled).2.2.symm

theorem deposit_trip {paidOut : Nat} (hreg : Regular s)
    (hnone : s.position asset (.account n) = 0)
    (htreasury : (s.cTokens asset).treasury ≠ .account n)
    (hdeposit : LendPool.deposit s (.account m) asset amount (.account n) = .ok s₁)
    (hwithdraw : LendPool.withdraw s₁ (.account n) asset Uint256.max recipient =
      .ok (s₂, paidOut)) :
    DepositTrip amount (s₁.pool.reserves asset).liquidityIndex paidOut := by
  have hposition := position_after_deposit hreg.sound.wired hnone htreasury hdeposit
  obtain ⟨li, vi, heffect⟩ := deposit_effect hreg.sound.wired (LendPool.of_whenNotPaused hdeposit)
  have hrun : Operation.run s (.user (.deposit m asset amount (.account n))) = .ok s₁ := hdeposit
  have hreg₁ := hreg.step hrun
  obtain ⟨_, _, _, _, balance, -, hbalance, hpaid, -⟩ :=
    withdraw_positions hreg₁.sound.wired (LendPool.of_whenNotPaused hwithdraw)
  rw [if_pos rfl] at hpaid
  -- the view shows the stored index in the block of the deposit
  have hshown : getNormalizedIncome (s₁.pool.reserves asset) s₁.timestamp =
      .ok (s₁.pool.reserves asset).liquidityIndex := by
    unfold getNormalizedIncome
    rw [heffect.step.world.timestamp, if_pos heffect.step.stored.2.2]
    rfl
  simp only [CToken.balanceOf, State.cTokenAt, ok_bind, hshown] at hbalance
  apply DepositTrip.of_worth
  rw [hpaid, ← (rayMul_eq_ok.mp hbalance).2]
  unfold worth
  rw [← hposition]
  rfl

/-! ### A loan and its repayment -/

theorem loan_trip {k limit takenIn : Nat} (hreg : Regular s)
    (hnew : s.loanStore.nftToLoanIds nftAsset nftTokenId = 0)
    (hborrow : LendPool.borrow s (.account m) asset amount nftAsset nftTokenId onBehalfOf = .ok s₁)
    (hrepay : LendPool.repay s₁ (.account k) nftAsset nftTokenId limit =
      .ok (s₂, takenIn, true)) :
    LoanTrip amount (s₁.pool.reserves asset).variableBorrowIndex takenIn := by
  obtain ⟨li, vi, scaled, heffect⟩ :=
    borrow_effect hreg.sound.wired (LendPool.of_whenNotPaused hborrow)
  have hopened : LoanOpened s (borrowedLoan s
      ⟨.account m, asset, amount, nftAsset, nftTokenId, onBehalfOf⟩ scaled) s₁ := by
    rcases heffect.book with hopened | htopped
    · exact hopened
    · exact absurd hnew htopped.registered
  have hrun : Operation.run s (.user (.borrow m asset amount nftAsset nftTokenId onBehalfOf)) =
    .ok s₁ := hborrow
  have hreg₁ := hreg.step hrun
  have hloan : s₁.loanOf nftAsset nftTokenId = borrowedLoan s
      ⟨.account m, asset, amount, nftAsset, nftTokenId, onBehalfOf⟩ scaled := by
    unfold State.loanOf
    rw [hopened.loanStore, LoanStore.opened_nftToLoanIds, if_pos ⟨rfl, rfl⟩,
      LoanStore.opened_loans, Function.update_self]
  obtain ⟨li', vi', debt, scaled', hrepaid, hclosed⟩ :=
    repay_effect hreg₁.sound.wired hreg₁.book.toFiled (LendPool.of_whenNotPaused hrepay)
  have hle : debt ≤ limit := of_decide_eq_true hclosed.symm
  have hpaid : takenIn = debt := hrepaid.paid_eq.trans (Nat.min_eq_right hle)
  have hstored := heffect.step.stored.2.1
  -- the index of the repayment is no less than the one the loan was opened at
  have hindex : vi ≤ vi' := by
    obtain ⟨_, haccrual⟩ := hrepaid.step.accrual
    have hgrown := le_updatedBorrowIndex haccrual.variableBorrowIndex
    rw [hloan] at hgrown
    change (s₁.pool.reserves asset).variableBorrowIndex ≤ vi' at hgrown
    rw [hstored] at hgrown
    exact hgrown
  have hdebt := (rayMul_eq_ok.mp hrepaid.debt_eq).2
  rw [hloan] at hdebt
  change halfUp (scaled * vi') RAY = debt at hdebt
  have hscaled : scaledUnits amount vi = scaled := (rayDiv_eq_ok.mp heffect.scaled_eq).2.2
  rw [hstored]
  apply LoanTrip.of_worth_le heffect.step.RAY_le
  unfold worth
  rw [hscaled, hpaid, ← hdebt]
  exact halfUp_mono (Nat.mul_le_mul_left scaled hindex) RAY

/-- Whoever had nothing deposited and is not the treasury gets the rounded value of a
deposit back, and a new loan costs at least the rounded value of what was borrowed. -/
theorem round_trips_round (hs : Reachable transactions s) :
    (∀ m n asset amount recipient s₁ s₂ paidOut, s.position asset (.account n) = 0 →
      (s.cTokens asset).treasury ≠ .account n →
        LendPool.deposit s (.account m) asset amount (.account n) = .ok s₁ →
          LendPool.withdraw s₁ (.account n) asset Uint256.max recipient = .ok (s₂, paidOut) →
            DepositTrip amount (s₁.pool.reserves asset).liquidityIndex paidOut) ∧
    (∀ m k asset amount nftAsset nftTokenId onBehalfOf limit s₁ s₂ takenIn,
      s.loanStore.nftToLoanIds nftAsset nftTokenId = 0 →
        LendPool.borrow s (.account m) asset amount nftAsset nftTokenId onBehalfOf = .ok s₁ →
          LendPool.repay s₁ (.account k) nftAsset nftTokenId limit = .ok (s₂, takenIn, true) →
            LoanTrip amount (s₁.pool.reserves asset).variableBorrowIndex takenIn) := by
  have hreg := regular_of_reachable (reachable_operations hs)
  refine ⟨?_, ?_⟩
  · intro m n asset amount recipient s₁ s₂ paidOut hnone htreasury hdeposit hwithdraw
    exact deposit_trip hreg hnone htreasury hdeposit hwithdraw
  · intro m k asset amount nftAsset nftTokenId onBehalfOf limit s₁ s₂ takenIn hnew hborrow hrepay
    exact loan_trip hreg hnew hborrow hrepay

/-! ### A market with a high utilization -/

/-- Three quarters of the deposits are lent for a year. -/
def sampleYear : List Operation :=
  sampleMarket.opening ++ sampleMarket.funding 1 (10 ^ 24) ++ sampleMarket.funding 3 (10 ^ 24) ++
    sampleMarket.funding 9 (10 ^ 24) ++ sampleMarket.minting 2 7 ++ sampleMarket.minting 3 8 ++
    [.user (.deposit 1 sampleMarket.asset (50 * 10 ^ 18) (.account 1)),
      .user (.borrow 2 sampleMarket.asset (39 * 10 ^ 18) sampleMarket.nftAsset 7 (.account 2)),
      .world (.tick 31536000)]

def sampleAged : State := replayed operations sampleWorld sampleYear

theorem sampleAged_reachable : Reachable operations sampleAged :=
  fresh_reachable (by decide) _ _ _ _

/-- What an account is paid that withdraws all it has just deposited. -/
def paidOutFor (n amount : Nat) : Except Revert Nat := do
  let s₁ ← LendPool.deposit sampleAged (.account n) sampleMarket.asset amount (.account n)
  let (_, paidOut) ← LendPool.withdraw s₁ (.account n) sampleMarket.asset Uint256.max (.account n)
  pure paidOut

/-- What account 3 pays that repays its new loan at once. -/
def takenInFor (amount : Nat) : Except Revert Nat := do
  let s₁ ← LendPool.borrow sampleAged (.account 3) sampleMarket.asset amount sampleMarket.nftAsset 8
    (.account 3)
  let (_, takenIn, _) ← LendPool.repay s₁ (.account 3) sampleMarket.nftAsset 8 Uint256.max
  pure takenIn

theorem round_trips_round_aged :
    (∃ s₁ s₂ paidOut,
      LendPool.deposit sampleAged (.account 3) sampleMarket.asset 1 (.account 3) = .ok s₁ ∧
        LendPool.withdraw s₁ (.account 3) sampleMarket.asset Uint256.max (.account 3) =
            .ok (s₂, paidOut) ∧
          DepositTrip 1 (s₁.pool.reserves sampleMarket.asset).liquidityIndex paidOut) ∧
    ∃ s₁ s₂ takenIn,
      LendPool.borrow sampleAged (.account 3) sampleMarket.asset 3 sampleMarket.nftAsset 8
          (.account 3) = .ok s₁ ∧
        LendPool.repay s₁ (.account 3) sampleMarket.nftAsset 8 Uint256.max =
            .ok (s₂, takenIn, true) ∧
          LoanTrip 3 (s₁.pool.reserves sampleMarket.asset).variableBorrowIndex takenIn := by
  have htrips := round_trips_round (reachable_transactions sampleAged_reachable)
  refine ⟨?_, ?_⟩
  · obtain ⟨s₁, hdeposit, hpassed⟩ := exists_of_passes (show passes
      (LendPool.deposit sampleAged (.account 3) sampleMarket.asset 1 (.account 3)) (fun s₁ => passes
        (LendPool.withdraw s₁ (.account 3) sampleMarket.asset Uint256.max (.account 3))
          fun _ => true) = true by decide +kernel)
    obtain ⟨⟨s₂, paidOut⟩, hwithdraw, -⟩ := exists_of_passes hpassed
    exact ⟨s₁, s₂, paidOut, hdeposit, hwithdraw, htrips.1 3 3 _ 1 _ s₁ s₂ paidOut
      (by decide +kernel) (by decide +kernel) hdeposit hwithdraw⟩
  · obtain ⟨s₁, hborrow, hpassed⟩ := exists_of_passes (show passes
      (LendPool.borrow sampleAged (.account 3) sampleMarket.asset 3 sampleMarket.nftAsset 8
        (.account 3)) (fun s₁ => passes
          (LendPool.repay s₁ (.account 3) sampleMarket.nftAsset 8 Uint256.max)
            fun result => result.2.2) = true by decide +kernel)
    obtain ⟨⟨s₂, takenIn, closed⟩, hrepay, hclosed⟩ := exists_of_passes hpassed
    obtain rfl : closed = true := hclosed
    exact ⟨s₁, s₂, takenIn, hborrow, hrepay, htrips.2 3 3 _ 3 _ 8 _ _ s₁ s₂ takenIn
      (by decide +kernel) hborrow hrepay⟩

/-- One unit in pays two out, and three borrowed cost two; the treasury even gets the
interest of a year. -/
theorem round_trips_favour_user : Reachable operations sampleAged ∧
    (sampleAged.position sampleMarket.asset (.account 3) = 0 ∧ paidOutFor 3 1 = .ok 2) ∧
    (sampleAged.loanStore.nftToLoanIds sampleMarket.nftAsset 8 = 0 ∧ takenInFor 3 = .ok 2) ∧
      sampleAged.position sampleMarket.asset (.account 9) = 0 ∧
        ∃ paidOut, paidOutFor 9 1 = .ok paidOut ∧ 10 ^ 18 < paidOut := by
  obtain ⟨paidOut, htreasury, hmuch⟩ := exists_of_passes
    (show passes (paidOutFor 9 1) (fun paidOut => decide (10 ^ 18 < paidOut)) = true
      by decide +kernel)
  exact ⟨sampleAged_reachable, ⟨by decide +kernel, eq_ok_of_passes (by decide +kernel)⟩,
    ⟨by decide +kernel, eq_ok_of_passes (by decide +kernel)⟩, by decide +kernel, paidOut,
    htreasury, of_decide_eq_true hmuch⟩

end Confetti

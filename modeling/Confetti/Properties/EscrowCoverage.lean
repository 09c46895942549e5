import Confetti.Invariants.Shortfall
import Confetti.Protocol.Deployment

/-! What buyers have locked is in the pool, and no sale is paid out of another one. -/
namespace Confetti
open Outcome TransitionSystem

variable {s s' : State} {n amount fine nftTokenId paid : Nat} {nftAsset : Address}

private theorem locked_eq_ite (asset : Address) (loan : LoanData) :
    loan.locked asset = if loan.state = .BuyItNow ∧ loan.reserveAsset = asset
      then loan.buyItNowPrice else 0 := by
  unfold LoanData.locked LoanData.escrow spot
  simp only [eq_comm (a := asset)]
  by_cases hsale : loan.state = .BuyItNow <;> simp [hsale]

/-- The end of one sale costs the pool at most the price locked for it, and leaves the
prices of all other loans in the pool. -/
structure SpendsOwn (s s' : State) (loanId : Nat) : Prop where
  own : ∀ asset, (s.erc20 asset).balances .lendPool ≤ (s'.erc20 asset).balances .lendPool +
    if asset = (s.loanStore.loans loanId).reserveAsset then
      (s.loanStore.loans loanId).buyItNowPrice else 0
  others : ∀ asset, ∑ other ∈ s.loanIds with
      other ≠ loanId ∧ (s.loanStore.loans other).state = .BuyItNow ∧
        (s.loanStore.loans other).reserveAsset = asset,
      (s.loanStore.loans other).buyItNowPrice ≤ (s'.erc20 asset).balances .lendPool

private theorem others_add_locked (loanId : Nat) (hmem : loanId ∈ s.loanIds) (asset : Address) :
    (∑ other ∈ s.loanIds with
      other ≠ loanId ∧ (s.loanStore.loans other).state = .BuyItNow ∧
        (s.loanStore.loans other).reserveAsset = asset,
      (s.loanStore.loans other).buyItNowPrice) + (s.loanStore.loans loanId).locked asset =
      s.sumLoans (LoanData.locked asset) := by
  have hothers : (∑ other ∈ s.loanIds with
      other ≠ loanId ∧ (s.loanStore.loans other).state = .BuyItNow ∧
        (s.loanStore.loans other).reserveAsset = asset,
      (s.loanStore.loans other).buyItNowPrice) =
        ∑ other ∈ s.loanIds.erase loanId, (s.loanStore.loans other).locked asset := by
    rw [← Finset.filter_filter, Finset.filter_ne', Finset.sum_filter]
    exact Finset.sum_congr rfl fun other _ => (locked_eq_ite asset _).symm
  change _ = ∑ other ∈ s.loanIds, (s.loanStore.loans other).locked asset
  rw [hothers, ← Finset.sum_erase_add _ _ hmem]

theorem spendsOwn_of_own {loanId : Nat} (hs : Solvent s) (hmem : loanId ∈ s.loanIds)
    (hsale : (s.loanStore.loans loanId).state = .BuyItNow)
    (hown : ∀ asset, (s.erc20 asset).balances .lendPool ≤ (s'.erc20 asset).balances .lendPool +
      spot (asset = (s.loanStore.loans loanId).reserveAsset)
        (s.loanStore.loans loanId).buyItNowPrice) : SpendsOwn s s' loanId where
  own := hown
  others := by
    intro asset
    have hsum := others_add_locked loanId hmem asset
    have hcovered := hs.escrow asset
    have hspent := hown asset
    have hlocked : (s.loanStore.loans loanId).locked asset =
        spot (asset = (s.loanStore.loans loanId).reserveAsset)
          (s.loanStore.loans loanId).buyItNowPrice := by
      rw [LoanData.locked, escrow_of_sale hsale]
    omega

theorem LendPool.redeem_spends (hs : Solvent s)
    (h : LendPool.redeem s (.account n) nftAsset nftTokenId amount fine = .ok (s', paid)) :
    SpendsOwn s s' (s.loanStore.nftToLoanIds nftAsset nftTokenId) := by
  obtain ⟨_, _, _, _, _, _, _, _, _, heffect, hs', -⟩ :=
    (executeRedeem_eq_ok hs.regular.sound.wired).mp (LendPool.of_whenNotPaused h)
  have hlive := hs.regular.book.registered_live heffect.registered
  apply spendsOwn_of_own hs (Finset.mem_range.mpr (hs.regular.book.lt_tracker hlive)) heffect.sale
  intro asset
  have hspent := heffect.cash.pool_balance (nets_redemption (by simp)) asset
  rw [spot_zero, ← hs'] at hspent
  exact hspent

theorem LendPool.liquidate_spends (hs : Solvent s)
    (h : LendPool.liquidate s (.account n) nftAsset nftTokenId amount = .ok (s', paid)) :
    SpendsOwn s s' (s.loanStore.nftToLoanIds nftAsset nftTokenId) := by
  obtain ⟨_, _, _, _, _, _, _, _, heffect, hs', -⟩ :=
    (executeLiquidate_eq_ok hs.regular.sound.wired hs.regular.book.toFiled).mp
      (LendPool.of_whenNotPaused h)
  have hlive := hs.regular.book.registered_live heffect.registered
  apply spendsOwn_of_own hs (Finset.mem_range.mpr (hs.regular.book.lt_tracker hlive)) heffect.sale
  intro asset
  have hspent := heffect.cash.pool_balance (nets_liquidation (by simp)) asset
  rw [spot_zero, ← hs'] at hspent
  exact hspent

/-- The pool holds the prices of all loans on sale, ending a sale never fails for lack of
them, and spends only its own. -/
structure EscrowSafe (s : State) : Prop where
  covered : ∀ asset, ∑ loanId ∈ s.loanIds with
      (s.loanStore.loans loanId).state = .BuyItNow ∧
        (s.loanStore.loans loanId).reserveAsset = asset,
      (s.loanStore.loans loanId).buyItNowPrice ≤ (s.erc20 asset).balances .lendPool
  unused : ∀ loanId, loanId ∉ s.loanIds → s.loanStore.loans loanId = .empty
  redeem_pays : ∀ n nftAsset nftTokenId amount fine,
    Avoids PoolShort (LendPool.redeem s (.account n) nftAsset nftTokenId amount fine)
  liquidate_pays : ∀ n nftAsset nftTokenId amount,
    Avoids PoolShort (LendPool.liquidate s (.account n) nftAsset nftTokenId amount)
  redeem_spends : ∀ n nftAsset nftTokenId amount fine s' paid,
    LendPool.redeem s (.account n) nftAsset nftTokenId amount fine = .ok (s', paid) →
      SpendsOwn s s' (s.loanStore.nftToLoanIds nftAsset nftTokenId)
  liquidate_spends : ∀ n nftAsset nftTokenId amount s' paid,
    LendPool.liquidate s (.account n) nftAsset nftTokenId amount = .ok (s', paid) →
      SpendsOwn s s' (s.loanStore.nftToLoanIds nftAsset nftTokenId)

theorem escrow_safe (h : Reachable transactions s) : EscrowSafe s := by
  have hs := solvent_of_reachable (reachable_operations h)
  refine ⟨?_, ?_, ?_, ?_, ?_, ?_⟩
  · intro asset
    rw [← sumLoans_filter _ (locked_eq_ite asset)]
    exact hs.escrow asset
  · intro loanId hid
    exact hs.regular.book.fresh loanId (Nat.le_of_not_lt (mt Finset.mem_range.mpr hid))
  · exact fun n nftAsset nftTokenId amount fine => (LendPool.avoids_redeem hs).mono fun _ => .inr
  · exact fun n nftAsset nftTokenId amount => (LendPool.avoids_liquidate hs).mono fun _ => .inr
  · exact fun n nftAsset nftTokenId amount fine s' paid => LendPool.redeem_spends hs
  · exact fun n nftAsset nftTokenId amount s' paid => LendPool.liquidate_spends hs

theorem escrow_safe_on_sale : EscrowSafe sampleOnSale ∧
    (sampleOnSale.erc20 sampleMarket.asset).balances .lendPool = 50 * 10 ^ 18 :=
  ⟨escrow_safe (reachable_transactions sampleOnSale_reachable), by decide +kernel⟩

end Confetti

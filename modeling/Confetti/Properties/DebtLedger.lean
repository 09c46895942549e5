import Confetti.Invariants.Shortfall
import Confetti.Protocol.Deployment

/-! The debt tokens record exactly the debts of the live loans. -/
namespace Confetti
open Outcome TransitionSystem

variable {s s' : State}

private theorem isLive_iff (state : LoanState) :
    state.isLive = true ↔ state = .Active ∨ state = .BuyItNow := by
  cases state <;> decide

theorem owed_eq_ite (asset user : Address) (loan : LoanData) :
    loan.owed asset user = if (loan.state = .Active ∨ loan.state = .BuyItNow) ∧
      loan.reserveAsset = asset ∧ loan.borrower = user then loan.scaledAmount else 0 := by
  unfold LoanData.owed LoanData.openAmount spot
  simp only [eq_comm (a := asset), eq_comm (a := user)]
  by_cases hlive : loan.state.isLive = true
  · simp [hlive, (isLive_iff _).mp hlive]
  · simp [hlive, mt (isLive_iff _).mpr hlive]

theorem owedTotal_eq_ite (asset : Address) (loan : LoanData) :
    loan.owedTotal asset = if (loan.state = .Active ∨ loan.state = .BuyItNow) ∧
      loan.reserveAsset = asset then loan.scaledAmount else 0 := by
  unfold LoanData.owedTotal LoanData.openAmount spot
  simp only [eq_comm (a := asset)]
  by_cases hlive : loan.state.isLive = true
  · simp [hlive, (isLive_iff _).mp hlive]
  · simp [hlive, mt (isLive_iff _).mpr hlive]

/-- A burn takes what it takes off the balance and off the supply. -/
structure DebtTaken (s s' : State) (loan : LoanData) (scaled : Nat) : Prop where
  balance : (s'.debtTokens loan.reserveAsset).scaledBalanceOf loan.borrower + scaled =
    (s.debtTokens loan.reserveAsset).scaledBalanceOf loan.borrower
  supply : (s'.debtTokens loan.reserveAsset).scaledTotalSupply + scaled =
    (s.debtTokens loan.reserveAsset).scaledTotalSupply

theorem debtTaken_of_debited {loan : LoanData} {scaled : Nat}
    (hburned : scaled ≤ (s.debtTokens loan.reserveAsset).ledger.balances loan.borrower ∧
      scaled ≤ (s.debtTokens loan.reserveAsset).ledger.totalSupply)
    (h : s'.debtTokens = Function.update s.debtTokens loan.reserveAsset
      ((s.debtTokens loan.reserveAsset).debited loan.borrower scaled)) :
    DebtTaken s s' loan scaled := by
  unfold DebtToken.debited at h
  refine ⟨?_, ?_⟩
  · rw [h, Function.update_self]
    simp only [DebtToken.scaledBalanceOf, Function.update_self]
    exact Nat.sub_add_cancel hburned.1
  · rw [h, Function.update_self]
    exact Nat.sub_add_cancel hburned.2

theorem LendPool.repay_takes {n amount nftTokenId paid : Nat} {nftAsset : Address}
    (hreg : Regular s)
    (h : LendPool.repay s (.account n) nftAsset nftTokenId amount = .ok (s', paid, true)) :
    DebtTaken s s' (s.loanOf nftAsset nftTokenId) (s.loanOf nftAsset nftTokenId).scaledAmount := by
  obtain ⟨_, _, _, scaled, heffect, hclosed⟩ :=
    repay_effect hreg.sound.wired hreg.book.toFiled (LendPool.of_whenNotPaused h)
  have hall := heffect.scaled_all (of_decide_eq_true hclosed.symm)
  have htaken := debtTaken_of_debited heffect.burned heffect.debtTokens
  rwa [hall] at htaken

theorem LendPool.liquidate_takes {n amount nftTokenId paid : Nat} {nftAsset : Address}
    (hreg : Regular s)
    (h : LendPool.liquidate s (.account n) nftAsset nftTokenId amount = .ok (s', paid)) :
    DebtTaken s s' (s.loanOf nftAsset nftTokenId) (s.loanOf nftAsset nftTokenId).scaledAmount := by
  obtain ⟨_, _, _, _, _, _, _, _, heffect, hs', -⟩ :=
    (executeLiquidate_eq_ok hreg.sound.wired hreg.book.toFiled).mp (LendPool.of_whenNotPaused h)
  have hdebts := heffect.debtTokens
  rw [← hs'] at hdebts
  have htaken := debtTaken_of_debited heffect.burned hdebts
  rwa [heffect.scaled_all] at htaken

/-- The debt tokens are the sums of the live loans' scaled amounts; ending a loan burns
exactly its scaled amount, and no burn falls short. -/
structure DebtLedgersExact (s : State) : Prop where
  balance : ∀ asset user, (s.debtTokens asset).scaledBalanceOf user =
    ∑ loanId ∈ s.loanIds with
      ((s.loanStore.loans loanId).state = .Active ∨
          (s.loanStore.loans loanId).state = .BuyItNow) ∧
        (s.loanStore.loans loanId).reserveAsset = asset ∧
          (s.loanStore.loans loanId).borrower = user,
      (s.loanStore.loans loanId).scaledAmount
  supply : ∀ asset, (s.debtTokens asset).scaledTotalSupply =
    ∑ loanId ∈ s.loanIds with
      ((s.loanStore.loans loanId).state = .Active ∨
          (s.loanStore.loans loanId).state = .BuyItNow) ∧
        (s.loanStore.loans loanId).reserveAsset = asset,
      (s.loanStore.loans loanId).scaledAmount
  unused : ∀ loanId, loanId ∉ s.loanIds → s.loanStore.loans loanId = .empty
  repaid : ∀ n nftAsset nftTokenId amount s' paid,
    LendPool.repay s (.account n) nftAsset nftTokenId amount = .ok (s', paid, true) →
      DebtTaken s s' (s.loanOf nftAsset nftTokenId) (s.loanOf nftAsset nftTokenId).scaledAmount
  liquidated : ∀ n nftAsset nftTokenId amount s' paid,
    LendPool.liquidate s (.account n) nftAsset nftTokenId amount = .ok (s', paid) →
      DebtTaken s s' (s.loanOf nftAsset nftTokenId) (s.loanOf nftAsset nftTokenId).scaledAmount
  repay_burns : ∀ n nftAsset nftTokenId amount,
    Avoids DebtShort (LendPool.repay s (.account n) nftAsset nftTokenId amount)
  batchRepay_burns : ∀ n nftAssets nftTokenIds amounts,
    Avoids DebtShort (LendPool.batchRepay s (.account n) nftAssets nftTokenIds amounts)
  redeem_burns : ∀ n nftAsset nftTokenId amount fine,
    Avoids DebtShort (LendPool.redeem s (.account n) nftAsset nftTokenId amount fine)
  liquidate_burns : ∀ n nftAsset nftTokenId amount,
    Avoids DebtShort (LendPool.liquidate s (.account n) nftAsset nftTokenId amount)

theorem debt_ledgers_agree (h : Reachable transactions s) : DebtLedgersExact s := by
  have hs := solvent_of_reachable (reachable_operations h)
  refine ⟨?_, ?_, ?_, ?_, ?_, ?_, ?_, ?_, ?_⟩
  · intro asset user
    exact (hs.ledger.balance asset user).trans (sumLoans_filter _ (owed_eq_ite asset user))
  · intro asset
    exact (hs.ledger.supply asset).trans (sumLoans_filter _ (owedTotal_eq_ite asset))
  · intro loanId hid
    exact hs.regular.book.fresh loanId (Nat.le_of_not_lt (mt Finset.mem_range.mpr hid))
  · exact fun n nftAsset nftTokenId amount s' paid => LendPool.repay_takes hs.regular
  · exact fun n nftAsset nftTokenId amount s' paid => LendPool.liquidate_takes hs.regular
  · exact fun n nftAsset nftTokenId amount => (LendPool.avoids_repay hs).mono fun _ => .inl
  · exact fun n nftAssets nftTokenIds amounts =>
      (LendPool.avoids_batchRepay hs _ _ _).mono fun _ => .inl
  · exact fun n nftAsset nftTokenId amount fine => (LendPool.avoids_redeem hs).mono fun _ => .inl
  · exact fun n nftAsset nftTokenId amount => (LendPool.avoids_liquidate hs).mono fun _ => .inl

theorem debt_ledgers_agree_lent : DebtLedgersExact sampleLent ∧
    (sampleLent.debtTokens sampleMarket.asset).scaledBalanceOf (.account 2) = 40 * 10 ^ 18 :=
  ⟨debt_ledgers_agree (reachable_transactions sampleLent_reachable), by decide +kernel⟩

end Confetti

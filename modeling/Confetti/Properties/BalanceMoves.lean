import Confetti.Invariants.Registry
import Confetti.Properties.RoundTrips

/-! Amounts are kept in scaled units, yet every balance on display moves by the amount
itself, up to one unit and half the index. -/
namespace Confetti
open Outcome TransitionSystem HalfUp

/-- The values of two scaled balances at an index differ by the amount, up to the bound. -/
def MovesBy (index scaled scaled' : Nat) (amount : ℤ) : Prop :=
  ∀ old new, rayMul scaled index = .ok old → rayMul scaled' index = .ok new →
    |(new : ℚ) - (old + amount)| ≤ 1 + index / (2 * RAY)

/-- The borrow amount of an NFT's loan before and after an operation, at the index the
operation stores. -/
def BorrowAmountMovesBy (s s' : State) (nftAsset : Address) (nftTokenId : Nat) (amount : ℤ) :
    Prop :=
  ∀ old new, LendPoolLoan.borrowAmount s' (s.loanOf nftAsset nftTokenId) = .ok old →
    LendPoolLoan.borrowAmount s' (s'.loanOf nftAsset nftTokenId) = .ok new →
      |(new : ℚ) - (old + amount)| ≤
        1 + (s'.pool.reserves (s'.loanOf nftAsset nftTokenId).reserveAsset).variableBorrowIndex /
          (2 * RAY)

section Moves

variable {index scaled d amount : Nat}

theorem movesBy_add (h : rayDiv amount index = .ok d) :
    MovesBy index scaled (scaled + d) amount := by
  intro old new hold hnew
  obtain ⟨hindex, -, rfl⟩ := rayDiv_eq_ok.mp h
  obtain ⟨-, rfl⟩ := rayMul_eq_ok.mp hold
  obtain ⟨-, rfl⟩ := rayMul_eq_ok.mp hnew
  rw [Int.cast_natCast]
  exact abs_value_moved RAY_pos (Nat.pos_of_ne_zero hindex)

theorem movesBy_sub (h : rayDiv amount index = .ok d) (hle : d ≤ scaled) :
    MovesBy index scaled (scaled - d) (-(amount : ℤ)) := by
  intro old new hold hnew
  have hback : MovesBy index (scaled - d) (scaled - d + d) amount := movesBy_add h
  rw [Nat.sub_add_cancel hle] at hback
  have hbound := hback new old hnew hold
  have hsame : (new : ℚ) - (old + (-(amount : ℤ) : ℤ)) = new + (amount : ℤ) - old := by
    rw [Int.cast_neg]
    ring
  rw [hsame, abs_sub_comm]
  exact hbound

variable {s s' : State} {asset nftAsset : Address} {nftTokenId li vi : Nat} {change : ℤ}

theorem PoolStep.borrowAmountMovesBy (h : PoolStep s asset li vi s')
    (hold : (s.loanOf nftAsset nftTokenId).reserveAsset = asset)
    (hnew : (s'.loanOf nftAsset nftTokenId).reserveAsset = asset)
    (hmoves : MovesBy vi (s.loanOf nftAsset nftTokenId).scaledAmount
      (s'.loanOf nftAsset nftTokenId).scaledAmount change) :
    BorrowAmountMovesBy s s' nftAsset nftTokenId change := by
  intro old new hbefore hafter
  rw [h.borrowAmount _ hold] at hbefore
  rw [h.borrowAmount _ hnew] at hafter
  rw [hnew, h.stored.2.1]
  exact hmoves old new hbefore hafter

end Moves

/-! ### The tokens -/

section Tokens

variable {cTokens cTokens' : Address → CToken} {debtTokens debtTokens' : Address → DebtToken}
  {s s' : State} {asset user initiator receiver sender recipient : Address} {amount index : Nat}

theorem CToken.mint_movesBy
    (h : CToken.mint cTokens (.cToken asset) user amount index = .ok cTokens') :
    MovesBy index ((cTokens asset).scaledBalanceOf user) ((cTokens' asset).scaledBalanceOf user)
      amount := by
  obtain ⟨own, scaled, hown, hscaled, -, rfl⟩ := CToken.mint_spec h
  cases hown
  unfold CToken.scaledBalanceOf CToken.credited
  rw [Function.update_self]
  simp only [Function.update_self]
  exact movesBy_add hscaled

theorem CToken.burn_movesBy
    (h : CToken.burn s (.cToken asset) user receiver amount index = .ok s') :
    MovesBy index ((s.cTokens asset).scaledBalanceOf user) ((s'.cTokens asset).scaledBalanceOf user)
      (-(amount : ℤ)) := by
  obtain ⟨own, scaled, _, hown, hscaled, -, ⟨-, hle, -⟩, -, rfl⟩ := CToken.burn_eq_ok.mp h
  cases hown
  unfold CToken.scaledBalanceOf CToken.debited
  simp only [Function.update_self]
  exact movesBy_sub hscaled hle

theorem DebtToken.mint_movesBy
    (h : DebtToken.mint debtTokens (.debtToken asset) initiator user amount index =
      .ok debtTokens') :
    MovesBy index ((debtTokens asset).scaledBalanceOf user)
      ((debtTokens' asset).scaledBalanceOf user) amount := by
  obtain ⟨own, scaled, self, hown, hscaled, -, -, -, hledger, rfl⟩ := DebtToken.mint_spec h
  cases hown
  unfold DebtToken.scaledBalanceOf DebtToken.credited
  simp only [Function.update_self, hledger]
  exact movesBy_add hscaled

theorem DebtToken.burn_movesBy
    (h : DebtToken.burn debtTokens (.debtToken asset) user amount index = .ok debtTokens') :
    MovesBy index ((debtTokens asset).scaledBalanceOf user)
      ((debtTokens' asset).scaledBalanceOf user) (-(amount : ℤ)) := by
  obtain ⟨own, scaled, hown, hscaled, -, -, hle, -, rfl⟩ := DebtToken.burn_eq_ok.mp h
  cases hown
  unfold DebtToken.scaledBalanceOf DebtToken.debited
  simp only [Function.update_self]
  exact movesBy_sub hscaled hle

theorem CToken.transferScaled_movesBy {ledger : ERC20} (hne : sender ≠ recipient)
    (h : CToken.transferScaled s asset sender recipient amount = .ok ledger) :
    ∃ index scaled, ReserveLogic.getNormalizedIncome (s.pool.reserves asset) s.timestamp =
        .ok index ∧
      ledger.balances sender + scaled = (s.cTokens asset).scaledBalanceOf sender ∧
      ledger.balances recipient = (s.cTokens asset).scaledBalanceOf recipient + scaled ∧
      MovesBy index ((s.cTokens asset).scaledBalanceOf sender) (ledger.balances sender)
        (-(amount : ℤ)) ∧
      MovesBy index ((s.cTokens asset).scaledBalanceOf recipient) (ledger.balances recipient)
        amount := by
  obtain ⟨index, scaled, hindex, hscaled, hle, hmoved, -⟩ := CToken.transferScaled_spec h
  have hsender : ledger.balances sender = (s.cTokens asset).scaledBalanceOf sender - scaled := by
    rw [hmoved]
    simp [ERC20.moved, hne, CToken.scaledBalanceOf]
  have hrecipient : ledger.balances recipient =
      (s.cTokens asset).scaledBalanceOf recipient + scaled := by
    rw [hmoved]
    simp [ERC20.moved, hne.symm, CToken.scaledBalanceOf]
  refine ⟨index, scaled, hindex, ?_, hrecipient, ?_, ?_⟩
  · rw [hsender]
    exact Nat.sub_add_cancel hle
  · rw [hsender]
    exact movesBy_sub hscaled hle
  · rw [hrecipient]
    exact movesBy_add hscaled

end Tokens

/-! ### The loans -/

section Loans

variable {s s' : State} {asset nftAsset onBehalfOf : Address}
  {n amount nftTokenId buyItNowFine paid : Nat}

theorem borrow_movesBy (hs : Reachable operations s)
    (h : LendPool.borrow s (.account n) asset amount nftAsset nftTokenId onBehalfOf = .ok s') :
    (s.loanStore.nftToLoanIds nftAsset nftTokenId ≠ 0 →
      BorrowAmountMovesBy s s' nftAsset nftTokenId amount) ∧
    (s.loanStore.nftToLoanIds nftAsset nftTokenId = 0 → ∀ new,
      LendPoolLoan.borrowAmount s' (s'.loanOf nftAsset nftTokenId) = .ok new →
        |(new : ℚ) - amount| ≤
          1 + (s'.pool.reserves asset).variableBorrowIndex / (2 * RAY)) := by
  obtain ⟨li, vi, scaled, heffect⟩ :=
    borrow_effect (regular_of_reachable hs).sound.wired (LendPool.of_whenNotPaused h)
  rcases heffect.book with hopened | htopped
  · have hfree : s.loanStore.nftToLoanIds nftAsset nftTokenId = 0 := hopened.unregistered
    refine ⟨fun hne => absurd hfree hne, fun _ new hnew => ?_⟩
    have hloan : s'.loanOf nftAsset nftTokenId = borrowedLoan s
        ⟨.account n, asset, amount, nftAsset, nftTokenId, onBehalfOf⟩ scaled := by
      unfold State.loanOf
      rw [hopened.loanStore, LoanStore.opened_loans, LoanStore.opened_nftToLoanIds,
        if_pos ⟨rfl, rfl⟩, Function.update_self]
    rw [hloan, heffect.step.borrowAmount _ rfl] at hnew
    have hmoves : MovesBy vi 0 (0 + scaled) amount := movesBy_add heffect.scaled_eq
    rw [Nat.zero_add] at hmoves
    have hbound := hmoves 0 new (rayMul_zero_left vi) hnew
    rw [Nat.cast_zero, zero_add, Int.cast_natCast] at hbound
    rw [heffect.step.stored.2.1]
    exact hbound
  · refine ⟨fun _ => ?_, fun hfree => absurd hfree htopped.registered⟩
    have hloan := htopped.replaced.loanOf
    apply heffect.step.borrowAmountMovesBy htopped.reserveAsset
    · rw [hloan]
      exact htopped.reserveAsset
    · rw [hloan]
      exact movesBy_add heffect.scaled_eq

theorem repay_movesBy (hs : Reachable operations s)
    (h : LendPool.repay s (.account n) nftAsset nftTokenId amount = .ok (s', paid, false)) :
    paid = amount ∧ BorrowAmountMovesBy s s' nftAsset nftTokenId (-(amount : ℤ)) := by
  have hreg := regular_of_reachable hs
  obtain ⟨li, vi, debt, scaled, heffect, hclosed⟩ :=
    repay_effect hreg.sound.wired hreg.book.toFiled (LendPool.of_whenNotPaused h)
  rcases heffect.book with ⟨hless, hle, hreplaced⟩ | ⟨hfull, -⟩
  · have hpaid : paid = amount := heffect.paid_eq.trans (Nat.min_eq_left hless.le)
    refine ⟨hpaid, ?_⟩
    have hloan := hreplaced.loanOf
    apply heffect.step.borrowAmountMovesBy rfl
    · rw [hloan]
    · rw [hloan]
      have hscaled := heffect.scaled_eq
      rw [hpaid] at hscaled
      exact movesBy_sub hscaled hle
  · exact absurd hfull (of_decide_eq_false hclosed.symm)

theorem redeem_movesBy (hs : Reachable operations s)
    (h : LendPool.redeem s (.account n) nftAsset nftTokenId amount buyItNowFine =
      .ok (s', paid)) :
    BorrowAmountMovesBy s s' nftAsset nftTokenId (-(amount : ℤ)) := by
  obtain ⟨li, vi, cTokens, debt, fine, scaled, lr, vr, token, hredemption, rfl, -⟩ :=
    (executeRedeem_eq_ok (regular_of_reachable hs).sound.wired).mp (LendPool.of_whenNotPaused h)
  have hloan := hredemption.replaced.loanOf
  apply hredemption.step.borrowAmountMovesBy rfl
  · rw [hloan]
    rfl
  · rw [hloan]
    exact movesBy_sub hredemption.scaled_eq hredemption.scaled_le

end Loans

theorem balances_move_by_amounts :
    (∀ cTokens cTokens' asset user amount index, RAY ≤ index →
      CToken.mint cTokens (.cToken asset) user amount index = .ok cTokens' →
        MovesBy index ((cTokens asset).scaledBalanceOf user)
          ((cTokens' asset).scaledBalanceOf user) amount) ∧
    (∀ s s' asset user receiver amount index, RAY ≤ index →
      CToken.burn s (.cToken asset) user receiver amount index = .ok s' →
        MovesBy index ((s.cTokens asset).scaledBalanceOf user)
          ((s'.cTokens asset).scaledBalanceOf user) (-(amount : ℤ))) ∧
    (∀ debtTokens debtTokens' asset initiator user amount index, RAY ≤ index →
      DebtToken.mint debtTokens (.debtToken asset) initiator user amount index =
          .ok debtTokens' →
        MovesBy index ((debtTokens asset).scaledBalanceOf user)
          ((debtTokens' asset).scaledBalanceOf user) amount) ∧
    (∀ debtTokens debtTokens' asset user amount index, RAY ≤ index →
      DebtToken.burn debtTokens (.debtToken asset) user amount index = .ok debtTokens' →
        MovesBy index ((debtTokens asset).scaledBalanceOf user)
          ((debtTokens' asset).scaledBalanceOf user) (-(amount : ℤ))) ∧
    (∀ s asset sender recipient amount ledger, sender ≠ recipient →
      CToken.transferScaled s asset sender recipient amount = .ok ledger →
        ∃ index scaled, ReserveLogic.getNormalizedIncome (s.pool.reserves asset) s.timestamp =
            .ok index ∧
          ledger.balances sender + scaled = (s.cTokens asset).scaledBalanceOf sender ∧
          ledger.balances recipient = (s.cTokens asset).scaledBalanceOf recipient + scaled ∧
          MovesBy index ((s.cTokens asset).scaledBalanceOf sender) (ledger.balances sender)
            (-(amount : ℤ)) ∧
          MovesBy index ((s.cTokens asset).scaledBalanceOf recipient) (ledger.balances recipient)
            amount) ∧
    ∀ s, Reachable operations s →
      (∀ n asset amount nftAsset nftTokenId onBehalfOf s',
        LendPool.borrow s (.account n) asset amount nftAsset nftTokenId onBehalfOf = .ok s' →
          (s.loanStore.nftToLoanIds nftAsset nftTokenId ≠ 0 →
            BorrowAmountMovesBy s s' nftAsset nftTokenId amount) ∧
          (s.loanStore.nftToLoanIds nftAsset nftTokenId = 0 → ∀ new,
            LendPoolLoan.borrowAmount s' (s'.loanOf nftAsset nftTokenId) = .ok new →
              |(new : ℚ) - amount| ≤
                1 + (s'.pool.reserves asset).variableBorrowIndex / (2 * RAY))) ∧
      (∀ n nftAsset nftTokenId amount s' paid,
        LendPool.repay s (.account n) nftAsset nftTokenId amount = .ok (s', paid, false) →
          paid = amount ∧ BorrowAmountMovesBy s s' nftAsset nftTokenId (-(amount : ℤ))) ∧
      ∀ n nftAsset nftTokenId amount buyItNowFine s' paid,
        LendPool.redeem s (.account n) nftAsset nftTokenId amount buyItNowFine =
            .ok (s', paid) →
          BorrowAmountMovesBy s s' nftAsset nftTokenId (-(amount : ℤ)) := by
  refine ⟨?_, ?_, ?_, ?_, ?_, ?_⟩
  · exact fun cTokens cTokens' asset user amount index _ h => CToken.mint_movesBy h
  · exact fun s s' asset user receiver amount index _ h => CToken.burn_movesBy h
  · exact fun debtTokens debtTokens' asset initiator user amount index _ h =>
      DebtToken.mint_movesBy h
  · exact fun debtTokens debtTokens' asset user amount index _ h => DebtToken.burn_movesBy h
  · exact fun s asset sender recipient amount ledger hne h => CToken.transferScaled_movesBy hne h
  · intro s hs
    refine ⟨?_, ?_, ?_⟩
    · exact fun n asset amount nftAsset nftTokenId onBehalfOf s' h => borrow_movesBy hs h
    · exact fun n nftAsset nftTokenId amount s' paid h => repay_movesBy hs h
    · exact fun n nftAsset nftTokenId amount buyItNowFine s' paid h => redeem_movesBy hs h

/-- The three wei that cost account 3 two are within the bound of a year-old index. -/
theorem balances_move_aged : ∃ s', LendPool.borrow sampleAged (.account 3) sampleMarket.asset 3
      sampleMarket.nftAsset 8 (.account 3) = .ok s' ∧
    ∀ new, LendPoolLoan.borrowAmount s' (s'.loanOf sampleMarket.nftAsset 8) = .ok new →
      |(new : ℚ) - (3 : Nat)| ≤
        1 + (s'.pool.reserves sampleMarket.asset).variableBorrowIndex / (2 * RAY) := by
  obtain ⟨s', hborrow, -⟩ := exists_of_passes (show passes
    (LendPool.borrow sampleAged (.account 3) sampleMarket.asset 3 sampleMarket.nftAsset 8
      (.account 3)) (fun _ => true) = true by decide +kernel)
  have hfree : sampleAged.loanStore.nftToLoanIds sampleMarket.nftAsset 8 = 0 := by decide +kernel
  obtain ⟨-, -, -, -, -, hloans⟩ := balances_move_by_amounts
  exact ⟨s', hborrow,
    ((hloans sampleAged sampleAged_reachable).1 3 _ 3 _ 8 _ s' hborrow).2 hfree⟩

end Confetti

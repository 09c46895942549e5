import Confetti.Properties.DepositorBalances

/-! While the pool is paused everything that users own through it stays as it is, whatever
users, admins and the world do. -/
namespace Confetti
open Outcome TransitionSystem

/-- Loans, debts, deposits, indexes and rates are as they were; what the protocol's own contracts
hold of any token is no less, and NFTs in custody are where they were. -/
structure Standstill (s s' : State) : Prop where
  loanStore : s'.loanStore = s.loanStore
  debts : ∀ asset, (s'.debtTokens asset).ledger = (s.debtTokens asset).ledger
  deposits : ∀ asset,
    (s'.cTokens asset).ledger.balances = (s.cTokens asset).ledger.balances ∧
      (s'.cTokens asset).ledger.totalSupply = (s.cTokens asset).ledger.totalSupply
  accrual : ∀ asset, (s.pool.reserves asset).cTokenAddress ≠ .zero →
    SameAccrual (s.pool.reserves asset) (s'.pool.reserves asset)
  cash : ∀ token holder, holder.isExternal = false →
    (s.erc20 token).balances holder ≤ (s'.erc20 token).balances holder
  custody : ∀ nftAsset tokenId borrower, InCustody s nftAsset tokenId borrower →
    InCustody s' nftAsset tokenId borrower

variable {s s' s'' : State}

theorem Standstill.refl (s : State) : Standstill s s where
  loanStore := rfl
  debts := fun _ => rfl
  deposits := fun _ => ⟨rfl, rfl⟩
  accrual := fun _ _ => .refl _
  cash := fun _ _ _ => Nat.le_refl _
  custody := fun _ _ _ h => h

theorem Standstill.trans (h : Standstill s s') (h' : Standstill s' s'') : Standstill s s'' where
  loanStore := h'.loanStore.trans h.loanStore
  debts := fun asset => (h'.debts asset).trans (h.debts asset)
  deposits := fun asset => ⟨(h'.deposits asset).1.trans (h.deposits asset).1,
    (h'.deposits asset).2.trans (h.deposits asset).2⟩
  accrual := by
    intro asset hlisted
    have hfirst := h.accrual asset hlisted
    apply hfirst.trans
    apply h'.accrual
    rw [hfirst.cTokenAddress]
    exact hlisted
  cash := fun token holder hholder =>
    (h.cash token holder hholder).trans (h'.cash token holder hholder)
  custody := fun _ _ _ hc => h'.custody _ _ _ (h.custody _ _ _ hc)

theorem Standstill.of_kept (hsound : Sound s) (hkept : Kept s s')
    (hdeposits : ∀ asset, (s'.cTokens asset).ledger.balances = (s.cTokens asset).ledger.balances ∧
      (s'.cTokens asset).ledger.totalSupply = (s.cTokens asset).ledger.totalSupply)
    (haccrual : ∀ asset, (s.pool.reserves asset).cTokenAddress ≠ .zero →
      SameAccrual (s.pool.reserves asset) (s'.pool.reserves asset))
    (hcash : ∀ token holder, holder.isExternal = false →
      (s.erc20 token).balances holder ≤ (s'.erc20 token).balances holder) : Standstill s s' where
  loanStore := hkept.loanStore
  debts := hkept.ledgers
  deposits := hdeposits
  accrual := haccrual
  cash := hcash
  custody := hkept.custody hsound

/-! ### Users -/

theorem UserCall.refused {call : UserCall} (hpool : call.entersPool = true)
    (hpaused : s.pool.paused = true) (h : call.run s = .ok s') : False := by
  have hstart : ∀ {α : Type} {program : Except Revert α} {a : α},
      (LendPool.whenNotPaused s >>= fun _ => program) = .ok a → False := by
    intro α program a hrun
    obtain ⟨_, hopen, -⟩ := bind_eq_ok.mp hrun
    rw [require_eq_ok.mp hopen] at hpaused
    cases hpaused
  cases call with
  | deposit | borrow | buyItNow => exact hstart h
  | withdraw | repay | redeem | liquidate =>
    obtain ⟨_, hrun, -⟩ := map_eq_ok.mp h
    exact hstart hrun
  | _ => cases hpool

/-- Not even a cToken moves. -/
theorem transferScaled_refused {asset sender recipient : Address} {amount : Nat} {ledger : ERC20}
    (hpaused : s.pool.paused = true)
    (h : CToken.transferScaled s asset sender recipient amount = .ok ledger) : False := by
  simp only [CToken.transferScaled, CToken.finalizeTransfer, bind_eq_ok, require_eq_ok,
    exists_const] at h
  obtain ⟨_, -, _, -, _, -, _, -, _, -, ⟨hopen, -⟩, -⟩ := h
  rw [hopen] at hpaused
  cases hpaused

theorem UserCall.depositsKept {call : UserCall} (haside : call.entersPool = false)
    (hpaused : s.pool.paused = true) (h : call.run s = .ok s') (asset : Address) :
    (s'.cTokens asset).ledger.balances = (s.cTokens asset).ledger.balances ∧
      (s'.cTokens asset).ledger.totalSupply = (s.cTokens asset).ledger.totalSupply := by
  cases call with
  | deposit | withdraw | borrow | repay | buyItNow | redeem | liquidate => cases haside
  | transferCToken caller asset recipient amount =>
    obtain ⟨_, -, h⟩ := bind_eq_ok.mp h
    obtain ⟨_, hscaled, -⟩ := bind_eq_ok.mp h
    exact (transferScaled_refused hpaused hscaled).elim
  | transferCTokenFrom caller asset sender recipient amount =>
    obtain ⟨_, -, h⟩ := bind_eq_ok.mp h
    obtain ⟨_, hscaled, -⟩ := bind_eq_ok.mp h
    exact (transferScaled_refused hpaused hscaled).elim
  | approveCToken caller own spender amount =>
    obtain ⟨other, -, h⟩ := bind_eq_ok.mp h
    obtain ⟨ledger, happroved, rfl⟩ := bind_pure_eq_ok.mp h
    obtain ⟨-, rfl⟩ := ERC20.approve_eq_ok.mp happroved
    by_cases hother : asset = other
    · subst hother
      simp [CToken.withLedger]
    · simp [CToken.withLedger, hother]
  | approveDelegation caller asset delegatee amount =>
    obtain ⟨_, -, rfl⟩ := bind_pure_eq_ok.mp h
    exact ⟨rfl, rfl⟩
  | createCNFT nftAsset =>
    obtain rfl := CNFTRegistry.createCNFT_spec h
    exact ⟨rfl, rfl⟩

theorem UserCall.standstill {call : UserCall} (hreg : Regular s) (hpaused : s.pool.paused = true)
    (h : call.run s = .ok s') : Standstill s s' := by
  rcases UserCall.cases hreg.sound.wired hreg.book.toFiled h with haction | ⟨haside, hkept⟩
  · exact (UserCall.refused haction.entersPool hpaused h).elim
  · obtain ⟨_, _, _, hs⟩ := UserCall.frame haside h
    apply Standstill.of_kept hreg.sound hkept (UserCall.depositsKept haside hpaused h)
    · intro asset _
      rw [hs]
      exact .refl _
    · intro token holder _
      rw [hs]

/-! ### Everybody else -/

theorem Operation.standstill {operation : Operation} (hreg : Regular s)
    (hpaused : s.pool.paused = true) (h : operation.run s = .ok s') : Standstill s s' := by
  cases operation with
  | user call => exact UserCall.standstill hreg hpaused h
  | token call =>
    have hcash := fun token (holder : Address) (hholder : holder.isExternal = false) =>
      TokenCall.cash_le hreg.sound.guarded h token hholder
    obtain ⟨_, _, _, _, hs⟩ := TokenCall.frame h
    apply Standstill.of_kept hreg.sound (TokenCall.kept h) _ _ hcash
    · intro asset
      rw [hs]
      exact ⟨rfl, rfl⟩
    · intro asset _
      rw [hs]
      exact .refl _
  | admin call =>
    have hframe := AdminCall.frame h
    apply Standstill.of_kept hreg.sound (AdminCall.kept h) _ fun _ => AdminCall.sameAccrual h
    · obtain ⟨_, _, _, hs⟩ := hframe.shape
      intro token holder _
      rw [hs]
    · intro asset
      rw [hframe.ledgers]
      exact ⟨rfl, rfl⟩
  | world event =>
    obtain ⟨_, _, _, _, _, -, hs⟩ := WorldEvent.frame h
    apply Standstill.of_kept hreg.sound (WorldEvent.kept h)
    · intro asset
      rw [hs]
      exact ⟨rfl, rfl⟩
    · intro asset _
      rw [hs]
      exact .refl _
    · intro token holder _
      rw [hs]

theorem Transaction.standstill {transaction : Transaction} (hreg : Regular s)
    (hpaused : s.pool.paused = true) (h : transaction.run s = .ok s') : Standstill s s' := by
  have hstopped : LendPool.whenNotPaused s = .error (.error .LP_IS_PAUSED) :=
    if_neg (by simp [hpaused])
  cases transaction with
  | single operation => exact Operation.standstill hreg hpaused h
  | batchBorrow =>
    simp only [Transaction.run, LendPool.batchBorrow, hstopped] at h
    cases h
  | batchRepay =>
    simp only [Transaction.run, LendPool.batchRepay, hstopped] at h
    cases h

/-- Over every stretch of a run in which the pool is paused. -/
theorem paused_pool_stands_still {history : List (Transition State Transaction)}
    (hs : Reachable transactions s) (hrun : Run transactions s history s')
    (hpaused : ∀ t ∈ history, t.pre.pool.paused = true) :
    Standstill s s' ∧ ∀ t ∈ history, Standstill s t.post := by
  have hstep : ∀ m (transaction : Transaction) m', Reachable transactions m →
      m.pool.paused = true → Standstill s m → transaction.run m = .ok m' → Standstill s m' := by
    intro m transaction m' hm hmpaused hstill h
    have hreg := regular_of_reachable (reachable_operations hm)
    exact hstill.trans (Transaction.standstill hreg hmpaused h)
  exact hrun.preserves hstep hs hpaused (.refl s)

def samplePaused : State :=
  replayed transactions sampleLent [.single (.admin (.setPoolPause true))]

def samplePausedDay : List Transaction :=
  [.single (.world (.tick 86400)), .single (.user (.approveCToken 1 sampleMarket.asset (.account 3) 5)),
    .single (.token (.transfer 3 sampleMarket.asset (.cToken sampleMarket.asset) 7)),
    .single (.user (.repay 2 sampleMarket.nftAsset 7 (10 ^ 18))),
    .single (.admin (.setReserveFactor [sampleMarket.asset] 2000))]

theorem paused_pool_stands_still_day :
    Standstill samplePaused (replayed transactions samplePaused samplePausedDay) := by
  have hpaused : Reachable transactions samplePaused :=
    replayed_reachable (reachable_transactions sampleLent_reachable) _
  apply (paused_pool_stands_still hpaused (trace_run samplePaused samplePausedDay) _).1
  decide +kernel

end Confetti

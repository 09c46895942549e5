import Confetti.Invariants.Ledger

/-! The pool's own balance covers the price every buyer has locked on a loan, in every
reachable state. -/
namespace Confetti
open Outcome TransitionSystem FiniteLedger

def LoanData.escrow (loan : LoanData) : Nat :=
  if loan.state = .BuyItNow then loan.buyItNowPrice else 0

def LoanData.locked (asset : Address) (loan : LoanData) : Nat :=
  spot (asset = loan.reserveAsset) loan.escrow

def EscrowCovered (s : State) : Prop :=
  ∀ asset, s.sumLoans (LoanData.locked asset) ≤ (s.erc20 asset).balances .lendPool

/-! ### Payments as the holder of a balance sees them -/

/-- A program leaves a holder with at least the balance, plus what is received, less
what is paid. -/
def Nets (holder : Address) (program : ERC20 → Except Revert ERC20) (received paid : Nat) : Prop :=
  ∀ self self', program self = .ok self' →
    self.balances holder + received ≤ self'.balances holder + paid

section Nets

variable {token sender recipient spender holder : Address} {amount received paid : Nat}
  {program : ERC20 → Except Revert ERC20}

theorem nets_transfer_of_ne (hne : holder ≠ sender) :
    Nets holder (fun self => ERC20.transfer token self sender recipient amount) 0 0 :=
  fun _ _ h => ERC20.transfer_spares hne h

theorem nets_transfer_sender :
    Nets sender (fun self => ERC20.transfer token self sender recipient amount) 0 amount := by
  intro self self' h
  obtain ⟨-, -, hbalance, -, rfl⟩ := ERC20.transfer_eq_ok.mp h
  exact ERC20.le_moved_add hbalance

theorem nets_transferFrom_of_ne (hne : holder ≠ sender) :
    Nets holder (fun self => ERC20.transferFrom token self spender sender recipient amount) 0 0 := by
  intro self self' h
  obtain ⟨-, -, -, -, -, -, rfl⟩ := ERC20.transferFrom_eq_ok.mp h
  exact ERC20.le_moved hne

theorem nets_transferFrom_recipient (hne : sender ≠ holder) :
    Nets holder (fun self => ERC20.transferFrom token self spender sender holder amount) amount
      0 := by
  intro self self' h
  obtain ⟨-, -, -, -, -, -, rfl⟩ := ERC20.transferFrom_eq_ok.mp h
  exact Nat.le_of_eq (ERC20.moved_recipient hne).symm

theorem Nets.ite {condition : Prop} [Decidable condition] (h : Nets holder program received paid)
    (hskip : ¬condition → received ≤ paid) :
    Nets holder (fun self => if condition then program self else pure self) received paid := by
  intro self self' hself
  by_cases hcondition : condition
  · simp only [if_pos hcondition] at hself
    exact h self self' hself
  · simp only [if_neg hcondition, pure_eq_ok] at hself
    subst hself
    exact Nat.add_le_add_left (hskip hcondition) _

variable {asset initiator buyer borrower : Address} {price fine debt : Nat}

theorem nets_redemption (hinitiator : Address.lendPool ≠ initiator) :
    Nets .lendPool (redemptionPayments asset initiator buyer amount price fine) 0 price := by
  intro self self' h
  simp only [redemptionPayments, bind_eq_ok] at h
  obtain ⟨_, hrepay, _, hrefund, hfine⟩ := h
  have hrepay := nets_transferFrom_of_ne hinitiator _ _ hrepay
  have hrefund := nets_transfer_sender _ _ hrefund
  have hfine := nets_transferFrom_of_ne hinitiator _ _ hfine
  omega

/-- A liquidation costs the pool the price, whatever the debt is. -/
theorem nets_liquidation (hinitiator : initiator ≠ Address.lendPool) :
    Nets .lendPool (liquidationPayments asset initiator borrower price debt) 0 price := by
  intro self self' h
  simp only [liquidationPayments, bind_eq_ok] at h
  obtain ⟨m, hextra, m', hdebt, hremain⟩ := h
  have hextra := (nets_transferFrom_recipient hinitiator).ite (fun hc => by omega) self m hextra
  have hdebt := nets_transfer_sender _ _ hdebt
  have hremain := nets_transfer_sender.ite (fun hc => by omega) m' self' hremain
  omega

end Nets

/-! ### Every action -/

/-- The price locked on one loan moved, and the pool's balance with it. -/
structure EscrowMove (s s' : State) (asset : Address) (old new : Nat) : Prop where
  locked : ∀ other, s'.sumLoans (LoanData.locked other) + spot (other = asset) old =
    s.sumLoans (LoanData.locked other) + spot (other = asset) new
  balance : ∀ other, (s.erc20 other).balances .lendPool + spot (other = asset) new ≤
    (s'.erc20 other).balances .lendPool + spot (other = asset) old

variable {s s' : State} {operation : Operation} {asset : Address} {loanId old new : Nat}

theorem EscrowCovered.of_move (h : EscrowCovered s) (hmove : EscrowMove s s' asset old new) :
    EscrowCovered s' := by
  intro other
  have hlocked := hmove.locked other
  have hbalance := hmove.balance other
  have hbefore := h other
  omega

theorem EscrowCovered.of_kept (h : EscrowCovered s) (hkept : Kept s s') (hs : Sound s) :
    EscrowCovered s' := by
  intro other
  rw [sumLoans_congr _ hkept.loanStore]
  exact (h other).trans (hkept.escrow hs other)

theorem escrow_of_ne {loan : LoanData} (h : loan.state ≠ .BuyItNow) : loan.escrow = 0 := if_neg h

theorem escrow_of_sale {loan : LoanData} (h : loan.state = .BuyItNow) :
    loan.escrow = loan.buyItNowPrice := if_pos h

private theorem locked_of_replaced {loan : LoanData} (hlt : loanId < s.loanStore.loanIdTracker)
    (h : LoanReplaced s loanId loan s') (hsame : SameDeal (s.loanStore.loans loanId) loan)
    (other : Address) :
    s'.sumLoans (LoanData.locked other) + spot (other = (s.loanStore.loans loanId).reserveAsset)
        (s.loanStore.loans loanId).escrow =
      s.sumLoans (LoanData.locked other) +
        spot (other = (s.loanStore.loans loanId).reserveAsset) loan.escrow := by
  have hsum := sumLoans_replaced (LoanData.locked other) hlt h
  simp only [LoanData.locked, hsame.reserveAsset] at hsum
  exact hsum

private theorem locked_of_closed {ended : LoanData} {receiver : Address}
    (hlt : loanId < s.loanStore.loanIdTracker) (h : LoanClosed s loanId ended receiver s')
    (hsame : SameDeal (s.loanStore.loans loanId) ended) (other : Address) :
    s'.sumLoans (LoanData.locked other) + spot (other = (s.loanStore.loans loanId).reserveAsset)
        (s.loanStore.loans loanId).escrow =
      s.sumLoans (LoanData.locked other) +
        spot (other = (s.loanStore.loans loanId).reserveAsset) ended.escrow := by
  have hsum := sumLoans_closed (LoanData.locked other) hlt h
  simp only [LoanData.locked, hsame.reserveAsset] at hsum
  exact hsum

theorem Cash.pool_balance {program : ERC20 → Except Revert ERC20} {events : List Transfer}
    (hcash : Cash s asset program events s') (hnets : Nets .lendPool program new old)
    (other : Address) :
    (s.erc20 other).balances .lendPool + spot (other = asset) new ≤
      (s'.erc20 other).balances .lendPool + spot (other = asset) old := by
  obtain ⟨token, htoken, herc20⟩ := hcash.ledger
  rw [herc20]
  unfold spot
  by_cases hother : other = asset
  · subst hother
    rw [Function.update_self, if_pos rfl, if_pos rfl]
    exact hnets _ _ htoken
  · rw [Function.update_of_ne hother, if_neg hother, if_neg hother]

private theorem EscrowMove.of_idle {program : ERC20 → Except Revert ERC20}
    {events : List Transfer}
    (hlocked : ∀ other, s'.sumLoans (LoanData.locked other) = s.sumLoans (LoanData.locked other))
    (hcash : Cash s asset program events s') (hnets : Nets .lendPool program 0 0) :
    EscrowMove s s' asset 0 0 where
  locked := by
    intro other
    rw [hlocked]
  balance := hcash.pool_balance hnets

theorem PoolAction.escrow (hb : BookValid s) (h : PoolAction s operation s') :
    ∃ asset old new, EscrowMove s s' asset old new := by
  have hlt : ∀ {nftAsset : Address} {nftTokenId : Nat},
      s.loanStore.nftToLoanIds nftAsset nftTokenId ≠ 0 →
        s.loanStore.nftToLoanIds nftAsset nftTokenId < s.loanStore.loanIdTracker :=
    fun hreg => hb.lt_tracker (hb.registered_live hreg)
  have hactive : ∀ {loan : LoanData}, loan.state = .Active → loan.escrow = 0 := by
    intro loan hstate
    apply escrow_of_ne
    rw [hstate]
    decide
  cases h with
  | deposit _ h =>
    exact ⟨_, 0, 0, .of_idle (fun other => sumLoans_congr _ h.book.loanStore) h.cash
      (nets_transferFrom_of_ne (by simp))⟩
  | withdraw _ h =>
    exact ⟨_, 0, 0, .of_idle (fun other => sumLoans_congr _ h.book.loanStore) h.cash
      (nets_transfer_of_ne (by simp))⟩
  | @borrow p n li vi scaled _ _ h =>
    refine ⟨_, 0, 0, .of_idle (fun other => ?_) h.cash (nets_transfer_of_ne (by simp))⟩
    rcases h.book with hopened | htopped
    · rw [sumLoans_opened _ hopened, LoanData.locked, hactive rfl, spot_zero, Nat.add_zero]
    · have hsum := locked_of_replaced (hlt htopped.registered) htopped.replaced
        ⟨rfl, rfl, rfl, rfl, rfl⟩ other
      have hold := hactive htopped.active
      have hnew : LoanData.escrow { s.loanOf p.nftAsset p.nftTokenId with
        scaledAmount := (s.loanOf p.nftAsset p.nftTokenId).scaledAmount + scaled } = 0 :=
        hactive htopped.active
      unfold State.loanOf at hold
      rw [hold, hnew, spot_zero] at hsum
      exact hsum
  | @repay p n li vi debt paid scaled _ hn h =>
    refine ⟨_, 0, 0, .of_idle (fun other => ?_) h.cash (nets_transferFrom_of_ne (by simp [hn]))⟩
    have hold := hactive h.active
    unfold State.loanOf at hold
    rcases h.book with ⟨-, -, hpartly⟩ | ⟨-, hclosed⟩
    · have hsum := locked_of_replaced (hlt h.registered) hpartly ⟨rfl, rfl, rfl, rfl, rfl⟩ other
      have hnew : LoanData.escrow { s.loanOf p.nftAsset p.nftTokenId with
        scaledAmount := (s.loanOf p.nftAsset p.nftTokenId).scaledAmount - scaled } = 0 :=
        hactive h.active
      rw [hold, hnew, spot_zero] at hsum
      exact hsum
    · have hsum := locked_of_closed (hlt h.registered) hclosed ⟨rfl, rfl, rfl, rfl, rfl⟩ other
      rw [hold, escrow_of_ne (fun hsale => by cases hsale), spot_zero] at hsum
      exact hsum
  | @buyItNow p n li vi debt threshold liquidate _ hn h =>
    refine ⟨_, _, p.buyItNowPrice,
      locked_of_replaced (hlt h.registered) h.replaced ⟨rfl, rfl, rfl, rfl, rfl⟩,
      h.cash.pool_balance ?_⟩
    intro self self' hself
    have hgain := nets_transferFrom_recipient (by simp [hn]) self self' hself
    omega
  | redeem _ hn h hs =>
    subst hs
    refine ⟨_, _, _, locked_of_replaced (hlt h.registered) h.replaced ⟨rfl, rfl, rfl, rfl, rfl⟩, ?_⟩
    have hold := escrow_of_sale h.sale
    unfold State.loanOf at hold
    rw [hold, escrow_of_ne (fun hsale => by cases hsale)]
    exact h.cash.pool_balance (nets_redemption (by simp [hn]))
  | liquidate _ hn h hs =>
    subst hs
    refine ⟨_, _, _, locked_of_closed (hlt h.registered) h.closed ⟨rfl, rfl, rfl, rfl, rfl⟩, ?_⟩
    have hold := escrow_of_sale h.sale
    unfold State.loanOf at hold
    rw [hold, escrow_of_ne (fun hsale => by cases hsale)]
    exact h.cash.pool_balance (nets_liquidation (by simp [hn]))

/-! ### Reachable states -/

theorem Genesis.escrowCovered (h : Genesis s) : EscrowCovered s := by
  intro asset
  rw [h.sumLoans _ (spot_zero _)]
  exact Nat.zero_le _

theorem EscrowCovered.step (h : EscrowCovered s) (hreg : Regular s)
    (hs : operation.run s = .ok s') : EscrowCovered s' := by
  rcases hreg.cases hs with haction | ⟨-, hkept⟩
  · obtain ⟨_, _, _, hmove⟩ := haction.escrow hreg.book
    exact h.of_move hmove
  · exact h.of_kept hkept hreg.sound

theorem escrowCovered_of_reachable (h : Reachable operations s) : EscrowCovered s := by
  apply h.invariant
  · exact fun s hs => Genesis.escrowCovered hs
  · exact fun s operation s' hr hcovered hs => hcovered.step (regular_of_reachable hr) hs

end Confetti

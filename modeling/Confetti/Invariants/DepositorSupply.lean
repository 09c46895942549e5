import Confetti.Effects.Positions
import Confetti.Invariants.TokenSupply

/-! The positions of a reserve's depositors never add up to more than the cToken's supply. -/
namespace Confetti
open Outcome TransitionSystem

def PositionsCovered (cTokens : Address → CToken) : Prop :=
  ∀ asset, (cTokens asset).ledger.Covered

variable {s s' : State} {operation : Operation} {cTokens cTokens' : Address → CToken}
  {asset user : Address} {scaled : Nat}

theorem PositionsCovered.update {self : CToken} (h : PositionsCovered cTokens)
    (hself : self.ledger.Covered) : PositionsCovered (Function.update cTokens asset self) := by
  intro other
  rw [Function.update_apply]
  split
  · exact hself
  · exact h other

theorem PositionsCovered.credited (h : PositionsCovered cTokens) :
    PositionsCovered (Function.update cTokens asset ((cTokens asset).credited user scaled)) :=
  h.update (ERC20.Covered.given (h asset))

theorem PositionsCovered.debited (h : PositionsCovered cTokens)
    (hle : scaled ≤ (cTokens asset).ledger.balances user) :
    PositionsCovered (Function.update cTokens asset ((cTokens asset).debited user scaled)) :=
  h.update (ERC20.Covered.taken (h asset) hle)

theorem PositionsCovered.moved {ledger : ERC20} {sender recipient : Address}
    (h : PositionsCovered s.cTokens) (hsupply : ledger.totalSupply =
      (s.cTokens asset).ledger.totalSupply)
    (hle : scaled ≤ (s.cTokens asset).ledger.balances sender) (hmoved : ledger.balances =
      ERC20.moved (s.cTokens asset).ledger.balances sender recipient scaled) :
    PositionsCovered (CToken.withLedger s asset ledger).cTokens := by
  apply h.update
  intro holders
  change FiniteLedger.total holders id ledger.balances ≤ ledger.totalSupply
  rw [hmoved, hsupply]
  exact ERC20.Covered.moved (h asset) hle (s.cTokens asset).ledger.allowances holders

theorem Accrual.positionsCovered {li vi : Nat} (haccrual : Accrual s asset li vi cTokens)
    (h : PositionsCovered s.cTokens) : PositionsCovered cTokens := by
  rw [ReserveLogic.mintToTreasury_spec haccrual.listed.cToken haccrual.treasury]
  exact h.credited

theorem UserCall.positionsCovered (hw : Wired s) (hf : Filed s) {call : UserCall}
    (hcovered : PositionsCovered s.cTokens) (h : call.run s = .ok s') :
    PositionsCovered s'.cTokens := by
  by_cases hpool : call.entersPool = true
  · obtain ⟨own, li, vi, cTokens, haccrual, hmove⟩ := depositors_move hw hf hpool h
    cases hmove with
    | kept hkept =>
      rw [hkept]
      exact haccrual.positionsCovered hcovered
    | minted _ _ _ hminted =>
      rw [hminted]
      exact (haccrual.positionsCovered hcovered).credited
    | burned hcall _ hburned =>
      subst hcall
      obtain ⟨⟨_, _⟩, h, rfl⟩ := map_eq_ok.mp h
      obtain ⟨_, _, cTokens, scaled, _, haccrual, -, -, -, hle, hcTokens⟩ :=
        withdraw_positions hw (LendPool.of_whenNotPaused h)
      rw [hcTokens]
      exact (haccrual.positionsCovered hcovered).debited hle
  · cases call with
    | transferCToken caller own recipient amount =>
      obtain ⟨asset', -, h⟩ := bind_eq_ok.mp h
      obtain ⟨ledger, hledger, rfl⟩ := bind_pure_eq_ok.mp h
      obtain ⟨_, scaled, -, -, hle, hmoved, hsupply⟩ := CToken.transferScaled_spec hledger
      exact hcovered.moved hsupply hle hmoved
    | transferCTokenFrom caller own sender recipient amount =>
      obtain ⟨asset', ledger, -, hledger, -, -, rfl⟩ := CToken.transferFrom_eq_ok.mp h
      obtain ⟨_, scaled, -, -, hle, hmoved, hsupply⟩ := CToken.transferScaled_spec hledger
      exact hcovered.moved hsupply hle hmoved
    | approveCToken caller own spender amount =>
      obtain ⟨asset', -, h⟩ := bind_eq_ok.mp h
      obtain ⟨ledger, happrove, rfl⟩ := bind_pure_eq_ok.mp h
      obtain ⟨-, rfl⟩ := ERC20.approve_eq_ok.mp happrove
      exact hcovered.update (hcovered asset')
    | approveDelegation caller own delegatee amount =>
      obtain ⟨_, -, rfl⟩ := bind_pure_eq_ok.mp h
      exact hcovered
    | createCNFT nftAsset =>
      obtain rfl := CNFTRegistry.createCNFT_spec h
      exact hcovered
    | deposit | withdraw | borrow | repay | buyItNow | redeem | liquidate => exact absurd rfl hpool

theorem PositionsCovered.step (hcovered : PositionsCovered s.cTokens) (hreg : Regular s)
    (h : operation.run s = .ok s') : PositionsCovered s'.cTokens := by
  cases operation with
  | user call => exact UserCall.positionsCovered hreg.sound.wired hreg.book.toFiled hcovered h
  | token call =>
    obtain ⟨_, _, _, _, rfl⟩ := TokenCall.frame h
    exact hcovered
  | admin call =>
    intro asset
    rw [(AdminCall.frame h).ledgers]
    exact hcovered asset
  | world event =>
    obtain ⟨_, _, _, _, _, -, rfl⟩ := WorldEvent.frame h
    exact hcovered

theorem positionsCovered_of_reachable (h : Reachable operations s) :
    PositionsCovered s.cTokens := by
  apply h.invariant
  · intro s hs asset holders
    rw [hs.cTokens]
    exact Nat.le_of_eq Finset.sum_const_zero
  · exact fun s operation s' hs hcovered hrun => hcovered.step (regular_of_reachable hs) hrun

end Confetti

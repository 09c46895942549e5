import Confetti.Logic.ReserveIndexes
import Confetti.Protocol.State

/-! `DebtToken`: the scaled debt of every borrower of one reserve. The pool mints
and burns it; holders can only delegate borrowing power. -/
namespace Confetti
open Outcome

namespace DebtToken

/-- `_decreaseBorrowAllowance` -/
def decreaseBorrowAllowance (self : DebtToken) (delegator delegatee : Address) (amount : Nat) :
    Except Revert DebtToken := do
  require (amount ≤ self.borrowAllowances delegator delegatee)
    (.error .CT_BORROW_ALLOWANCE_NOT_ENOUGH)
  let newAllowance := self.borrowAllowances delegator delegatee - amount
  pure { self with
    borrowAllowances := ERC20.allowed self.borrowAllowances delegator delegatee newAllowance }

def mint (debtTokens : Address → DebtToken) (address initiator onBehalfOf : Address)
    (amount index : Nat) : Except Revert (Address → DebtToken) := do
  let asset ← State.debtTokenAt address
  let self ← (if initiator ≠ onBehalfOf then
      (debtTokens asset).decreaseBorrowAllowance onBehalfOf initiator amount
    else pure (debtTokens asset))
  let amountScaled ← rayDiv amount index
  require (amountScaled ≠ 0) (.error .CT_INVALID_MINT_AMOUNT)
  let ledger ← ERC20.mint (.debtToken asset) self.ledger onBehalfOf amountScaled
  pure (Function.update debtTokens asset { self with ledger })

def burn (debtTokens : Address → DebtToken) (address user : Address) (amount index : Nat) :
    Except Revert (Address → DebtToken) := do
  let asset ← State.debtTokenAt address
  let amountScaled ← rayDiv amount index
  require (amountScaled ≠ 0) (.error .CT_INVALID_BURN_AMOUNT)
  let ledger ← ERC20.burn (.debtToken asset) (debtTokens asset).ledger user amountScaled
  pure (Function.update debtTokens asset { debtTokens asset with ledger })

def approveDelegation (debtTokens : Address → DebtToken) (address caller delegatee : Address)
    (amount : Nat) : Except Revert (Address → DebtToken) := do
  let asset ← State.debtTokenAt address
  let self := debtTokens asset
  pure (Function.update debtTokens asset { self with
    borrowAllowances := ERC20.allowed self.borrowAllowances caller delegatee amount })

def scaledBalanceOf (self : DebtToken) (user : Address) : Nat := self.ledger.balances user

def scaledTotalSupply (self : DebtToken) : Nat := self.ledger.totalSupply

def balanceOf (s : State) (address user : Address) : Except Revert Nat := do
  let asset ← State.debtTokenAt address
  let scaledBalance := (s.debtTokens asset).scaledBalanceOf user
  if scaledBalance = 0 then pure 0
  else do
    let index ← ReserveLogic.getNormalizedDebt (s.pool.reserves asset) s.timestamp
    rayMul scaledBalance index

def credited (self : DebtToken) (user : Address) (scaled : Nat) : DebtToken :=
  { self with ledger := { self.ledger with
      totalSupply := self.ledger.totalSupply + scaled
      balances := Function.update self.ledger.balances user
        (self.ledger.balances user + scaled) } }

def debited (self : DebtToken) (user : Address) (scaled : Nat) : DebtToken :=
  { self with ledger := { self.ledger with
      totalSupply := self.ledger.totalSupply - scaled
      balances := Function.update self.ledger.balances user
        (self.ledger.balances user - scaled) } }

variable {debtTokens debtTokens' : Address → DebtToken} {self self' : DebtToken}
  {address initiator onBehalfOf user caller delegatee delegator : Address} {amount index : Nat}

theorem decreaseBorrowAllowance_eq_ok :
    self.decreaseBorrowAllowance delegator delegatee amount = .ok self' ↔
      amount ≤ self.borrowAllowances delegator delegatee ∧
        self' = { self with
          borrowAllowances := ERC20.allowed self.borrowAllowances delegator delegatee
            (self.borrowAllowances delegator delegatee - amount) } := by
  simp only [decreaseBorrowAllowance, bind_eq_ok, require_eq_ok, exists_const, pure_eq_ok]
  exact and_congr_right fun _ => eq_comm

/-- A mint credits the scaled amount to the borrower, and only a delegated one
touches the allowances. -/
theorem mint_spec
    (h : mint debtTokens address initiator onBehalfOf amount index = .ok debtTokens') :
    ∃ asset scaled self, address = .debtToken asset ∧ rayDiv amount index = .ok scaled ∧
      scaled ≠ 0 ∧ onBehalfOf ≠ .zero ∧
        (if initiator ≠ onBehalfOf then
            (debtTokens asset).decreaseBorrowAllowance onBehalfOf initiator amount
          else pure (debtTokens asset)) = .ok self ∧
          self.ledger = (debtTokens asset).ledger ∧
            debtTokens' = Function.update debtTokens asset (self.credited onBehalfOf scaled) := by
  simp only [mint, bind_eq_ok, State.debtTokenAt_eq_ok, require_eq_ok, exists_const,
    ERC20.mint_eq_ok, pure_eq_ok] at h
  obtain ⟨asset, rfl, self, hself, scaled, hdiv, hne, _, ⟨hz, hsupply, hbalance, rfl⟩, rfl⟩ := h
  refine ⟨asset, scaled, self, rfl, hdiv, hne, hz, hself, ?_, rfl⟩
  split at hself
  · obtain ⟨-, rfl⟩ := decreaseBorrowAllowance_eq_ok.mp hself
    rfl
  · exact congrArg ledger (pure_eq_ok.mp hself).symm

theorem burn_eq_ok :
    burn debtTokens address user amount index = .ok debtTokens' ↔
      ∃ asset scaled, address = .debtToken asset ∧ rayDiv amount index = .ok scaled ∧
        scaled ≠ 0 ∧ user ≠ .zero ∧ scaled ≤ (debtTokens asset).ledger.balances user ∧
          scaled ≤ (debtTokens asset).ledger.totalSupply ∧
            debtTokens' = Function.update debtTokens asset
              ((debtTokens asset).debited user scaled) := by
  simp only [burn, bind_eq_ok, State.debtTokenAt_eq_ok, require_eq_ok, exists_const,
    ERC20.burn_eq_ok, pure_eq_ok]
  constructor
  · rintro ⟨asset, rfl, scaled, hdiv, hne, _, ⟨hz, hbalance, hsupply, rfl⟩, rfl⟩
    exact ⟨asset, scaled, rfl, hdiv, hne, hz, hbalance, hsupply, rfl⟩
  · rintro ⟨asset, scaled, rfl, hdiv, hne, hz, hbalance, hsupply, rfl⟩
    exact ⟨asset, rfl, scaled, hdiv, hne, _, ⟨hz, hbalance, hsupply, rfl⟩, rfl⟩

theorem approveDelegation_eq_ok :
    approveDelegation debtTokens address caller delegatee amount = .ok debtTokens' ↔
      ∃ asset, address = .debtToken asset ∧
        debtTokens' = Function.update debtTokens asset { debtTokens asset with
          borrowAllowances := ERC20.allowed (debtTokens asset).borrowAllowances caller
            delegatee amount } := by
  simp only [approveDelegation, bind_pure_eq_ok, State.debtTokenAt_eq_ok]

section Faults

variable {bad : Revert → Prop}

theorem avoids_debtTokenAt (hbad : BalanceFault bad) (address : Address) :
    Avoids bad (State.debtTokenAt address) := by
  cases address
  case debtToken asset => exact avoids_ok _
  all_goals exact avoids_error (hbad.nonContract _)

theorem avoids_burn (hbad : BalanceFault bad)
    (hbalance : ∀ asset scaled, address = .debtToken asset → rayDiv amount index = .ok scaled →
      (debtTokens asset).ledger.balances user < scaled →
        ¬bad (.erc20 (.debtToken asset) user .burnExceedsBalance)) :
    Avoids bad (burn debtTokens address user amount index) := by
  refine (avoids_debtTokenAt hbad _).bind fun asset hasset => ?_
  refine (avoids_rayDiv hbad.panic hbad.error _ _).bind fun scaled hscaled => ?_
  refine (avoids_require fun _ => hbad.error _).bind fun _ _ => ?_
  refine (ERC20.avoids_burn hbad fun hlt => ?_).bind fun _ _ => avoids_pure _
  exact hbalance asset scaled (State.debtTokenAt_eq_ok.mp hasset) hscaled hlt

end Faults

end DebtToken

end Confetti

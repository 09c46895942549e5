import Confetti.Math.FixedPoint

/-! `PercentageMath`: percentages have two decimals. -/
namespace Confetti
open Outcome HalfUp

def PERCENTAGE_FACTOR : Nat := 10 ^ 4
def TEN_PERCENT : Nat := 10 ^ 3

def percentMul (value percentage : Nat) : Except Revert Nat :=
  mulHalfUp PERCENTAGE_FACTOR value percentage

def percentDiv (value percentage : Nat) : Except Revert Nat :=
  divHalfUp PERCENTAGE_FACTOR value percentage

variable {a p r : Nat}

theorem percentMul_eq_ok :
    percentMul a p = .ok r ↔
      a * p + PERCENTAGE_FACTOR / 2 ≤ Uint256.max ∧ halfUp (a * p) PERCENTAGE_FACTOR = r :=
  mulHalfUp_eq_ok (by decide) (by decide)

theorem percentDiv_eq_ok :
    percentDiv a p = .ok r ↔
      p ≠ 0 ∧ a * PERCENTAGE_FACTOR + p / 2 ≤ Uint256.max ∧
        halfUp (a * PERCENTAGE_FACTOR) p = r :=
  divHalfUp_eq_ok (by decide)

section Faults

variable {bad : Revert → Prop}

theorem avoids_percentMul (hpanic : ¬bad .panic) (herror : ∀ e, ¬bad (.error e)) (a p : Nat) :
    Avoids bad (percentMul a p) := avoids_mulHalfUp hpanic herror _ _ _

end Faults

end Confetti

import Mathlib.Logic.Function.Basic
import Confetti.Types.Uint256

/-! The ERC-20 base contract: balances, supply and allowances of one token. It is
the underlying of a reserve, and the scaled ledger below cTokens and debt tokens. -/
namespace Confetti
open Outcome

structure ERC20 where
  balances : Address → Nat
  totalSupply : Nat
  allowances : Address → Address → Nat

namespace ERC20

def empty : ERC20 := ⟨fun _ => 0, 0, fun _ _ => 0⟩

/-- Take from the sender, then give to the recipient, who may be the same. -/
def moved (balances : Address → Nat) (sender recipient : Address) (amount : Nat) : Address → Nat :=
  let taken := Function.update balances sender (balances sender - amount)
  Function.update taken recipient (taken recipient + amount)

def allowed (allowances : Address → Address → Nat) (owner spender : Address) (amount : Nat) :
    Address → Address → Nat :=
  Function.update allowances owner (Function.update (allowances owner) spender amount)

/-- `_transfer` -/
def transfer (token : Address) (self : ERC20) (sender recipient : Address) (amount : Nat) :
    Except Revert ERC20 := do
  require (sender ≠ .zero) (.erc20 token sender .transferFromZero)
  require (recipient ≠ .zero) (.erc20 token recipient .transferToZero)
  require (amount ≤ self.balances sender) (.erc20 token sender .transferExceedsBalance)
  let taken := Function.update self.balances sender (self.balances sender - amount)
  let credited ← Uint256.add (taken recipient) amount
  pure { self with balances := Function.update taken recipient credited }

/-- `_approve`; the owner is a caller and so never the zero address. -/
def approve (token : Address) (self : ERC20) (owner spender : Address) (amount : Nat) :
    Except Revert ERC20 := do
  require (spender ≠ .zero) (.erc20 token spender .approveToZero)
  pure { self with allowances := allowed self.allowances owner spender amount }

/-- Tokens move first, the allowance is checked and lowered afterwards. -/
def transferFrom (token : Address) (self : ERC20) (spender sender recipient : Address)
    (amount : Nat) : Except Revert ERC20 := do
  let self ← transfer token self sender recipient amount
  require (amount ≤ self.allowances sender spender)
    (.erc20 token sender .transferExceedsAllowance)
  approve token self sender spender (self.allowances sender spender - amount)

/-- `_mint` -/
def mint (token : Address) (self : ERC20) (account : Address) (amount : Nat) :
    Except Revert ERC20 := do
  require (account ≠ .zero) (.erc20 token account .mintToZero)
  let totalSupply ← Uint256.add self.totalSupply amount
  let credited ← Uint256.add (self.balances account) amount
  pure { self with totalSupply, balances := Function.update self.balances account credited }

/-- `_burn` -/
def burn (token : Address) (self : ERC20) (account : Address) (amount : Nat) :
    Except Revert ERC20 := do
  require (account ≠ .zero) (.erc20 token account .burnFromZero)
  require (amount ≤ self.balances account) (.erc20 token account .burnExceedsBalance)
  let totalSupply ← Uint256.sub self.totalSupply amount
  pure { self with
    balances := Function.update self.balances account (self.balances account - amount), totalSupply }

section Moved

variable {balances : Address → Nat} {sender recipient holder : Address} {amount : Nat}

theorem moved_of_ne (hsender : holder ≠ sender) (hrecipient : holder ≠ recipient) :
    moved balances sender recipient amount holder = balances holder := by
  simp [moved, hsender, hrecipient]

theorem moved_sender (h : sender ≠ recipient) :
    moved balances sender recipient amount sender = balances sender - amount := by
  simp [moved, h]

theorem moved_recipient (h : sender ≠ recipient) :
    moved balances sender recipient amount recipient = balances recipient + amount := by
  simp [moved, h.symm]

theorem moved_self (h : amount ≤ balances sender) :
    moved balances sender sender amount sender = balances sender := by
  simp [moved, h]

theorem le_moved (h : holder ≠ sender) :
    balances holder ≤ moved balances sender recipient amount holder := by
  by_cases hrecipient : holder = recipient
  · subst hrecipient
    rw [moved_recipient (Ne.symm h)]
    exact Nat.le_add_right _ _
  · exact Nat.le_of_eq (moved_of_ne h hrecipient).symm

theorem le_moved_add (h : amount ≤ balances sender) :
    balances holder ≤ moved balances sender recipient amount holder + amount := by
  by_cases hsender : holder = sender
  · subst hsender
    by_cases hrecipient : holder = recipient
    · subst hrecipient
      rw [moved_self h]
      exact Nat.le_add_right _ _
    · rw [moved_sender hrecipient]
      omega
  · exact Nat.le_add_right_of_le (le_moved hsender)

end Moved

section Spec

variable {token sender recipient spender owner account : Address} {self self' : ERC20}
  {amount : Nat}

theorem transfer_eq_ok :
    transfer token self sender recipient amount = .ok self' ↔
      sender ≠ .zero ∧ recipient ≠ .zero ∧ amount ≤ self.balances sender ∧
        moved self.balances sender recipient amount recipient ≤ Uint256.max ∧
          self' = { self with balances := moved self.balances sender recipient amount } := by
  simp only [transfer, bind_eq_ok, require_eq_ok, exists_const, Uint256.add_eq_ok, pure_eq_ok]
  have hmoved : moved self.balances sender recipient amount recipient =
      Function.update self.balances sender (self.balances sender - amount) recipient + amount := by
    simp [moved]
  rw [hmoved]
  constructor
  · rintro ⟨hs, hr, ha, _, ⟨hmax, rfl⟩, rfl⟩
    exact ⟨hs, hr, ha, hmax, rfl⟩
  · rintro ⟨hs, hr, ha, hmax, rfl⟩
    exact ⟨hs, hr, ha, _, ⟨hmax, rfl⟩, rfl⟩

theorem approve_eq_ok :
    approve token self owner spender amount = .ok self' ↔
      spender ≠ .zero ∧
        self' = { self with allowances := allowed self.allowances owner spender amount } := by
  simp only [approve, bind_eq_ok, require_eq_ok, exists_const, pure_eq_ok]
  exact and_congr_right fun _ => eq_comm

theorem transferFrom_eq_ok :
    transferFrom token self spender sender recipient amount = .ok self' ↔
      sender ≠ .zero ∧ recipient ≠ .zero ∧ spender ≠ .zero ∧ amount ≤ self.balances sender ∧
        moved self.balances sender recipient amount recipient ≤ Uint256.max ∧
          amount ≤ self.allowances sender spender ∧
            self' = { self with
              balances := moved self.balances sender recipient amount
              allowances := allowed self.allowances sender spender
                (self.allowances sender spender - amount) } := by
  simp only [transferFrom, bind_eq_ok, transfer_eq_ok, require_eq_ok, exists_const, approve_eq_ok]
  constructor
  · rintro ⟨_, ⟨hs, hr, ha, hmax, rfl⟩, hallow, hsp, rfl⟩
    exact ⟨hs, hr, hsp, ha, hmax, hallow, rfl⟩
  · rintro ⟨hs, hr, hsp, ha, hmax, hallow, rfl⟩
    exact ⟨_, ⟨hs, hr, ha, hmax, rfl⟩, hallow, hsp, rfl⟩

theorem mint_eq_ok :
    mint token self account amount = .ok self' ↔
      account ≠ .zero ∧ self.totalSupply + amount ≤ Uint256.max ∧
        self.balances account + amount ≤ Uint256.max ∧
          self' = { self with
            totalSupply := self.totalSupply + amount
            balances := Function.update self.balances account
              (self.balances account + amount) } := by
  simp only [mint, bind_eq_ok, require_eq_ok, exists_const, Uint256.add_eq_ok, pure_eq_ok]
  constructor
  · rintro ⟨hz, _, ⟨hsup, rfl⟩, _, ⟨hbal, rfl⟩, rfl⟩
    exact ⟨hz, hsup, hbal, rfl⟩
  · rintro ⟨hz, hsup, hbal, rfl⟩
    exact ⟨hz, _, ⟨hsup, rfl⟩, _, ⟨hbal, rfl⟩, rfl⟩

theorem burn_eq_ok :
    burn token self account amount = .ok self' ↔
      account ≠ .zero ∧ amount ≤ self.balances account ∧ amount ≤ self.totalSupply ∧
        self' = { self with
          totalSupply := self.totalSupply - amount
          balances := Function.update self.balances account
            (self.balances account - amount) } := by
  simp only [burn, bind_eq_ok, require_eq_ok, exists_const, Uint256.sub_eq_ok, pure_eq_ok]
  constructor
  · rintro ⟨hz, hbal, _, ⟨hsup, rfl⟩, rfl⟩
    exact ⟨hz, hbal, hsup, rfl⟩
  · rintro ⟨hz, hbal, hsup, rfl⟩
    exact ⟨hz, hbal, _, ⟨hsup, rfl⟩, rfl⟩

end Spec

section Faults

variable {bad : Revert → Prop} {token : Address} {self : ERC20}
  {sender recipient spender owner account : Address} {amount : Nat}

theorem avoids_transfer (hbad : BalanceFault bad)
    (hbalance : self.balances sender < amount →
      ¬bad (.erc20 token sender .transferExceedsBalance)) :
    Avoids bad (transfer token self sender recipient amount) := by
  refine (avoids_require fun _ => hbad.erc20 (by decide) (by decide)).bind fun _ _ => ?_
  refine (avoids_require fun _ => hbad.erc20 (by decide) (by decide)).bind fun _ _ => ?_
  refine (avoids_require fun h => hbalance (Nat.lt_of_not_le h)).bind fun _ _ => ?_
  exact (Uint256.avoids_add hbad.panic _ _).bind fun _ _ => avoids_pure _

theorem avoids_transferFrom (hbad : BalanceFault bad)
    (hbalance : self.balances sender < amount →
      ¬bad (.erc20 token sender .transferExceedsBalance)) :
    Avoids bad (transferFrom token self spender sender recipient amount) := by
  refine (avoids_transfer hbad hbalance).bind fun _ _ => ?_
  refine (avoids_require fun _ => hbad.erc20 (by decide) (by decide)).bind fun _ _ => ?_
  exact (avoids_require fun _ => hbad.erc20 (by decide) (by decide)).bind fun _ _ => avoids_pure _

theorem avoids_mint (hbad : BalanceFault bad) : Avoids bad (mint token self account amount) := by
  refine (avoids_require fun _ => hbad.erc20 (by decide) (by decide)).bind fun _ _ => ?_
  refine (Uint256.avoids_add hbad.panic _ _).bind fun _ _ => ?_
  exact (Uint256.avoids_add hbad.panic _ _).bind fun _ _ => avoids_pure _

theorem avoids_burn (hbad : BalanceFault bad)
    (hbalance : self.balances account < amount →
      ¬bad (.erc20 token account .burnExceedsBalance)) :
    Avoids bad (burn token self account amount) := by
  refine (avoids_require fun _ => hbad.erc20 (by decide) (by decide)).bind fun _ _ => ?_
  refine (avoids_require fun h => hbalance (Nat.lt_of_not_le h)).bind fun _ _ => ?_
  exact (Uint256.avoids_sub hbad.panic _ _).bind fun _ _ => avoids_pure _

end Faults

end ERC20

end Confetti

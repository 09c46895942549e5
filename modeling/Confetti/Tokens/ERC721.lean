import Mathlib.Logic.Function.Basic
import Confetti.Library.Outcome
import Confetti.Types.Errors

/-! The ERC-721 base contract: who owns which token and who may move it. Whether a
recipient accepts a token is the recipient's answer and comes as a parameter. -/
namespace Confetti
open Outcome

/-- `owners tokenId = .zero` means that the token does not exist. -/
structure ERC721 where
  owners : Nat → Address
  tokenApprovals : Nat → Address
  operatorApprovals : Address → Address → Bool

namespace ERC721

def empty : ERC721 := ⟨fun _ => .zero, fun _ => .zero, fun _ _ => false⟩

def ownerOf (self : ERC721) (tokenId : Nat) : Except Revert Address := do
  require (self.owners tokenId ≠ .zero) (.message "ERC721: owner query for nonexistent token")
  pure (self.owners tokenId)

/-- The spender is the owner, approved for the token or an operator of the owner. -/
def MayMove (self : ERC721) (spender : Address) (tokenId : Nat) : Prop :=
  spender = self.owners tokenId ∨ self.tokenApprovals tokenId = spender ∨
    self.operatorApprovals (self.owners tokenId) spender = true

instance (self : ERC721) (spender : Address) (tokenId : Nat) :
    Decidable (self.MayMove spender tokenId) :=
  inferInstanceAs (Decidable (_ ∨ _ ∨ _))

/-- `_isApprovedOrOwner` -/
def isApprovedOrOwner (self : ERC721) (spender : Address) (tokenId : Nat) :
    Except Revert Bool := do
  require (self.owners tokenId ≠ .zero) (.message "ERC721: operator query for nonexistent token")
  pure (decide (self.MayMove spender tokenId))

/-- The token changes hands and its approval is cleared. -/
def given (self : ERC721) (recipient : Address) (tokenId : Nat) : ERC721 :=
  { self with
    owners := Function.update self.owners tokenId recipient
    tokenApprovals := Function.update self.tokenApprovals tokenId .zero }

/-- `_transfer` -/
def transfer (self : ERC721) (sender recipient : Address) (tokenId : Nat) :
    Except Revert ERC721 := do
  let owner ← self.ownerOf tokenId
  require (owner = sender) (.message "ERC721: transfer of token that is not own")
  require (recipient ≠ .zero) (.message "ERC721: transfer to the zero address")
  pure (self.given recipient tokenId)

def transferFrom (self : ERC721) (spender sender recipient : Address) (tokenId : Nat) :
    Except Revert ERC721 := do
  let allowed ← self.isApprovedOrOwner spender tokenId
  require (allowed = true) (.message "ERC721: transfer caller is not owner nor approved")
  self.transfer sender recipient tokenId

def safeTransferFrom (accepts : Address → Bool) (self : ERC721)
    (spender sender recipient : Address) (tokenId : Nat) : Except Revert ERC721 := do
  let self ← self.transferFrom spender sender recipient tokenId
  require (accepts recipient = true)
    (.message "ERC721: transfer to non ERC721Receiver implementer")
  pure self

def approve (self : ERC721) (caller spender : Address) (tokenId : Nat) : Except Revert ERC721 := do
  let owner ← self.ownerOf tokenId
  require (spender ≠ owner) (.message "ERC721: approval to current owner")
  require (caller = owner ∨ self.operatorApprovals owner caller = true)
    (.message "ERC721: approve caller is not owner nor approved for all")
  pure { self with tokenApprovals := Function.update self.tokenApprovals tokenId spender }

def setApprovalForAll (self : ERC721) (owner operator : Address) (approved : Bool) :
    Except Revert ERC721 := do
  require (owner ≠ operator) (.message "ERC721: approve to caller")
  let approvals := Function.update (self.operatorApprovals owner) operator approved
  pure { self with operatorApprovals := Function.update self.operatorApprovals owner approvals }

/-- `_mint`, open to the collection's own minting rules. -/
def mint (self : ERC721) (recipient : Address) (tokenId : Nat) : Except Revert ERC721 := do
  require (recipient ≠ .zero) (.message "ERC721: mint to the zero address")
  require (self.owners tokenId = .zero) (.message "ERC721: token already minted")
  pure { self with owners := Function.update self.owners tokenId recipient }

/-- `_burn`, of the owner or of whom the owner trusts. -/
def burn (self : ERC721) (spender : Address) (tokenId : Nat) : Except Revert ERC721 := do
  let allowed ← self.isApprovedOrOwner spender tokenId
  require (allowed = true) (.message "PunkWrapper: caller is not owner nor approved")
  pure (self.given .zero tokenId)

variable {accepts : Address → Bool} {self self' : ERC721}
  {spender sender recipient : Address} {tokenId : Nat}

theorem transferFrom_eq_ok :
    self.transferFrom spender sender recipient tokenId = .ok self' ↔
      self.owners tokenId = sender ∧ sender ≠ .zero ∧ self.MayMove spender tokenId ∧
        recipient ≠ .zero ∧ self' = self.given recipient tokenId := by
  simp only [transferFrom, isApprovedOrOwner, transfer, ownerOf, bind_eq_ok, require_eq_ok,
    exists_const, pure_eq_ok]
  constructor
  · rintro ⟨_, ⟨-, rfl⟩, hmove, _, ⟨hz, rfl⟩, howner, hr, rfl⟩
    exact ⟨howner, howner ▸ hz, of_decide_eq_true hmove, hr, rfl⟩
  · rintro ⟨howner, hz, hmove, hr, rfl⟩
    exact ⟨_, ⟨howner ▸ hz, rfl⟩, decide_eq_true hmove, _, ⟨howner ▸ hz, rfl⟩, howner, hr, rfl⟩

theorem safeTransferFrom_eq_ok :
    self.safeTransferFrom accepts spender sender recipient tokenId = .ok self' ↔
      self.owners tokenId = sender ∧ sender ≠ .zero ∧ self.MayMove spender tokenId ∧
        recipient ≠ .zero ∧ accepts recipient = true ∧ self' = self.given recipient tokenId := by
  simp only [safeTransferFrom, bind_eq_ok, transferFrom_eq_ok, require_eq_ok, exists_const,
    pure_eq_ok]
  constructor
  · rintro ⟨_, ⟨howner, hz, hmove, hr, rfl⟩, haccepts, rfl⟩
    exact ⟨howner, hz, hmove, hr, haccepts, rfl⟩
  · rintro ⟨howner, hz, hmove, hr, haccepts, rfl⟩
    exact ⟨_, ⟨howner, hz, hmove, hr, rfl⟩, haccepts, rfl⟩

theorem approve_eq_ok {caller : Address} :
    self.approve caller spender tokenId = .ok self' ↔
      self.owners tokenId ≠ .zero ∧ spender ≠ self.owners tokenId ∧
        (caller = self.owners tokenId ∨
          self.operatorApprovals (self.owners tokenId) caller = true) ∧
          self' = { self with
            tokenApprovals := Function.update self.tokenApprovals tokenId spender } := by
  simp only [approve, ownerOf, bind_eq_ok, require_eq_ok, exists_const, pure_eq_ok]
  constructor
  · rintro ⟨_, ⟨hz, rfl⟩, hspender, hcaller, rfl⟩
    exact ⟨hz, hspender, hcaller, rfl⟩
  · rintro ⟨hz, hspender, hcaller, rfl⟩
    exact ⟨_, ⟨hz, rfl⟩, hspender, hcaller, rfl⟩

theorem setApprovalForAll_eq_ok {owner operator : Address} {approved : Bool} :
    self.setApprovalForAll owner operator approved = .ok self' ↔
      owner ≠ operator ∧ self' = { self with
        operatorApprovals := Function.update self.operatorApprovals owner
          (Function.update (self.operatorApprovals owner) operator approved) } := by
  simp only [setApprovalForAll, bind_eq_ok, require_eq_ok, exists_const, pure_eq_ok]
  exact and_congr_right fun _ => eq_comm

theorem mint_eq_ok :
    self.mint recipient tokenId = .ok self' ↔
      recipient ≠ .zero ∧ self.owners tokenId = .zero ∧
        self' = { self with owners := Function.update self.owners tokenId recipient } := by
  simp only [mint, bind_eq_ok, require_eq_ok, exists_const, pure_eq_ok]
  exact and_congr_right fun _ => and_congr_right fun _ => eq_comm

theorem burn_eq_ok :
    self.burn spender tokenId = .ok self' ↔
      self.owners tokenId ≠ .zero ∧ self.MayMove spender tokenId ∧
        self' = self.given .zero tokenId := by
  simp only [burn, isApprovedOrOwner, bind_eq_ok, require_eq_ok, exists_const, pure_eq_ok]
  constructor
  · rintro ⟨_, ⟨hz, rfl⟩, hmove, rfl⟩
    exact ⟨hz, of_decide_eq_true hmove, rfl⟩
  · rintro ⟨hz, hmove, rfl⟩
    exact ⟨_, ⟨hz, rfl⟩, decide_eq_true hmove, rfl⟩

theorem avoids_transferFrom {bad : Revert → Prop} (h : ∀ text, ¬bad (.message text)) :
    Avoids bad (self.transferFrom spender sender recipient tokenId) := by
  refine ((avoids_require fun _ => h _).bind fun _ _ => avoids_pure _).bind fun _ _ => ?_
  refine (avoids_require fun _ => h _).bind fun _ _ => ?_
  refine ((avoids_require fun _ => h _).bind fun _ _ => avoids_pure _).bind fun _ _ => ?_
  refine (avoids_require fun _ => h _).bind fun _ _ => ?_
  exact (avoids_require fun _ => h _).bind fun _ _ => avoids_pure _

theorem avoids_safeTransferFrom {bad : Revert → Prop} (h : ∀ text, ¬bad (.message text)) :
    Avoids bad (self.safeTransferFrom accepts spender sender recipient tokenId) :=
  (avoids_transferFrom h).bind fun _ _ =>
    (avoids_require fun _ => h _).bind fun _ _ => avoids_pure _

end ERC721

end Confetti

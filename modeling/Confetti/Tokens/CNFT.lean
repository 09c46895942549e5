import Confetti.Tokens.ERC721

/-! The cNFT wrapper of a collection: it holds the NFT behind every live loan and
issues a non-transferable receipt to the borrower. Flash loans, which return the
NFT within the same transaction, are left out. -/
namespace Confetti
open Outcome

structure CNFT where
  owners : Nat → Address
  minters : Nat → Address

namespace CNFT

def empty : CNFT := ⟨fun _ => .zero, fun _ => .zero⟩

section Calls

variable (accepts isContract : Address → Bool) (underlyingAsset : Address)

def mint (nft : ERC721) (self : CNFT) (caller recipient : Address) (tokenId : Nat) :
    Except Revert (ERC721 × CNFT) := do
  require (isContract caller = true) (.message "CNFT: caller is not contract")
  require (self.owners tokenId = .zero) (.message "CNFT: exist token")
  let owner ← nft.ownerOf tokenId
  require (owner = caller) (.message "CNFT: caller is not owner")
  let nft ← nft.safeTransferFrom accepts (.cNFT underlyingAsset) caller (.cNFT underlyingAsset)
    tokenId
  require (recipient ≠ .zero) (.message "ERC721: mint to the zero address")
  pure (nft, ⟨Function.update self.owners tokenId recipient,
    Function.update self.minters tokenId caller⟩)

/-- Only the address that minted a receipt gets its NFT back. -/
def burn (nft : ERC721) (self : CNFT) (caller : Address) (tokenId : Nat) :
    Except Revert (ERC721 × CNFT) := do
  require (isContract caller = true) (.message "CNFT: caller is not contract")
  require (self.owners tokenId ≠ .zero) (.message "CNFT: nonexist token")
  require (self.minters tokenId = caller) (.message "CNFT: caller is not minter")
  let nft ← nft.safeTransferFrom accepts (.cNFT underlyingAsset) (.cNFT underlyingAsset) caller
    tokenId
  pure (nft,
    ⟨Function.update self.owners tokenId .zero, Function.update self.minters tokenId .zero⟩)

end Calls

variable {accepts isContract : Address → Bool} {asset caller recipient : Address} {nft nft' : ERC721}
  {self self' : CNFT} {tokenId : Nat}

theorem mint_eq_ok :
    mint accepts isContract asset nft self caller recipient tokenId = .ok (nft', self') ↔
      isContract caller = true ∧ self.owners tokenId = .zero ∧ nft.owners tokenId = caller ∧
        caller ≠ .zero ∧ nft.MayMove (.cNFT asset) tokenId ∧ accepts (.cNFT asset) = true ∧
          recipient ≠ .zero ∧ nft' = nft.given (.cNFT asset) tokenId ∧
            self' = ⟨Function.update self.owners tokenId recipient,
              Function.update self.minters tokenId caller⟩ := by
  simp only [mint, ERC721.ownerOf, bind_eq_ok, require_eq_ok, exists_const,
    ERC721.safeTransferFrom_eq_ok, pure_eq_ok, Prod.mk.injEq]
  constructor
  · rintro ⟨hcontract, hfree, _, ⟨-, rfl⟩, howner, _, ⟨-, hz, hmove, -, hacc, rfl⟩, hto, rfl, rfl⟩
    exact ⟨hcontract, hfree, howner, hz, hmove, hacc, hto, rfl, rfl⟩
  · rintro ⟨hcontract, hfree, howner, hz, hmove, hacc, hto, rfl, rfl⟩
    exact ⟨hcontract, hfree, _, ⟨howner ▸ hz, rfl⟩, howner, _,
      ⟨howner, hz, hmove, by simp, hacc, rfl⟩, hto, rfl, rfl⟩

theorem burn_eq_ok :
    burn accepts isContract asset nft self caller tokenId = .ok (nft', self') ↔
      isContract caller = true ∧ self.owners tokenId ≠ .zero ∧ self.minters tokenId = caller ∧
        nft.owners tokenId = .cNFT asset ∧ caller ≠ .zero ∧ accepts caller = true ∧
          nft' = nft.given caller tokenId ∧
            self' = ⟨Function.update self.owners tokenId .zero,
              Function.update self.minters tokenId .zero⟩ := by
  simp only [burn, bind_eq_ok, require_eq_ok, exists_const, ERC721.safeTransferFrom_eq_ok,
    pure_eq_ok, Prod.mk.injEq]
  constructor
  · rintro ⟨hcontract, hexists, hminter, _, ⟨howner, -, -, hz, hacc, rfl⟩, rfl, rfl⟩
    exact ⟨hcontract, hexists, hminter, howner, hz, hacc, rfl, rfl⟩
  · rintro ⟨hcontract, hexists, hminter, howner, hz, hacc, rfl, rfl⟩
    exact ⟨hcontract, hexists, hminter, _,
      ⟨howner, by simp, .inl howner.symm, hz, hacc, rfl⟩, rfl, rfl⟩

section Faults

variable {bad : Revert → Prop}

theorem avoids_mint (h : ∀ text, ¬bad (.message text)) :
    Avoids bad (mint accepts isContract asset nft self caller recipient tokenId) := by
  refine (avoids_require fun _ => h _).bind fun _ _ => ?_
  refine (avoids_require fun _ => h _).bind fun _ _ => ?_
  refine ((avoids_require fun _ => h _).bind fun _ _ => avoids_pure _).bind fun _ _ => ?_
  refine (avoids_require fun _ => h _).bind fun _ _ => ?_
  refine (ERC721.avoids_safeTransferFrom h).bind fun _ _ => ?_
  exact (avoids_require fun _ => h _).bind fun _ _ => avoids_pure _

theorem avoids_burn (h : ∀ text, ¬bad (.message text)) :
    Avoids bad (burn accepts isContract asset nft self caller tokenId) := by
  refine (avoids_require fun _ => h _).bind fun _ _ => ?_
  refine (avoids_require fun _ => h _).bind fun _ _ => ?_
  refine (avoids_require fun _ => h _).bind fun _ _ => ?_
  exact (ERC721.avoids_safeTransferFrom h).bind fun _ _ => avoids_pure _

end Faults

end CNFT

end Confetti

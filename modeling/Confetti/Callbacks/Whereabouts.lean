import Confetti.Callbacks.Relocation
import Confetti.Invariants.Book

/-! Where NFTs are. In the storage between transactions the wrapper holds the NFT of every
receipt; within one, NFTs may be out on a flash loan. -/
namespace Confetti
open Outcome TransitionSystem

structure ERC721.SameAt (nft other : ERC721) (tokenId : Nat) : Prop where
  owner : other.owners tokenId = nft.owners tokenId
  approval : other.tokenApprovals tokenId = nft.tokenApprovals tokenId

theorem ERC721.sameAt_given (nft : ERC721) (recipient : Address) {tokenId other : Nat}
    (hne : other ≠ tokenId) : nft.SameAt (nft.given recipient tokenId) other := by
  obtain ⟨howner, happroval⟩ := given_of_ne nft (a := recipient) hne
  exact ⟨howner, happroval⟩

/-- The wrapper holds the NFT of every receipt, and nobody may move it. -/
def Wrapped (s : State) : Prop := ∀ asset tokenId, (s.cNFTs asset).owners tokenId ≠ .zero →
  (s.erc721 asset).owners tokenId = .cNFT asset ∧
    (s.erc721 asset).tokenApprovals tokenId = .zero

variable {s s' : State} {asset : Address} {tokenId n : Nat}

theorem Wrapped.congr (h : Wrapped s) (herc721 : s'.erc721 = s.erc721)
    (hcNFTs : s'.cNFTs = s.cNFTs) : Wrapped s' := by
  intro asset tokenId hreceipt
  rw [hcNFTs] at hreceipt
  rw [herc721]
  exact h asset tokenId hreceipt

theorem Wrapped.of_nft {nft : ERC721} (h : Wrapped s)
    (hsame : ∀ tokenId, (s.cNFTs asset).owners tokenId ≠ .zero →
      (s.erc721 asset).SameAt nft tokenId)
    (herc721 : s'.erc721 = Function.update s.erc721 asset nft) (hcNFTs : s'.cNFTs = s.cNFTs) :
    Wrapped s' := by
  intro other tokenId hreceipt
  rw [hcNFTs] at hreceipt
  rw [herc721]
  by_cases hother : other = asset
  · subst hother
    rw [Function.update_self, (hsame tokenId hreceipt).owner, (hsame tokenId hreceipt).approval]
    exact h other tokenId hreceipt
  · rw [Function.update_of_ne hother]
    exact h other tokenId hreceipt

theorem Wrapped.of_entry {receiver holder minter : Address} (h : Wrapped s)
    (hreceiver : holder ≠ .zero → receiver = .cNFT asset)
    (herc721 : s'.erc721 = Function.update s.erc721 asset
      ((s.erc721 asset).given receiver tokenId))
    (hcNFTs : s'.cNFTs = Function.update s.cNFTs asset
      ⟨Function.update (s.cNFTs asset).owners tokenId holder,
        Function.update (s.cNFTs asset).minters tokenId minter⟩) : Wrapped s' := by
  intro other id hreceipt
  rw [hcNFTs] at hreceipt
  rw [herc721]
  by_cases hother : other = asset
  · subst hother
    simp only [Function.update_self] at hreceipt ⊢
    by_cases htoken : id = tokenId
    · subst htoken
      rw [Function.update_self] at hreceipt
      simp only [ERC721.given, Function.update_self, and_true]
      exact hreceiver hreceipt
    · rw [Function.update_of_ne htoken] at hreceipt
      obtain ⟨howner, happroval⟩ := given_of_ne (s.erc721 other) (a := receiver) htoken
      rw [howner, happroval]
      exact h other id hreceipt
  · rw [Function.update_of_ne hother] at hreceipt ⊢
    exact h other id hreceipt

theorem Wrapped.not_mayMove (h : Wrapped s) (hg : Guarded s)
    (hreceipt : (s.cNFTs asset).owners tokenId ≠ .zero) :
    ¬(s.erc721 asset).MayMove (.account n) tokenId := by
  obtain ⟨howner, happroval⟩ := h asset tokenId hreceipt
  rintro (hself | happroved | hoperator)
  · rw [howner] at hself
    cases hself
  · rw [happroval] at happroved
    cases happroved
  · rw [howner, hg.operators asset _ _ rfl rfl] at hoperator
    cases hoperator

theorem PoolAction.wrapped {operation : Operation} (hw : Wrapped s)
    (h : PoolAction s operation s') : Wrapped s' := by
  cases h with
  | deposit _ h => exact hw.congr h.book.erc721 h.book.cNFTs
  | withdraw _ h => exact hw.congr h.book.erc721 h.book.cNFTs
  | borrow _ _ h =>
    rcases h.book with hopened | htopped
    · exact hw.of_entry (fun _ => rfl) hopened.erc721 hopened.cNFTs
    · exact hw.congr htopped.replaced.erc721 htopped.replaced.cNFTs
  | repay _ _ h =>
    rcases h.book with ⟨-, -, hpartly⟩ | ⟨-, hclosed⟩
    · exact hw.congr hpartly.erc721 hpartly.cNFTs
    · exact hw.of_entry (absurd rfl) hclosed.erc721 hclosed.cNFTs
  | buyItNow _ _ h => exact hw.congr h.replaced.erc721 h.replaced.cNFTs
  | redeem _ _ h hs =>
    subst hs
    exact hw.congr h.replaced.erc721 h.replaced.cNFTs
  | liquidate _ _ h hs =>
    subst hs
    exact hw.of_entry (absurd rfl) h.closed.erc721 h.closed.cNFTs

theorem TokenCall.wrapped {call : TokenCall} (hw : Wrapped s) (hg : Guarded s)
    (h : call.run s = .ok s') : Wrapped s' := by
  have hmoved : ∀ {asset recipient : Address} {n entry : Nat},
      (s.erc721 asset).MayMove (.account n) entry →
        Wrapped { s with
          erc721 := Function.update s.erc721 asset ((s.erc721 asset).given recipient entry) } := by
    intro asset recipient n entry hmove
    refine hw.of_nft (fun tokenId hreceipt => ?_) rfl rfl
    apply ERC721.sameAt_given
    rintro rfl
    exact hw.not_mayMove hg hreceipt hmove
  cases call with
  | transfer caller token recipient amount =>
    obtain ⟨_, -, rfl⟩ := State.safeTransfer_eq_ok.mp h
    exact hw.congr rfl rfl
  | transferFrom caller token sender recipient amount =>
    obtain ⟨_, -, rfl⟩ := State.safeTransferFrom_eq_ok.mp h
    exact hw.congr rfl rfl
  | approve | mint | burn =>
    obtain ⟨_, -, rfl⟩ := map_eq_ok.mp h
    exact hw.congr rfl rfl
  | transferNFT caller asset sender recipient entry =>
    obtain ⟨_, htransfer, rfl⟩ := map_eq_ok.mp h
    obtain ⟨-, -, hmove, -, rfl⟩ := ERC721.transferFrom_eq_ok.mp htransfer
    exact hmoved hmove
  | safeTransferNFT caller asset sender recipient entry =>
    obtain ⟨-, -, hmove, -, -, rfl⟩ := State.safeTransferNFT_eq_ok.mp h
    exact hmoved hmove
  | approveNFT caller asset spender entry =>
    obtain ⟨_, happroved, rfl⟩ := map_eq_ok.mp h
    obtain ⟨-, -, hcaller, rfl⟩ := ERC721.approve_eq_ok.mp happroved
    refine hw.of_nft (fun tokenId hreceipt => ?_) rfl rfl
    have hne : tokenId ≠ entry := by
      rintro rfl
      apply hw.not_mayMove hg hreceipt
      exact hcaller.imp_right .inr
    exact ⟨rfl, Function.update_of_ne hne _ _⟩
  | setApprovalForAll caller asset operator approved =>
    obtain ⟨_, happroved, rfl⟩ := map_eq_ok.mp h
    obtain ⟨-, rfl⟩ := ERC721.setApprovalForAll_eq_ok.mp happroved
    refine hw.of_nft ?_ rfl rfl
    exact fun _ _ => ⟨rfl, rfl⟩
  | mintNFT asset recipient entry =>
    obtain ⟨_, hminted, rfl⟩ := map_eq_ok.mp h
    obtain ⟨-, hfree, rfl⟩ := ERC721.mint_eq_ok.mp hminted
    refine hw.of_nft (fun tokenId hreceipt => ?_) rfl rfl
    have hne : tokenId ≠ entry := by
      rintro rfl
      rw [(hw asset tokenId hreceipt).1] at hfree
      cases hfree
    exact ⟨Function.update_of_ne hne _ _, rfl⟩
  | burnNFT caller asset entry =>
    obtain ⟨_, hburned, rfl⟩ := map_eq_ok.mp h
    obtain ⟨-, hmove, rfl⟩ := ERC721.burn_eq_ok.mp hburned
    exact hmoved hmove
  | mintCNFT caller own recipient entry =>
    obtain ⟨asset, -, h⟩ := bind_eq_ok.mp h
    obtain ⟨⟨nft, cNFT⟩, hmint, rfl⟩ := bind_pure_eq_ok.mp h
    obtain ⟨-, -, -, -, -, -, -, rfl, rfl⟩ := CNFT.mint_eq_ok.mp hmint
    exact hw.of_entry (fun _ => rfl) rfl rfl
  | burnCNFT caller own entry =>
    obtain ⟨asset, -, h⟩ := bind_eq_ok.mp h
    obtain ⟨⟨nft, cNFT⟩, hburn, rfl⟩ := bind_pure_eq_ok.mp h
    obtain ⟨-, -, -, -, -, -, rfl, rfl⟩ := CNFT.burn_eq_ok.mp hburn
    exact hw.of_entry (absurd rfl) rfl rfl

theorem AdminStep.wrapped {call : AdminCall} (hw : Wrapped s) (h : AdminStep call s s') :
    Wrapped s' := by
  cases h with
  | listReserve _ _ h =>
    obtain ⟨-, _, _, _, -, -, rfl⟩ := executeInitReserve_spec h
    exact hw.congr rfl rfl
  | listNft _ _ h =>
    obtain ⟨-, _, _, _, -, -, hcollection, rfl⟩ := executeInitNft_spec h
    obtain ⟨_, happroved, hcollection⟩ := bind_eq_ok.mp hcollection
    obtain ⟨-, rfl⟩ := ERC721.setApprovalForAll_eq_ok.mp happroved
    obtain ⟨-, rfl⟩ := ERC721.setApprovalForAll_eq_ok.mp hcollection
    refine hw.of_nft ?_ rfl rfl
    exact fun _ _ => ⟨rfl, rfl⟩
  | _ => exact hw.congr rfl rfl

theorem wrapped_of_reachable (h : Reachable operations s) : Wrapped s := by
  apply h.invariant
  · intro s hs asset tokenId hreceipt
    rw [hs.cNFTs] at hreceipt
    exact absurd rfl hreceipt
  · intro s operation s' hs hw hstep
    have hreg := regular_of_reachable hs
    cases operation with
    | user call =>
      rcases UserCall.cases hreg.sound.wired hreg.book.toFiled hstep with haction | ⟨haside, -⟩
      · exact haction.wrapped hw
      · obtain ⟨_, _, _, rfl⟩ := UserCall.frame haside hstep
        exact hw.congr rfl rfl
    | token call => exact TokenCall.wrapped hw hreg.sound.guarded hstep
    | admin call =>
      exact AdminCall.preserves Wrapped (fun _ _ hadmin hm => hadmin.wrapped hm) hstep hw
    | world event =>
      obtain ⟨_, _, _, _, _, -, rfl⟩ := WorldEvent.frame hstep
      exact hw.congr rfl rfl

end Confetti

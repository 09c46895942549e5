import Confetti.Effects.Frames
import Confetti.Effects.Positions
import Confetti.Invariants.Registry

/-! Where the NFTs are: who the parties of the loans are, and which NFTs the contracts of
the protocol hold. -/
namespace Confetti
open Outcome TransitionSystem

/-- The address a call hands an NFT to at once or later, when the caller chooses it. -/
def Operation.sendsNFT : Operation → Option Address
  | .token (.transferNFT _ _ _ recipient _) => some recipient
  | .token (.safeTransferNFT _ _ _ recipient _) => some recipient
  | .token (.mintNFT _ recipient _) => some recipient
  | .user (.buyItNow _ _ _ _ onBehalfOf) => some onBehalfOf
  | _ => none

/-- No NFT is sent to a contract of the protocol, and none is bought for one. -/
def Operation.SendsToAccounts (operation : Operation) : Prop :=
  ∀ receiver ∈ operation.sendsNFT, receiver.isExternal = true

instance (operation : Operation) : Decidable operation.SendsToAccounts :=
  inferInstanceAs (Decidable (∀ receiver ∈ operation.sendsNFT, _))

/-- Debtors and buyers are accounts, because only accounts delegate credit. -/
structure PartiesExternal (s : State) : Prop where
  delegator : ∀ asset owner delegatee, owner.isExternal = false →
    (s.debtTokens asset).borrowAllowances owner delegatee = 0
  borrower : ∀ loanId, (s.loanStore.loans loanId).state.isLive = true →
    (s.loanStore.loans loanId).borrower.isExternal = true
  buyer : ∀ loanId, (s.loanStore.loans loanId).state = .BuyItNow →
    (s.loanStore.loans loanId).buyItNowBuyerAddress.isExternal = true

variable {s s' : State} {operation : Operation} {nftAsset : Address} {tokenId loanId : Nat}

/-! ### The parties of a loan -/

section Parties

variable {asset owner delegatee : Address}

private theorem allowance_le_of_debit {self self' : DebtToken} {delegator spender : Address}
    {amount : Nat} (h : self.decreaseBorrowAllowance delegator spender amount = .ok self') :
    self'.borrowAllowances owner delegatee ≤ self.borrowAllowances owner delegatee := by
  obtain ⟨-, rfl⟩ := DebtToken.decreaseBorrowAllowance_eq_ok.mp h
  simp only [ERC20.allowed, Function.update_apply]
  by_cases howner : owner = delegator
  · rw [if_pos howner, howner]
    by_cases hspender : delegatee = spender
    · rw [Function.update_apply, if_pos hspender, hspender]
      exact Nat.sub_le _ _
    · rw [Function.update_apply, if_neg hspender]
  · rw [if_neg howner]

/-- Only an approval of the owner raises an allowance. -/
theorem DebtMove.allowance_le {call : UserCall} (hexternal : owner.isExternal = false)
    (h : DebtMove s call s') : (s'.debtTokens asset).borrowAllowances owner delegatee ≤
      (s.debtTokens asset).borrowAllowances owner delegatee := by
  cases h with
  | kept _ h => rw [h]
  | minted _ h =>
    obtain ⟨own, scaled, self, -, -, -, -, hcredit, -, hminted⟩ := DebtToken.mint_spec h
    rw [hminted, Function.update_apply]
    split
    · rename_i hown
      subst hown
      change self.borrowAllowances owner delegatee ≤ _
      split at hcredit
      · exact allowance_le_of_debit hcredit
      · obtain rfl := pure_eq_ok.mp hcredit
        exact le_rfl
    · exact le_rfl
  | burned _ h =>
    rw [h, Function.update_apply]
    split
    · rename_i hown
      rw [hown]
      exact le_rfl
    · exact le_rfl
  | @delegated n amount own receiver _ h =>
    have hother : owner ≠ .account n := by
      rintro rfl
      cases hexternal
    rw [h, Function.update_apply]
    split
    · rename_i hown
      subst hown
      simp only [ERC20.allowed, Function.update_of_ne hother]
      exact le_rfl
    · exact le_rfl

theorem Operation.allowance_le (hw : Wired s) (hf : Filed s) (h : operation.run s = .ok s')
    (hexternal : owner.isExternal = false) :
    (s'.debtTokens asset).borrowAllowances owner delegatee ≤
      (s.debtTokens asset).borrowAllowances owner delegatee := by
  cases operation with
  | user call => exact (debt_move hw hf h).allowance_le hexternal
  | token call =>
    obtain ⟨_, _, _, _, rfl⟩ := TokenCall.frame h
    exact le_rfl
  | admin call =>
    obtain ⟨_, _, _, rfl⟩ := (AdminCall.frame h).shape
    exact le_rfl
  | world event =>
    obtain ⟨_, _, _, _, _, -, rfl⟩ := WorldEvent.frame h
    exact le_rfl

/-- Whoever borrows is an account, or borrows for one that has agreed. -/
theorem BorrowEffect.onBehalfOf_external {p : ExecuteBorrowParams} {n li vi scaled : Nat}
    (hparties : PartiesExternal s) (hn : p.initiator = .account n)
    (h : BorrowEffect s p s' li vi scaled) : p.onBehalfOf.isExternal = true := by
  rcases h.consent with hself | hcredit
  · rw [← hself, hn]
    rfl
  · by_contra hnot
    have hzero := hparties.delegator p.asset p.onBehalfOf p.initiator
      (Bool.eq_false_of_not_eq_true hnot)
    obtain ⟨cTokens, -, hvalid⟩ := h.validated
    have hamount := (validateBorrow_facts hvalid).2.1
    omega

theorem PoolAction.buyer_external (hparties : PartiesExternal s)
    (hsends : operation.SendsToAccounts) (h : PoolAction s operation s')
    (hsale : (s'.loanStore.loans loanId).state = .BuyItNow) :
    (s'.loanStore.loans loanId).buyItNowBuyerAddress.isExternal = true := by
  rcases h.sale_origin hsale with hsame | ⟨n, p, _, _, _, _, _, hcall, -, -, hloan⟩
  · rw [hsame] at hsale ⊢
    exact hparties.buyer loanId hsale
  · rw [hloan]
    apply hsends
    rw [hcall]
    rfl

theorem PartiesExternal.step (hparties : PartiesExternal s) (hreg : Regular s)
    (hsends : operation.SendsToAccounts) (h : operation.run s = .ok s') : PartiesExternal s' := by
  have hdelegator : ∀ asset owner delegatee, owner.isExternal = false →
      (s'.debtTokens asset).borrowAllowances owner delegatee = 0 := by
    intro asset owner delegatee hexternal
    have hle : (s'.debtTokens asset).borrowAllowances owner delegatee ≤
        (s.debtTokens asset).borrowAllowances owner delegatee :=
      Operation.allowance_le hreg.sound.wired hreg.book.toFiled h hexternal
    rw [hparties.delegator asset owner delegatee hexternal] at hle
    exact Nat.le_zero.mp hle
  rcases hreg.cases h with haction | ⟨-, hkept⟩
  · refine ⟨hdelegator, ?_, fun loanId hsale => haction.buyer_external hparties hsends hsale⟩
    intro loanId hlive
    rcases haction.live_origin hreg.book hlive with ⟨hold, hsame⟩ | ⟨p, n, _, _, _, hn, hborrow, hloan⟩
    · rw [hsame.borrower]
      exact hparties.borrower loanId hold
    · rw [hloan]
      exact hborrow.onBehalfOf_external hparties hn
  · refine ⟨hdelegator, ?_, ?_⟩
    · rw [hkept.loanStore]
      exact hparties.borrower
    · rw [hkept.loanStore]
      exact hparties.buyer

theorem Genesis.partiesExternal (h : Genesis s) : PartiesExternal s where
  delegator := by
    intro asset owner delegatee _
    rw [h.debtTokens]
    rfl
  borrower := by
    intro loanId hlive
    rw [h.loanStore] at hlive
    cases hlive
  buyer := by
    intro loanId hsale
    rw [h.loanStore] at hsale
    cases hsale

end Parties

/-! ### The NFTs -/

/-- An NFT with a contract of the protocol is in the wrapper, against a receipt; and the
receipt is a loan's or was issued to a third-party contract. -/
structure Housed (s : State) (nftAsset : Address) (tokenId : Nat) : Prop where
  lendPool : (s.erc721 nftAsset).owners tokenId ≠ .lendPool
  lendPoolLoan : (s.erc721 nftAsset).owners tokenId ≠ .lendPoolLoan
  wrapped : (s.erc721 nftAsset).owners tokenId = .cNFT nftAsset →
    (s.cNFTs nftAsset).owners tokenId ≠ .zero
  issued : (s.cNFTs nftAsset).owners tokenId ≠ .zero →
    s.loanStore.nftToLoanIds nftAsset tokenId ≠ 0 ∨
      ∃ n, (s.cNFTs nftAsset).minters tokenId = .account n

/-- What is told of an NFT is the same as before. -/
structure SameEntries (s s' : State) (nftAsset : Address) (tokenId : Nat) : Prop where
  owner : (s'.erc721 nftAsset).owners tokenId = (s.erc721 nftAsset).owners tokenId
  receipt : (s'.cNFTs nftAsset).owners tokenId = (s.cNFTs nftAsset).owners tokenId
  minter : (s'.cNFTs nftAsset).minters tokenId = (s.cNFTs nftAsset).minters tokenId
  loan : s'.loanStore.nftToLoanIds nftAsset tokenId = s.loanStore.nftToLoanIds nftAsset tokenId

theorem Housed.congr (h : Housed s nftAsset tokenId) (hsame : SameEntries s s' nftAsset tokenId) :
    Housed s' nftAsset tokenId where
  lendPool := by
    rw [hsame.owner]
    exact h.lendPool
  lendPoolLoan := by
    rw [hsame.owner]
    exact h.lendPoolLoan
  wrapped := by
    rw [hsame.owner, hsame.receipt]
    exact h.wrapped
  issued := by
    rw [hsame.receipt, hsame.minter, hsame.loan]
    exact h.issued

theorem Housed.of_owner (h : Housed s nftAsset tokenId)
    (howner : (s'.erc721 nftAsset).owners tokenId = .zero ∨
      ((s'.erc721 nftAsset).owners tokenId).isExternal = true)
    (hcNFTs : s'.cNFTs = s.cNFTs) (hloans : s'.loanStore = s.loanStore) :
    Housed s' nftAsset tokenId := by
  have hnot : ∀ a : Address, a ≠ .zero → a.isExternal = false →
      (s'.erc721 nftAsset).owners tokenId ≠ a := by
    rintro a hzero hinternal rfl
    rw [howner.resolve_left hzero] at hinternal
    cases hinternal
  refine ⟨hnot _ (by decide) rfl, hnot _ (by decide) rfl, ?_, ?_⟩
  · intro hwrapped
    exact absurd hwrapped (hnot _ (fun hzero => by cases hzero) rfl)
  · rw [hcNFTs, hloans]
    exact h.issued

section Entries

variable {asset receiver holder minter : Address} {entry : Nat}

private theorem entry_eq {Table β : Type} {tables : Address → Table} {table : Table}
    (view : Table → Nat → β) {value : β}
    (hview : view table = Function.update (view (tables asset)) entry value) :
    view (Function.update tables asset table nftAsset) tokenId =
      if nftAsset = asset ∧ tokenId = entry then value else view (tables nftAsset) tokenId := by
  by_cases hasset : nftAsset = asset
  · subst hasset
    rw [Function.update_self, hview]
    by_cases htoken : tokenId = entry
    · rw [if_pos ⟨rfl, htoken⟩, htoken]
      exact Function.update_self _ _ _
    · rw [if_neg fun hboth => htoken hboth.2]
      exact Function.update_of_ne htoken _ _
  · rw [Function.update_of_ne hasset, if_neg fun hboth => hasset hboth.1]

theorem moved_owners {erc721 : Address → ERC721} {nft : ERC721}
    (hmoved : nft.owners = Function.update (erc721 asset).owners entry receiver) :
    (Function.update erc721 asset nft nftAsset).owners tokenId =
      if nftAsset = asset ∧ tokenId = entry then receiver else (erc721 nftAsset).owners tokenId :=
  entry_eq ERC721.owners hmoved

theorem given_owners (erc721 : Address → ERC721) :
    (Function.update erc721 asset ((erc721 asset).given receiver entry) nftAsset).owners tokenId =
      if nftAsset = asset ∧ tokenId = entry then receiver else (erc721 nftAsset).owners tokenId :=
  moved_owners rfl

theorem receipt_owners (cNFTs : Address → CNFT) :
    (Function.update cNFTs asset ⟨Function.update (cNFTs asset).owners entry holder,
        Function.update (cNFTs asset).minters entry minter⟩ nftAsset).owners tokenId =
      if nftAsset = asset ∧ tokenId = entry then holder else (cNFTs nftAsset).owners tokenId :=
  entry_eq CNFT.owners rfl

theorem receipt_minters (cNFTs : Address → CNFT) :
    (Function.update cNFTs asset ⟨Function.update (cNFTs asset).owners entry holder,
        Function.update (cNFTs asset).minters entry minter⟩ nftAsset).minters tokenId =
      if nftAsset = asset ∧ tokenId = entry then minter else (cNFTs nftAsset).minters tokenId :=
  entry_eq CNFT.minters rfl

end Entries

theorem Housed.of_opened {loan : LoanData} (h : Housed s nftAsset tokenId)
    (hpos : 0 < s.loanStore.loanIdTracker) (hopened : LoanOpened s loan s') :
    Housed s' nftAsset tokenId := by
  by_cases hsame : nftAsset = loan.nftAsset ∧ tokenId = loan.nftTokenId
  · obtain ⟨rfl, rfl⟩ := hsame
    have howner : (s'.erc721 loan.nftAsset).owners loan.nftTokenId = .cNFT loan.nftAsset := by
      rw [hopened.erc721, given_owners, if_pos ⟨rfl, rfl⟩]
    refine ⟨?_, ?_, ?_, fun _ => .inl ?_⟩
    · rw [howner]
      exact fun heq => by cases heq
    · rw [howner]
      exact fun heq => by cases heq
    · intro _
      rw [hopened.cNFTs, receipt_owners, if_pos ⟨rfl, rfl⟩]
      exact hopened.borrower
    · rw [hopened.loanStore, LoanStore.opened_nftToLoanIds, if_pos ⟨rfl, rfl⟩]
      exact Nat.ne_of_gt hpos
  · refine h.congr ⟨?_, ?_, ?_, ?_⟩
    · rw [hopened.erc721, given_owners, if_neg hsame]
    · rw [hopened.cNFTs, receipt_owners, if_neg hsame]
    · rw [hopened.cNFTs, receipt_minters, if_neg hsame]
    · rw [hopened.loanStore, LoanStore.opened_nftToLoanIds, if_neg hsame]

theorem Housed.of_replaced {loan : LoanData} (h : Housed s nftAsset tokenId)
    (hreplaced : LoanReplaced s loanId loan s') : Housed s' nftAsset tokenId := by
  refine h.congr ⟨?_, ?_, ?_, ?_⟩
  · rw [hreplaced.erc721]
  · rw [hreplaced.cNFTs]
  · rw [hreplaced.cNFTs]
  · rw [hreplaced.loanStore, LoanStore.withLoan_nftToLoanIds]

theorem Housed.of_closed {ended : LoanData} {receiver : Address} (h : Housed s nftAsset tokenId)
    (hreceiver : receiver.isExternal = true) (hclosed : LoanClosed s loanId ended receiver s') :
    Housed s' nftAsset tokenId := by
  by_cases hsame : nftAsset = ended.nftAsset ∧ tokenId = ended.nftTokenId
  · obtain ⟨rfl, rfl⟩ := hsame
    have howner : (s'.erc721 ended.nftAsset).owners ended.nftTokenId = receiver := by
      rw [hclosed.erc721, given_owners, if_pos ⟨rfl, rfl⟩]
    have hreceipt : (s'.cNFTs ended.nftAsset).owners ended.nftTokenId = .zero := by
      rw [hclosed.cNFTs, receipt_owners, if_pos ⟨rfl, rfl⟩]
    refine ⟨?_, ?_, ?_, fun hne => absurd hreceipt hne⟩
    · rw [howner]
      rintro rfl
      cases hreceiver
    · rw [howner]
      rintro rfl
      cases hreceiver
    · rw [howner]
      rintro rfl
      cases hreceiver
  · refine h.congr ⟨?_, ?_, ?_, ?_⟩
    · rw [hclosed.erc721, given_owners, if_neg hsame]
    · rw [hclosed.cNFTs, receipt_owners, if_neg hsame]
    · rw [hclosed.cNFTs, receipt_minters, if_neg hsame]
    · rw [hclosed.loanStore, LoanStore.closed_nftToLoanIds, if_neg hsame]

/-- An action of the pool wraps the NFT of a new loan and hands out that of an ended one. -/
theorem PoolAction.housed (hreg : Regular s) (hparties : PartiesExternal s)
    (hhoused : Housed s nftAsset tokenId) (h : PoolAction s operation s') :
    Housed s' nftAsset tokenId := by
  have hunchanged : BookUnchanged s s' → Housed s' nftAsset tokenId := by
    intro h
    refine hhoused.congr ⟨?_, ?_, ?_, ?_⟩
    · rw [h.erc721]
    · rw [h.cNFTs]
    · rw [h.cNFTs]
    · rw [h.loanStore]
  cases h with
  | deposit _ h => exact hunchanged h.book
  | withdraw _ h => exact hunchanged h.book
  | borrow _ _ h =>
    rcases h.book with hopened | htopped
    · exact hhoused.of_opened hreg.book.tracker_pos hopened
    · exact hhoused.of_replaced htopped.replaced
  | repay _ _ h =>
    rcases h.book with ⟨-, -, hpartly⟩ | ⟨-, hclosed⟩
    · exact hhoused.of_replaced hpartly
    · apply hhoused.of_closed _ hclosed
      exact hparties.borrower _ (hreg.book.registered_live h.registered)
  | buyItNow _ _ h => exact hhoused.of_replaced h.replaced
  | redeem _ _ h hs =>
    subst hs
    exact hhoused.of_replaced h.replaced
  | liquidate _ _ h hs =>
    subst hs
    exact hhoused.of_closed (hparties.buyer _ h.sale) h.closed

theorem Housed.of_moved {asset receiver : Address} {entry : Nat} {nft : ERC721}
    (h : Housed s nftAsset tokenId) (hreceiver : receiver = .zero ∨ receiver.isExternal = true)
    (hmoved : nft.owners = Function.update (s.erc721 asset).owners entry receiver) :
    Housed { s with erc721 := Function.update s.erc721 asset nft } nftAsset tokenId := by
  by_cases hsame : nftAsset = asset ∧ tokenId = entry
  · refine h.of_owner ?_ rfl rfl
    rw [moved_owners hmoved, if_pos hsame]
    exact hreceiver
  · refine h.congr ⟨?_, rfl, rfl, rfl⟩
    rw [moved_owners hmoved, if_neg hsame]

theorem TokenCall.housed {call : TokenCall} (hsends : (Operation.token call).SendsToAccounts)
    (hhoused : Housed s nftAsset tokenId) (h : call.run s = .ok s') :
    Housed s' nftAsset tokenId := by
  have hentries : (∀ nftAsset, (s'.erc721 nftAsset).owners = (s.erc721 nftAsset).owners) →
      s'.cNFTs = s.cNFTs → s'.loanStore = s.loanStore → Housed s' nftAsset tokenId := by
    intro howners hcNFTs hloans
    refine hhoused.congr ⟨?_, ?_, ?_, ?_⟩
    · rw [howners]
    · rw [hcNFTs]
    · rw [hcNFTs]
    · rw [hloans]
  have hsame : ∀ {asset : Address} {nft : ERC721}, nft.owners = (s.erc721 asset).owners →
      ∀ nftAsset, (Function.update s.erc721 asset nft nftAsset).owners =
        (s.erc721 nftAsset).owners := by
    intro asset nft howners nftAsset
    rw [Function.update_apply]
    split
    · rename_i heq
      rw [heq, howners]
    · rfl
  cases call with
  | transfer caller token recipient amount =>
    obtain ⟨_, -, rfl⟩ := State.safeTransfer_eq_ok.mp h
    exact hentries (fun _ => rfl) rfl rfl
  | transferFrom caller token sender recipient amount =>
    obtain ⟨_, -, rfl⟩ := State.safeTransferFrom_eq_ok.mp h
    exact hentries (fun _ => rfl) rfl rfl
  | approve | mint | burn =>
    obtain ⟨_, -, rfl⟩ := map_eq_ok.mp h
    exact hentries (fun _ => rfl) rfl rfl
  | transferNFT caller asset sender recipient entry =>
    obtain ⟨_, hmoved, rfl⟩ := map_eq_ok.mp h
    obtain ⟨-, -, -, -, rfl⟩ := ERC721.transferFrom_eq_ok.mp hmoved
    exact hhoused.of_moved (.inr (hsends recipient rfl)) rfl
  | safeTransferNFT caller asset sender recipient entry =>
    obtain ⟨-, -, -, -, -, rfl⟩ := State.safeTransferNFT_eq_ok.mp h
    exact hhoused.of_moved (.inr (hsends recipient rfl)) rfl
  | approveNFT caller asset spender entry =>
    obtain ⟨_, happroved, rfl⟩ := map_eq_ok.mp h
    obtain ⟨-, -, -, rfl⟩ := ERC721.approve_eq_ok.mp happroved
    exact hentries (hsame rfl) rfl rfl
  | setApprovalForAll caller asset operator approved =>
    obtain ⟨_, happroved, rfl⟩ := map_eq_ok.mp h
    obtain ⟨-, rfl⟩ := ERC721.setApprovalForAll_eq_ok.mp happroved
    exact hentries (hsame rfl) rfl rfl
  | mintNFT asset recipient entry =>
    obtain ⟨_, hminted, rfl⟩ := map_eq_ok.mp h
    obtain ⟨-, -, rfl⟩ := ERC721.mint_eq_ok.mp hminted
    exact hhoused.of_moved (.inr (hsends recipient rfl)) rfl
  | burnNFT caller asset entry =>
    obtain ⟨_, hburned, rfl⟩ := map_eq_ok.mp h
    obtain ⟨-, -, rfl⟩ := ERC721.burn_eq_ok.mp hburned
    exact hhoused.of_moved (.inl rfl) rfl
  | mintCNFT caller own recipient entry =>
    obtain ⟨asset, -, h⟩ := bind_eq_ok.mp h
    obtain ⟨⟨nft, cNFT⟩, hmint, rfl⟩ := bind_pure_eq_ok.mp h
    obtain ⟨-, -, -, -, -, -, hrecipient, rfl, rfl⟩ := CNFT.mint_eq_ok.mp hmint
    by_cases hsame : nftAsset = asset ∧ tokenId = entry
    · refine ⟨?_, ?_, ?_, ?_⟩
      · rw [given_owners, if_pos hsame]
        exact fun heq => by cases heq
      · rw [given_owners, if_pos hsame]
        exact fun heq => by cases heq
      · rw [receipt_owners, if_pos hsame]
        exact fun _ => hrecipient
      · rw [receipt_minters, if_pos hsame]
        exact fun _ => .inr ⟨caller, rfl⟩
    · refine hhoused.congr ⟨?_, ?_, ?_, rfl⟩
      · rw [given_owners, if_neg hsame]
      · rw [receipt_owners, if_neg hsame]
      · rw [receipt_minters, if_neg hsame]
  | burnCNFT caller own entry =>
    obtain ⟨asset, -, h⟩ := bind_eq_ok.mp h
    obtain ⟨⟨nft, cNFT⟩, hburn, rfl⟩ := bind_pure_eq_ok.mp h
    obtain ⟨-, -, -, -, -, -, rfl, rfl⟩ := CNFT.burn_eq_ok.mp hburn
    by_cases hsame : nftAsset = asset ∧ tokenId = entry
    · refine ⟨?_, ?_, ?_, ?_⟩
      · rw [given_owners, if_pos hsame]
        exact fun heq => by cases heq
      · rw [given_owners, if_pos hsame]
        exact fun heq => by cases heq
      · rw [given_owners, if_pos hsame]
        exact fun heq => by cases heq
      · rw [receipt_owners, if_pos hsame]
        exact fun hne => absurd rfl hne
    · refine hhoused.congr ⟨?_, ?_, ?_, rfl⟩
      · rw [given_owners, if_neg hsame]
      · rw [receipt_owners, if_neg hsame]
      · rw [receipt_minters, if_neg hsame]

theorem Operation.housed (hreg : Regular s) (hparties : PartiesExternal s)
    (hsends : operation.SendsToAccounts) (hhoused : Housed s nftAsset tokenId)
    (h : operation.run s = .ok s') : Housed s' nftAsset tokenId := by
  cases operation with
  | user call =>
    rcases UserCall.cases hreg.sound.wired hreg.book.toFiled h with haction | ⟨haside, -⟩
    · exact haction.housed hreg hparties hhoused
    · obtain ⟨_, _, _, rfl⟩ := UserCall.frame haside h
      exact hhoused.congr ⟨rfl, rfl, rfl, rfl⟩
  | token call => exact TokenCall.housed hsends hhoused h
  | admin call =>
    have hframe := AdminCall.frame h
    have howner := congrFun (hframe.owners nftAsset) tokenId
    obtain ⟨_, _, _, rfl⟩ := hframe.shape
    exact hhoused.congr ⟨howner, rfl, rfl, rfl⟩
  | world event =>
    obtain ⟨_, _, _, _, _, -, rfl⟩ := WorldEvent.frame h
    exact hhoused.congr ⟨rfl, rfl, rfl, rfl⟩

end Confetti

import Confetti.Effects.Frames

/-! What the code of the protocol does with a state in which NFTs and receipts are elsewhere:
all of it but the hand-overs does the same. -/
namespace Confetti
open Outcome

/-- A new place for each NFT and each receipt, depending on the places they have. -/
abbrev Relocation := (Address → ERC721) → (Address → CNFT) → (Address → ERC721) × (Address → CNFT)

def State.relocate (s : State) (g : Relocation) : State :=
  { s with erc721 := (g s.erc721 s.cNFTs).1, cNFTs := (g s.erc721 s.cNFTs).2 }

/-! A change of place commutes with sequencing and branching. -/

theorem bind_map_last {ε α β γ : Type} (g : β → γ) (x : Except ε α) (f : α → Except ε β) :
    (x >>= fun a => g <$> f a) = g <$> (x >>= f) := by
  cases x <;> rfl

theorem bind_map_first {ε α β γ : Type} (g : α → β) (x : Except ε α) (f : β → Except ε γ) :
    (g <$> x) >>= f = x >>= fun a => f (g a) := by
  cases x <;> rfl

theorem bind_congr_ok {ε α β : Type} {x : Except ε α} {f g : α → Except ε β}
    (h : ∀ a, x = .ok a → f a = g a) : x >>= f = x >>= g := by
  cases x with
  | error e => rfl
  | ok a => exact h a rfl

theorem ite_map {ε α β : Type} (g : α → β) (condition : Prop) [Decidable condition]
    (x y : Except ε α) :
    (if condition then g <$> x else g <$> y) = g <$> (if condition then x else y) := by
  split <;> rfl

section Programs

variable (s : State) (g : Relocation)

/-! Updates of other components and the end of a program change places with it. -/

theorem relocate_pure : (pure (s.relocate g) : Except Revert State) =
    (fun t => t.relocate g) <$> pure s := rfl

theorem relocate_pure_pair {β : Type} (b : β) :
    (pure (s.relocate g, b) : Except Revert (State × β)) =
      (fun r => (r.1.relocate g, r.2)) <$> pure (s, b) := rfl

theorem relocate_cTokens (cTokens : Address → CToken) :
    ({ s.relocate g with cTokens } : State) =
      ({ s with cTokens } : State).relocate g := rfl

theorem relocate_debtTokens (debtTokens : Address → DebtToken) :
    ({ s.relocate g with debtTokens } : State) =
      ({ s with debtTokens } : State).relocate g := rfl

theorem relocate_loanStore (loanStore : LoanStore) :
    ({ s.relocate g with loanStore } : State) =
      ({ s with loanStore } : State).relocate g := rfl

theorem relocate_getLoan (loanId : Nat) :
    LendPoolLoan.getLoan (s.relocate g) loanId = LendPoolLoan.getLoan s loanId := rfl

theorem relocate_getCollateralLoanId (nftAsset : Address) (nftTokenId : Nat) :
    LendPoolLoan.getCollateralLoanId (s.relocate g) nftAsset nftTokenId =
      LendPoolLoan.getCollateralLoanId s nftAsset nftTokenId := rfl

theorem relocate_nfts : (s.relocate g).pool.nfts = s.pool.nfts := rfl

theorem relocate_updateState (asset : Address) :
    ReserveLogic.updateState (s.relocate g) asset =
      (fun t => t.relocate g) <$> ReserveLogic.updateState s asset := by
  simp only [ReserveLogic.updateState, ← bind_map_last, map_pure]
  rfl

theorem relocate_updateInterestRates (asset cToken : Address) (added taken : Nat) :
    ReserveLogic.updateInterestRates (s.relocate g) asset cToken added taken =
      (fun t => t.relocate g) <$>
        ReserveLogic.updateInterestRates s asset cToken added taken := by
  simp only [ReserveLogic.updateInterestRates, ← bind_map_last, map_pure]
  rfl

theorem relocate_safeTransfer (asset sender recipient : Address) (amount : Nat) :
    (s.relocate g).safeTransfer asset sender recipient amount =
      (fun t => t.relocate g) <$> s.safeTransfer asset sender recipient amount := by
  simp only [State.safeTransfer, ← bind_map_last, map_pure]
  rfl

theorem relocate_safeTransferFrom (asset spender sender recipient : Address) (amount : Nat) :
    (s.relocate g).safeTransferFrom asset spender sender recipient amount =
      (fun t => t.relocate g) <$>
        s.safeTransferFrom asset spender sender recipient amount := by
  simp only [State.safeTransferFrom, ← bind_map_last, map_pure]
  rfl

theorem relocate_updateLoan (loanId added taken index : Nat) :
    LendPoolLoan.updateLoan (s.relocate g) loanId added taken index =
      (fun t => t.relocate g) <$>
        LendPoolLoan.updateLoan s loanId added taken index := by
  simp only [LendPoolLoan.updateLoan, ← bind_map_last, map_pure]
  rfl

theorem relocate_buyItNowLoan (loanId : Nat) (onBehalfOf : Address) (price debt : Nat) :
    LendPoolLoan.buyItNowLoan (s.relocate g) loanId onBehalfOf price debt =
      (fun t => t.relocate g) <$>
        LendPoolLoan.buyItNowLoan s loanId onBehalfOf price debt := by
  simp only [LendPoolLoan.buyItNowLoan, ← bind_map_last, map_pure]
  rfl

theorem relocate_redeemLoan (loanId taken index : Nat) :
    LendPoolLoan.redeemLoan (s.relocate g) loanId taken index =
      (fun t => t.relocate g) <$> LendPoolLoan.redeemLoan s loanId taken index := by
  simp only [LendPoolLoan.redeemLoan, ← bind_map_last, map_pure]
  rfl

theorem relocate_burnCToken (address user receiver : Address) (amount index : Nat) :
    CToken.burn (s.relocate g) address user receiver amount index =
      (fun t => t.relocate g) <$> CToken.burn s address user receiver amount index := by
  simp only [CToken.burn, relocate_cTokens, relocate_safeTransfer, bind_map_last]
  rfl

theorem relocate_transferUnderlyingTo (address target : Address) (amount : Nat) :
    CToken.transferUnderlyingTo (s.relocate g) address target amount =
      (fun t => t.relocate g) <$>
        CToken.transferUnderlyingTo s address target amount := by
  simp only [CToken.transferUnderlyingTo, relocate_safeTransfer, bind_map_last]

theorem relocate_executeDeposit (p : ExecuteDepositParams) :
    SupplyLogic.executeDeposit (s.relocate g) p =
      (fun t => t.relocate g) <$> SupplyLogic.executeDeposit s p := by
  simp only [SupplyLogic.executeDeposit, relocate_updateState, relocate_updateInterestRates,
    relocate_safeTransferFrom, relocate_cTokens, relocate_pure, bind_map_last, bind_map_first]
  rfl

theorem relocate_executeWithdraw (p : ExecuteWithdrawParams) :
    SupplyLogic.executeWithdraw (s.relocate g) p =
      (fun r => (r.1.relocate g, r.2)) <$> SupplyLogic.executeWithdraw s p := by
  simp only [SupplyLogic.executeWithdraw, relocate_updateState, relocate_updateInterestRates,
    relocate_burnCToken, relocate_pure_pair, bind_map_last, bind_map_first]
  rfl

theorem relocate_executeBuyItNow (p : ExecuteBuyItNowParams) :
    LiquidateLogic.executeBuyItNow (s.relocate g) p =
      (fun t => t.relocate g) <$> LiquidateLogic.executeBuyItNow s p := by
  simp only [LiquidateLogic.executeBuyItNow, relocate_updateState, relocate_buyItNowLoan,
    relocate_safeTransferFrom, relocate_updateInterestRates, bind_map_last,
    bind_map_first]
  rfl

theorem relocate_executeRedeem (p : ExecuteRedeemParams) :
    LiquidateLogic.executeRedeem (s.relocate g) p =
      (fun r => (r.1.relocate g, r.2)) <$> LiquidateLogic.executeRedeem s p := by
  simp only [LiquidateLogic.executeRedeem, relocate_updateState, relocate_redeemLoan,
    relocate_debtTokens, relocate_updateInterestRates, relocate_safeTransferFrom,
    relocate_safeTransfer, bind_map_last, bind_map_first, ite_map, relocate_pure, relocate_pure_pair]
  rfl

def UserCall.handsOver : UserCall → Bool
  | .borrow .. | .repay .. | .liquidate .. => true
  | _ => false

theorem UserCall.relocate_run {call : UserCall} (hstays : call.handsOver = false) :
    call.run (s.relocate g) = (fun t => t.relocate g) <$> call.run s := by
  cases call with
  | borrow | repay | liquidate => cases hstays
  | deposit =>
    simp only [UserCall.run, LendPool.deposit, relocate_executeDeposit, bind_map_last]
    rfl
  | buyItNow =>
    simp only [UserCall.run, LendPool.buyItNow, relocate_executeBuyItNow, bind_map_last]
    rfl
  | withdraw =>
    simp only [UserCall.run, LendPool.withdraw, relocate_executeWithdraw, bind_map_last,
      Functor.map_map]
    rfl
  | redeem =>
    simp only [UserCall.run, LendPool.redeem, relocate_executeRedeem, bind_map_last,
      Functor.map_map]
    rfl
  | transferCToken =>
    simp only [UserCall.run, CToken.transfer, ← bind_map_last, map_pure]
    rfl
  | transferCTokenFrom =>
    simp only [UserCall.run, CToken.transferFrom, ← bind_map_last, map_pure]
    rfl
  | approveCToken =>
    simp only [UserCall.run, CToken.approve, ← bind_map_last, map_pure]
    rfl
  | approveDelegation =>
    simp only [UserCall.run, ← bind_map_last, map_pure]
    rfl
  | createCNFT =>
    simp only [UserCall.run, CNFTRegistry.createCNFT, ← bind_map_last, map_pure]
    rfl

def TokenCall.concernsNFT : TokenCall → Bool
  | .transfer .. | .transferFrom .. | .approve .. | .mint .. | .burn .. => false
  | _ => true

theorem TokenCall.relocate_run {call : TokenCall} (hERC20 : call.concernsNFT = false) :
    call.run (s.relocate g) = (fun t => t.relocate g) <$> call.run s := by
  cases call with
  | transfer => exact relocate_safeTransfer s g _ _ _ _
  | transferFrom => exact relocate_safeTransferFrom s g _ _ _ _ _
  | approve | mint | burn =>
    simp only [TokenCall.run, Functor.map_map]
    rfl
  | _ => cases hERC20

theorem relocate_borrow_more (hw : Wired s) {p : ExecuteBorrowParams}
    (hloan : LendPoolLoan.getCollateralLoanId s p.nftAsset p.nftTokenId ≠ 0) :
    BorrowLogic.borrow (s.relocate g) p = (fun t => t.relocate g) <$> BorrowLogic.borrow s p := by
  simp only [BorrowLogic.borrow, relocate_updateState, bind_map_first]
  rw [← bind_map_last]
  congr 1
  funext _
  rw [← bind_map_last]
  apply bind_congr_ok
  intro m hm
  obtain ⟨_, _, _, _, hm⟩ := (updateState_iff hw).mp hm
  have hregistered : LendPoolLoan.getCollateralLoanId m p.nftAsset p.nftTokenId ≠ 0 := by
    rw [hm]
    exact hloan
  simp only [relocate_getCollateralLoanId, if_neg hregistered, relocate_updateLoan,
    relocate_debtTokens, relocate_updateInterestRates, relocate_transferUnderlyingTo,
    bind_map_first, bind_map_last]
  rfl

theorem relocate_repay_part {s' : State} {p : ExecuteRepayParams} {paid : Nat}
    (h : BorrowLogic.repay s p = .ok (s', paid, false)) :
    BorrowLogic.repay (s.relocate g) p = .ok (s'.relocate g, paid, false) := by
  simp only [BorrowLogic.repay, bind_eq_ok] at h
  obtain ⟨_, hid, m, haccrued, borrowed, hborrowed, _, hvalid, m₁, hloan, debtTokens, hburn, m₂,
    hrates, m₃, hcash, m₄, hgive, hpure⟩ := h
  have hpart : p.amount < borrowed.2 := by
    have hflag := congrArg (fun r => r.2.2) (pure_eq_ok.mp hpure)
    simpa using hflag
  simp only [decide_eq_true hpart, if_true, Bool.not_true, Bool.false_eq_true, if_false]
    at hloan hburn hrates hcash hgive hpure
  simp only [BorrowLogic.repay, bind_eq_ok]
  refine ⟨_, hid, m.relocate g, ?_, borrowed, hborrowed, _, hvalid, ?_⟩
  · rw [relocate_updateState]
    exact congrArg _ haccrued
  simp only [decide_eq_true hpart, if_true, Bool.not_true, Bool.false_eq_true, if_false]
  refine ⟨m₁.relocate g, ?_, debtTokens, hburn, m₂.relocate g, ?_, m₃.relocate g, ?_,
    m₄.relocate g, ?_, ?_⟩
  · rw [relocate_updateLoan]
    exact congrArg _ hloan
  · rw [relocate_debtTokens, relocate_updateInterestRates]
    exact congrArg _ hrates
  · rw [relocate_safeTransferFrom]
    exact congrArg _ hcash
  · exact congrArg (fun x => (fun t => t.relocate g) <$> x) hgive
  · exact congrArg (fun x => (fun r => (r.1.relocate g, r.2)) <$> x) hpure

end Programs

/-! ### One NFT apart from all others -/

def ERC721.graft (self table : ERC721) (tokenId : Nat) : ERC721 where
  owners := Function.update table.owners tokenId (self.owners tokenId)
  tokenApprovals := Function.update table.tokenApprovals tokenId (self.tokenApprovals tokenId)
  operatorApprovals := self.operatorApprovals

/-- The entry of one receipt, in a table that comes from elsewhere. -/
def CNFT.graft (self table : CNFT) (tokenId : Nat) : CNFT where
  owners := Function.update table.owners tokenId (self.owners tokenId)
  minters := Function.update table.minters tokenId (self.minters tokenId)

def graft (tables : Address → ERC721) (receipts : Address → CNFT) (asset : Address)
    (tokenId : Nat) : Relocation := fun erc721 cNFTs =>
  (Function.update tables asset ((erc721 asset).graft (tables asset) tokenId),
    Function.update receipts asset ((cNFTs asset).graft (receipts asset) tokenId))

section Grafts

variable (self table : ERC721) (tokenId : Nat)

@[simp] theorem ERC721.graft_owners_self :
    (self.graft table tokenId).owners tokenId = self.owners tokenId :=
  Function.update_self _ _ _

theorem ERC721.graft_mayMove (spender : Address) :
    (self.graft table tokenId).MayMove spender tokenId = self.MayMove spender tokenId := by
  simp [ERC721.MayMove, ERC721.graft]

theorem ERC721.graft_given (recipient : Address) :
    (self.graft table tokenId).given recipient tokenId =
      (self.given recipient tokenId).graft table tokenId := by
  simp [ERC721.given, ERC721.graft]

theorem ERC721.graft_safeTransferFrom (accepts : Address → Bool)
    (spender sender recipient : Address) :
    (self.graft table tokenId).safeTransferFrom accepts spender sender recipient tokenId =
      (fun nft => nft.graft table tokenId) <$>
        self.safeTransferFrom accepts spender sender recipient tokenId := by
  simp only [ERC721.safeTransferFrom, ERC721.transferFrom, ERC721.isApprovedOrOwner,
    ERC721.transfer, ERC721.ownerOf, ERC721.graft_owners_self, ERC721.graft_mayMove,
    ERC721.graft_given, ← bind_map_last, map_pure, bind_assoc, pure_bind]

theorem ERC721.graft_transferFrom (spender sender recipient : Address) :
    (self.graft table tokenId).transferFrom spender sender recipient tokenId =
      (fun nft => nft.graft table tokenId) <$>
        self.transferFrom spender sender recipient tokenId := by
  simp only [ERC721.transferFrom, ERC721.isApprovedOrOwner, ERC721.transfer, ERC721.ownerOf,
    ERC721.graft_owners_self, ERC721.graft_mayMove, ERC721.graft_given, ← bind_map_last, map_pure,
    bind_assoc, pure_bind]

theorem ERC721.graft_approve (caller spender : Address) :
    (self.graft table tokenId).approve caller spender tokenId =
      (fun nft => nft.graft table tokenId) <$> self.approve caller spender tokenId := by
  have happroved : ({ self.graft table tokenId with
      tokenApprovals := Function.update (self.graft table tokenId).tokenApprovals tokenId spender } :
        ERC721) =
      ERC721.graft { self with
        tokenApprovals := Function.update self.tokenApprovals tokenId spender } table tokenId := by
    simp [ERC721.graft]
  simp only [ERC721.approve, ERC721.ownerOf, ERC721.graft_owners_self, ← bind_map_last, map_pure,
    bind_assoc, pure_bind, happroved]
  rfl

theorem ERC721.graft_mint (recipient : Address) :
    (self.graft table tokenId).mint recipient tokenId =
      (fun nft => nft.graft table tokenId) <$> self.mint recipient tokenId := by
  simp only [ERC721.mint, ERC721.graft_owners_self, ← bind_map_last, map_pure]
  simp [ERC721.graft]

theorem ERC721.graft_burn (spender : Address) :
    (self.graft table tokenId).burn spender tokenId =
      (fun nft => nft.graft table tokenId) <$> self.burn spender tokenId := by
  simp only [ERC721.burn, ERC721.isApprovedOrOwner, ERC721.graft_owners_self, ERC721.graft_mayMove,
    ERC721.graft_given, ← bind_map_last, map_pure, bind_assoc, pure_bind]

variable (receipt receipts : CNFT) (accepts isContract : Address → Bool)

@[simp] theorem CNFT.graft_owners_self :
    (receipt.graft receipts tokenId).owners tokenId = receipt.owners tokenId :=
  Function.update_self _ _ _

@[simp] theorem CNFT.graft_minters_self :
    (receipt.graft receipts tokenId).minters tokenId = receipt.minters tokenId :=
  Function.update_self _ _ _

theorem CNFT.graft_update (owner minter : Address) :
    (⟨Function.update (receipt.graft receipts tokenId).owners tokenId owner,
        Function.update (receipt.graft receipts tokenId).minters tokenId minter⟩ : CNFT) =
      CNFT.graft ⟨Function.update receipt.owners tokenId owner,
        Function.update receipt.minters tokenId minter⟩ receipts tokenId := by
  simp [CNFT.graft]

theorem CNFT.graft_mint (asset caller recipient : Address) :
    CNFT.mint accepts isContract asset (self.graft table tokenId)
        (receipt.graft receipts tokenId) caller recipient tokenId =
      (fun r => (r.1.graft table tokenId, r.2.graft receipts tokenId)) <$>
        CNFT.mint accepts isContract asset self receipt caller recipient tokenId := by
  simp only [CNFT.mint, ERC721.ownerOf, CNFT.graft_owners_self, ERC721.graft_owners_self,
    ERC721.graft_safeTransferFrom, CNFT.graft_update, ← bind_map_last, map_pure, bind_assoc,
    pure_bind, bind_map_first]

theorem CNFT.graft_burn (asset caller : Address) :
    CNFT.burn accepts isContract asset (self.graft table tokenId)
        (receipt.graft receipts tokenId) caller tokenId =
      (fun r => (r.1.graft table tokenId, r.2.graft receipts tokenId)) <$>
        CNFT.burn accepts isContract asset self receipt caller tokenId := by
  simp only [CNFT.burn, CNFT.graft_owners_self, CNFT.graft_minters_self,
    ERC721.graft_safeTransferFrom, CNFT.graft_update, ← bind_map_last, map_pure, bind_map_first]

end Grafts

section HandOvers

variable (s : State) (tables : Address → ERC721) (receipts : Address → CNFT) (asset : Address)
  (tokenId : Nat)

theorem graft_withERC721 (program : ERC721 → Except Revert ERC721)
    (hlaw : ∀ self table : ERC721, program (self.graft table tokenId) =
      (fun nft => nft.graft table tokenId) <$> program self) :
    (s.relocate (graft tables receipts asset tokenId)).withERC721 asset <$>
        program ((s.relocate (graft tables receipts asset tokenId)).erc721 asset) =
      (fun t => t.relocate (graft tables receipts asset tokenId)) <$>
        (s.withERC721 asset <$> program (s.erc721 asset)) := by
  have hentry : (s.relocate (graft tables receipts asset tokenId)).erc721 asset =
      (s.erc721 asset).graft (tables asset) tokenId := Function.update_self _ _ _
  rw [hentry, hlaw, Functor.map_map, Functor.map_map]
  congr 1
  funext nft
  simp [State.withERC721, State.relocate, graft]

theorem graft_safeTransferNFT (caller sender recipient : Address) :
    (s.relocate (graft tables receipts asset tokenId)).safeTransferNFT asset caller sender recipient
        tokenId =
      (fun t => t.relocate (graft tables receipts asset tokenId)) <$>
        s.safeTransferNFT asset caller sender recipient tokenId := by
  have hentry : (s.relocate (graft tables receipts asset tokenId)).erc721 asset =
      (s.erc721 asset).graft (tables asset) tokenId := Function.update_self _ _ _
  simp only [State.safeTransferNFT, hentry, ERC721.graft_safeTransferFrom, ← bind_map_last,
    map_pure, bind_map_first]
  congr 1
  funext nft
  simp [State.relocate, graft]

theorem graft_mintCNFT {address : Address} (hcNFT : address = .zero ∨ address = .cNFT asset)
    (caller recipient : Address) :
    (s.relocate (graft tables receipts asset tokenId)).mintCNFT address caller recipient tokenId =
      (fun t => t.relocate (graft tables receipts asset tokenId)) <$>
        s.mintCNFT address caller recipient tokenId := by
  rcases hcNFT with rfl | rfl
  · rfl
  · have hentry : (s.relocate (graft tables receipts asset tokenId)).erc721 asset =
        (s.erc721 asset).graft (tables asset) tokenId := Function.update_self _ _ _
    have hreceipt : (s.relocate (graft tables receipts asset tokenId)).cNFTs asset =
        (s.cNFTs asset).graft (receipts asset) tokenId := Function.update_self _ _ _
    simp only [State.mintCNFT, State.cNFTAt, ok_bind, hentry, hreceipt, CNFT.graft_mint,
      ← bind_map_last, map_pure, bind_map_first]
    congr 1
    funext minted
    simp [State.relocate, graft]

theorem graft_burnCNFT {address : Address} (hcNFT : address = .zero ∨ address = .cNFT asset)
    (caller : Address) :
    (s.relocate (graft tables receipts asset tokenId)).burnCNFT address caller tokenId =
      (fun t => t.relocate (graft tables receipts asset tokenId)) <$>
        s.burnCNFT address caller tokenId := by
  rcases hcNFT with rfl | rfl
  · rfl
  · have hentry : (s.relocate (graft tables receipts asset tokenId)).erc721 asset =
        (s.erc721 asset).graft (tables asset) tokenId := Function.update_self _ _ _
    have hreceipt : (s.relocate (graft tables receipts asset tokenId)).cNFTs asset =
        (s.cNFTs asset).graft (receipts asset) tokenId := Function.update_self _ _ _
    simp only [State.burnCNFT, State.cNFTAt, ok_bind, hentry, hreceipt, CNFT.graft_burn,
      ← bind_map_last, map_pure, bind_map_first]
    congr 1
    funext burned
    simp [State.relocate, graft]

theorem graft_createLoan {address : Address} (hcNFT : address = .zero ∨ address = .cNFT asset)
    (onBehalfOf reserveAsset : Address) (amount index : Nat) :
    LendPoolLoan.createLoan (s.relocate (graft tables receipts asset tokenId)) onBehalfOf asset
        tokenId address reserveAsset amount index =
      (fun t => t.relocate (graft tables receipts asset tokenId)) <$>
        LendPoolLoan.createLoan s onBehalfOf asset tokenId address reserveAsset amount index := by
  simp only [LendPoolLoan.createLoan, relocate_loanStore, graft_safeTransferNFT,
    graft_mintCNFT _ _ _ _ _ hcNFT, State.withLoan, bind_map_first, bind_map_last, relocate_pure]
  rfl

theorem graft_releaseCollateral {loan : LoanData} {address : Address}
    (hcNFT : address = .zero ∨ address = .cNFT loan.nftAsset) :
    LendPoolLoan.releaseCollateral
        (s.relocate (graft tables receipts loan.nftAsset loan.nftTokenId)) loan address =
      (fun t => t.relocate (graft tables receipts loan.nftAsset loan.nftTokenId)) <$>
        LendPoolLoan.releaseCollateral s loan address := by
  simp only [LendPoolLoan.releaseCollateral, relocate_loanStore, graft_safeTransferNFT,
    graft_burnCNFT _ _ _ _ _ hcNFT, bind_map_first, bind_map_last]
  rfl

theorem graft_openLoan {p : ExecuteBorrowParams} (hcNFT : (s.pool.nfts p.nftAsset).cNFTAddress = .zero ∨
      (s.pool.nfts p.nftAsset).cNFTAddress = .cNFT p.nftAsset) :
    BorrowLogic.openLoan (s.relocate (graft tables receipts p.nftAsset p.nftTokenId)) p =
      (fun t => t.relocate (graft tables receipts p.nftAsset p.nftTokenId)) <$>
        BorrowLogic.openLoan s p := by
  simp only [BorrowLogic.openLoan, graft_safeTransferNFT, bind_map_first, ← bind_map_last]
  apply bind_congr_ok
  intro m hm
  obtain ⟨-, -, -, -, -, rfl⟩ := State.safeTransferNFT_eq_ok.mp hm
  exact graft_createLoan _ _ _ _ _ hcNFT _ _ _ _

theorem graft_borrow (hw : Wired s) (p : ExecuteBorrowParams) :
    BorrowLogic.borrow (s.relocate (graft tables receipts p.nftAsset p.nftTokenId)) p =
      (fun t => t.relocate (graft tables receipts p.nftAsset p.nftTokenId)) <$>
        BorrowLogic.borrow s p := by
  simp only [BorrowLogic.borrow, relocate_updateState, bind_map_first]
  rw [← bind_map_last]
  congr 1
  funext _
  rw [← bind_map_last]
  apply bind_congr_ok
  intro m hm
  obtain ⟨_, _, _, _, hm⟩ := (updateState_iff hw).mp hm
  have hcNFT : (m.pool.nfts p.nftAsset).cNFTAddress = .zero ∨
      (m.pool.nfts p.nftAsset).cNFTAddress = .cNFT p.nftAsset := by
    rw [hm]
    exact hw.nft p.nftAsset
  simp only [graft_openLoan _ _ _ hcNFT, relocate_updateLoan, ite_map, relocate_debtTokens,
    relocate_updateInterestRates, relocate_transferUnderlyingTo, bind_map_first, bind_map_last]
  rfl

section Ends

variable {s} {asset} {tokenId} {loanId : Nat} {address : Address}
  (hasset : (s.loanStore.loans loanId).nftAsset = asset)
  (htoken : (s.loanStore.loans loanId).nftTokenId = tokenId)
  (hcNFT : address = .zero ∨ address = .cNFT asset)
include hasset htoken hcNFT

theorem graft_repayLoan :
    LendPoolLoan.repayLoan (s.relocate (graft tables receipts asset tokenId)) loanId address =
      (fun t => t.relocate (graft tables receipts asset tokenId)) <$>
        LendPoolLoan.repayLoan s loanId address := by
  subst hasset htoken
  simp only [LendPoolLoan.repayLoan, ← bind_map_last]
  congr 1
  funext _
  exact graft_releaseCollateral
    (s.withLoan loanId { s.loanStore.loans loanId with state := .Repaid }) tables receipts hcNFT

theorem graft_liquidateLoan (debt : Nat) :
    LendPoolLoan.liquidateLoan (s.relocate (graft tables receipts asset tokenId)) loanId address
        debt =
      (fun t => t.relocate (graft tables receipts asset tokenId)) <$>
        LendPoolLoan.liquidateLoan s loanId address debt := by
  subst hasset htoken
  simp only [LendPoolLoan.liquidateLoan, ← bind_map_last]
  congr 1
  funext _
  exact graft_releaseCollateral (s.withLoan loanId { s.loanStore.loans loanId with
    state := .Defaulted
    buyItNowBorrowAmount := debt }) tables receipts hcNFT

end Ends

theorem graft_repay (hw : Wired s) (hf : Filed s) (p : ExecuteRepayParams) :
    BorrowLogic.repay (s.relocate (graft tables receipts p.nftAsset p.nftTokenId)) p =
      (fun r => (r.1.relocate (graft tables receipts p.nftAsset p.nftTokenId), r.2)) <$>
        BorrowLogic.repay s p := by
  simp only [BorrowLogic.repay, relocate_updateState, relocate_getLoan,
    relocate_getCollateralLoanId, bind_map_first]
  rw [← bind_map_last]
  apply bind_congr_ok
  intro _ hid
  obtain ⟨hasset, htoken⟩ := hf p.nftAsset p.nftTokenId (require_eq_ok.mp hid)
  rw [← getLoan_eq_loanOf, ← getCollateralLoanId_eq] at hasset htoken
  rw [← bind_map_last]
  apply bind_congr_ok
  intro m hm
  obtain ⟨_, _, _, _, hm⟩ := (updateState_iff hw).mp hm
  have hcNFT : (m.pool.nfts p.nftAsset).cNFTAddress = .zero ∨
      (m.pool.nfts p.nftAsset).cNFTAddress = .cNFT p.nftAsset := by
    rw [hm]
    exact hw.nft p.nftAsset
  have hloan : ∀ loanId, m.loanStore.loans loanId = LendPoolLoan.getLoan s loanId := by
    intro loanId
    rw [hm]
    rfl
  have hrepay := graft_repayLoan (s := m) tables receipts ((congrArg _ (hloan _)).trans hasset)
    ((congrArg _ (hloan _)).trans htoken) hcNFT
  simp only [hasset, relocate_nfts, hrepay, relocate_updateLoan, ite_map, relocate_debtTokens,
    relocate_updateInterestRates, relocate_safeTransferFrom, graft_safeTransferNFT, relocate_pure,
    relocate_pure_pair, bind_map_first, bind_map_last]
  rfl

theorem graft_executeLiquidate (hw : Wired s) (hf : Filed s) (p : ExecuteLiquidateParams) :
    LiquidateLogic.executeLiquidate (s.relocate (graft tables receipts p.nftAsset p.nftTokenId)) p =
      (fun r => (r.1.relocate (graft tables receipts p.nftAsset p.nftTokenId), r.2)) <$>
        LiquidateLogic.executeLiquidate s p := by
  simp only [LiquidateLogic.executeLiquidate, relocate_updateState, relocate_getLoan,
    relocate_getCollateralLoanId, bind_map_first]
  rw [← bind_map_last]
  apply bind_congr_ok
  intro _ hid
  obtain ⟨hasset, htoken⟩ := hf p.nftAsset p.nftTokenId (require_eq_ok.mp hid)
  rw [← getLoan_eq_loanOf, ← getCollateralLoanId_eq] at hasset htoken
  simp only [← bind_map_last]
  congr 1
  funext _
  congr 1
  funext _
  apply bind_congr_ok
  intro m hm
  obtain ⟨_, _, _, _, hm⟩ := (updateState_iff hw).mp hm
  have hcNFT : (s.pool.nfts p.nftAsset).cNFTAddress = .zero ∨
      (s.pool.nfts p.nftAsset).cNFTAddress = .cNFT p.nftAsset := hw.nft p.nftAsset
  have hloan : ∀ loanId, m.loanStore.loans loanId = LendPoolLoan.getLoan s loanId := by
    intro loanId
    rw [hm]
    rfl
  have hliquidate := graft_liquidateLoan (s := m) tables receipts
    ((congrArg _ (hloan _)).trans hasset) ((congrArg _ (hloan _)).trans htoken) hcNFT
  simp only [hasset, relocate_nfts, hliquidate, ite_map, relocate_debtTokens,
    relocate_updateInterestRates, relocate_safeTransferFrom, relocate_safeTransfer,
    graft_safeTransferNFT, relocate_pure, relocate_pure_pair, bind_map_first, bind_map_last]
  rfl

end HandOvers

end Confetti

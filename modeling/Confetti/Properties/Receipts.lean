import Confetti.Effects.Frames
import Confetti.Invariants.Book
import Confetti.Protocol.Deployment

/-! Who writes the receipts of wrapped NFTs. A receipt cannot be transferred, and only whoever
minted it burns it: the loan contract when the loan ends, or the contract that wrapped the NFT
by itself. -/
namespace Confetti
open Outcome TransitionSystem

inductive ReceiptMove (operation : Operation) (s s' : State) (asset : Address) (tokenId : Nat) :
    Prop
  | kept (hholder : (s'.cNFTs asset).owners tokenId = (s.cNFTs asset).owners tokenId)
      (hminter : (s'.cNFTs asset).minters tokenId = (s.cNFTs asset).minters tokenId)
  | pledged {n : Nat} {p : ExecuteBorrowParams} (hcall : operation = .user (.ofBorrow n p))
      (hentry : p.nftAsset = asset ∧ p.nftTokenId = tokenId)
      (hfree : (s.cNFTs asset).owners tokenId = .zero)
      (hholder : (s'.cNFTs asset).owners tokenId = p.onBehalfOf)
      (hminter : (s'.cNFTs asset).minters tokenId = .lendPoolLoan)
  | repaid {n amount paid : Nat} (hcall : operation = .user (.repay n asset tokenId amount))
      (hminter : (s.cNFTs asset).minters tokenId = .lendPoolLoan)
      (hall : LendPool.repay s (.account n) asset tokenId amount = .ok (s', paid, true))
      (hburned : (s'.cNFTs asset).owners tokenId = .zero)
  | sold {n : Nat} {p : ExecuteLiquidateParams} (hcall : operation = .user (.ofLiquidate n p))
      (hentry : p.nftAsset = asset ∧ p.nftTokenId = tokenId)
      (hminter : (s.cNFTs asset).minters tokenId = .lendPoolLoan)
      (hburned : (s'.cNFTs asset).owners tokenId = .zero)
  | wrapped {n : Nat} {own recipient : Address}
      (hcall : operation = .token (.mintCNFT n own recipient tokenId))
      (hfree : (s.cNFTs asset).owners tokenId = .zero)
      (hholder : (s'.cNFTs asset).owners tokenId = recipient)
      (hminter : (s'.cNFTs asset).minters tokenId = .account n)
  | unwrapped {n : Nat} {own : Address} (hcall : operation = .token (.burnCNFT n own tokenId))
      (hwrapper : s.cNFTProxys own = .cNFT asset)
      (hminter : (s.cNFTs asset).minters tokenId = .account n)
      (hburned : (s'.cNFTs asset).owners tokenId = .zero)

variable {s s' : State} {operation : Operation} {asset : Address} {tokenId : Nat}

theorem ReceiptMove.of_same (h : s'.cNFTs = s.cNFTs) : ReceiptMove operation s s' asset tokenId := by
  apply ReceiptMove.kept
  · rw [h]
  · rw [h]

theorem ReceiptMove.of_other {other holder minter : Address} {otherId : Nat}
    (h : s'.cNFTs = Function.update s.cNFTs other
      ⟨Function.update (s.cNFTs other).owners otherId holder,
        Function.update (s.cNFTs other).minters otherId minter⟩)
    (hne : ¬(other = asset ∧ otherId = tokenId)) : ReceiptMove operation s s' asset tokenId := by
  by_cases hasset : asset = other
  · subst hasset
    have htoken : tokenId ≠ otherId := fun heq => hne ⟨rfl, heq.symm⟩
    apply ReceiptMove.kept
    · rw [h, Function.update_self]
      exact Function.update_of_ne htoken _ _
    · rw [h, Function.update_self]
      exact Function.update_of_ne htoken _ _
  · apply ReceiptMove.kept
    · rw [h, Function.update_of_ne hasset]
    · rw [h, Function.update_of_ne hasset]

theorem receipt_written {holder minter : Address}
    (h : s'.cNFTs = Function.update s.cNFTs asset
      ⟨Function.update (s.cNFTs asset).owners tokenId holder,
        Function.update (s.cNFTs asset).minters tokenId minter⟩) :
    (s'.cNFTs asset).owners tokenId = holder ∧ (s'.cNFTs asset).minters tokenId = minter := by
  rw [h, Function.update_self]
  exact ⟨Function.update_self _ _ _, Function.update_self _ _ _⟩

theorem repay_receiptMove {n amount paid : Nat} {nftAsset : Address} {nftTokenId : Nat} {all : Bool}
    (hw : Wired s) (hf : Filed s)
    (h : LendPool.repay s (.account n) nftAsset nftTokenId amount = .ok (s', paid, all)) :
    ReceiptMove (.user (.repay n nftAsset nftTokenId amount)) s s' asset tokenId := by
  obtain ⟨_, _, _, _, heffect, hall⟩ := repay_effect hw hf (LendPool.of_whenNotPaused h)
  rcases heffect.book with ⟨-, -, hpartly⟩ | ⟨hle, hclosed⟩
  · exact .of_same hpartly.cNFTs
  · rw [decide_eq_true hle] at hall
    subst hall
    obtain ⟨hasset, htoken⟩ := hf _ _ heffect.registered
    by_cases hentry : nftAsset = asset ∧ nftTokenId = tokenId
    · obtain ⟨rfl, rfl⟩ := hentry
      obtain ⟨-, -, -, hminter, -⟩ := hclosed.releasable
      have hburned := receipt_written hclosed.cNFTs
      simp only [hasset, htoken] at hminter hburned
      exact .repaid rfl hminter h hburned.1
    · apply ReceiptMove.of_other hclosed.cNFTs
      simp only [hasset, htoken]
      exact hentry

theorem PoolAction.receiptMove (hw : Wired s) (hf : Filed s) (hrun : operation.run s = .ok s')
    (h : PoolAction s operation s') : ReceiptMove operation s s' asset tokenId := by
  cases h with
  | deposit _ h => exact .of_same h.book.cNFTs
  | withdraw _ h => exact .of_same h.book.cNFTs
  | @borrow p _ _ _ _ hcall _ h =>
    rcases h.book with hopened | htopped
    · by_cases hentry : p.nftAsset = asset ∧ p.nftTokenId = tokenId
      · obtain ⟨rfl, rfl⟩ := hentry
        obtain ⟨hholder, hminter⟩ := receipt_written hopened.cNFTs
        exact .pledged hcall ⟨rfl, rfl⟩ hopened.unwrapped hholder hminter
      · exact .of_other hopened.cNFTs hentry
    · exact .of_same htopped.replaced.cNFTs
  | repay hcall _ _ =>
    subst hcall
    obtain ⟨⟨_, _, _⟩, hrepay, rfl⟩ := map_eq_ok.mp hrun
    exact repay_receiptMove hw hf hrepay
  | buyItNow _ _ h => exact .of_same h.replaced.cNFTs
  | redeem _ _ h hs =>
    subst hs
    exact .of_same h.replaced.cNFTs
  | @liquidate p _ _ _ _ _ _ _ _ _ hcall _ h hs =>
    subst hs
    obtain ⟨hasset, htoken⟩ := hf _ _ h.registered
    by_cases hentry : p.nftAsset = asset ∧ p.nftTokenId = tokenId
    · obtain ⟨rfl, rfl⟩ := hentry
      obtain ⟨-, -, -, hminter, -⟩ := h.releasable
      have hburned := receipt_written h.closed.cNFTs
      simp only [liquidatedLoan, hasset, htoken] at hminter hburned
      exact .sold hcall ⟨rfl, rfl⟩ hminter hburned.1
    · apply ReceiptMove.of_other h.closed.cNFTs
      simp only [liquidatedLoan, hasset, htoken]
      exact hentry

theorem TokenCall.receiptMove {call : TokenCall} (h : call.run s = .ok s') :
    ReceiptMove (.token call) s s' asset tokenId := by
  cases call with
  | transfer caller token recipient amount =>
    obtain ⟨_, -, rfl⟩ := State.safeTransfer_eq_ok.mp h
    exact .of_same rfl
  | transferFrom caller token sender recipient amount =>
    obtain ⟨_, -, rfl⟩ := State.safeTransferFrom_eq_ok.mp h
    exact .of_same rfl
  | safeTransferNFT caller nftAsset sender recipient entry =>
    obtain ⟨-, -, -, -, -, rfl⟩ := State.safeTransferNFT_eq_ok.mp h
    exact .of_same rfl
  | mintCNFT caller own recipient entry =>
    obtain ⟨other, -, h⟩ := bind_eq_ok.mp h
    obtain ⟨⟨nft, cNFT⟩, hmint, rfl⟩ := bind_pure_eq_ok.mp h
    obtain ⟨-, hfree, -, -, -, -, -, rfl, rfl⟩ := CNFT.mint_eq_ok.mp hmint
    by_cases hentry : other = asset ∧ entry = tokenId
    · obtain ⟨rfl, rfl⟩ := hentry
      exact .wrapped rfl hfree (receipt_written rfl).1 (receipt_written rfl).2
    · exact .of_other rfl hentry
  | burnCNFT caller own entry =>
    obtain ⟨other, hother, h⟩ := bind_eq_ok.mp h
    obtain ⟨⟨nft, cNFT⟩, hburn, rfl⟩ := bind_pure_eq_ok.mp h
    obtain ⟨-, -, hminter, -, -, -, rfl, rfl⟩ := CNFT.burn_eq_ok.mp hburn
    by_cases hentry : other = asset ∧ entry = tokenId
    · obtain ⟨rfl, rfl⟩ := hentry
      exact .unwrapped rfl (State.cNFTAt_eq_ok.mp hother) hminter (receipt_written rfl).1
    · exact .of_other rfl hentry
  | _ =>
    obtain ⟨_, -, rfl⟩ := map_eq_ok.mp h
    exact .of_same rfl

theorem Operation.receiptMove (hreg : Regular s) (h : operation.run s = .ok s') :
    ReceiptMove operation s s' asset tokenId := by
  cases operation with
  | user call =>
    rcases UserCall.cases hreg.sound.wired hreg.book.toFiled h with haction | ⟨haside, -⟩
    · exact haction.receiptMove hreg.sound.wired hreg.book.toFiled h
    · obtain ⟨_, _, _, rfl⟩ := UserCall.frame haside h
      exact .of_same rfl
  | token call => exact TokenCall.receiptMove h
  | admin call =>
    obtain ⟨_, _, _, rfl⟩ := (AdminCall.frame h).shape
    exact .of_same rfl
  | world event =>
    obtain ⟨_, _, _, _, _, -, rfl⟩ := WorldEvent.frame h
    exact .of_same rfl

/-- Calls by which the minter burns a receipt. The loan contract acts for the pool, when the loan
is liquidated or repaid as a whole. -/
def Operation.burns (s : State) (asset : Address) (tokenId : Nat) (minter : Address) :
    Operation → Bool
  | .user (.repay n nftAsset nftTokenId amount) =>
    minter = .lendPoolLoan && nftAsset = asset && nftTokenId = tokenId &&
      passes (LendPool.repay s (.account n) asset tokenId amount) fun r => r.2.2
  | .user (.liquidate _ nftAsset nftTokenId _) =>
    minter = .lendPoolLoan && nftAsset = asset && nftTokenId = tokenId
  | .token (.burnCNFT n own nftTokenId) =>
    minter = .account n && s.cNFTProxys own = .cNFT asset && nftTokenId = tokenId
  | _ => false

/-- What became of an existing receipt unless its minter burned it. -/
theorem ReceiptMove.bound (h : ReceiptMove operation s s' asset tokenId)
    (hreceipt : (s.cNFTs asset).owners tokenId ≠ .zero)
    (hquiet : operation.burns s asset tokenId ((s.cNFTs asset).minters tokenId) = false) :
    (s'.cNFTs asset).owners tokenId = (s.cNFTs asset).owners tokenId ∧
      (s'.cNFTs asset).minters tokenId = (s.cNFTs asset).minters tokenId := by
  cases h with
  | kept hholder hminter => exact ⟨hholder, hminter⟩
  | pledged _ _ hfree => exact absurd hfree hreceipt
  | wrapped _ hfree => exact absurd hfree hreceipt
  | repaid hcall hminter hall =>
    subst hcall
    simp [Operation.burns, hminter, hall, passes] at hquiet
  | sold hcall hentry hminter =>
    subst hcall
    simp [Operation.burns, UserCall.ofLiquidate, hentry, hminter] at hquiet
  | unwrapped hcall hwrapper hminter =>
    subst hcall
    simp [Operation.burns, hminter, hwrapper] at hquiet

/-- A receipt stays with its holder, and its minter stays its minter, until the minter burns
it, whatever anybody else does. -/
theorem receipts_are_bound {history : List (Transition State Operation)}
    (hs : Reachable operations s) (hrun : Run operations s history s')
    (hreceipt : (s.cNFTs asset).owners tokenId ≠ .zero)
    (hquiet : ∀ t ∈ history,
      t.label.burns t.pre asset tokenId ((s.cNFTs asset).minters tokenId) = false) :
    (s'.cNFTs asset).owners tokenId = (s.cNFTs asset).owners tokenId ∧
      (s'.cNFTs asset).minters tokenId = (s.cNFTs asset).minters tokenId := by
  have hstep : ∀ m (operation : Operation) m', Reachable operations m →
      operation.burns m asset tokenId ((s.cNFTs asset).minters tokenId) = false →
        ((m.cNFTs asset).owners tokenId = (s.cNFTs asset).owners tokenId ∧
          (m.cNFTs asset).minters tokenId = (s.cNFTs asset).minters tokenId) →
        operation.run m = .ok m' →
          (m'.cNFTs asset).owners tokenId = (s.cNFTs asset).owners tokenId ∧
            (m'.cNFTs asset).minters tokenId = (s.cNFTs asset).minters tokenId := by
    rintro m operation m' hm hcall ⟨hholder, hminter⟩ h
    have hmove : ReceiptMove operation m m' asset tokenId :=
      Operation.receiptMove (regular_of_reachable hm) h
    rw [← hholder] at hreceipt
    rw [← hminter] at hcall
    obtain ⟨hholder', hminter'⟩ := hmove.bound hreceipt hcall
    exact ⟨hholder'.trans hholder, hminter'.trans hminter⟩
  exact (hrun.preserves hstep hs hquiet ⟨rfl, rfl⟩).1

/-- The borrower's receipt, while the borrower repays half of the loan, tries to burn the
receipt by itself, and gives the wrapper an order to move the NFT. -/
def sampleAttempts : List Operation :=
  [.user (.repay 2 sampleMarket.nftAsset 7 (20 * 10 ^ 18)),
    .token (.burnCNFT 2 sampleMarket.nftAsset 7),
    .token (.transferNFT 2 sampleMarket.nftAsset (.cNFT sampleMarket.nftAsset) (.account 2) 7),
    .world (.tick 60), .token (.burnCNFT 102 sampleMarket.nftAsset 7)]

theorem receipts_are_bound_lent :
    ((replayed operations sampleLent sampleAttempts).cNFTs sampleMarket.nftAsset).owners 7 =
      .account 2 := by
  have hholder : (sampleLent.cNFTs sampleMarket.nftAsset).owners 7 = .account 2 := by
    decide +kernel
  rw [← hholder]
  apply (receipts_are_bound sampleLent_reachable (trace_run sampleLent sampleAttempts) _ _).1
  · decide +kernel
  · decide +kernel

end Confetti

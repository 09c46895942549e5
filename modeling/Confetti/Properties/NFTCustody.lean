import Confetti.Invariants.Batches
import Confetti.Invariants.Custody
import Confetti.Protocol.Deployment

/-! An NFT is in the wrapper exactly as long as there is a loan against it, unless a third
party has wrapped it, and it goes to the borrower or to the buyer when the loan ends. -/
namespace Confetti
open Outcome TransitionSystem

structure HeldByNone (s : State) (nftAsset : Address) (tokenId : Nat) : Prop where
  lendPool : (s.erc721 nftAsset).owners tokenId ≠ .lendPool
  lendPoolLoan : (s.erc721 nftAsset).owners tokenId ≠ .lendPoolLoan
  cNFT : (s.erc721 nftAsset).owners tokenId ≠ .cNFT nftAsset

def Unpledged (s : State) (nftAsset : Address) (tokenId : Nat) : Prop :=
  ∀ loanId, (s.loanStore.loans loanId).state.isLive = true →
    ¬((s.loanStore.loans loanId).nftAsset = nftAsset ∧
      (s.loanStore.loans loanId).nftTokenId = tokenId)

/-- Where the NFT of a live loan goes when the loan ends. -/
structure Delivered (s s' : State) (loan : LoanData) (next : LoanState) : Prop where
  repaid : next = .Repaid → (s'.erc721 loan.nftAsset).owners loan.nftTokenId = loan.borrower
  defaulted : next = .Defaulted →
    (s'.erc721 loan.nftAsset).owners loan.nftTokenId = loan.buyItNowBuyerAddress

variable {s s' : State} {operation : Operation} {loanId : Nat}

/-! ### The end of a loan -/

private theorem delivered_of_live {loan : LoanData} {next : LoanState}
    (hlive : next.isLive = true) : Delivered s s' loan next := by
  refine ⟨?_, ?_⟩
  · rintro rfl
    cases hlive
  · rintro rfl
    cases hlive

theorem LoanReplaced.delivered {loan : LoanData} {other : Nat} (h : LoanReplaced s other loan s')
    (hlive : (s.loanStore.loans loanId).state.isLive = true) (hloan : loan.state.isLive = true) :
    Delivered s s' (s.loanStore.loans loanId) (s'.loanStore.loans loanId).state := by
  apply delivered_of_live
  rw [h.loanStore, LoanStore.withLoan_loans, Function.update_apply]
  split
  · exact hloan
  · exact hlive

theorem LoanClosed.delivered {ended : LoanData} {receiver : Address} {other : Nat}
    (h : LoanClosed s other ended receiver s')
    (hlive : (s.loanStore.loans loanId).state.isLive = true)
    (hsame : SameDeal (s.loanStore.loans other) ended)
    (hrepaid : ended.state = .Repaid → receiver = (s.loanStore.loans other).borrower)
    (hdefaulted : ended.state = .Defaulted →
      receiver = (s.loanStore.loans other).buyItNowBuyerAddress) :
    Delivered s s' (s.loanStore.loans loanId) (s'.loanStore.loans loanId).state := by
  rw [h.loanStore, LoanStore.closed_loans, Function.update_apply]
  split
  · rename_i hloan
    subst hloan
    have howner : (s'.erc721 (s.loanStore.loans loanId).nftAsset).owners
        (s.loanStore.loans loanId).nftTokenId = receiver := by
      rw [h.erc721, given_owners, if_pos ⟨hsame.nftAsset.symm, hsame.nftTokenId.symm⟩]
    exact ⟨fun hend => howner.trans (hrepaid hend), fun hend => howner.trans (hdefaulted hend)⟩
  · exact delivered_of_live hlive

theorem PoolAction.delivered (hb : BookValid s) (h : PoolAction s operation s')
    (hlive : (s.loanStore.loans loanId).state.isLive = true) :
    Delivered s s' (s.loanStore.loans loanId) (s'.loanStore.loans loanId).state := by
  cases h with
  | deposit _ h =>
    apply delivered_of_live
    rw [h.book.loanStore]
    exact hlive
  | withdraw _ h =>
    apply delivered_of_live
    rw [h.book.loanStore]
    exact hlive
  | borrow _ _ h =>
    rcases h.book with hopened | htopped
    · apply delivered_of_live
      rw [hopened.loanStore, LoanStore.opened_loans,
        Function.update_of_ne (Nat.ne_of_lt (hb.lt_tracker hlive))]
      exact hlive
    · exact htopped.replaced.delivered hlive (hb.registered_live htopped.registered)
  | repay _ _ h =>
    rcases h.book with ⟨-, -, hpartly⟩ | ⟨-, hclosed⟩
    · exact hpartly.delivered hlive (hb.registered_live h.registered)
    · exact hclosed.delivered hlive ⟨rfl, rfl, rfl, rfl, rfl⟩ (fun _ => rfl)
        fun hdefaulted => by cases hdefaulted
  | buyItNow _ _ h => exact h.replaced.delivered hlive rfl
  | redeem _ _ h hs =>
    subst hs
    exact h.replaced.delivered hlive rfl
  | liquidate _ _ h hs =>
    subst hs
    exact h.closed.delivered hlive ⟨rfl, rfl, rfl, rfl, rfl⟩ (fun hrepaid => by cases hrepaid)
      fun _ => rfl

theorem Operation.delivered (hreg : Regular s) (h : operation.run s = .ok s')
    (hlive : (s.loanStore.loans loanId).state.isLive = true) :
    Delivered s s' (s.loanStore.loans loanId) (s'.loanStore.loans loanId).state := by
  rcases hreg.cases h with haction | ⟨-, hkept⟩
  · exact haction.delivered hreg.book hlive
  · apply delivered_of_live
    rw [hkept.loanStore]
    exact hlive

/-! ### Reachable states -/

/-- Custody of all NFTs, and their delivery in every step from here. -/
structure NFTsAccounted (s : State) : Prop where
  live : ∀ loanId, (s.loanStore.loans loanId).state.isLive = true →
    InCustody s (s.loanStore.loans loanId).nftAsset (s.loanStore.loans loanId).nftTokenId
      (s.loanStore.loans loanId).borrower
  free : ∀ nftAsset tokenId, Unpledged s nftAsset tokenId →
      (s.erc721 nftAsset).owners tokenId ≠ .lendPool ∧
        (s.erc721 nftAsset).owners tokenId ≠ .lendPoolLoan ∧
          (((s.erc721 nftAsset).owners tokenId ≠ .cNFT nftAsset ∧
              (s.cNFTs nftAsset).owners tokenId = .zero) ∨
            ∃ n, (s.cNFTs nftAsset).minters tokenId = .account n)
  delivered : ∀ transaction s', Transaction.run s transaction = .ok s' →
    ∃ items, Run operations s items s' ∧ items.map Transition.label = transaction.items ∧
      ∀ t ∈ items, ∀ loanId, (t.pre.loanStore.loans loanId).state.isLive = true →
        Delivered t.pre t.post (t.pre.loanStore.loans loanId) (t.post.loanStore.loans loanId).state

def Transaction.sendsNFT : Transaction → Option Address
  | .single operation => operation.sendsNFT
  | _ => none

section Runs

variable {s₀ : State} {history : List (Transition State Transaction)}

/-- What a run keeps that sends no NFT to a contract of the protocol. -/
structure Sheltered (s : State) : Prop where
  parties : PartiesExternal s
  housed : ∀ nftAsset tokenId, Housed s nftAsset tokenId

theorem Sheltered.step (hreg : Regular s) (h : Sheltered s) (hsends : operation.SendsToAccounts)
    (hrun : operation.run s = .ok s') : Sheltered s' where
  parties := h.parties.step hreg hsends hrun
  housed := fun nftAsset tokenId =>
    Operation.housed hreg h.parties hsends (h.housed nftAsset tokenId) hrun

theorem Genesis.sheltered (h : Genesis s)
    (hclear : ∀ nftAsset tokenId, HeldByNone s nftAsset tokenId) : Sheltered s where
  parties := h.partiesExternal
  housed := by
    intro nftAsset tokenId
    have hfree := hclear nftAsset tokenId
    refine ⟨hfree.lendPool, hfree.lendPoolLoan, fun hwrapped => absurd hwrapped hfree.cNFT, ?_⟩
    rw [h.cNFTs]
    exact fun hne => absurd rfl hne

theorem sheltered_of_run (hs : Genesis s₀)
    (hclear : ∀ nftAsset tokenId, HeldByNone s₀ nftAsset tokenId)
    (hsends : ∀ t ∈ history, ∀ receiver ∈ t.label.sendsNFT, receiver.isExternal = true)
    (hrun : Run transactions s₀ history s) : Sheltered s := by
  have hstep : ∀ m (operation : Operation) m', Reachable operations m →
      operation.SendsToAccounts → Sheltered m → operation.run m = .ok m' → Sheltered m' :=
    fun m operation m' hm hsends hsheltered hrun =>
      hsheltered.step (regular_of_reachable hm) hsends hrun
  refine (Run.preserves_operations hstep (fun _ _ _ _ h => by cases h)
    (fun _ _ _ _ h => by cases h) (.initial hs) hrun ?_ (hs.sheltered hclear)).1
  intro t ht operation hlabel
  have hnow := hsends t ht
  rw [hlabel] at hnow
  exact hnow

/-- As long as nobody sends an NFT to a contract of the protocol or buys one for it, the
wrapper holds the NFTs of the live loans, and beyond them only what third parties have
wrapped; and the NFT of a loan that ends goes to its borrower or its buyer. -/
theorem nfts_in_custody (hs : Genesis s₀)
    (hclear : ∀ nftAsset tokenId, HeldByNone s₀ nftAsset tokenId)
    (hsends : ∀ t ∈ history, ∀ receiver ∈ t.label.sendsNFT, receiver.isExternal = true)
    (hrun : Run transactions s₀ history s) : NFTsAccounted s := by
  have hreg := regular_of_reachable (reachable_operations (hrun.reachable (.initial hs)))
  have hsheltered := sheltered_of_run hs hclear hsends hrun
  refine ⟨hreg.book.custody, ?_, ?_⟩
  · intro nftAsset tokenId hnone
    have hhoused := hsheltered.housed nftAsset tokenId
    refine ⟨hhoused.lendPool, hhoused.lendPoolLoan, ?_⟩
    by_cases hreceipt : (s.cNFTs nftAsset).owners tokenId = .zero
    · exact .inl ⟨fun hwrapped => hhoused.wrapped hwrapped hreceipt, hreceipt⟩
    · rcases hhoused.issued hreceipt with hregistered | hforeign
      · obtain ⟨hlive, hfiled⟩ := hreg.book.filed nftAsset tokenId hregistered
        exact absurd hfiled (hnone _ hlive)
      · exact .inr hforeign
  · intro transaction s' h
    obtain ⟨items, hitems, hlabels⟩ := Transaction.runs hreg h
    refine ⟨items, hitems, hlabels, ?_⟩
    intro t ht loanId hlive
    obtain ⟨hpre, hstep⟩ := hitems.transition_reachable
      (reachable_operations (hrun.reachable (.initial hs))) t ht
    exact Operation.delivered (regular_of_reachable hpre) hstep hlive

end Runs

private theorem sampleWorld_clear (nftAsset : Address) (tokenId : Nat) :
    HeldByNone sampleWorld nftAsset tokenId :=
  ⟨(fun heq => by cases heq), (fun heq => by cases heq), (fun heq => by cases heq)⟩

def sampleLendings : List Transaction := sampleLending.map .single

def samplePledged : State := replayed transactions sampleWorld sampleLendings

theorem nfts_in_custody_pledged : (samplePledged.loanStore.loans 1).state.isLive = true ∧
    InCustody samplePledged (samplePledged.loanStore.loans 1).nftAsset
      (samplePledged.loanStore.loans 1).nftTokenId (samplePledged.loanStore.loans 1).borrower := by
  have hs : Genesis sampleWorld := State.fresh_genesis (by decide) _ _ _
  have hlive : (samplePledged.loanStore.loans 1).state.isLive = true := by decide +kernel
  have hsends : ∀ t ∈ trace transactions sampleWorld sampleLendings,
      ∀ receiver ∈ t.label.sendsNFT, receiver.isExternal = true := by decide +kernel
  have hend : NFTsAccounted samplePledged :=
    nfts_in_custody hs sampleWorld_clear hsends (trace_run sampleWorld sampleLendings)
  exact ⟨hlive, hend.live 1 hlive⟩

/-- A contract that wraps an NFT of its own. -/
def sampleWrapping : List Operation :=
  sampleMarket.opening ++
    [.token (.mintNFT sampleMarket.nftAsset (.account 150) 7),
      .token (.setApprovalForAll 150 sampleMarket.nftAsset (.cNFT sampleMarket.nftAsset) true),
      .token (.mintCNFT 150 sampleMarket.nftAsset (.account 5) 7)]

/-- Account 3 buys the NFT for the pool itself. -/
def sampleMisdirected : List Operation :=
  sampleLending ++
    [.world (.tick 86400), .world (.nftPrice sampleMarket.nftAsset (.ok (50 * 10 ^ 18))),
      .user (.buyItNow 3 sampleMarket.nftAsset 7 (50 * 10 ^ 18) .lendPool),
      .world (.tick (3 * 86400)), .user (.liquidate 3 sampleMarket.nftAsset 7 0)]

private theorem unpledged_of_unregistered {nftAsset : Address} {tokenId : Nat}
    (hs : Reachable operations s) (h : s.loanStore.nftToLoanIds nftAsset tokenId = 0) :
    Unpledged s nftAsset tokenId := by
  rintro loanId hlive ⟨rfl, rfl⟩
  obtain ⟨hne, -, hindexed⟩ := (regular_of_reachable hs).book.indexed loanId hlive
  exact hne (hindexed.symm.trans h)

/-- Without a loan, the receipt of an NFT can exist, and the pool can own the NFT: the wrapper
is open to any contract, and so is the choice of the buyer. -/
theorem custody_without_loan :
    (let s := replayed operations sampleWorld sampleWrapping;
      Reachable operations s ∧ (∀ operation ∈ sampleWrapping, operation.SendsToAccounts) ∧
        (s.pool.nfts sampleMarket.nftAsset).cNFTAddress ≠ .zero ∧
          Unpledged s sampleMarket.nftAsset 7 ∧
            (s.cNFTs sampleMarket.nftAsset).owners 7 ≠ .zero ∧
              (s.erc721 sampleMarket.nftAsset).owners 7 = .cNFT sampleMarket.nftAsset) ∧
    (let s := replayed operations sampleWorld sampleMisdirected;
      Reachable operations s ∧ Unpledged s sampleMarket.nftAsset 7 ∧
        (s.erc721 sampleMarket.nftAsset).owners 7 = .lendPool) := by
  have hwrapping : Reachable operations (replayed operations sampleWorld sampleWrapping) :=
    fresh_reachable (by decide) _ _ _ _
  have hmisdirected : Reachable operations (replayed operations sampleWorld sampleMisdirected) :=
    fresh_reachable (by decide) _ _ _ _
  refine ⟨⟨hwrapping, ?_, by decide +kernel, ?_, by decide +kernel, by decide +kernel⟩,
    hmisdirected, ?_, by decide +kernel⟩
  · decide +kernel
  · exact unpledged_of_unregistered hwrapping (by decide +kernel)
  · exact unpledged_of_unregistered hmisdirected (by decide +kernel)

end Confetti

import Confetti.Effects.Frames
import Confetti.Invariants.Book
import Confetti.Protocol.Deployment

/-! No holders of a token ever have more than its supply, so that no transfer between two of
them overflows. -/
namespace Confetti
open Outcome TransitionSystem FiniteLedger

def ERC20.Covered (ledger : ERC20) : Prop :=
  ∀ holders : Finset Address, total holders id ledger.balances ≤ ledger.totalSupply

structure ERC20.Backed (ledger : ERC20) : Prop where
  covers : ∀ holders : Finset Address, total holders id ledger.balances ≤ ledger.totalSupply
  supply : ledger.totalSupply ≤ Uint256.max

def TokensBacked (s : State) : Prop := ∀ token, (s.erc20 token).Backed

variable {s s' : State} {operation : Operation} {ledger ledger' : ERC20} {amount : Nat}
  {token sender recipient spender owner a b : Address}

/-! ### One token -/

private theorem total_taken (hle : amount ≤ ledger.balances sender) (holders : Finset Address) :
    total holders id (Function.update ledger.balances sender (ledger.balances sender - amount)) +
        (if sender ∈ holders then amount else 0) =
      total holders id ledger.balances := by
  by_cases hmem : sender ∈ holders
  · have hsum : total holders id (Function.update ledger.balances sender
        (ledger.balances sender - amount)) + ledger.balances sender =
          total holders id ledger.balances + (ledger.balances sender - amount) :=
      total_update hmem _
    rw [if_pos hmem]
    omega
  · rw [if_neg hmem, Nat.add_zero, total_update_of_notMem hmem]

private theorem total_given (balances : Address → Nat) (holders : Finset Address) :
    total holders id (Function.update balances recipient (balances recipient + amount)) ≤
      total holders id balances + amount := by
  by_cases hmem : recipient ∈ holders
  · have hsum : total holders id (Function.update balances recipient
        (balances recipient + amount)) + balances recipient =
          total holders id balances + (balances recipient + amount) :=
      total_update hmem _
    omega
  · rw [total_update_of_notMem hmem]
    exact Nat.le_add_right _ _

theorem ERC20.Covered.single_le (h : ledger.Covered) : ledger.balances a ≤ ledger.totalSupply := by
  have hone := h {a}
  have hsum : total {a} id ledger.balances = ledger.balances a := Finset.sum_singleton _ _
  rw [hsum] at hone
  exact hone

theorem ERC20.Covered.moved (h : ledger.Covered) (hle : amount ≤ ledger.balances sender)
    (allowances : Address → Address → Nat) :
    ERC20.Covered { ledger with
      balances := ERC20.moved ledger.balances sender recipient amount
      allowances } := by
  intro holders
  change total holders id (ERC20.moved ledger.balances sender recipient amount) ≤
    ledger.totalSupply
  have htaken := total_taken hle holders
  have hgiven : total holders id (ERC20.moved ledger.balances sender recipient amount) ≤
      total holders id (Function.update ledger.balances sender
        (ledger.balances sender - amount)) + amount := total_given _ _
  by_cases hmem : sender ∈ holders
  · have hbefore := h holders
    rw [if_pos hmem] at htaken
    omega
  · have hbefore := h (insert sender holders)
    rw [total_insert hmem] at hbefore
    rw [if_neg hmem] at htaken
    simp only [id_eq] at hbefore
    omega

theorem ERC20.Covered.given (h : ledger.Covered) :
    ERC20.Covered { ledger with
      totalSupply := ledger.totalSupply + amount
      balances := Function.update ledger.balances recipient
        (ledger.balances recipient + amount) } := by
  intro holders
  exact (total_given _ _).trans (Nat.add_le_add_right (h holders) amount)

theorem ERC20.Covered.taken (h : ledger.Covered) (hle : amount ≤ ledger.balances owner) :
    ERC20.Covered { ledger with
      totalSupply := ledger.totalSupply - amount
      balances := Function.update ledger.balances owner (ledger.balances owner - amount) } := by
  intro holders
  have htaken := total_taken hle (insert owner holders)
  have hbefore := h (insert owner holders)
  have hfewer : total holders id (Function.update ledger.balances owner
      (ledger.balances owner - amount)) ≤ total (insert owner holders) id
        (Function.update ledger.balances owner (ledger.balances owner - amount)) :=
    Finset.sum_le_sum_of_subset (Finset.subset_insert owner holders)
  rw [if_pos (Finset.mem_insert_self owner holders)] at htaken
  change total holders id (Function.update ledger.balances owner
    (ledger.balances owner - amount)) ≤ ledger.totalSupply - amount
  omega

theorem ERC20.Backed.single_le (h : ledger.Backed) : ledger.balances a ≤ Uint256.max :=
  (ERC20.Covered.single_le h.covers).trans h.supply

theorem ERC20.Backed.moved (h : ledger.Backed) (hle : amount ≤ ledger.balances sender)
    (allowances : Address → Address → Nat) :
    ERC20.Backed { ledger with
      balances := ERC20.moved ledger.balances sender recipient amount
      allowances } :=
  ⟨ERC20.Covered.moved h.covers hle allowances, h.supply⟩

theorem backed_transfer :
    Keeps ERC20.Backed (fun self => ERC20.transfer token self sender recipient amount) := by
  intro ledger ledger' hbacked h
  obtain ⟨-, -, hle, -, rfl⟩ := ERC20.transfer_eq_ok.mp h
  exact hbacked.moved hle ledger.allowances

theorem backed_transferFrom :
    Keeps ERC20.Backed (fun self => ERC20.transferFrom token self spender sender recipient
      amount) := by
  intro ledger ledger' hbacked h
  obtain ⟨-, -, -, hle, -, -, rfl⟩ := ERC20.transferFrom_eq_ok.mp h
  exact hbacked.moved hle _

theorem backed_approve :
    Keeps ERC20.Backed (fun self => ERC20.approve token self owner spender amount) := by
  intro ledger ledger' hbacked h
  obtain ⟨-, rfl⟩ := ERC20.approve_eq_ok.mp h
  exact ⟨hbacked.covers, hbacked.supply⟩

theorem backed_mint :
    Keeps ERC20.Backed (fun self => ERC20.mint token self recipient amount) := by
  intro ledger ledger' hbacked h
  obtain ⟨-, hsupply, -, rfl⟩ := ERC20.mint_eq_ok.mp h
  exact ⟨ERC20.Covered.given hbacked.covers, hsupply⟩

theorem backed_burn :
    Keeps ERC20.Backed (fun self => ERC20.burn token self owner amount) := by
  intro ledger ledger' hbacked h
  obtain ⟨-, hle, -, rfl⟩ := ERC20.burn_eq_ok.mp h
  exact ⟨ERC20.Covered.taken hbacked.covers hle, (Nat.sub_le _ _).trans hbacked.supply⟩

theorem ERC20.Backed.moved_fits (h : ledger.Backed) (hle : amount ≤ ledger.balances sender) :
    ERC20.moved ledger.balances sender recipient amount recipient ≤ Uint256.max :=
  (h.moved hle ledger.allowances).single_le

/-! ### Reachable states -/

theorem TokensBacked.of_token (h : TokensBacked s) (hbacked : ledger.Backed)
    (herc20 : s'.erc20 = Function.update s.erc20 token ledger) : TokensBacked s' := by
  intro other
  rw [herc20, Function.update_apply]
  split
  · exact hbacked
  · exact h other

theorem TokensBacked.of_cash {program : ERC20 → Except Revert ERC20} {events : List Transfer}
    (h : TokensBacked s) (hprogram : Keeps ERC20.Backed program)
    (hcash : Cash s token program events s') : TokensBacked s' := by
  obtain ⟨ledger, hledger, herc20⟩ := hcash.ledger
  exact h.of_token (hprogram _ _ (h token) hledger) herc20

theorem PoolAction.tokensBacked (hbacked : TokensBacked s) (h : PoolAction s operation s') :
    TokensBacked s' := by
  cases h with
  | deposit _ h => exact hbacked.of_cash backed_transferFrom h.cash
  | withdraw _ h => exact hbacked.of_cash backed_transfer h.cash
  | borrow _ _ h => exact hbacked.of_cash backed_transfer h.cash
  | repay _ _ h => exact hbacked.of_cash backed_transferFrom h.cash
  | buyItNow _ _ h => exact hbacked.of_cash backed_transferFrom h.cash
  | redeem _ _ h hs =>
    subst hs
    apply hbacked.of_cash _ h.cash
    exact Keeps.bind backed_transferFrom (Keeps.bind backed_transfer backed_transferFrom)
  | liquidate _ _ h hs =>
    subst hs
    apply hbacked.of_cash _ h.cash
    exact Keeps.bind (Keeps.ite backed_transferFrom)
      (Keeps.bind backed_transfer (Keeps.ite backed_transfer))

theorem TokenCall.tokensBacked {call : TokenCall} (hbacked : TokensBacked s)
    (h : call.run s = .ok s') : TokensBacked s' := by
  cases call with
  | transfer caller token recipient amount =>
    obtain ⟨ledger, hledger, rfl⟩ := State.safeTransfer_eq_ok.mp h
    exact hbacked.of_token (backed_transfer _ _ (hbacked token) hledger) rfl
  | transferFrom caller token sender recipient amount =>
    obtain ⟨ledger, hledger, rfl⟩ := State.safeTransferFrom_eq_ok.mp h
    exact hbacked.of_token (backed_transferFrom _ _ (hbacked token) hledger) rfl
  | approve caller token spender amount =>
    obtain ⟨ledger, hledger, rfl⟩ := map_eq_ok.mp h
    exact hbacked.of_token (backed_approve _ _ (hbacked token) hledger) rfl
  | mint token recipient amount =>
    obtain ⟨ledger, hledger, rfl⟩ := map_eq_ok.mp h
    exact hbacked.of_token (backed_mint _ _ (hbacked token) hledger) rfl
  | burn caller token amount =>
    obtain ⟨ledger, hledger, rfl⟩ := map_eq_ok.mp h
    exact hbacked.of_token (backed_burn _ _ (hbacked token) hledger) rfl
  | safeTransferNFT caller nftAsset sender recipient tokenId =>
    obtain ⟨-, -, -, -, -, rfl⟩ := State.safeTransferNFT_eq_ok.mp h
    exact hbacked
  | mintCNFT caller nftAsset recipient tokenId =>
    obtain ⟨_, -, h⟩ := bind_eq_ok.mp h
    obtain ⟨_, -, rfl⟩ := bind_pure_eq_ok.mp h
    exact hbacked
  | burnCNFT caller nftAsset tokenId =>
    obtain ⟨_, -, h⟩ := bind_eq_ok.mp h
    obtain ⟨_, -, rfl⟩ := bind_pure_eq_ok.mp h
    exact hbacked
  | _ =>
    obtain ⟨_, -, rfl⟩ := map_eq_ok.mp h
    exact hbacked

theorem TokensBacked.step (hbacked : TokensBacked s) (hreg : Regular s)
    (h : operation.run s = .ok s') : TokensBacked s' := by
  cases operation with
  | user call =>
    rcases UserCall.cases hreg.sound.wired hreg.book.toFiled h with haction | ⟨haside, -⟩
    · exact haction.tokensBacked hbacked
    · obtain ⟨_, _, _, rfl⟩ := UserCall.frame haside h
      exact hbacked
  | token call => exact TokenCall.tokensBacked hbacked h
  | admin call =>
    obtain ⟨_, _, _, rfl⟩ := (AdminCall.frame h).shape
    exact hbacked
  | world event =>
    obtain ⟨_, _, _, _, _, -, rfl⟩ := WorldEvent.frame h
    exact hbacked

theorem TokensBacked.run {history : List (Transition State Operation)}
    (hbacked : TokensBacked s) (hs : Reachable operations s)
    (hrun : Run operations s history s') : TokensBacked s' := by
  have hstep : ∀ m operation m', Reachable operations m → True → TokensBacked m →
      operations.step m operation = .ok m' → TokensBacked m' :=
    fun m operation m' hm _ hbacked h => hbacked.step (regular_of_reachable hm) h
  exact (Run.preserves hstep hrun hs (fun _ _ => trivial) hbacked).1

theorem sampleWorld_backed : TokensBacked sampleWorld := by
  intro token
  refine ⟨?_, Nat.zero_le _⟩
  intro holders
  exact Nat.le_of_eq (Finset.sum_const_zero)

end Confetti

import Confetti.Effects.LoanBook
import Confetti.Protocol.System

/-! Operations outside of the pool: calls to tokens, administration, and the world
moving on. None of them touches a loan, a debt, the pool's cash or an NFT in custody. -/
namespace Confetti
open Outcome

/-- The protocol's contracts have approved nobody to spend their tokens. -/
def ERC20.Protected (self : ERC20) : Prop :=
  ∀ owner spender, owner.isExternal = false → self.allowances owner spender = 0

structure Guarded (s : State) : Prop where
  allowances : ∀ token, (s.erc20 token).Protected
  operators : ∀ nftAsset owner operator, owner.isExternal = false → operator.isExternal = true →
    (s.erc721 nftAsset).operatorApprovals owner operator = false

structure Sound (s : State) : Prop where
  wired : Wired s
  guarded : Guarded s

/-- The wrapper holds the NFT for a loan and its receipt is the borrower's. -/
structure InCustody (s : State) (nftAsset : Address) (tokenId : Nat) (borrower : Address) :
    Prop where
  owner : (s.erc721 nftAsset).owners tokenId = .cNFT nftAsset
  unapproved : (s.erc721 nftAsset).tokenApprovals tokenId = .zero
  receipt : (s.cNFTs nftAsset).owners tokenId = borrower
  borrower_ne : borrower ≠ .zero
  minter : (s.cNFTs nftAsset).minters tokenId = .lendPoolLoan

/-- What an operation outside of the pool leaves alone. -/
structure Kept (s s' : State) : Prop where
  loanStore : s'.loanStore = s.loanStore
  ledgers : ∀ asset, (s'.debtTokens asset).ledger = (s.debtTokens asset).ledger
  listed : ∀ asset, (s.pool.reserves asset).cTokenAddress ≠ .zero →
    (s'.pool.reserves asset).cTokenAddress ≠ .zero
  sound : Sound s → Sound s'
  escrow : Sound s → ∀ token,
    (s.erc20 token).balances .lendPool ≤ (s'.erc20 token).balances .lendPool
  custody : Sound s → ∀ nftAsset tokenId borrower, InCustody s nftAsset tokenId borrower →
    InCustody s' nftAsset tokenId borrower

variable {s s' s'' : State}

theorem Kept.refl (s : State) : Kept s s where
  loanStore := rfl
  ledgers := fun _ => rfl
  listed := fun _ h => h
  sound := id
  escrow := fun _ _ => le_rfl
  custody := fun _ _ _ _ h => h

theorem Kept.trans (h : Kept s s') (h' : Kept s' s'') : Kept s s'' where
  loanStore := h'.loanStore.trans h.loanStore
  ledgers := fun asset => (h'.ledgers asset).trans (h.ledgers asset)
  listed := fun asset hne => h'.listed asset (h.listed asset hne)
  sound := fun hs => h'.sound (h.sound hs)
  escrow := fun hs token => (h.escrow hs token).trans (h'.escrow (h.sound hs) token)
  custody := fun hs _ _ _ hc => h'.custody (h.sound hs) _ _ _ (h.custody hs _ _ _ hc)

theorem Kept.foldlM {α : Type} {body : State → α → Except Revert State}
    (hbody : ∀ m a m', body m a = .ok m' → Kept m m') {xs : List α}
    (h : xs.foldlM body s = .ok s') : Kept s s' :=
  foldlM_preserves xs (fun m a m' _ (hm : Kept s m) hstep => hm.trans (hbody m a m' hstep)) s s'
    (Kept.refl s) h

theorem Kept.of_same_tokens (hloan : s'.loanStore = s.loanStore)
    (hdebts : ∀ asset, (s'.debtTokens asset).ledger = (s.debtTokens asset).ledger)
    (hlisted : ∀ asset, (s.pool.reserves asset).cTokenAddress ≠ .zero →
      (s'.pool.reserves asset).cTokenAddress ≠ .zero)
    (hwired : Wired s → Wired s') (herc20 : s'.erc20 = s.erc20) (herc721 : s'.erc721 = s.erc721)
    (hcNFTs : s'.cNFTs = s.cNFTs) : Kept s s' where
  loanStore := hloan
  ledgers := hdebts
  listed := hlisted
  sound := by
    intro h
    refine ⟨hwired h.wired, ?_, ?_⟩
    · rw [herc20]
      exact h.guarded.allowances
    · rw [herc721]
      exact h.guarded.operators
  escrow := by
    intro _ token
    rw [herc20]
  custody := by
    intro _ nftAsset tokenId borrower h
    exact ⟨by rw [herc721]; exact h.owner, by rw [herc721]; exact h.unapproved,
      by rw [hcNFTs]; exact h.receipt, h.borrower_ne, by rw [hcNFTs]; exact h.minter⟩

/-! ### Calls to the token of a reserve -/

section Tokens

variable {token sender recipient spender owner account holder : Address} {self self' : ERC20}
  {amount : Nat}

theorem ERC20.transfer_spares (hne : holder ≠ sender)
    (h : ERC20.transfer token self sender recipient amount = .ok self') :
    self.balances holder ≤ self'.balances holder := by
  obtain ⟨-, -, -, -, rfl⟩ := ERC20.transfer_eq_ok.mp h
  exact le_moved hne

theorem ERC20.transfer_protected (hp : self.Protected)
    (h : ERC20.transfer token self sender recipient amount = .ok self') : self'.Protected := by
  obtain ⟨-, -, -, -, rfl⟩ := ERC20.transfer_eq_ok.mp h
  exact hp

theorem ERC20.transferFrom_spares (hp : self.Protected) (hholder : holder.isExternal = false)
    (h : ERC20.transferFrom token self spender sender recipient amount = .ok self') :
    self.balances holder ≤ self'.balances holder := by
  obtain ⟨-, -, -, hbalance, -, hallowed, rfl⟩ := ERC20.transferFrom_eq_ok.mp h
  by_cases hsender : holder = sender
  · subst hsender
    rw [hp holder spender hholder] at hallowed
    obtain rfl : amount = 0 := by omega
    exact le_moved_add hbalance
  · exact le_moved hsender

theorem ERC20.allowed_protected (hp : self.Protected) {remaining : Nat}
    (hremaining : owner.isExternal = false → remaining = 0) :
    ∀ owner' spender', owner'.isExternal = false →
      ERC20.allowed self.allowances owner spender remaining owner' spender' = 0 := by
  intro owner' spender' howner
  unfold ERC20.allowed
  by_cases ho : owner' = owner
  · subst ho
    by_cases hs : spender' = spender
    · subst hs
      simpa using hremaining howner
    · simpa [hs] using hp owner' spender' howner
  · simpa [ho] using hp owner' spender' howner

theorem ERC20.transferFrom_protected (hp : self.Protected)
    (h : ERC20.transferFrom token self spender sender recipient amount = .ok self') :
    self'.Protected := by
  obtain ⟨-, -, -, -, -, -, rfl⟩ := ERC20.transferFrom_eq_ok.mp h
  apply allowed_protected hp
  intro hsender
  rw [hp sender spender hsender]
  exact Nat.zero_sub _

theorem ERC20.approve_protected (hp : self.Protected) (howner : owner.isExternal = true)
    (h : ERC20.approve token self owner spender amount = .ok self') : self'.Protected := by
  obtain ⟨-, rfl⟩ := ERC20.approve_eq_ok.mp h
  apply allowed_protected hp
  intro hnot
  rw [howner] at hnot
  cases hnot

/-- A program on a token that lets nobody spend what the protocol's contracts hold. -/
def Protects (program : ERC20 → Except Revert ERC20) : Prop := Keeps ERC20.Protected program

theorem protects_transfer :
    Protects (fun self => ERC20.transfer token self sender recipient amount) :=
  fun _ _ => ERC20.transfer_protected

theorem protects_transferFrom :
    Protects (fun self => ERC20.transferFrom token self spender sender recipient amount) :=
  fun _ _ => ERC20.transferFrom_protected

theorem Kept.of_token {ledger : ERC20} {transfers : List Transfer}
    (hprotected : (s.erc20 token).Protected → ledger.Protected)
    (hspared : (s.erc20 token).Protected →
      (s.erc20 token).balances .lendPool ≤ ledger.balances .lendPool) :
    Kept s { s with
      erc20 := Function.update s.erc20 token ledger
      transfers } where
  loanStore := rfl
  ledgers := fun _ => rfl
  listed := fun _ h => h
  sound := by
    intro h
    refine ⟨⟨h.wired.reserve, h.wired.nft, h.wired.proxy⟩, ?_, h.guarded.operators⟩
    intro other
    by_cases hother : other = token
    · subst hother
      simp only [Function.update_self]
      exact hprotected (h.guarded.allowances other)
    · simp only [Function.update_of_ne hother]
      exact h.guarded.allowances other
  escrow := by
    intro h other
    by_cases hother : other = token
    · subst hother
      simp only [Function.update_self]
      exact hspared (h.guarded.allowances other)
    · simp only [Function.update_of_ne hother, le_refl]
  custody := fun _ _ _ _ h => ⟨h.owner, h.unapproved, h.receipt, h.borrower_ne, h.minter⟩

end Tokens

/-! ### Calls to a collection and to its wrapper -/

section Collections

variable {nftAsset sender recipient spender owner borrower : Address} {tokenId other n : Nat}
  {nft nft' : ERC721} {cNFT : CNFT}

theorem Kept.of_collection
    (hoperators : ∀ owner operator, owner.isExternal = false → operator.isExternal = true →
      (s.erc721 nftAsset).operatorApprovals owner operator = false →
        nft.operatorApprovals owner operator = false)
    (hcustody : Guarded s → ∀ tokenId borrower, InCustody s nftAsset tokenId borrower →
      (nft.owners tokenId = .cNFT nftAsset ∧ nft.tokenApprovals tokenId = .zero) ∧
        cNFT.owners tokenId = borrower ∧ cNFT.minters tokenId = .lendPoolLoan) :
    Kept s { s with
      erc721 := Function.update s.erc721 nftAsset nft
      cNFTs := Function.update s.cNFTs nftAsset cNFT } where
  loanStore := rfl
  ledgers := fun _ => rfl
  listed := fun _ h => h
  sound := by
    intro h
    refine ⟨⟨h.wired.reserve, h.wired.nft, h.wired.proxy⟩, h.guarded.allowances, ?_⟩
    intro other owner operator howner hoperator
    have hold := h.guarded.operators other owner operator howner hoperator
    by_cases hother : other = nftAsset
    · subst hother
      simp only [Function.update_self]
      exact hoperators owner operator howner hoperator hold
    · simp only [Function.update_of_ne hother]
      exact hold
  escrow := fun _ _ => le_rfl
  custody := by
    intro h other tokenId borrower hc
    by_cases hother : other = nftAsset
    · subst hother
      obtain ⟨⟨howner, hfree⟩, hreceipt, hminter⟩ := hcustody h.guarded tokenId borrower hc
      refine ⟨?_, ?_, ?_, hc.borrower_ne, ?_⟩ <;> simpa only [Function.update_self]
    · refine ⟨?_, ?_, ?_, hc.borrower_ne, ?_⟩ <;> simp only [Function.update_of_ne hother]
      · exact hc.owner
      · exact hc.unapproved
      · exact hc.receipt
      · exact hc.minter

/-- An account cannot move an NFT in custody. -/
theorem InCustody.not_mayMove (hg : Guarded s) (h : InCustody s nftAsset tokenId borrower) :
    ¬(s.erc721 nftAsset).MayMove (.account n) tokenId := by
  rintro (howner | happroved | hoperator)
  · rw [h.owner] at howner
    cases howner
  · rw [h.unapproved] at happroved
    cases happroved
  · rw [h.owner, hg.operators nftAsset _ _ rfl rfl] at hoperator
    cases hoperator

theorem Kept.of_nft
    (hoperators : ∀ owner operator, owner.isExternal = false → operator.isExternal = true →
      (s.erc721 nftAsset).operatorApprovals owner operator = false →
        nft.operatorApprovals owner operator = false)
    (hcustody : Guarded s → ∀ tokenId borrower, InCustody s nftAsset tokenId borrower →
      nft.owners tokenId = .cNFT nftAsset ∧ nft.tokenApprovals tokenId = .zero) :
    Kept s { s with erc721 := Function.update s.erc721 nftAsset nft } := by
  have h := Kept.of_collection hoperators fun hg tokenId borrower (hc : InCustody s _ _ _) =>
    ⟨hcustody hg tokenId borrower hc, hc.receipt, hc.minter⟩
  rw [Function.update_eq_self] at h
  exact h

theorem given_of_ne (self : ERC721) {a : Address} (hne : other ≠ tokenId) :
    (self.given a tokenId).owners other = self.owners other ∧
      (self.given a tokenId).tokenApprovals other = self.tokenApprovals other := by
  simp [ERC721.given, hne]

theorem Kept.of_given {recipient : Address}
    (hother : Guarded s → ∀ other borrower, InCustody s nftAsset other borrower → other ≠ tokenId) :
    Kept s { s with
      erc721 := Function.update s.erc721 nftAsset
        ((s.erc721 nftAsset).given recipient tokenId) } := by
  apply Kept.of_nft
  · exact fun _ _ _ _ h => h
  · intro hg other borrower hc
    obtain ⟨howners, happrovals⟩ :=
      given_of_ne (s.erc721 nftAsset) (a := recipient) (hother hg other borrower hc)
    rw [howners, happrovals]
    exact ⟨hc.owner, hc.unapproved⟩

theorem ne_of_mayMove (hmove : (s.erc721 nftAsset).MayMove (.account n) tokenId) :
    Guarded s → ∀ other borrower, InCustody s nftAsset other borrower → other ≠ tokenId := by
  rintro hg other borrower hc rfl
  exact hc.not_mayMove hg hmove

end Collections

theorem TokenCall.kept {call : TokenCall} (h : call.run s = .ok s') : Kept s s' := by
  cases call with
  | transfer caller token recipient amount =>
    obtain ⟨ledger, hledger, rfl⟩ := State.safeTransfer_eq_ok.mp h
    exact Kept.of_token (fun hp => ERC20.transfer_protected hp hledger)
      fun _ => ERC20.transfer_spares (by simp) hledger
  | transferFrom caller token sender recipient amount =>
    obtain ⟨ledger, hledger, rfl⟩ := State.safeTransferFrom_eq_ok.mp h
    exact Kept.of_token (fun hp => ERC20.transferFrom_protected hp hledger)
      fun hp => ERC20.transferFrom_spares hp rfl hledger
  | approve caller token spender amount =>
    obtain ⟨ledger, hledger, rfl⟩ := map_eq_ok.mp h
    refine Kept.of_token (fun hp => ERC20.approve_protected hp rfl hledger) fun _ => ?_
    obtain ⟨-, rfl⟩ := ERC20.approve_eq_ok.mp hledger
    exact le_rfl
  | mint token recipient amount =>
    obtain ⟨ledger, hledger, rfl⟩ := map_eq_ok.mp h
    obtain ⟨-, -, -, rfl⟩ := ERC20.mint_eq_ok.mp hledger
    refine Kept.of_token (fun hp => hp) fun _ => ?_
    by_cases hpool : Address.lendPool = recipient
    · subst hpool
      simp
    · simp [Function.update_of_ne hpool]
  | burn caller token amount =>
    obtain ⟨ledger, hledger, rfl⟩ := map_eq_ok.mp h
    obtain ⟨-, -, -, rfl⟩ := ERC20.burn_eq_ok.mp hledger
    refine Kept.of_token (fun hp => hp) fun _ => ?_
    simp
  | transferNFT caller nftAsset sender recipient tokenId =>
    obtain ⟨nft, hnft, rfl⟩ := map_eq_ok.mp h
    obtain ⟨-, -, hmove, -, rfl⟩ := ERC721.transferFrom_eq_ok.mp hnft
    exact Kept.of_given (ne_of_mayMove hmove)
  | safeTransferNFT caller nftAsset sender recipient tokenId =>
    obtain ⟨-, -, hmove, -, -, rfl⟩ := State.safeTransferNFT_eq_ok.mp h
    exact Kept.of_given (ne_of_mayMove hmove)
  | approveNFT caller nftAsset spender tokenId =>
    obtain ⟨nft, hnft, rfl⟩ := map_eq_ok.mp h
    obtain ⟨-, -, hcaller, rfl⟩ := ERC721.approve_eq_ok.mp hnft
    have hmove : (s.erc721 nftAsset).MayMove (.account caller) tokenId :=
      hcaller.elim .inl fun hoperator => .inr (.inr hoperator)
    refine Kept.of_nft (fun _ _ _ _ hold => hold) ?_
    intro hg other borrower hc
    simp only [Function.update_of_ne (ne_of_mayMove hmove hg other borrower hc)]
    exact ⟨hc.owner, hc.unapproved⟩
  | setApprovalForAll caller nftAsset operator approved =>
    obtain ⟨nft, hnft, rfl⟩ := map_eq_ok.mp h
    obtain ⟨-, rfl⟩ := ERC721.setApprovalForAll_eq_ok.mp hnft
    apply Kept.of_nft
    · intro owner operator' howner _ hold
      have hne : owner ≠ .account caller := by
        rintro rfl
        cases howner
      simp only [Function.update_of_ne hne]
      exact hold
    · exact fun _ _ _ hc => ⟨hc.owner, hc.unapproved⟩
  | mintNFT nftAsset recipient tokenId =>
    obtain ⟨nft, hnft, rfl⟩ := map_eq_ok.mp h
    obtain ⟨-, hfree, rfl⟩ := ERC721.mint_eq_ok.mp hnft
    refine Kept.of_nft (fun _ _ _ _ hold => hold) ?_
    intro _ other borrower hc
    have hne : other ≠ tokenId := by
      rintro rfl
      rw [hc.owner] at hfree
      cases hfree
    simp only [Function.update_of_ne hne]
    exact ⟨hc.owner, hc.unapproved⟩
  | burnNFT caller nftAsset tokenId =>
    obtain ⟨nft, hnft, rfl⟩ := map_eq_ok.mp h
    obtain ⟨-, hmove, rfl⟩ := ERC721.burn_eq_ok.mp hnft
    exact Kept.of_given (ne_of_mayMove hmove)
  | mintCNFT caller nftAsset recipient tokenId =>
    obtain ⟨asset, -, h⟩ := bind_eq_ok.mp h
    obtain ⟨⟨nft, cNFT⟩, hmint, rfl⟩ := bind_pure_eq_ok.mp h
    obtain ⟨-, hfree, -, -, -, -, -, rfl, rfl⟩ := CNFT.mint_eq_ok.mp hmint
    refine Kept.of_collection (fun _ _ _ _ hold => hold) ?_
    intro _ other borrower hc
    have hne : other ≠ tokenId := by
      rintro rfl
      exact hc.borrower_ne (hc.receipt.symm.trans hfree)
    obtain ⟨howners, happrovals⟩ := given_of_ne (s.erc721 asset) (a := .cNFT asset) hne
    simp only [howners, happrovals, Function.update_of_ne hne]
    exact ⟨⟨hc.owner, hc.unapproved⟩, hc.receipt, hc.minter⟩
  | burnCNFT caller nftAsset tokenId =>
    obtain ⟨asset, -, h⟩ := bind_eq_ok.mp h
    obtain ⟨⟨nft, cNFT⟩, hburn, rfl⟩ := bind_pure_eq_ok.mp h
    obtain ⟨-, -, hminter, -, -, -, rfl, rfl⟩ := CNFT.burn_eq_ok.mp hburn
    refine Kept.of_collection (fun _ _ _ _ hold => hold) ?_
    intro _ other borrower hc
    have hne : other ≠ tokenId := by
      rintro rfl
      rw [hc.minter] at hminter
      cases hminter
    obtain ⟨howners, happrovals⟩ := given_of_ne (s.erc721 asset) (a := .account caller) hne
    simp only [howners, happrovals, Function.update_of_ne hne]
    exact ⟨⟨hc.owner, hc.unapproved⟩, hc.receipt, hc.minter⟩

/-! ### Time, prices and administration -/

theorem WorldEvent.kept {event : WorldEvent} (h : event.run s = .ok s') : Kept s s' := by
  have hsame : s'.pool = s.pool ∧ s'.cNFTProxys = s.cNFTProxys ∧ s'.loanStore = s.loanStore ∧
      s'.debtTokens = s.debtTokens ∧ s'.erc20 = s.erc20 ∧ s'.erc721 = s.erc721 ∧
        s'.cNFTs = s.cNFTs := by
    cases event with
    | deployInterestRate n optimal base slope1 slope2 =>
      obtain ⟨_, -, h⟩ := bind_eq_ok.mp h
      obtain ⟨_, -, h⟩ := bind_eq_ok.mp h
      obtain rfl := pure_eq_ok.mp h
      exact ⟨rfl, rfl, rfl, rfl, rfl, rfl, rfl⟩
    | _ =>
      obtain rfl := pure_eq_ok.mp h
      exact ⟨rfl, rfl, rfl, rfl, rfl, rfl, rfl⟩
  obtain ⟨hpool, hproxys, hloan, hdebts, herc20, herc721, hcNFTs⟩ := hsame
  refine Kept.of_same_tokens hloan (fun asset => by rw [hdebts]) (fun asset => by rw [hpool]; exact id)
    ?_ herc20 herc721 hcNFTs
  intro hw
  exact ⟨by rw [hpool]; exact hw.reserve, by rw [hpool]; exact hw.nft, by rw [hproxys]; exact hw.proxy⟩

section Admin

variable {asset : Address} {reserve : ReserveData} {nft : NftData} {pool : LendPoolStorage}

theorem Kept.of_pool (hreserves : (∀ asset, ReserveWired asset (s.pool.reserves asset)) →
      ∀ asset, ReserveWired asset (pool.reserves asset))
    (hlisted : ∀ asset, (pool.reserves asset).cTokenAddress =
      (s.pool.reserves asset).cTokenAddress)
    (hnfts : ∀ asset, (pool.nfts asset).cNFTAddress = (s.pool.nfts asset).cNFTAddress) :
    Kept s { s with pool } := by
  refine Kept.of_same_tokens rfl (fun _ => rfl) (fun asset h => by rwa [hlisted]) ?_ rfl rfl rfl
  intro hw
  refine ⟨hreserves hw.reserve, ?_, hw.proxy⟩
  intro asset
  simp only [hnfts]
  exact hw.nft asset

theorem wired_setReserve {pool : LendPoolStorage}
    (hw : ∀ other, ReserveWired other (pool.reserves other)) (hreserve : ReserveWired asset reserve) :
    ∀ other, ReserveWired other ((pool.setReserve asset reserve).reserves other) := by
  intro other
  rw [LendPoolStorage.setReserve_reserves]
  by_cases hother : other = asset
  · subst hother
    rw [Function.update_self]
    exact hreserve
  · rw [Function.update_of_ne hother]
    exact hw other

theorem setReserve_cTokenAddress {pool : LendPoolStorage}
    (h : reserve.cTokenAddress = (pool.reserves asset).cTokenAddress) (other : Address) :
    ((pool.setReserve asset reserve).reserves other).cTokenAddress =
      (pool.reserves other).cTokenAddress := by
  rw [LendPoolStorage.setReserve_reserves]
  by_cases hother : other = asset
  · subst hother
    rw [Function.update_self, h]
  · rw [Function.update_of_ne hother]

theorem kept_setReserve
    (h : ReserveWired asset (s.pool.reserves asset) → ReserveWired asset reserve)
    (hcToken : reserve.cTokenAddress = (s.pool.reserves asset).cTokenAddress) :
    Kept s { s with pool := s.pool.setReserve asset reserve } :=
  Kept.of_pool (fun hw => wired_setReserve hw (h (hw asset))) (setReserve_cTokenAddress hcToken)
    fun _ => rfl

theorem kept_setNft (h : nft.cNFTAddress = (s.pool.nfts asset).cNFTAddress) :
    Kept s { s with pool := s.pool.setNft asset nft } := by
  refine Kept.of_pool id (fun _ => rfl) ?_
  intro other
  by_cases hother : other = asset
  · subst hother
    simp [LendPoolStorage.setNft, h]
  · simp [LendPoolStorage.setNft, hother]

theorem modifyReserve_kept {change : ReserveConfigurationMap → Except Revert ReserveConfigurationMap}
    (h : LendPoolConfigurator.modifyReserve change s asset = .ok s') : Kept s s' := by
  obtain ⟨_, -, rfl⟩ := bind_pure_eq_ok.mp h
  exact kept_setReserve (fun hw => hw.reconfigured _ _ _) rfl

theorem modifyNft_kept {change : NftConfigurationMap → Except Revert NftConfigurationMap}
    (h : LendPoolConfigurator.modifyNft change s asset = .ok s') : Kept s s' := by
  obtain ⟨_, -, rfl⟩ := bind_pure_eq_ok.mp h
  exact kept_setNft rfl

theorem addReserveToList_spec {pool' : LendPoolStorage}
    (h : LendPool.addReserveToList pool asset = .ok pool') :
    pool'.nfts = pool.nfts ∧ ∃ id,
      pool'.reserves = Function.update pool.reserves asset { pool.reserves asset with id } := by
  simp only [LendPool.addReserveToList, bind_eq_ok, require_eq_ok, exists_const] at h
  obtain ⟨-, h⟩ := h
  split at h
  · obtain rfl := pure_eq_ok.mp h
    exact ⟨rfl, _, (Function.update_eq_self asset pool.reserves).symm⟩
  · obtain rfl := pure_eq_ok.mp h
    exact ⟨rfl, _, rfl⟩

theorem addNftToList_spec {pool' : LendPoolStorage}
    (h : LendPool.addNftToList pool asset = .ok pool') :
    pool'.reserves = pool.reserves ∧ ∃ id,
      pool'.nfts = Function.update pool.nfts asset { pool.nfts asset with id } := by
  simp only [LendPool.addNftToList, bind_eq_ok, require_eq_ok, exists_const] at h
  obtain ⟨-, h⟩ := h
  split at h
  · obtain rfl := pure_eq_ok.mp h
    exact ⟨rfl, _, (Function.update_eq_self asset pool.nfts).symm⟩
  · obtain rfl := pure_eq_ok.mp h
    exact ⟨rfl, _, rfl⟩

/-- The entry of a reserve that has just been listed: switched on, both indexes at one ray. -/
def ReserveData.initialized (reserve : ReserveData) (asset interestRateAddress : Address)
    (config : ReserveConfigurationMap) (id : Nat) : ReserveData :=
  { reserve with
    configuration := (config.setActive true).setFrozen false
    liquidityIndex := RAY
    variableBorrowIndex := RAY
    cTokenAddress := .cToken asset
    debtTokenAddress := .debtToken asset
    interestRateAddress
    id }

theorem executeInitReserve_spec {input : InitReserveInput}
    (h : ConfiguratorLogic.executeInitReserve s input = .ok s') :
    (s.pool.reserves input.underlyingAsset).cTokenAddress = .zero ∧ ∃ pool config id,
      pool.nfts = s.pool.nfts ∧
        pool.reserves = Function.update s.pool.reserves input.underlyingAsset
          ((s.pool.reserves input.underlyingAsset).initialized input.underlyingAsset
            input.interestRateAddress config id) ∧
          s' = { s with
            pool
            cTokens := Function.update s.cTokens input.underlyingAsset
              { s.cTokens input.underlyingAsset with treasury := input.treasury } } := by
  simp only [ConfiguratorLogic.executeInitReserve, LendPool.initReserve, bind_eq_ok, require_eq_ok,
    exists_const, ReserveLogic.init_eq_ok, pure_eq_ok] at h
  obtain ⟨_, ⟨-, _, ⟨hfresh, rfl⟩, pool, hpool, rfl⟩, config, -, rfl⟩ := h
  obtain ⟨hnfts, id, hreserves⟩ := addReserveToList_spec hpool
  refine ⟨hfresh, _, config, id, ?_, ?_, rfl⟩
  · exact hnfts
  · simp only [LendPoolStorage.setReserve_reserves, hreserves, Function.update_self,
      Function.update_idem]
    rfl

theorem executeInitNft_spec (h : ConfiguratorLogic.executeInitNft s asset = .ok s') :
    s.cNFTProxys asset ≠ .zero ∧ ∃ pool id collection,
      pool.reserves = s.pool.reserves ∧
        pool.nfts = Function.update s.pool.nfts asset
          { configuration := ((s.pool.nfts asset).configuration.setActive true).setFrozen false
            cNFTAddress := s.cNFTProxys asset
            id } ∧
          ((s.erc721 asset).setApprovalForAll .lendPool .lendPoolLoan true >>= fun approved =>
              approved.setApprovalForAll .lendPoolLoan (s.cNFTProxys asset) true) =
            .ok collection ∧
            s' = { s with pool, erc721 := Function.update s.erc721 asset collection } := by
  simp only [ConfiguratorLogic.executeInitNft, LendPool.initNft, LendPool.initNftData, bind_eq_ok,
    require_eq_ok, exists_const, pure_eq_ok] at h
  obtain ⟨hproxy, _, ⟨-, _, ⟨-, rfl⟩, pool, hpool, approved, happroved, collection, hcollection,
    rfl⟩, rfl⟩ := h
  obtain ⟨hreserves, id, hnfts⟩ := addNftToList_spec hpool
  refine ⟨hproxy, pool.setNft asset { pool.nfts asset with
    configuration := ((pool.nfts asset).configuration.setActive true).setFrozen false }, id,
    collection, hreserves, ?_, bind_eq_ok.mpr ⟨approved, happroved, hcollection⟩, rfl⟩
  simp only [LendPoolStorage.setNft, hnfts, Function.update_self, Function.update_idem]

theorem executeInitReserve_kept {input : InitReserveInput}
    (h : ConfiguratorLogic.executeInitReserve s input = .ok s') : Kept s s' := by
  obtain ⟨-, pool, config, id, hnfts, hreserves, rfl⟩ := executeInitReserve_spec h
  refine Kept.of_same_tokens rfl (fun _ => rfl) ?_ ?_ rfl rfl rfl
  · intro other hne
    change (pool.reserves other).cTokenAddress ≠ .zero
    rw [hreserves]
    by_cases hother : other = input.underlyingAsset
    · subst hother
      rw [Function.update_self]
      exact fun hzero => by cases hzero
    · rw [Function.update_of_ne hother]
      exact hne
  · intro hw
    refine ⟨?_, ?_, hw.proxy⟩
    · intro other
      change ReserveWired other (pool.reserves other)
      rw [hreserves]
      by_cases hother : other = input.underlyingAsset
      · subst hother
        rw [Function.update_self]
        exact ⟨(hw.reserve input.underlyingAsset).clock, .inr
          ⟨rfl, rfl, le_rfl, le_rfl, RAY_le_uint128, RAY_le_uint128⟩⟩
      · rw [Function.update_of_ne hother]
        exact hw.reserve other
    · change ∀ other, (pool.nfts other).cNFTAddress = .zero ∨ _
      rw [hnfts]
      exact hw.nft

private theorem approvals_of_ne (approvals : Address → Address → Bool)
    {owner owner' operator operator' : Address} {approved : Bool} (hne : operator ≠ operator') :
    Function.update approvals owner' (Function.update (approvals owner') operator' approved) owner
      operator = approvals owner operator := by
  by_cases howner : owner = owner'
  · subst howner
    simp [hne]
  · simp [howner]

theorem executeInitNft_kept (h : ConfiguratorLogic.executeInitNft s asset = .ok s') :
    Kept s s' := by
  obtain ⟨hproxy, pool, id, _, hreserves, hnfts, hcollection, rfl⟩ := executeInitNft_spec h
  obtain ⟨_, happroved, hcollection⟩ := bind_eq_ok.mp hcollection
  obtain ⟨-, rfl⟩ := ERC721.setApprovalForAll_eq_ok.mp happroved
  obtain ⟨-, rfl⟩ := ERC721.setApprovalForAll_eq_ok.mp hcollection
  refine ⟨rfl, fun _ => rfl, ?_, ?_, fun _ _ => le_rfl, ?_⟩
  · intro other hne
    change (pool.reserves other).cTokenAddress ≠ .zero
    rw [hreserves]
    exact hne
  · intro hs
    have hcNFT := (hs.wired.proxy asset).resolve_left hproxy
    have hwired : Wired { s with pool } := by
      refine ⟨?_, ?_, hs.wired.proxy⟩
      · change ∀ other, ReserveWired other (pool.reserves other)
        rw [hreserves]
        exact hs.wired.reserve
      · intro other
        change (pool.nfts other).cNFTAddress = .zero ∨ (pool.nfts other).cNFTAddress = .cNFT other
        rw [hnfts]
        by_cases hother : other = asset
        · subst hother
          rw [Function.update_self]
          exact .inr hcNFT
        · rw [Function.update_of_ne hother]
          exact hs.wired.nft other
    refine ⟨⟨hwired.reserve, hwired.nft, hwired.proxy⟩, hs.guarded.allowances, ?_⟩
    intro other owner operator howner hoperator
    have hold := hs.guarded.operators other owner operator howner hoperator
    by_cases hother : other = asset
    · subst hother
      have hloan : operator ≠ .lendPoolLoan := by
        rintro rfl
        cases hoperator
      have hwrapper : operator ≠ s.cNFTProxys other := by
        rw [hcNFT]
        rintro rfl
        cases hoperator
      simp only [Function.update_self]
      rw [approvals_of_ne _ hwrapper, approvals_of_ne _ hloan]
      exact hold
    · simpa [LendPool.setNftConfiguration, hother] using hold
  · intro _ other tokenId borrower hc
    refine ⟨?_, ?_, hc.receipt, hc.borrower_ne, hc.minter⟩
    · by_cases hother : other = asset
      · subst hother
        simpa [LendPool.setNftConfiguration] using hc.owner
      · simpa [LendPool.setNftConfiguration, hother] using hc.owner
    · by_cases hother : other = asset
      · subst hother
        simpa [LendPool.setNftConfiguration] using hc.unapproved
      · simpa [LendPool.setNftConfiguration, hother] using hc.unapproved

theorem setReserveInterestRateAddress_kept (assets : List Address) (rateAddress : Address)
    (s : State) :
    Kept s (LendPoolConfigurator.setReserveInterestRateAddress s assets rateAddress) := by
  induction assets generalizing s with
  | nil => exact Kept.refl s
  | cons asset assets ih =>
    have hfirst : Kept s (LendPool.setReserveInterestRateAddress s asset rateAddress) :=
      kept_setReserve (fun hw => hw.reconfigured _ _ _) rfl
    exact hfirst.trans (ih _)

private theorem checked_kept {check : Except Revert Unit} {program : Except Revert State} {flag : Bool}
    (hprogram : program = .ok s' → Kept s s')
    (h : ((if flag = false then check else pure ()) >>= fun _ => program) = .ok s') :
    Kept s s' := by
  obtain ⟨_, -, h⟩ := bind_eq_ok.mp h
  exact hprogram h

theorem AdminCall.kept {call : AdminCall} (h : call.run s = .ok s') : Kept s s' := by
  cases call with
  | batchInitReserve input =>
    obtain ⟨_, -, h⟩ := bind_eq_ok.mp h
    exact Kept.foldlM (fun _ _ _ => executeInitReserve_kept) h
  | batchInitNft input =>
    obtain ⟨_, -, h⟩ := bind_eq_ok.mp h
    exact Kept.foldlM (fun _ _ _ => executeInitNft_kept) h
  | setBorrowingFlagOnReserve assets flag => exact Kept.foldlM (fun _ _ _ => modifyReserve_kept) h
  | setActiveFlagOnReserve assets flag =>
    exact Kept.foldlM (fun _ _ _ => checked_kept modifyReserve_kept) h
  | setFreezeFlagOnReserve assets flag => exact Kept.foldlM (fun _ _ _ => modifyReserve_kept) h
  | setReserveFactor assets reserveFactor =>
    exact Kept.foldlM (fun _ _ _ => modifyReserve_kept) h
  | setReserveInterestRateAddress assets rateAddress =>
    obtain rfl := pure_eq_ok.mp h
    exact setReserveInterestRateAddress_kept assets rateAddress s
  | batchConfigReserve inputs => exact Kept.foldlM (fun _ _ _ => modifyReserve_kept) h
  | setActiveFlagOnNft assets flag =>
    exact Kept.foldlM (fun _ _ _ => checked_kept modifyNft_kept) h
  | setFreezeFlagOnNft assets flag => exact Kept.foldlM (fun _ _ _ => modifyNft_kept) h
  | configureNftAsCollateral assets ltv liquidationThreshold liquidationBonus =>
    exact Kept.foldlM (fun _ _ _ => modifyNft_kept) h
  | configureNftAsBuyItNow assets redeemDuration buyItNowDuration redeemFine =>
    exact Kept.foldlM (fun _ _ _ => modifyNft_kept) h
  | setNftRedeemThreshold assets redeemThreshold =>
    exact Kept.foldlM (fun _ _ _ => modifyNft_kept) h
  | setNftMinBuyItNowFine assets minBuyItNowFine =>
    exact Kept.foldlM (fun _ _ _ => modifyNft_kept) h
  | batchConfigNft inputs => exact Kept.foldlM (fun _ _ _ => modifyNft_kept) h
  | setMaxNumberOfReserves newVal =>
    obtain ⟨_, -, h⟩ := bind_eq_ok.mp h
    obtain rfl := pure_eq_ok.mp h
    exact Kept.of_pool id (fun _ => rfl) fun _ => rfl
  | setMaxNumberOfNfts newVal =>
    obtain ⟨_, -, h⟩ := bind_eq_ok.mp h
    obtain rfl := pure_eq_ok.mp h
    exact Kept.of_pool id (fun _ => rfl) fun _ => rfl
  | setPoolPause val =>
    obtain rfl := pure_eq_ok.mp h
    exact Kept.of_pool id (fun _ => rfl) fun _ => rfl

end Admin

end Confetti

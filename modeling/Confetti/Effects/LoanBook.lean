import Confetti.Effects.Payment
import Confetti.Effects.PoolStep

/-! The three ways in which an operation changes the loan book, each with what it
does to the NFT behind the loan and to its receipt. -/
namespace Confetti
open Outcome

def State.loanOf (s : State) (nftAsset : Address) (nftTokenId : Nat) : LoanData :=
  s.loanStore.loans (s.loanStore.nftToLoanIds nftAsset nftTokenId)

def Filed (s : State) : Prop := ∀ nftAsset nftTokenId,
  s.loanStore.nftToLoanIds nftAsset nftTokenId ≠ 0 →
    (s.loanOf nftAsset nftTokenId).nftAsset = nftAsset ∧
      (s.loanOf nftAsset nftTokenId).nftTokenId = nftTokenId

theorem getCollateralLoanId_eq (s : State) (nftAsset : Address) (nftTokenId : Nat) :
    LendPoolLoan.getCollateralLoanId s nftAsset nftTokenId =
      s.loanStore.nftToLoanIds nftAsset nftTokenId := rfl

theorem getLoan_eq_loanOf (s : State) (nftAsset : Address) (nftTokenId : Nat) :
    LendPoolLoan.getLoan s (s.loanStore.nftToLoanIds nftAsset nftTokenId) =
      s.loanOf nftAsset nftTokenId := rfl

/-- A loan was opened, and the cNFT contract holds its NFT. -/
structure LoanOpened (s : State) (loan : LoanData) (s' : State) : Prop where
  unregistered : s.loanStore.nftToLoanIds loan.nftAsset loan.nftTokenId = 0
  borrower : loan.borrower ≠ .zero
  unwrapped : (s.cNFTs loan.nftAsset).owners loan.nftTokenId = .zero
  loanStore : s'.loanStore = s.loanStore.opened loan
  erc721 : s'.erc721 = Function.update s.erc721 loan.nftAsset
    ((s.erc721 loan.nftAsset).given (.cNFT loan.nftAsset) loan.nftTokenId)
  cNFTs : s'.cNFTs = Function.update s.cNFTs loan.nftAsset
    ⟨Function.update (s.cNFTs loan.nftAsset).owners loan.nftTokenId loan.borrower,
      Function.update (s.cNFTs loan.nftAsset).minters loan.nftTokenId .lendPoolLoan⟩

structure LoanReplaced (s : State) (loanId : Nat) (loan : LoanData) (s' : State) : Prop where
  loanStore : s'.loanStore = s.loanStore.withLoan loanId loan
  erc721 : s'.erc721 = s.erc721
  cNFTs : s'.cNFTs = s.cNFTs

theorem LoanReplaced.loanOf {s s' : State} {nftAsset : Address} {nftTokenId : Nat}
    {loan : LoanData}
    (h : LoanReplaced s (s.loanStore.nftToLoanIds nftAsset nftTokenId) loan s') :
    s'.loanOf nftAsset nftTokenId = loan := by
  unfold State.loanOf
  rw [h.loanStore, LoanStore.withLoan_loans]
  exact Function.update_self _ _ _

/-- A loan has ended, and somebody received its NFT. -/
structure LoanClosed (s : State) (loanId : Nat) (ended : LoanData) (receiver : Address)
    (s' : State) : Prop where
  releasable : LendPoolLoan.Releasable s ended
  receiver_ne : receiver ≠ .zero
  accepts : s.acceptsERC721 receiver = true
  loanStore : s'.loanStore = s.loanStore.closed loanId ended
  erc721 : s'.erc721 = Function.update s.erc721 ended.nftAsset
    ((s.erc721 ended.nftAsset).given receiver ended.nftTokenId)
  cNFTs : s'.cNFTs = Function.update s.cNFTs ended.nftAsset
    ⟨Function.update (s.cNFTs ended.nftAsset).owners ended.nftTokenId .zero,
      Function.update (s.cNFTs ended.nftAsset).minters ended.nftTokenId .zero⟩

structure BookUnchanged (s s' : State) : Prop where
  loanStore : s'.loanStore = s.loanStore
  erc721 : s'.erc721 = s.erc721
  cNFTs : s'.cNFTs = s.cNFTs

/-- Only the loan book and the two NFT ledgers differ. -/
def BookFrame (s s' : State) : Prop :=
  ∃ loanStore erc721 cNFTs, s' = { s with loanStore, erc721, cNFTs }

theorem BookFrame.refl (s : State) : BookFrame s s := ⟨_, _, _, rfl⟩

theorem BookFrame.trans {s s' s'' : State} (h : BookFrame s s') (h' : BookFrame s' s'') :
    BookFrame s s'' := by
  obtain ⟨_, _, _, rfl⟩ := h
  obtain ⟨loanStore, erc721, cNFTs, rfl⟩ := h'
  exact ⟨loanStore, erc721, cNFTs, rfl⟩

section Frames

variable {s s' : State} {nftAsset cNFTAddress caller sender recipient : Address}
  {loanId tokenId added taken borrowIndex : Nat}

theorem safeTransferNFT_frame
    (h : s.safeTransferNFT nftAsset caller sender recipient tokenId = .ok s') : BookFrame s s' := by
  obtain ⟨-, -, -, -, -, rfl⟩ := State.safeTransferNFT_eq_ok.mp h
  exact ⟨_, _, _, rfl⟩

theorem mintCNFT_frame (h : s.mintCNFT cNFTAddress caller recipient tokenId = .ok s') :
    BookFrame s s' := by
  obtain ⟨_, -, h⟩ := bind_eq_ok.mp h
  obtain ⟨_, -, rfl⟩ := bind_pure_eq_ok.mp h
  exact ⟨_, _, _, rfl⟩

theorem burnCNFT_frame (h : s.burnCNFT cNFTAddress caller tokenId = .ok s') :
    BookFrame s s' := by
  obtain ⟨_, -, h⟩ := bind_eq_ok.mp h
  obtain ⟨_, -, rfl⟩ := bind_pure_eq_ok.mp h
  exact ⟨_, _, _, rfl⟩

theorem updateLoan_frame (h : LendPoolLoan.updateLoan s loanId added taken borrowIndex = .ok s') :
    BookFrame s s' := by
  obtain ⟨_, -, h⟩ := bind_eq_ok.mp h
  obtain ⟨_, -, h⟩ := bind_eq_ok.mp h
  obtain ⟨_, -, rfl⟩ := bind_pure_eq_ok.mp h
  exact ⟨_, _, _, rfl⟩

theorem createLoan_frame {reserveAsset : Address} {amount : Nat}
    (h : LendPoolLoan.createLoan s recipient nftAsset tokenId cNFTAddress reserveAsset amount
      borrowIndex = .ok s') : BookFrame s s' := by
  simp only [LendPoolLoan.createLoan, bind_eq_ok, pure_eq_ok] at h
  obtain ⟨_, -, _, -, m, htransfer, m', hmint, _, -, _, -, rfl⟩ := h
  have hmoved := (safeTransferNFT_frame htransfer).trans (mintCNFT_frame hmint)
  obtain ⟨_, _, _, rfl⟩ := hmoved
  exact ⟨_, _, _, rfl⟩

theorem repayLoan_frame (h : LendPoolLoan.repayLoan s loanId cNFTAddress = .ok s') :
    BookFrame s s' := by
  simp only [LendPoolLoan.repayLoan, LendPoolLoan.releaseCollateral, bind_eq_ok] at h
  obtain ⟨_, -, _, -, _, -, m, hburn, htransfer⟩ := h
  have hmoved := (burnCNFT_frame hburn).trans (safeTransferNFT_frame htransfer)
  obtain ⟨_, _, _, rfl⟩ := hmoved
  exact ⟨_, _, _, rfl⟩

end Frames

@[simp] theorem ERC721.given_given (self : ERC721) (a b : Address) (tokenId : Nat) :
    (self.given a tokenId).given b tokenId = self.given b tokenId := by
  simp [ERC721.given]

theorem acceptsERC721_congr {s s' : State} (h : s'.accounts = s.accounts) (a : Address) :
    s'.acceptsERC721 a = s.acceptsERC721 a := by
  unfold State.acceptsERC721
  cases a <;> simp only [h]

theorem hand_on_eq_ok (s : State) (loanId : Nat) (ended : LoanData) {s₁ s' : State}
    {receiver : Address} {tokenId : Nat}
    (herc721 : s₁.erc721 = (LendPoolLoan.released s loanId ended).erc721)
    (haccounts : s₁.accounts = s.accounts) (htoken : ended.nftTokenId = tokenId) :
    s₁.safeTransferNFT ended.nftAsset .lendPool .lendPool receiver tokenId = .ok s' ↔
      receiver ≠ .zero ∧ s.acceptsERC721 receiver = true ∧
        s' = { s₁ with
          erc721 := Function.update s.erc721 ended.nftAsset
            ((s.erc721 ended.nftAsset).given receiver ended.nftTokenId) } := by
  subst htoken
  have howner : (s₁.erc721 ended.nftAsset).owners ended.nftTokenId = .lendPool := by
    simp [herc721, LendPoolLoan.released, ERC721.given]
  have hgiven : Function.update s₁.erc721 ended.nftAsset
      ((s₁.erc721 ended.nftAsset).given receiver ended.nftTokenId) =
        Function.update s.erc721 ended.nftAsset
          ((s.erc721 ended.nftAsset).given receiver ended.nftTokenId) := by
    simp [herc721, LendPoolLoan.released]
  rw [State.safeTransferNFT_eq_ok, acceptsERC721_congr haccounts, hgiven]
  constructor
  · intro h
    exact ⟨h.2.2.2.1, h.2.2.2.2.1, h.2.2.2.2.2⟩
  · intro h
    exact ⟨howner, by decide, .inl howner.symm, h.1, h.2.1, h.2.2⟩

/-- The rate strategy of a reserve accepts a payment at a debt index that leaves a
scaled debt supply behind. -/
def RatesAccept (s : State) (asset : Address) (vi added supply liquidityRate variableRate : Nat) :
    Prop :=
  ∃ debt interestRate, rayMul supply vi = .ok debt ∧
    s.interestRates (s.pool.reserves asset).interestRateAddress = some interestRate ∧
      interestRate.calculateInterestRatesAfter ((s.erc20 asset).balances (.cToken asset)) added 0
          debt (s.pool.reserves asset).configuration.getReserveFactor =
        .ok (liquidityRate, variableRate) ∧
        liquidityRate ≤ Uint128.max ∧ variableRate ≤ Uint128.max

variable {s s₂ s₃ : State} {asset borrower : Address} {li vi amount : Nat}
  {cTokens : Address → CToken} {debtTokens : Address → DebtToken}

/-- The middle of every payment: the debt is burned at the new index, then the
rates follow. -/
theorem settle_iff (ha : Accrual s asset li vi cTokens)
    (hframe : BookFrame (s.accrued asset li vi cTokens) s₂) :
    (∃ debtTokens, DebtToken.burn s₂.debtTokens (.debtToken asset) borrower amount vi =
        .ok debtTokens ∧
      ReserveLogic.updateInterestRates { s₂ with debtTokens } asset (.cToken asset) amount 0 =
        .ok s₃) ↔
    ∃ scaled liquidityRate variableRate, rayDiv amount vi = .ok scaled ∧ scaled ≠ 0 ∧
      borrower ≠ .zero ∧
        (scaled ≤ (s.debtTokens asset).ledger.balances borrower ∧
          scaled ≤ (s.debtTokens asset).ledger.totalSupply) ∧
          RatesAccept s asset vi amount ((s.debtTokens asset).ledger.totalSupply - scaled)
            liquidityRate variableRate ∧
            s₃ = { s₂ with
              pool := s.pool.setReserve asset
                (((s.pool.reserves asset).accrued li vi s.timestamp).withRates liquidityRate
                  variableRate)
              debtTokens := Function.update s.debtTokens asset
                ((s.debtTokens asset).debited borrower scaled) } := by
  obtain ⟨loanStore, erc721, cNFTs, rfl⟩ := hframe
  have hrates : ∀ self : DebtToken, ReserveLogic.updateInterestRates
      { s.accrued asset li vi cTokens with
        loanStore
        erc721
        cNFTs
        debtTokens := Function.update s.debtTokens asset self } asset (.cToken asset) amount 0 =
        .ok s₃ ↔
      ∃ lr vr, RatesAccept s asset vi amount self.ledger.totalSupply lr vr ∧
        s₃ = { s.accrued asset li vi cTokens with
          loanStore
          erc721
          cNFTs
          pool := s.pool.setReserve asset
            (((s.pool.reserves asset).accrued li vi s.timestamp).withRates lr vr)
          debtTokens := Function.update s.debtTokens asset self } := by
    intro self
    rw [ReserveLogic.updateInterestRates_eq_ok]
    simp only [ha.accrued_debtToken, accrued_variableBorrowIndex, accrued_configuration,
      accrued_interestRateAddress, Address.debtToken.injEq, RatesAccept, accrued_withRates]
    constructor
    · rintro ⟨_, debt, interestRate, ⟨lr, vr⟩, rfl, hdebt, hrate, hnew, hlr, hvr, rfl⟩
      rw [Function.update_self] at hdebt
      exact ⟨lr, vr, ⟨debt, interestRate, hdebt, hrate, hnew, hlr, hvr⟩, rfl⟩
    · rintro ⟨lr, vr, ⟨debt, interestRate, hdebt, hrate, hnew, hlr, hvr⟩, rfl⟩
      refine ⟨asset, debt, interestRate, (lr, vr), rfl, ?_, hrate, hnew, hlr, hvr, rfl⟩
      rw [Function.update_self]
      exact hdebt
  constructor
  · rintro ⟨_, hburn, hnew⟩
    obtain ⟨debtAsset, scaled, hasset, hscaled, hne, hborrower, hbalance, hsupply, rfl⟩ :=
      DebtToken.burn_eq_ok.mp hburn
    obtain rfl : asset = debtAsset := Address.debtToken.inj hasset
    obtain ⟨lr, vr, haccept, rfl⟩ := (hrates _).mp hnew
    exact ⟨scaled, lr, vr, hscaled, hne, hborrower, ⟨hbalance, hsupply⟩, haccept, rfl⟩
  · rintro ⟨scaled, lr, vr, hscaled, hne, hborrower, ⟨hbalance, hsupply⟩, haccept, rfl⟩
    exact ⟨_, DebtToken.burn_eq_ok.mpr
      ⟨asset, scaled, rfl, hscaled, hne, hborrower, hbalance, hsupply, rfl⟩,
      (hrates _).mpr ⟨lr, vr, haccept, rfl⟩⟩

end Confetti

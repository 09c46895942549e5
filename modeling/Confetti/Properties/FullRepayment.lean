import Confetti.Properties.SaleExit

/-! Whether an active loan can be paid back. Anybody may do it, and the NFT always goes to the
borrower. -/
namespace Confetti
open Outcome TransitionSystem

variable {s s₀ : State} {nftAsset : Address} {tokenId n : Nat}
  {history : List (Transition State Transaction)}

/-- A call of the account closes the loan of an NFT and hands the NFT to its borrower. -/
def RepaidBy (s : State) (n : Nat) (nftAsset : Address) (nftTokenId : Nat) : Prop :=
  ∃ amount s' paid,
    LendPool.repay s (.account n) nftAsset nftTokenId amount = .ok (s', paid, true) ∧
      s'.loanStore.nftToLoanIds nftAsset nftTokenId = 0 ∧
        (s'.erc721 nftAsset).owners nftTokenId = (s.loanOf nftAsset nftTokenId).borrower

/-- A loan that is not on sale, in a pool that runs, of a pair that is switched on. -/
structure LoanOpen (s : State) (loan : LoanData) : Prop where
  active : loan.state = .Active
  unpaused : s.pool.paused = false
  pair : ValidationLogic.BothActive (s.pool.reserves loan.reserveAsset)
    (s.pool.nfts loan.nftAsset)

/-- The new indexes, the debt and the rates after it is paid can be computed, and the debt is
not gone by rounding. -/
def RepaymentFits (s : State) (loan : LoanData) : Prop :=
  ∃ li vi cTokens debt lr vr, Accrual s loan.reserveAsset li vi cTokens ∧
    rayMul loan.scaledAmount vi = .ok debt ∧ rayDiv debt vi = .ok loan.scaledAmount ∧ 0 < debt ∧
      RatesAccept s loan.reserveAsset vi debt
        ((s.debtTokens loan.reserveAsset).ledger.totalSupply - loan.scaledAmount) lr vr

def CanPay (s : State) (loan : LoanData) (n : Nat) : Prop :=
  ∀ vi, s.nextBorrowIndex loan.reserveAsset = .ok vi →
    ∀ debt, rayMul loan.scaledAmount vi = .ok debt →
      debt ≤ (s.erc20 loan.reserveAsset).balances (.account n) ∧
        debt ≤ (s.erc20 loan.reserveAsset).allowances (.account n) .lendPool

private def repayment (n : Nat) (nftAsset : Address) (tokenId amount : Nat) :
    ExecuteRepayParams where
  initiator := .account n
  nftAsset
  nftTokenId := tokenId
  amount

/-- Everything a repayment of the whole debt has to get through. -/
structure FullRepayment (s : State) (p : ExecuteRepayParams) (loan : LoanData) (li vi : Nat)
    (cTokens : Address → CToken) (debt lr vr : Nat) (token : ERC20) : Prop where
  registered : s.loanStore.nftToLoanIds p.nftAsset p.nftTokenId ≠ 0
  active : loan.state = .Active
  pair : ValidationLogic.BothActive (s.pool.reserves loan.reserveAsset)
    (s.pool.nfts loan.nftAsset)
  accrual : Accrual s loan.reserveAsset li vi cTokens
  debt_eq : rayMul loan.scaledAmount vi = .ok debt
  debt_pos : 0 < debt
  debt_le : debt ≤ p.amount
  releasable : LendPoolLoan.Releasable s loan
  scaled_eq : rayDiv debt vi = .ok loan.scaledAmount
  scaled_ne : loan.scaledAmount ≠ 0
  borrower : loan.borrower ≠ .zero
  burned : loan.scaledAmount ≤ (s.debtTokens loan.reserveAsset).ledger.balances loan.borrower ∧
    loan.scaledAmount ≤ (s.debtTokens loan.reserveAsset).ledger.totalSupply
  rates : RatesAccept s loan.reserveAsset vi debt
    ((s.debtTokens loan.reserveAsset).ledger.totalSupply - loan.scaledAmount) lr vr
  paid : ERC20.transferFrom loan.reserveAsset (s.erc20 loan.reserveAsset) .lendPool p.initiator
    (.cToken loan.reserveAsset) debt = .ok token
  accepts : s.acceptsERC721 loan.borrower = true

section Repay

variable {s' : State} {p : ExecuteRepayParams} {paid : Nat}

theorem bothActive_accrued {asset : Address} {li vi : Nat} {cTokens : Address → CToken} :
    ValidationLogic.BothActive ((s.accrued asset li vi cTokens).pool.reserves asset)
        ((s.accrued asset li vi cTokens).pool.nfts nftAsset) ↔
      ValidationLogic.BothActive (s.pool.reserves asset) (s.pool.nfts nftAsset) := by
  rw [accrued_reserve]
  exact Iff.rfl

def afterRepayment (s : State) (p : ExecuteRepayParams) (loan : LoanData) (li vi : Nat)
    (cTokens : Address → CToken) (debt lr vr : Nat) (token : ERC20) : State :=
  { s with
    pool := s.pool.setReserve loan.reserveAsset
      (((s.pool.reserves loan.reserveAsset).accrued li vi s.timestamp).withRates lr vr)
    cTokens
    loanStore := s.loanStore.closed (s.loanStore.nftToLoanIds p.nftAsset p.nftTokenId)
      { loan with state := .Repaid }
    debtTokens := Function.update s.debtTokens loan.reserveAsset
      ((s.debtTokens loan.reserveAsset).debited loan.borrower loan.scaledAmount)
    erc20 := Function.update s.erc20 loan.reserveAsset token
    transfers := ⟨loan.reserveAsset, p.initiator, .cToken loan.reserveAsset, debt⟩ :: s.transfers
    erc721 := Function.update s.erc721 loan.nftAsset
      ((s.erc721 loan.nftAsset).given loan.borrower loan.nftTokenId)
    cNFTs := Function.update s.cNFTs loan.nftAsset
      ⟨Function.update (s.cNFTs loan.nftAsset).owners loan.nftTokenId .zero,
        Function.update (s.cNFTs loan.nftAsset).minters loan.nftTokenId .zero⟩ }

theorem repay_all_eq_ok (hw : Wired s) (hf : Filed s) :
    BorrowLogic.repay s p = .ok (s', paid, true) ↔ ∃ li vi cTokens debt lr vr token,
      FullRepayment s p (s.loanOf p.nftAsset p.nftTokenId) li vi cTokens debt lr vr token ∧
        s' = afterRepayment s p (s.loanOf p.nftAsset p.nftTokenId) li vi cTokens debt lr vr
          token ∧ paid = debt := by
  simp only [BorrowLogic.repay, bind_eq_ok, require_eq_ok, exists_const, updateState_iff hw]
  simp only [getCollateralLoanId_eq, getLoan_eq_loanOf]
  constructor
  · rintro ⟨hid, _, ⟨li, vi, cTokens, haccrual, rfl⟩, ⟨_, debt⟩, hdebt, _, hvalid, s₂, hbook,
      debtTokens, hburn, s₃, hrates, s₄, hcash, s₅, hgive, hpure⟩
    obtain ⟨-, htoken⟩ := hf p.nftAsset p.nftTokenId hid
    have hdebt : LendPoolLoan.borrowAmount (s.accrued _ li vi cTokens)
        (s.loanOf p.nftAsset p.nftTokenId) = .ok debt :=
      (LendPoolLoan.getLoanReserveBorrowAmount_eq_ok.mp hdebt).2
    rw [borrowAmount_accrued _ rfl] at hdebt
    obtain ⟨hpair, -, hpos, hactive⟩ := ValidationLogic.validateRepay_eq_ok.mp hvalid
    have hpart : ¬p.amount < debt := by
      intro hpart
      simp [hpart] at hpure
    simp only [accrued_variableBorrowIndex, haccrual.accrued_cToken, haccrual.accrued_debtToken]
      at hbook hburn hrates hcash
    simp only [hpart, decide_false, Bool.not_false, Bool.false_eq_true, if_false, if_true,
      pure_eq_ok, Prod.mk.injEq, and_true] at hbook hburn hrates hcash hgive hpure
    obtain ⟨rfl, rfl⟩ := hpure
    have hcNFT : ((s.accrued (s.loanOf p.nftAsset p.nftTokenId).reserveAsset li vi
        cTokens).pool.nfts (s.loanOf p.nftAsset p.nftTokenId).nftAsset).cNFTAddress =
      .cNFT (s.loanOf p.nftAsset p.nftTokenId).nftAsset := hw.nft_of_ne hpair.1
    rw [hcNFT] at hbook
    obtain ⟨-, hreleasable, rfl⟩ := LendPoolLoan.repayLoan_eq_ok.mp hbook
    obtain ⟨scaled, lr, vr, hscaled, hne, hborrower, hburned, haccept, rfl⟩ :=
      (settle_iff haccrual ⟨_, _, _, rfl⟩).mp ⟨_, hburn, hrates⟩
    obtain rfl : scaled = (s.loanOf p.nftAsset p.nftTokenId).scaledAmount :=
      rayDiv_of_rayMul haccrual.RAY_le hdebt hscaled
    obtain ⟨token, hpaid, rfl⟩ := State.safeTransferFrom_eq_ok.mp hcash
    obtain ⟨-, haccepts, rfl⟩ := (hand_on_eq_ok
      (s.accrued (s.loanOf p.nftAsset p.nftTokenId).reserveAsset li vi cTokens)
      (s.loanStore.nftToLoanIds p.nftAsset p.nftTokenId)
      { s.loanOf p.nftAsset p.nftTokenId with state := .Repaid } (by rfl) (by rfl) htoken).mp hgive
    exact ⟨li, vi, cTokens, debt, lr, vr, token,
      ⟨hid, hactive, bothActive_accrued.mp hpair, haccrual, hdebt, hpos, Nat.le_of_not_lt hpart,
        hreleasable, hscaled, hne, hborrower, hburned, haccept, hpaid, haccepts⟩, rfl, rfl⟩
  · rintro ⟨li, vi, cTokens, debt, lr, vr, token, h, rfl, rfl⟩
    obtain ⟨-, htoken⟩ := hf p.nftAsset p.nftTokenId h.registered
    have hdebt : LendPoolLoan.borrowAmount
        (s.accrued (s.loanOf p.nftAsset p.nftTokenId).reserveAsset li vi cTokens)
        (s.loanOf p.nftAsset p.nftTokenId) = .ok paid := by
      rw [borrowAmount_accrued _ rfl]
      exact h.debt_eq
    have hpart : ¬p.amount < paid := Nat.not_lt_of_le h.debt_le
    have hamount : 0 < p.amount := Nat.lt_of_lt_of_le h.debt_pos h.debt_le
    refine ⟨h.registered, _, ⟨li, vi, cTokens, h.accrual, rfl⟩,
      ((s.loanOf p.nftAsset p.nftTokenId).reserveAsset, paid),
      LendPoolLoan.getLoanReserveBorrowAmount_eq_ok.mpr ⟨rfl, hdebt⟩, (),
      ValidationLogic.validateRepay_eq_ok.mpr
        ⟨bothActive_accrued.mpr h.pair, hamount, h.debt_pos, h.active⟩, ?_⟩
    simp only [accrued_variableBorrowIndex, h.accrual.accrued_cToken, h.accrual.accrued_debtToken]
    simp only [hpart, decide_false, Bool.not_false, Bool.false_eq_true, if_false, if_true,
      pure_eq_ok, Prod.mk.injEq, and_true]
    have hcNFT : ((s.accrued (s.loanOf p.nftAsset p.nftTokenId).reserveAsset li vi
        cTokens).pool.nfts (s.loanOf p.nftAsset p.nftTokenId).nftAsset).cNFTAddress =
      .cNFT (s.loanOf p.nftAsset p.nftTokenId).nftAsset := hw.nft_of_ne h.pair.1
    rw [hcNFT]
    refine ⟨_, LendPoolLoan.repayLoan_eq_ok.mpr ⟨h.active, h.releasable, rfl⟩, ?_⟩
    obtain ⟨debtTokens, hburn, hrates⟩ := (settle_iff h.accrual ⟨_, _, _, rfl⟩).mpr
      ⟨_, lr, vr, h.scaled_eq, h.scaled_ne, h.borrower, h.burned, h.rates, rfl⟩
    refine ⟨debtTokens, hburn, _, hrates, _, State.safeTransferFrom_eq_ok.mpr ⟨token, h.paid, rfl⟩,
      _, (hand_on_eq_ok
        (s.accrued (s.loanOf p.nftAsset p.nftTokenId).reserveAsset li vi cTokens)
        (s.loanStore.nftToLoanIds p.nftAsset p.nftTokenId)
        { s.loanOf p.nftAsset p.nftTokenId with state := .Repaid } (by rfl) (by rfl) htoken).mpr
          ⟨h.borrower, h.accepts, rfl⟩, rfl⟩

end Repay

/-- A repayment that closes the loan needs all of this. -/
theorem RepaidBy.needs (hw : Wired s) (hf : Filed s) (h : RepaidBy s n nftAsset tokenId) :
    s.acceptsERC721 (s.loanOf nftAsset tokenId).borrower = true ∧
      RepaymentFits s (s.loanOf nftAsset tokenId) := by
  obtain ⟨amount, s', paid, h, -, -⟩ := h
  obtain ⟨_, -, h⟩ := bind_eq_ok.mp h
  obtain ⟨li, vi, cTokens, debt, lr, vr, token, h, -, -⟩ := (repay_all_eq_ok hw hf).mp h
  exact ⟨h.accepts, li, vi, cTokens, debt, lr, vr, h.accrual, h.debt_eq, h.scaled_eq, h.debt_pos,
    h.rates⟩

section Open

variable (hs : Solvent s) (hcounted : Counted s) (hbacked : TokensBacked s)
  (hreg : s.loanStore.nftToLoanIds nftAsset tokenId ≠ 0)
  (hopen : LoanOpen s (s.loanOf nftAsset tokenId))
  (hfits : RepaymentFits s (s.loanOf nftAsset tokenId))
  (hpays : CanPay s (s.loanOf nftAsset tokenId) n)
  (haccepts : s.acceptsERC721 (s.loanOf nftAsset tokenId).borrower = true)

include hs hcounted hbacked hreg hopen hfits hpays haccepts

theorem repayment_of_open :
    ∃ li vi cTokens debt lr vr token, FullRepayment s (repayment n nftAsset tokenId debt)
      (s.loanOf nftAsset tokenId) li vi cTokens debt lr vr token := by
  obtain ⟨li, vi, cTokens, debt, lr, vr, haccrual, hdebt, hscaled, hpos, hrates⟩ := hfits
  have hbook := hs.regular.book
  have hlive := hbook.registered_live hreg
  have hcustody : InCustody s (s.loanOf nftAsset tokenId).nftAsset
      (s.loanOf nftAsset tokenId).nftTokenId (s.loanOf nftAsset tokenId).borrower :=
    hbook.custody _ hlive
  have hreleasable : LendPoolLoan.Releasable s (s.loanOf nftAsset tokenId) :=
    hcounted.releasable hbook hlive
  have howed : (s.loanOf nftAsset tokenId).scaledAmount ≠ 0 := by
    intro hzero
    rw [hzero, rayMul_zero_left] at hdebt
    rw [← Except.ok.inj hdebt] at hpos
    exact Nat.lt_irrefl 0 hpos
  obtain ⟨hbalance, hallowance⟩ := hpays vi haccrual.variableBorrowIndex debt hdebt
  obtain ⟨token, hpaid⟩ : ∃ token, ERC20.transferFrom (s.loanOf nftAsset tokenId).reserveAsset
      (s.erc20 (s.loanOf nftAsset tokenId).reserveAsset) .lendPool (.account n)
        (.cToken (s.loanOf nftAsset tokenId).reserveAsset) debt = .ok token :=
    ⟨_, ERC20.transferFrom_eq_ok.mpr ⟨(fun h => by cases h), (fun h => by cases h), by decide,
      hbalance, (hbacked _).moved_fits hbalance, hallowance, rfl⟩⟩
  refine ⟨li, vi, cTokens, debt, lr, vr, token, ?_⟩
  exact {
    registered := hreg
    active := hopen.active
    pair := hopen.pair
    accrual := haccrual
    debt_eq := hdebt
    debt_pos := hpos
    debt_le := Nat.le_refl debt
    releasable := hreleasable
    scaled_eq := hscaled
    scaled_ne := howed
    borrower := hcustody.borrower_ne
    burned := hs.scaledAmount_le hreg
    rates := hrates
    paid := hpaid
    accepts := haccepts }

theorem repaidBy_of_open : RepaidBy s n nftAsset tokenId := by
  obtain ⟨li, vi, cTokens, debt, lr, vr, token, h⟩ :=
    repayment_of_open hs hcounted hbacked hreg hopen hfits hpays haccepts
  have hfiled := hs.regular.book.toFiled
  obtain ⟨hasset, htoken⟩ := hfiled nftAsset tokenId hreg
  have hrun := (repay_all_eq_ok hs.regular.sound.wired hfiled).mpr
    ⟨li, vi, cTokens, debt, lr, vr, token, h, rfl, rfl⟩
  have hstart : LendPool.whenNotPaused s = .ok () := require_of hopen.unpaused
  refine ⟨debt, _, debt, bind_eq_ok.mpr ⟨(), hstart, hrun⟩, ?_, ?_⟩
  · change (s.loanStore.closed _ _).nftToLoanIds nftAsset tokenId = 0
    rw [LoanStore.closed_nftToLoanIds]
    exact if_pos ⟨hasset.symm, htoken.symm⟩
  · change (Function.update s.erc721 (s.loanOf nftAsset tokenId).nftAsset
      ((s.erc721 (s.loanOf nftAsset tokenId).nftAsset).given (s.loanOf nftAsset tokenId).borrower
        (s.loanOf nftAsset tokenId).nftTokenId) nftAsset).owners tokenId = _
    rw [hasset, htoken, Function.update_self]
    simp [ERC721.given]

end Open

def sampleRepayable : List Transaction :=
  (sampleLending ++ [Operation.world (.tick 86400)]).map .single

end Confetti

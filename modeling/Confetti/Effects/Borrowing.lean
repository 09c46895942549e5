import Confetti.Effects.LoanBook

/-! What a successful borrow and a successful repayment do, component by component. -/
namespace Confetti
open Outcome HalfUp

def borrowedLoan (s : State) (p : ExecuteBorrowParams) (scaled : Nat) : LoanData :=
  LendPoolLoan.newLoan s p.onBehalfOf p.nftAsset p.nftTokenId p.asset scaled

/-- The NFT's active loan grew by the borrowed amount. -/
structure LoanToppedUp (s : State) (p : ExecuteBorrowParams) (scaled : Nat) (s' : State) :
    Prop where
  registered : s.loanStore.nftToLoanIds p.nftAsset p.nftTokenId ≠ 0
  active : (s.loanOf p.nftAsset p.nftTokenId).state = .Active
  reserveAsset : (s.loanOf p.nftAsset p.nftTokenId).reserveAsset = p.asset
  borrower : (s.loanOf p.nftAsset p.nftTokenId).borrower = p.onBehalfOf
  replaced : LoanReplaced s (s.loanStore.nftToLoanIds p.nftAsset p.nftTokenId)
    { s.loanOf p.nftAsset p.nftTokenId with
      scaledAmount := (s.loanOf p.nftAsset p.nftTokenId).scaledAmount + scaled } s'

structure BorrowEffect (s : State) (p : ExecuteBorrowParams) (s' : State) (li vi scaled : Nat) :
    Prop where
  step : PoolStep s p.asset li vi s'
  validated : ∃ cTokens, Accrual s p.asset li vi cTokens ∧
    ValidationLogic.validateBorrow (s.accrued p.asset li vi cTokens) p.onBehalfOf p.asset p.amount
      p.nftAsset (s.loanStore.nftToLoanIds p.nftAsset p.nftTokenId) = .ok ()
  scaled_eq : rayDiv p.amount vi = .ok scaled
  scaled_ne : scaled ≠ 0
  nft : (s.pool.nfts p.nftAsset).cNFTAddress = .cNFT p.nftAsset
  book : LoanOpened s (borrowedLoan s p scaled) s' ∨ LoanToppedUp s p scaled s'
  debtTokens : ∃ self : DebtToken, self.ledger = (s.debtTokens p.asset).ledger ∧
    s'.debtTokens = Function.update s.debtTokens p.asset (self.credited p.onBehalfOf scaled)
  total : ∃ debt, rayMul (s'.debtTokens p.asset).ledger.totalSupply vi = .ok debt
  cash : Cash s p.asset
    (fun token => ERC20.transfer p.asset token (.cToken p.asset) p.initiator p.amount)
    [⟨p.asset, .cToken p.asset, p.initiator, p.amount⟩] s'
  consent : p.initiator = p.onBehalfOf ∨
    p.amount ≤ (s.debtTokens p.asset).borrowAllowances p.onBehalfOf p.initiator

/-- The amount repaid, its scaled counterpart, and whether the loan remains. -/
structure RepayEffect (s : State) (p : ExecuteRepayParams) (loan : LoanData) (s' : State)
    (li vi debt paid scaled : Nat) : Prop where
  registered : s.loanStore.nftToLoanIds p.nftAsset p.nftTokenId ≠ 0
  active : loan.state = .Active
  step : PoolStep s loan.reserveAsset li vi s'
  nft : (s.pool.nfts p.nftAsset).cNFTAddress = .cNFT p.nftAsset
  debt_eq : rayMul loan.scaledAmount vi = .ok debt
  debt_pos : 0 < debt
  amount_pos : 0 < p.amount
  paid_eq : paid = min p.amount debt
  scaled_eq : rayDiv paid vi = .ok scaled
  scaled_ne : scaled ≠ 0
  book :
    (p.amount < debt ∧ scaled ≤ loan.scaledAmount ∧
      LoanReplaced s (s.loanStore.nftToLoanIds p.nftAsset p.nftTokenId)
        { loan with scaledAmount := loan.scaledAmount - scaled } s') ∨
    (debt ≤ p.amount ∧
      LoanClosed s (s.loanStore.nftToLoanIds p.nftAsset p.nftTokenId)
        { loan with state := .Repaid } loan.borrower s')
  burned : scaled ≤ (s.debtTokens loan.reserveAsset).ledger.balances loan.borrower ∧
    scaled ≤ (s.debtTokens loan.reserveAsset).ledger.totalSupply
  debtTokens : s'.debtTokens = Function.update s.debtTokens loan.reserveAsset
    ((s.debtTokens loan.reserveAsset).debited loan.borrower scaled)
  cash : Cash s loan.reserveAsset (fun token => ERC20.transferFrom loan.reserveAsset token .lendPool
      p.initiator (.cToken loan.reserveAsset) paid)
    [⟨loan.reserveAsset, p.initiator, .cToken loan.reserveAsset, paid⟩] s'

section Borrow

variable {s s' : State} {p : ExecuteBorrowParams} {loanId : Nat}

theorem validateBorrow_facts {user reserveAsset nftAsset : Address} {amount : Nat}
    (h : ValidationLogic.validateBorrow s user reserveAsset amount nftAsset loanId = .ok ()) :
    (s.pool.nfts nftAsset).cNFTAddress ≠ .zero ∧ 0 < amount ∧ (loanId ≠ 0 →
      (s.loanStore.loans loanId).state = .Active ∧
        (s.loanStore.loans loanId).reserveAsset = reserveAsset ∧
          (s.loanStore.loans loanId).borrower = user) := by
  simp only [ValidationLogic.validateBorrow, ValidationLogic.validateBorrowedLoan, bind_eq_ok,
    require_eq_ok, exists_const] at h
  obtain ⟨-, hnft, hamount, _, hloan, -⟩ := h
  refine ⟨hnft, hamount, fun hne => ?_⟩
  rw [if_pos hne] at hloan
  simp only [bind_eq_ok, require_eq_ok, exists_const] at hloan
  exact ⟨hloan.1, hloan.2.1.symm, hloan.2.2.symm⟩

theorem validateBorrow_active {user reserveAsset nftAsset : Address} {amount : Nat}
    (h : ValidationLogic.validateBorrow s user reserveAsset amount nftAsset loanId = .ok ()) :
    (s.pool.reserves reserveAsset).configuration.getActive = true ∧
      (s.pool.nfts nftAsset).configuration.getActive = true := by
  simp only [ValidationLogic.validateBorrow, bind_eq_ok, require_eq_ok, exists_const] at h
  obtain ⟨-, -, -, _, -, hreserve, -, -, hnft, -⟩ := h
  exact ⟨hreserve, hnft⟩

theorem openLoan_frame (h : BorrowLogic.openLoan s p = .ok s') : BookFrame s s' := by
  obtain ⟨m, htransfer, hcreate⟩ := bind_eq_ok.mp h
  exact (safeTransferNFT_frame htransfer).trans (createLoan_frame hcreate)

private theorem openLoan_spec
    (hcNFT : (s.pool.nfts p.nftAsset).cNFTAddress = .cNFT p.nftAsset)
    (h : BorrowLogic.openLoan s p = .ok s') :
    BookFrame s s' ∧ ∃ scaled,
      rayDiv p.amount (s.pool.reserves p.asset).variableBorrowIndex = .ok scaled ∧
        LoanOpened s (borrowedLoan s p scaled) s' := by
  simp only [BorrowLogic.openLoan, bind_eq_ok, State.safeTransferNFT_eq_ok] at h
  obtain ⟨_, ⟨-, -, -, -, -, rfl⟩, hcreate⟩ := h
  simp only [hcNFT] at hcreate
  obtain ⟨scaled, hfree, hscaled, hborrower, -, hnone, rfl⟩ := LendPoolLoan.createLoan_spec hcreate
  refine ⟨⟨_, _, _, rfl⟩, scaled, hscaled, hfree, hborrower, hnone, rfl, ?_, rfl⟩
  simp [borrowedLoan, LendPoolLoan.newLoan]

private theorem book_spec
    (hid : loanId = s.loanStore.nftToLoanIds p.nftAsset p.nftTokenId) (hamount : 0 < p.amount)
    (hcNFT : (s.pool.nfts p.nftAsset).cNFTAddress = .cNFT p.nftAsset)
    (hloan : loanId ≠ 0 → (s.loanStore.loans loanId).state = .Active ∧
      (s.loanStore.loans loanId).reserveAsset = p.asset ∧
        (s.loanStore.loans loanId).borrower = p.onBehalfOf)
    (h : (if loanId = 0 then BorrowLogic.openLoan s p
      else LendPoolLoan.updateLoan s loanId p.amount 0
        (s.pool.reserves p.asset).variableBorrowIndex) = .ok s') :
    BookFrame s s' ∧ ∃ scaled,
      rayDiv p.amount (s.pool.reserves p.asset).variableBorrowIndex = .ok scaled ∧
        (LoanOpened s (borrowedLoan s p scaled) s' ∨ LoanToppedUp s p scaled s') := by
  subst hid
  split at h
  · obtain ⟨hframe, scaled, hscaled, hopened⟩ := openLoan_spec hcNFT h
    exact ⟨hframe, scaled, hscaled, .inl hopened⟩
  · rename_i hne
    obtain ⟨hactive, scaled, hscaled, -, rfl⟩ := LendPoolLoan.updateLoan_add_spec hamount h
    obtain ⟨-, hasset, hborrower⟩ := hloan hne
    exact ⟨⟨_, _, _, rfl⟩, scaled, hscaled, .inr ⟨hne, hactive, hasset, hborrower, rfl, rfl, rfl⟩⟩

theorem borrow_parts (hw : Wired s) (h : BorrowLogic.borrow s p = .ok s') :
    ∃ li vi cTokens s₂ debtTokens s₃, Accrual s p.asset li vi cTokens ∧
      BookFrame (s.accrued p.asset li vi cTokens) s₂ ∧
      DebtToken.mint s.debtTokens (.debtToken p.asset) p.initiator p.onBehalfOf p.amount vi =
        .ok debtTokens ∧
      ReserveLogic.updateInterestRates { s₂ with debtTokens } p.asset (.cToken p.asset) 0 p.amount =
        .ok s₃ ∧
      CToken.transferUnderlyingTo s₃ (.cToken p.asset) p.initiator p.amount = .ok s' := by
  simp only [BorrowLogic.borrow, bind_eq_ok, updateState_iff hw] at h
  obtain ⟨_, -, _, ⟨li, vi, cTokens, haccrual, rfl⟩, _, -, s₂, hbook, debtTokens, hmint, s₃, hrates,
    hpay⟩ := h
  have hframe : BookFrame (s.accrued p.asset li vi cTokens) s₂ := by
    split at hbook
    · exact openLoan_frame hbook
    · exact updateLoan_frame hbook
  have hbooked := hframe
  obtain ⟨_, _, _, rfl⟩ := hbooked
  simp only [accrued_variableBorrowIndex, haccrual.accrued_debtToken, haccrual.accrued_cToken]
    at hmint hrates hpay
  exact ⟨li, vi, cTokens, _, debtTokens, s₃, haccrual, hframe, hmint, hrates, hpay⟩

theorem borrow_effect (hw : Wired s) (h : BorrowLogic.borrow s p = .ok s') :
    ∃ li vi scaled, BorrowEffect s p s' li vi scaled := by
  simp only [BorrowLogic.borrow, bind_eq_ok, require_eq_ok, exists_const, updateState_iff hw] at h
  obtain ⟨-, _, ⟨li, vi, cTokens, haccrual, rfl⟩, _, hvalid, s₂, hbook, debtTokens, hmint, s₃,
    hrates, hpay⟩ := h
  obtain ⟨hnft, hamount, hloan⟩ := validateBorrow_facts hvalid
  have hcNFT : ((s.accrued p.asset li vi cTokens).pool.nfts p.nftAsset).cNFTAddress =
    .cNFT p.nftAsset := hw.nft_of_ne hnft
  obtain ⟨⟨loanStore, erc721, cNFTs, rfl⟩, scaled, hscaled, hloans⟩ :=
    book_spec rfl hamount hcNFT hloan hbook
  rw [accrued_variableBorrowIndex] at hscaled
  obtain ⟨debtAsset, scaled', self, hdebt, hscaled', hne, -, hcredit, hself, rfl⟩ :=
    DebtToken.mint_spec hmint
  obtain rfl : debtAsset = p.asset :=
    Address.debtToken.inj (hdebt.symm.trans haccrual.accrued_debtToken)
  obtain rfl : scaled' = scaled := by
    change rayDiv p.amount
      ((s.accrued p.asset li vi cTokens).pool.reserves p.asset).variableBorrowIndex = _ at hscaled'
    rw [accrued_variableBorrowIndex, hscaled] at hscaled'
    exact (Except.ok.inj hscaled').symm
  obtain ⟨cAsset, token, hcToken, hcash, rfl⟩ := CToken.transferUnderlyingTo_eq_ok.mp hpay
  obtain rfl : cAsset = p.asset :=
    Address.cToken.inj (hcToken.symm.trans haccrual.accrued_cToken)
  obtain ⟨other, total, _, rates, hother, htotal, -, -, -, -, rfl⟩ :=
    ReserveLogic.updateInterestRates_eq_ok.mp hrates
  obtain rfl : other = p.asset :=
    Address.debtToken.inj (hother.symm.trans haccrual.accrued_debtToken)
  change rayMul _ ((s.accrued p.asset li vi cTokens).pool.reserves p.asset).variableBorrowIndex =
    .ok total at htotal
  rw [accrued_variableBorrowIndex] at htotal
  refine ⟨li, vi, scaled', ?_, ⟨cTokens, haccrual, hvalid⟩, hscaled, hne, hcNFT, ?_,
    ⟨self, hself, rfl⟩, ⟨total, htotal⟩, ⟨⟨token, hcash, rfl⟩, rfl⟩, ?_⟩
  · exact ⟨⟨rfl, rfl, rfl, rfl, rfl, rfl⟩, ⟨cTokens, haccrual⟩, rates.1, rates.2, by
      simp [State.accrued]⟩
  · rcases hloans with hopened | htopped
    · exact .inl ⟨hopened.unregistered, hopened.borrower, hopened.unwrapped, hopened.loanStore,
        hopened.erc721, hopened.cNFTs⟩
    · exact .inr ⟨htopped.registered, htopped.active, htopped.reserveAsset, htopped.borrower,
        ⟨htopped.replaced.loanStore, htopped.replaced.erc721, htopped.replaced.cNFTs⟩⟩
  · by_cases hself : p.initiator = p.onBehalfOf
    · exact .inl hself
    · rw [if_pos hself] at hcredit
      exact .inr (DebtToken.decreaseBorrowAllowance_eq_ok.mp hcredit).1

end Borrow

section Repay

variable {s s' : State} {p : ExecuteRepayParams} {paid : Nat} {closed : Bool}

theorem repay_parts {r : Nat × Bool} (hw : Wired s) (h : BorrowLogic.repay s p = .ok (s', r)) :
    let asset := (s.loanOf p.nftAsset p.nftTokenId).reserveAsset
    ∃ li vi cTokens s₂ debtTokens s₃ s₄, Accrual s asset li vi cTokens ∧
      BookFrame (s.accrued asset li vi cTokens) s₂ ∧
      ReserveLogic.updateInterestRates { s₂ with debtTokens } asset (.cToken asset) r.1 0 =
        .ok s₃ ∧
      s₃.safeTransferFrom asset .lendPool p.initiator (.cToken asset) r.1 = .ok s₄ ∧
      BookFrame s₄ s' := by
  simp only [BorrowLogic.repay, bind_eq_ok, updateState_iff hw, pure_eq_ok, Prod.mk.injEq] at h
  simp only [getCollateralLoanId_eq, getLoan_eq_loanOf] at h
  obtain ⟨_, -, _, ⟨li, vi, cTokens, haccrual, rfl⟩, _, -, _, -, s₂, hbook, debtTokens, -, s₃,
    hrates, s₄, hcash, s₅, hgive, rfl, rfl⟩ := h
  have hframe : BookFrame
      (s.accrued (s.loanOf p.nftAsset p.nftTokenId).reserveAsset li vi cTokens) s₂ := by
    split at hbook
    · exact updateLoan_frame hbook
    · exact repayLoan_frame hbook
  have hgiven : BookFrame s₄ s₅ := by
    split at hgive
    · exact safeTransferNFT_frame hgive
    · obtain rfl := pure_eq_ok.mp hgive
      exact BookFrame.refl s₄
  rw [haccrual.accrued_cToken] at hrates hcash
  exact ⟨li, vi, cTokens, s₂, debtTokens, s₃, s₄, haccrual, hframe, hrates, hcash, hgiven⟩

theorem repay_effect (hw : Wired s) (hf : Filed s)
    (h : BorrowLogic.repay s p = .ok (s', paid, closed)) :
    ∃ li vi debt scaled, RepayEffect s p (s.loanOf p.nftAsset p.nftTokenId) s' li vi debt paid
      scaled ∧ closed = decide (debt ≤ p.amount) := by
  simp only [BorrowLogic.repay, bind_eq_ok, require_eq_ok, exists_const, updateState_iff hw] at h
  simp only [getCollateralLoanId_eq, getLoan_eq_loanOf] at h
  obtain ⟨hid, _, ⟨li, vi, cTokens, haccrual, rfl⟩, ⟨_, debt⟩, hdebt, _, hvalid, s₂, hbook,
    debtTokens, hburn, s₃, hrates, s₄, hcash, s₅, hgive, hpure⟩ := h
  obtain ⟨hasset, htoken⟩ := hf p.nftAsset p.nftTokenId hid
  have hdebt : LendPoolLoan.borrowAmount (s.accrued _ li vi cTokens)
      (s.loanOf p.nftAsset p.nftTokenId) = .ok debt :=
    (LendPoolLoan.getLoanReserveBorrowAmount_eq_ok.mp hdebt).2
  rw [borrowAmount_accrued _ rfl] at hdebt
  obtain ⟨⟨hnft, -⟩, hamount, hpos, hactive⟩ := ValidationLogic.validateRepay_eq_ok.mp hvalid
  simp only [accrued_variableBorrowIndex, haccrual.accrued_cToken, haccrual.accrued_debtToken]
    at hbook hburn hrates hcash
  have hcNFT : (s.pool.nfts (s.loanOf p.nftAsset p.nftTokenId).nftAsset).cNFTAddress =
    .cNFT (s.loanOf p.nftAsset p.nftTokenId).nftAsset := hw.nft_of_ne hnft
  by_cases hpart : p.amount < debt
  · simp only [hpart, decide_true, if_true, Bool.not_true, Bool.false_eq_true, if_false,
      pure_eq_ok, Prod.mk.injEq] at hbook hburn hrates hcash hgive hpure
    obtain ⟨rfl, rfl, rfl⟩ := hpure
    subst hgive
    obtain ⟨-, scaled, hscaled, -, hle, rfl⟩ := (LendPoolLoan.updateLoan_take_eq_ok hamount).mp hbook
    obtain ⟨scaled', lr, vr, hscaled', hne, -, hburned, -, rfl⟩ :=
      (settle_iff haccrual ⟨_, _, _, rfl⟩).mp ⟨_, hburn, hrates⟩
    obtain rfl : scaled' = scaled := Except.ok.inj (hscaled'.symm.trans hscaled)
    obtain ⟨token, hpaid, rfl⟩ := State.safeTransferFrom_eq_ok.mp hcash
    rw [hasset] at hcNFT
    refine ⟨li, vi, debt, scaled', ⟨hid, hactive, ⟨⟨rfl, rfl, rfl, rfl, rfl, rfl⟩, ⟨cTokens, haccrual⟩,
      lr, vr, rfl⟩, hcNFT, hdebt, hpos, hamount, (Nat.min_eq_left hpart.le).symm, hscaled, hne,
      .inl ⟨hpart, hle, rfl, rfl, rfl⟩, hburned, rfl, ⟨⟨token, hpaid, rfl⟩, rfl⟩⟩,
      (decide_eq_false (Nat.not_le_of_lt hpart)).symm⟩
  · have hle : debt ≤ p.amount := Nat.le_of_not_lt hpart
    simp only [hpart, decide_false, Bool.not_false, Bool.false_eq_true, if_false, if_true,
      pure_eq_ok, Prod.mk.injEq] at hbook hburn hrates hcash hgive hpure
    obtain ⟨rfl, rfl, rfl⟩ := hpure
    have hcNFT' : ((s.accrued (s.loanOf p.nftAsset p.nftTokenId).reserveAsset li vi
        cTokens).pool.nfts (s.loanOf p.nftAsset p.nftTokenId).nftAsset).cNFTAddress =
      .cNFT (s.loanOf p.nftAsset p.nftTokenId).nftAsset := hcNFT
    rw [hcNFT'] at hbook
    obtain ⟨-, hreleasable, rfl⟩ := LendPoolLoan.repayLoan_eq_ok.mp hbook
    obtain ⟨scaled, lr, vr, hscaled, hne, -, hburned, -, rfl⟩ :=
      (settle_iff haccrual ⟨_, _, _, rfl⟩).mp ⟨_, hburn, hrates⟩
    obtain ⟨token, hpaid, rfl⟩ := State.safeTransferFrom_eq_ok.mp hcash
    obtain ⟨hborrower, haccepts, rfl⟩ := (hand_on_eq_ok
      (s.accrued (s.loanOf p.nftAsset p.nftTokenId).reserveAsset li vi cTokens)
      (s.loanStore.nftToLoanIds p.nftAsset p.nftTokenId)
      { s.loanOf p.nftAsset p.nftTokenId with state := .Repaid } (by rfl) (by rfl) htoken).mp hgive
    rw [hasset] at hcNFT
    exact ⟨li, vi, debt, scaled, ⟨hid, hactive, ⟨⟨rfl, rfl, rfl, rfl, rfl, rfl⟩, ⟨cTokens, haccrual⟩,
      lr, vr, rfl⟩, hcNFT, hdebt, hpos, hamount, (Nat.min_eq_right hle).symm, hscaled, hne,
      .inr ⟨hle, hreleasable, hborrower, haccepts, rfl, rfl, rfl⟩, hburned, rfl,
      ⟨⟨token, hpaid, rfl⟩, rfl⟩⟩, (decide_eq_true hle).symm⟩

theorem RepayEffect.scaled_all {loan : LoanData} {li vi debt scaled : Nat}
    (h : RepayEffect s p loan s' li vi debt paid scaled) (hle : debt ≤ p.amount) :
    scaled = loan.scaledAmount := by
  have hpaid : paid = debt := h.paid_eq.trans (Nat.min_eq_right hle)
  have hscaled := h.scaled_eq
  rw [hpaid] at hscaled
  exact rayDiv_of_rayMul h.step.RAY_le h.debt_eq hscaled

end Repay

end Confetti

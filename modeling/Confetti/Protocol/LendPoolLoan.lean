import Confetti.Protocol.DebtToken
import Confetti.Protocol.CToken

/-! `LendPoolLoan`: the loan book, the registry from NFTs to loans, and the custody
of the NFT behind each loan. Every function is called by the pool only. -/
namespace Confetti
open Outcome

namespace LoanStore

def withLoan (self : LoanStore) (loanId : Nat) (loan : LoanData) : LoanStore :=
  { self with loans := Function.update self.loans loanId loan }

def registered (self : LoanStore) (nftAsset : Address) (nftTokenId loanId : Nat) : LoanStore :=
  { self with
    nftToLoanIds := Function.update self.nftToLoanIds nftAsset
      (Function.update (self.nftToLoanIds nftAsset) nftTokenId loanId) }

def counted (self : LoanStore) (borrower nftAsset : Address) (user total : Nat) : LoanStore :=
  { self with
    userNftCollateral := Function.update self.userNftCollateral borrower
      (Function.update (self.userNftCollateral borrower) nftAsset user)
    nftTotalCollateral := Function.update self.nftTotalCollateral nftAsset total }

end LoanStore

namespace State

def withLoan (s : State) (loanId : Nat) (loan : LoanData) : State :=
  { s with loanStore := s.loanStore.withLoan loanId loan }

def mintCNFT (s : State) (address caller recipient : Address) (tokenId : Nat) :
    Except Revert State := do
  let asset ← cNFTAt address
  let minted ← CNFT.mint s.acceptsERC721 s.isContract asset (s.erc721 asset) (s.cNFTs asset)
    caller recipient tokenId
  pure { s with
    erc721 := Function.update s.erc721 asset minted.1
    cNFTs := Function.update s.cNFTs asset minted.2 }

def burnCNFT (s : State) (address caller : Address) (tokenId : Nat) : Except Revert State := do
  let asset ← cNFTAt address
  let burned ← CNFT.burn s.acceptsERC721 s.isContract asset (s.erc721 asset) (s.cNFTs asset)
    caller tokenId
  pure { s with
    erc721 := Function.update s.erc721 asset burned.1
    cNFTs := Function.update s.cNFTs asset burned.2 }

end State

namespace LendPoolLoan

def getCollateralLoanId (s : State) (nftAsset : Address) (nftTokenId : Nat) : Nat :=
  s.loanStore.nftToLoanIds nftAsset nftTokenId

def getLoan (s : State) (loanId : Nat) : LoanData := s.loanStore.loans loanId

/-- What the loan's scaled amount is worth at the reserve's current debt index. -/
def borrowAmount (s : State) (loan : LoanData) : Except Revert Nat :=
  if loan.scaledAmount = 0 then pure 0
  else do
    let index ← ReserveLogic.getNormalizedDebt (s.pool.reserves loan.reserveAsset) s.timestamp
    rayMul loan.scaledAmount index

def getLoanReserveBorrowAmount (s : State) (loanId : Nat) : Except Revert (Address × Nat) := do
  let loan := s.loanStore.loans loanId
  let amount ← borrowAmount s loan
  pure (loan.reserveAsset, amount)

/-- The pool holds the NFT when it calls; the slot's sale fields are not written. -/
def createLoan (s : State) (onBehalfOf nftAsset : Address) (nftTokenId : Nat)
    (cNFTAddress reserveAsset : Address) (amount borrowIndex : Nat) : Except Revert State := do
  require (s.loanStore.nftToLoanIds nftAsset nftTokenId = 0)
    (.error .LP_NFT_HAS_USED_AS_COLLATERAL)
  let amountScaled ← rayDiv amount borrowIndex
  let loanId := s.loanStore.loanIdTracker
  let store := { s.loanStore with loanIdTracker := loanId + 1 }
  let s := { s with loanStore := store.registered nftAsset nftTokenId loanId }
  let s ← s.safeTransferNFT nftAsset .lendPoolLoan .lendPool .lendPoolLoan nftTokenId
  let s ← s.mintCNFT cNFTAddress .lendPoolLoan onBehalfOf nftTokenId
  let s := s.withLoan loanId { s.loanStore.loans loanId with
    loanId
    state := .Active
    borrower := onBehalfOf
    nftAsset
    nftTokenId
    reserveAsset
    scaledAmount := amountScaled }
  let user ← Uint256.add (s.loanStore.userNftCollateral onBehalfOf nftAsset) 1
  let total ← Uint256.add (s.loanStore.nftTotalCollateral nftAsset) 1
  pure { s with loanStore := s.loanStore.counted onBehalfOf nftAsset user total }

def addScaled (loan : LoanData) (amountAdded borrowIndex : Nat) : Except Revert LoanData := do
  let amountScaled ← rayDiv amountAdded borrowIndex
  require (amountScaled ≠ 0) (.error .LPL_INVALID_LOAN_AMOUNT)
  let scaledAmount ← Uint256.add loan.scaledAmount amountScaled
  pure { loan with scaledAmount }

def takeScaled (loan : LoanData) (amountTaken borrowIndex : Nat) : Except Revert LoanData := do
  let amountScaled ← rayDiv amountTaken borrowIndex
  require (amountScaled ≠ 0) (.error .LPL_INVALID_TAKEN_AMOUNT)
  require (amountScaled ≤ loan.scaledAmount) (.error .LPL_AMOUNT_OVERFLOW)
  pure { loan with scaledAmount := loan.scaledAmount - amountScaled }

def updateLoan (s : State) (loanId amountAdded amountTaken borrowIndex : Nat) :
    Except Revert State := do
  let loan := s.loanStore.loans loanId
  require (loan.state = .Active) (.error .LPL_INVALID_LOAN_STATE)
  let loan ← (if amountAdded > 0 then addScaled loan amountAdded borrowIndex else pure loan)
  let loan ← (if amountTaken > 0 then takeScaled loan amountTaken borrowIndex else pure loan)
  pure (s.withLoan loanId loan)

/-- The end of a loan: it leaves the registry and the counters, its receipt is
burned and the pool gets the NFT. -/
def releaseCollateral (s : State) (loan : LoanData) (cNFTAddress : Address) :
    Except Revert State := do
  let s := { s with loanStore := s.loanStore.registered loan.nftAsset loan.nftTokenId 0 }
  let user := s.loanStore.userNftCollateral loan.borrower loan.nftAsset
  require (1 ≤ user) (.error .LP_INVALIED_USER_NFT_AMOUNT)
  let total := s.loanStore.nftTotalCollateral loan.nftAsset
  require (1 ≤ total) (.error .LP_INVALIED_NFT_AMOUNT)
  let store := s.loanStore.counted loan.borrower loan.nftAsset (user - 1) (total - 1)
  let s := { s with loanStore := store }
  let s ← s.burnCNFT cNFTAddress .lendPoolLoan loan.nftTokenId
  s.safeTransferNFT loan.nftAsset .lendPoolLoan .lendPoolLoan .lendPool loan.nftTokenId

def repayLoan (s : State) (loanId : Nat) (cNFTAddress : Address) : Except Revert State := do
  let loan := s.loanStore.loans loanId
  require (loan.state = .Active) (.error .LPL_INVALID_LOAN_STATE)
  releaseCollateral (s.withLoan loanId { loan with state := .Repaid }) loan cNFTAddress

def buyItNowLoan (s : State) (loanId : Nat) (onBehalfOf : Address)
    (buyItNowPrice borrowAmount : Nat) : Except Revert State := do
  let loan := s.loanStore.loans loanId
  let loan ← (if loan.buyItNowStartTimestamp = 0 then do
      require (loan.state = .Active) (.error .LPL_INVALID_LOAN_STATE)
      pure { loan with
        state := .BuyItNow
        buyItNowStartTimestamp := s.timestamp
        buyItNowBuyerAddress := onBehalfOf }
    else do
      require (loan.state = .BuyItNow) (.error .LPL_INVALID_LOAN_STATE)
      require (buyItNowPrice > loan.buyItNowPrice)
        (.error .LPL_BUYITNOW_PRICE_LESS_THAN_HIGHEST_PRICE)
      pure loan)
  pure (s.withLoan loanId { loan with
    buyItNowBorrowAmount := borrowAmount
    buyItNowBuyerAddress := onBehalfOf
    buyItNowPrice
    state := .BuyItNow })

def redeemLoan (s : State) (loanId amountTaken borrowIndex : Nat) : Except Revert State := do
  let loan := s.loanStore.loans loanId
  require (loan.state = .BuyItNow) (.error .LPL_INVALID_LOAN_STATE)
  let loan ← takeScaled loan amountTaken borrowIndex
  pure (s.withLoan loanId { loan with
    state := .Active
    buyItNowStartTimestamp := 0
    buyItNowBorrowAmount := 0
    buyItNowBuyerAddress := .zero
    buyItNowPrice := 0 })

def liquidateLoan (s : State) (loanId : Nat) (cNFTAddress : Address) (borrowAmount : Nat) :
    Except Revert State := do
  let loan := s.loanStore.loans loanId
  require (loan.state = .BuyItNow) (.error .LPL_INVALID_LOAN_STATE)
  releaseCollateral (s.withLoan loanId { loan with
    state := .Defaulted
    buyItNowBorrowAmount := borrowAmount }) loan cNFTAddress

end LendPoolLoan

/-! ### What the functions do to the book -/

namespace LoanStore

def opened (self : LoanStore) (loan : LoanData) : LoanStore :=
  let store := { self with loanIdTracker := self.loanIdTracker + 1 }
  ((store.registered loan.nftAsset loan.nftTokenId self.loanIdTracker).withLoan
    self.loanIdTracker loan).counted loan.borrower loan.nftAsset
      (self.userNftCollateral loan.borrower loan.nftAsset + 1)
      (self.nftTotalCollateral loan.nftAsset + 1)

def closed (self : LoanStore) (loanId : Nat) (loan : LoanData) : LoanStore :=
  ((self.withLoan loanId loan).registered loan.nftAsset loan.nftTokenId 0).counted
    loan.borrower loan.nftAsset (self.userNftCollateral loan.borrower loan.nftAsset - 1)
    (self.nftTotalCollateral loan.nftAsset - 1)

variable (self : LoanStore) (loan : LoanData) (loanId : Nat)

@[simp] theorem opened_loanIdTracker :
    (self.opened loan).loanIdTracker = self.loanIdTracker + 1 := rfl

@[simp] theorem opened_loans :
    (self.opened loan).loans = Function.update self.loans self.loanIdTracker loan := rfl

@[simp] theorem closed_loanIdTracker :
    (self.closed loanId loan).loanIdTracker = self.loanIdTracker := rfl

@[simp] theorem closed_loans :
    (self.closed loanId loan).loans = Function.update self.loans loanId loan := rfl

@[simp] theorem withLoan_loanIdTracker :
    (self.withLoan loanId loan).loanIdTracker = self.loanIdTracker := rfl

@[simp] theorem withLoan_loans :
    (self.withLoan loanId loan).loans = Function.update self.loans loanId loan := rfl

@[simp] theorem withLoan_nftToLoanIds :
    (self.withLoan loanId loan).nftToLoanIds = self.nftToLoanIds := rfl

@[simp] theorem withLoan_nftTotalCollateral :
    (self.withLoan loanId loan).nftTotalCollateral = self.nftTotalCollateral := rfl

@[simp] theorem withLoan_userNftCollateral :
    (self.withLoan loanId loan).userNftCollateral = self.userNftCollateral := rfl

theorem counted_userNftCollateral (borrower nftAsset user other : Address) (count total : Nat) :
    (self.counted borrower nftAsset count total).userNftCollateral user other =
      if user = borrower ∧ other = nftAsset then count else self.userNftCollateral user other := by
  unfold counted
  by_cases huser : user = borrower
  · subst huser
    by_cases hother : other = nftAsset
    · simp [hother]
    · simp [hother]
  · simp [huser]

theorem counted_nftTotalCollateral (borrower nftAsset other : Address) (count total : Nat) :
    (self.counted borrower nftAsset count total).nftTotalCollateral other =
      if other = nftAsset then total else self.nftTotalCollateral other := by
  unfold counted
  by_cases hother : other = nftAsset
  · simp [hother]
  · simp [hother]

theorem opened_userNftCollateral (user other : Address) :
    (self.opened loan).userNftCollateral user other =
      if user = loan.borrower ∧ other = loan.nftAsset then
        self.userNftCollateral loan.borrower loan.nftAsset + 1
      else self.userNftCollateral user other :=
  counted_userNftCollateral _ _ _ _ _ _ _

theorem opened_nftTotalCollateral (other : Address) :
    (self.opened loan).nftTotalCollateral other =
      if other = loan.nftAsset then self.nftTotalCollateral loan.nftAsset + 1
      else self.nftTotalCollateral other :=
  counted_nftTotalCollateral _ _ _ _ _ _

theorem closed_userNftCollateral (user other : Address) :
    (self.closed loanId loan).userNftCollateral user other =
      if user = loan.borrower ∧ other = loan.nftAsset then
        self.userNftCollateral loan.borrower loan.nftAsset - 1
      else self.userNftCollateral user other :=
  counted_userNftCollateral _ _ _ _ _ _ _

theorem closed_nftTotalCollateral (other : Address) :
    (self.closed loanId loan).nftTotalCollateral other =
      if other = loan.nftAsset then self.nftTotalCollateral loan.nftAsset - 1
      else self.nftTotalCollateral other :=
  counted_nftTotalCollateral _ _ _ _ _ _

theorem registered_nftToLoanIds (nftAsset other : Address) (nftTokenId otherId : Nat) :
    (self.registered nftAsset nftTokenId loanId).nftToLoanIds other otherId =
      if other = nftAsset ∧ otherId = nftTokenId then loanId
      else self.nftToLoanIds other otherId := by
  unfold registered
  by_cases hasset : other = nftAsset
  · subst hasset
    by_cases htoken : otherId = nftTokenId
    · simp [htoken]
    · simp [htoken]
  · simp [hasset]

theorem opened_nftToLoanIds (other : Address) (otherId : Nat) :
    (self.opened loan).nftToLoanIds other otherId =
      if other = loan.nftAsset ∧ otherId = loan.nftTokenId then self.loanIdTracker
      else self.nftToLoanIds other otherId :=
  registered_nftToLoanIds { self with loanIdTracker := self.loanIdTracker + 1 } _ _ _ _ _

theorem closed_nftToLoanIds (other : Address) (otherId : Nat) :
    (self.closed loanId loan).nftToLoanIds other otherId =
      if other = loan.nftAsset ∧ otherId = loan.nftTokenId then 0
      else self.nftToLoanIds other otherId :=
  registered_nftToLoanIds (self.withLoan loanId loan) _ _ _ _ _

end LoanStore

namespace LendPoolLoan

variable {s s' : State} {loan loan' : LoanData} {loanId amount borrowIndex price borrow tokenId : Nat}
  {onBehalfOf nftAsset reserveAsset : Address}

theorem getLoanReserveBorrowAmount_eq_ok {r : Address × Nat} :
    getLoanReserveBorrowAmount s loanId = .ok r ↔
      r.1 = (s.loanStore.loans loanId).reserveAsset ∧
        borrowAmount s (s.loanStore.loans loanId) = .ok r.2 := by
  simp only [getLoanReserveBorrowAmount, bind_pure_eq_ok]
  constructor
  · rintro ⟨amount, hamount, rfl⟩
    exact ⟨rfl, hamount⟩
  · rintro ⟨hasset, hamount⟩
    exact ⟨r.2, hamount, Prod.ext hasset rfl⟩

def newLoan (s : State) (onBehalfOf nftAsset : Address) (nftTokenId : Nat)
    (reserveAsset : Address) (scaledAmount : Nat) : LoanData :=
  { s.loanStore.loans s.loanStore.loanIdTracker with
    loanId := s.loanStore.loanIdTracker
    state := .Active
    borrower := onBehalfOf
    nftAsset
    nftTokenId
    reserveAsset
    scaledAmount }

theorem createLoan_spec
    (h : createLoan s onBehalfOf nftAsset tokenId (.cNFT nftAsset) reserveAsset amount borrowIndex =
      .ok s') :
    ∃ scaled, s.loanStore.nftToLoanIds nftAsset tokenId = 0 ∧
      rayDiv amount borrowIndex = .ok scaled ∧ onBehalfOf ≠ .zero ∧
        (s.erc721 nftAsset).owners tokenId = .lendPool ∧
          (s.cNFTs nftAsset).owners tokenId = .zero ∧
            s' = { s with
              loanStore := s.loanStore.opened
                (newLoan s onBehalfOf nftAsset tokenId reserveAsset scaled)
              erc721 := Function.update s.erc721 nftAsset
                ((s.erc721 nftAsset).given (.cNFT nftAsset) tokenId)
              cNFTs := Function.update s.cNFTs nftAsset
                ⟨Function.update (s.cNFTs nftAsset).owners tokenId onBehalfOf,
                  Function.update (s.cNFTs nftAsset).minters tokenId .lendPoolLoan⟩ } := by
  simp only [createLoan, State.mintCNFT, bind_eq_ok, require_eq_ok, exists_const,
    State.safeTransferNFT_eq_ok, State.cNFTAt_eq_ok, Address.cNFT.injEq, pure_eq_ok,
    Uint256.add_eq_ok] at h
  obtain ⟨hfree, scaled, hscaled, _, ⟨howner, -, -, -, -, rfl⟩, _,
    ⟨_, rfl, ⟨nft, cNFT⟩, hmint, rfl⟩, user, ⟨-, rfl⟩, total, ⟨-, rfl⟩, rfl⟩ := h
  obtain ⟨-, hnone, -, -, -, -, hborrower, rfl, rfl⟩ := CNFT.mint_eq_ok.mp hmint
  refine ⟨scaled, hfree, hscaled, hborrower, howner, hnone, ?_⟩
  simp [LoanStore.opened, newLoan, State.withLoan, LoanStore.withLoan, LoanStore.registered,
    LoanStore.counted, ERC721.given]

theorem addScaled_eq_ok :
    addScaled loan amount borrowIndex = .ok loan' ↔ ∃ scaled,
      rayDiv amount borrowIndex = .ok scaled ∧ scaled ≠ 0 ∧
        loan.scaledAmount + scaled ≤ Uint256.max ∧
          loan' = { loan with scaledAmount := loan.scaledAmount + scaled } := by
  simp only [addScaled, bind_eq_ok, require_eq_ok, exists_const, Uint256.add_eq_ok, pure_eq_ok]
  constructor
  · rintro ⟨scaled, hscaled, hne, _, ⟨hmax, rfl⟩, rfl⟩
    exact ⟨scaled, hscaled, hne, hmax, rfl⟩
  · rintro ⟨scaled, hscaled, hne, hmax, rfl⟩
    exact ⟨scaled, hscaled, hne, _, ⟨hmax, rfl⟩, rfl⟩

theorem takeScaled_eq_ok :
    takeScaled loan amount borrowIndex = .ok loan' ↔ ∃ scaled,
      rayDiv amount borrowIndex = .ok scaled ∧ scaled ≠ 0 ∧ scaled ≤ loan.scaledAmount ∧
        loan' = { loan with scaledAmount := loan.scaledAmount - scaled } := by
  simp only [takeScaled, bind_eq_ok, require_eq_ok, exists_const, pure_eq_ok, eq_comm (a := loan')]

/-- A top-up. -/
theorem updateLoan_add_spec (hamount : 0 < amount)
    (h : updateLoan s loanId amount 0 borrowIndex = .ok s') :
    (s.loanStore.loans loanId).state = .Active ∧ ∃ scaled,
      rayDiv amount borrowIndex = .ok scaled ∧ scaled ≠ 0 ∧
        s' = s.withLoan loanId { s.loanStore.loans loanId with
          scaledAmount := (s.loanStore.loans loanId).scaledAmount + scaled } := by
  simp only [updateLoan, bind_eq_ok, require_eq_ok, exists_const, if_pos hamount,
    addScaled_eq_ok, gt_iff_lt, Nat.lt_irrefl, if_false, pure_eq_ok] at h
  obtain ⟨hactive, _, ⟨scaled, hscaled, hne, -, rfl⟩, _, rfl, rfl⟩ := h
  exact ⟨hactive, scaled, hscaled, hne, rfl⟩

/-- A partial repayment. -/
theorem updateLoan_take_eq_ok (hamount : 0 < amount) :
    updateLoan s loanId 0 amount borrowIndex = .ok s' ↔
      (s.loanStore.loans loanId).state = .Active ∧ ∃ scaled,
        rayDiv amount borrowIndex = .ok scaled ∧ scaled ≠ 0 ∧
          scaled ≤ (s.loanStore.loans loanId).scaledAmount ∧
            s' = s.withLoan loanId { s.loanStore.loans loanId with
              scaledAmount := (s.loanStore.loans loanId).scaledAmount - scaled } := by
  simp only [updateLoan, bind_eq_ok, require_eq_ok, exists_const, if_pos hamount,
    takeScaled_eq_ok, gt_iff_lt, Nat.lt_irrefl, if_false, pure_eq_ok]
  constructor
  · rintro ⟨hactive, _, rfl, _, ⟨scaled, hscaled, hne, hle, rfl⟩, rfl⟩
    exact ⟨hactive, scaled, hscaled, hne, hle, rfl⟩
  · rintro ⟨hactive, scaled, hscaled, hne, hle, rfl⟩
    exact ⟨hactive, _, rfl, _, ⟨scaled, hscaled, hne, hle, rfl⟩, rfl⟩

/-- What stands between a loan and its NFT: the counters, the receipt and its
minter, and the NFT being where the loan left it. -/
def Releasable (s : State) (loan : LoanData) : Prop :=
  1 ≤ s.loanStore.userNftCollateral loan.borrower loan.nftAsset ∧
    1 ≤ s.loanStore.nftTotalCollateral loan.nftAsset ∧
      (s.cNFTs loan.nftAsset).owners loan.nftTokenId ≠ .zero ∧
        (s.cNFTs loan.nftAsset).minters loan.nftTokenId = .lendPoolLoan ∧
          (s.erc721 loan.nftAsset).owners loan.nftTokenId = .cNFT loan.nftAsset

/-- The state in which the loan has ended as `ended` and the pool holds its NFT. -/
def released (s : State) (loanId : Nat) (ended : LoanData) : State :=
  { s with
    loanStore := s.loanStore.closed loanId ended
    erc721 := Function.update s.erc721 ended.nftAsset
      ((s.erc721 ended.nftAsset).given .lendPool ended.nftTokenId)
    cNFTs := Function.update s.cNFTs ended.nftAsset
      ⟨Function.update (s.cNFTs ended.nftAsset).owners ended.nftTokenId .zero,
        Function.update (s.cNFTs ended.nftAsset).minters ended.nftTokenId .zero⟩ }

theorem releaseCollateral_eq_ok {ended : LoanData}
    (hborrower : ended.borrower = loan.borrower) (hasset : ended.nftAsset = loan.nftAsset)
    (htoken : ended.nftTokenId = loan.nftTokenId) :
    releaseCollateral (s.withLoan loanId ended) loan (.cNFT loan.nftAsset) = .ok s' ↔
      Releasable s loan ∧ s' = released s loanId ended := by
  simp only [releaseCollateral, State.burnCNFT, bind_eq_ok, require_eq_ok, exists_const,
    State.safeTransferNFT_eq_ok, State.cNFTAt_eq_ok, Address.cNFT.injEq, pure_eq_ok]
  constructor
  · rintro ⟨huser, htotal, _, ⟨_, rfl, ⟨nft, cNFT⟩, hburn, rfl⟩, -, -, -, -, -, rfl⟩
    obtain ⟨-, hexists, hminter, howner, -, -, rfl, rfl⟩ := CNFT.burn_eq_ok.mp hburn
    refine ⟨⟨huser, htotal, hexists, hminter, howner⟩, ?_⟩
    simp [released, LoanStore.closed, State.withLoan, LoanStore.withLoan, LoanStore.registered,
      LoanStore.counted, ERC721.given, hborrower, hasset, htoken]
  · rintro ⟨⟨huser, htotal, hexists, hminter, howner⟩, rfl⟩
    refine ⟨huser, htotal, _, ⟨_, rfl, (_, _), CNFT.burn_eq_ok.mpr
      ⟨rfl, hexists, hminter, howner, by decide, rfl, rfl, rfl⟩, rfl⟩, ?_⟩
    refine ⟨by simp [ERC721.given], by decide, .inl (by simp [ERC721.given]), by decide, rfl, ?_⟩
    simp [released, LoanStore.closed, State.withLoan, LoanStore.withLoan, LoanStore.registered,
      LoanStore.counted, ERC721.given, hborrower, hasset, htoken]

theorem repayLoan_eq_ok :
    repayLoan s loanId (.cNFT (s.loanStore.loans loanId).nftAsset) = .ok s' ↔
      (s.loanStore.loans loanId).state = .Active ∧ Releasable s (s.loanStore.loans loanId) ∧
        s' = released s loanId { s.loanStore.loans loanId with state := .Repaid } := by
  simp only [repayLoan, bind_eq_ok, require_eq_ok, exists_const]
  exact and_congr_right fun _ => releaseCollateral_eq_ok rfl rfl rfl

theorem liquidateLoan_eq_ok :
    liquidateLoan s loanId (.cNFT (s.loanStore.loans loanId).nftAsset) borrow = .ok s' ↔
      (s.loanStore.loans loanId).state = .BuyItNow ∧ Releasable s (s.loanStore.loans loanId) ∧
        s' = released s loanId { s.loanStore.loans loanId with
          state := .Defaulted
          buyItNowBorrowAmount := borrow } := by
  simp only [liquidateLoan, bind_eq_ok, require_eq_ok, exists_const]
  exact and_congr_right fun _ => releaseCollateral_eq_ok rfl rfl rfl

def offered (s : State) (loan : LoanData) (onBehalfOf : Address) (price borrow : Nat) : LoanData :=
  { loan with
    state := .BuyItNow
    buyItNowStartTimestamp :=
      if loan.buyItNowStartTimestamp = 0 then s.timestamp else loan.buyItNowStartTimestamp
    buyItNowBuyerAddress := onBehalfOf
    buyItNowPrice := price
    buyItNowBorrowAmount := borrow }

theorem buyItNowLoan_spec (h : buyItNowLoan s loanId onBehalfOf price borrow = .ok s') :
    (if (s.loanStore.loans loanId).buyItNowStartTimestamp = 0 then
        (s.loanStore.loans loanId).state = .Active
      else (s.loanStore.loans loanId).state = .BuyItNow ∧
        (s.loanStore.loans loanId).buyItNowPrice < price) ∧
      s' = s.withLoan loanId (offered s (s.loanStore.loans loanId) onBehalfOf price borrow) := by
  unfold buyItNowLoan offered at *
  by_cases hstart : (s.loanStore.loans loanId).buyItNowStartTimestamp = 0
  · simp only [if_pos hstart, bind_eq_ok, require_eq_ok, exists_const, pure_eq_ok] at h ⊢
    obtain ⟨_, ⟨hactive, rfl⟩, rfl⟩ := h
    exact ⟨hactive, rfl⟩
  · simp only [if_neg hstart, bind_eq_ok, require_eq_ok, exists_const, pure_eq_ok] at h ⊢
    obtain ⟨_, ⟨hsale, hprice, rfl⟩, rfl⟩ := h
    exact ⟨⟨hsale, hprice⟩, rfl⟩

def redeemed (loan : LoanData) (scaled : Nat) : LoanData :=
  { loan with
    state := .Active
    scaledAmount := loan.scaledAmount - scaled
    buyItNowStartTimestamp := 0
    buyItNowBorrowAmount := 0
    buyItNowBuyerAddress := .zero
    buyItNowPrice := 0 }

theorem redeemLoan_eq_ok :
    redeemLoan s loanId amount borrowIndex = .ok s' ↔
      (s.loanStore.loans loanId).state = .BuyItNow ∧ ∃ scaled,
        rayDiv amount borrowIndex = .ok scaled ∧ scaled ≠ 0 ∧
          scaled ≤ (s.loanStore.loans loanId).scaledAmount ∧
            s' = s.withLoan loanId (redeemed (s.loanStore.loans loanId) scaled) := by
  simp only [redeemLoan, bind_eq_ok, require_eq_ok, exists_const, takeScaled_eq_ok, pure_eq_ok]
  constructor
  · rintro ⟨hsale, _, ⟨scaled, hscaled, hne, hle, rfl⟩, rfl⟩
    exact ⟨hsale, scaled, hscaled, hne, hle, rfl⟩
  · rintro ⟨hsale, scaled, hscaled, hne, hle, rfl⟩
    exact ⟨hsale, _, ⟨scaled, hscaled, hne, hle, rfl⟩, rfl⟩

section Faults

variable {bad : Revert → Prop}

theorem avoids_borrowAmount (hbad : BalanceFault bad) (s : State) (loan : LoanData) :
    Avoids bad (borrowAmount s loan) :=
  avoids_ite (fun _ => avoids_pure _) fun _ =>
    (ReserveLogic.avoids_getNormalizedDebt hbad.panic hbad.error _ _).bind fun _ _ =>
      avoids_rayMul hbad.panic hbad.error _ _

theorem avoids_getLoanReserveBorrowAmount (hbad : BalanceFault bad) (s : State) (loanId : Nat) :
    Avoids bad (getLoanReserveBorrowAmount s loanId) :=
  (avoids_borrowAmount hbad _ _).bind fun _ _ => avoids_pure _

private theorem avoids_takeScaled (hbad : BalanceFault bad) (loan : LoanData)
    (amount borrowIndex : Nat) : Avoids bad (takeScaled loan amount borrowIndex) := by
  refine (avoids_rayDiv hbad.panic hbad.error _ _).bind fun _ _ => ?_
  refine (avoids_require fun _ => hbad.error _).bind fun _ _ => ?_
  exact (avoids_require fun _ => hbad.error _).bind fun _ _ => avoids_pure _

theorem avoids_updateLoan (hbad : BalanceFault bad) (s : State)
    (loanId added taken borrowIndex : Nat) :
    Avoids bad (updateLoan s loanId added taken borrowIndex) := by
  refine (avoids_require fun _ => hbad.error _).bind fun _ _ => ?_
  refine Avoids.bind (avoids_ite (fun _ => ?_) fun _ => avoids_pure _) fun _ _ => ?_
  · refine (avoids_rayDiv hbad.panic hbad.error _ _).bind fun _ _ => ?_
    refine (avoids_require fun _ => hbad.error _).bind fun _ _ => ?_
    exact (Uint256.avoids_add hbad.panic _ _).bind fun _ _ => avoids_pure _
  · exact Avoids.bind (avoids_ite (fun _ => avoids_takeScaled hbad _ _ _) fun _ => avoids_pure _)
      fun _ _ => avoids_pure _

private theorem avoids_releaseCollateral (hbad : BalanceFault bad) (s : State) (loan : LoanData)
    (cNFTAddress : Address) : Avoids bad (releaseCollateral s loan cNFTAddress) := by
  refine (avoids_require fun _ => hbad.error _).bind fun _ _ => ?_
  refine (avoids_require fun _ => hbad.error _).bind fun _ _ => ?_
  refine Avoids.bind ?_ fun _ _ => ?_
  · refine Avoids.bind ?_ fun _ _ => ?_
    · cases cNFTAddress
      case cNFT asset => exact avoids_ok _
      all_goals exact avoids_error (hbad.nonContract _)
    · exact (CNFT.avoids_burn hbad.message).bind fun _ _ => avoids_pure _
  · exact (ERC721.avoids_safeTransferFrom hbad.message).bind fun _ _ => avoids_pure _

theorem avoids_repayLoan (hbad : BalanceFault bad) (s : State) (loanId : Nat)
    (cNFTAddress : Address) : Avoids bad (repayLoan s loanId cNFTAddress) :=
  (avoids_require fun _ => hbad.error _).bind fun _ _ => avoids_releaseCollateral hbad _ _ _

theorem avoids_redeemLoan (hbad : BalanceFault bad) (s : State)
    (loanId amount borrowIndex : Nat) : Avoids bad (redeemLoan s loanId amount borrowIndex) :=
  (avoids_require fun _ => hbad.error _).bind fun _ _ =>
    (avoids_takeScaled hbad _ _ _).bind fun _ _ => avoids_pure _

theorem avoids_liquidateLoan (hbad : BalanceFault bad) (s : State) (loanId : Nat)
    (cNFTAddress : Address) (borrow : Nat) :
    Avoids bad (liquidateLoan s loanId cNFTAddress borrow) :=
  (avoids_require fun _ => hbad.error _).bind fun _ _ => avoids_releaseCollateral hbad _ _ _

end Faults

end LendPoolLoan

end Confetti

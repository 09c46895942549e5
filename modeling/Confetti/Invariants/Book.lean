import Confetti.Effects.Steps
import Confetti.Library.FiniteLedger

/-! The loan book in every reachable state: the registry and the live loans point at
each other, ids beyond the tracker are unused, and every live loan's NFT is in custody. -/
namespace Confetti
open Outcome TransitionSystem FiniteLedger

/-- The terms of a loan that no operation changes. -/
structure SameDeal (old new : LoanData) : Prop where
  loanId : new.loanId = old.loanId
  borrower : new.borrower = old.borrower
  nftAsset : new.nftAsset = old.nftAsset
  nftTokenId : new.nftTokenId = old.nftTokenId
  reserveAsset : new.reserveAsset = old.reserveAsset

/-- An action of the pool as the loan book sees it. -/
inductive BookChange (s s' : State) : Prop
  | unchanged (h : BookUnchanged s s')
  | opened {loan : LoanData} (hactive : loan.state = .Active)
      (hid : loan.loanId = s.loanStore.loanIdTracker)
      (hlisted : (s.pool.reserves loan.reserveAsset).cTokenAddress ≠ .zero)
      (h : LoanOpened s loan s')
  | replaced {nftAsset : Address} {nftTokenId : Nat} {loan : LoanData}
      (hreg : s.loanStore.nftToLoanIds nftAsset nftTokenId ≠ 0)
      (h : LoanReplaced s (s.loanStore.nftToLoanIds nftAsset nftTokenId) loan s')
      (hlive : loan.state.isLive = true)
      (hoffer : loan.state = .BuyItNow → loan.buyItNowBuyerAddress ≠ .zero ∧ 0 < loan.buyItNowPrice)
      (hsame : SameDeal (s.loanOf nftAsset nftTokenId) loan)
  | closed {nftAsset receiver : Address} {nftTokenId : Nat} {ended : LoanData}
      (hreg : s.loanStore.nftToLoanIds nftAsset nftTokenId ≠ 0)
      (h : LoanClosed s (s.loanStore.nftToLoanIds nftAsset nftTokenId) ended receiver s')
      (hdead : ended.state.isLive = false)
      (hsame : SameDeal (s.loanOf nftAsset nftTokenId) ended)

structure BookValid (s : State) : Prop where
  tracker_pos : 0 < s.loanStore.loanIdTracker
  fresh : ∀ loanId, s.loanStore.loanIdTracker ≤ loanId → s.loanStore.loans loanId = .empty
  filed : ∀ nftAsset nftTokenId, s.loanStore.nftToLoanIds nftAsset nftTokenId ≠ 0 →
    (s.loanOf nftAsset nftTokenId).state.isLive = true ∧
      (s.loanOf nftAsset nftTokenId).nftAsset = nftAsset ∧
        (s.loanOf nftAsset nftTokenId).nftTokenId = nftTokenId
  indexed : ∀ loanId, (s.loanStore.loans loanId).state.isLive = true → loanId ≠ 0 ∧
    (s.loanStore.loans loanId).loanId = loanId ∧
      s.loanStore.nftToLoanIds (s.loanStore.loans loanId).nftAsset
        (s.loanStore.loans loanId).nftTokenId = loanId
  offer : ∀ loanId, (s.loanStore.loans loanId).state = .BuyItNow →
    (s.loanStore.loans loanId).buyItNowBuyerAddress ≠ .zero ∧
      0 < (s.loanStore.loans loanId).buyItNowPrice
  custody : ∀ loanId, (s.loanStore.loans loanId).state.isLive = true →
    InCustody s (s.loanStore.loans loanId).nftAsset (s.loanStore.loans loanId).nftTokenId
      (s.loanStore.loans loanId).borrower

variable {s s' : State} {operation : Operation} {loanId : Nat}

theorem BookValid.toFiled (h : BookValid s) : Filed s :=
  fun nftAsset nftTokenId hreg => (h.filed nftAsset nftTokenId hreg).2

theorem BookValid.lt_tracker (h : BookValid s)
    (hlive : (s.loanStore.loans loanId).state.isLive = true) :
    loanId < s.loanStore.loanIdTracker := by
  by_contra hge
  rw [h.fresh loanId (Nat.le_of_not_lt hge)] at hlive
  cases hlive

/-- Two live loans never share an NFT. -/
theorem BookValid.unique (h : BookValid s) {other : Nat}
    (hlive : (s.loanStore.loans loanId).state.isLive = true)
    (hother : (s.loanStore.loans other).state.isLive = true)
    (hasset : (s.loanStore.loans other).nftAsset = (s.loanStore.loans loanId).nftAsset)
    (htoken : (s.loanStore.loans other).nftTokenId = (s.loanStore.loans loanId).nftTokenId) :
    other = loanId := by
  have hindex := (h.indexed other hother).2.2
  rw [hasset, htoken, (h.indexed loanId hlive).2.2] at hindex
  exact hindex.symm

theorem BookValid.registered_live (h : BookValid s) {nftAsset : Address} {nftTokenId : Nat}
    (hreg : s.loanStore.nftToLoanIds nftAsset nftTokenId ≠ 0) :
    (s.loanStore.loans (s.loanStore.nftToLoanIds nftAsset nftTokenId)).state.isLive = true :=
  (h.filed nftAsset nftTokenId hreg).1

theorem BookValid.loanOf_loanId (h : BookValid s) {nftAsset : Address} {nftTokenId : Nat}
    (hreg : s.loanStore.nftToLoanIds nftAsset nftTokenId ≠ 0) :
    s.loanStore.loans (s.loanOf nftAsset nftTokenId).loanId = s.loanOf nftAsset nftTokenId := by
  have hloanId : (s.loanOf nftAsset nftTokenId).loanId =
      s.loanStore.nftToLoanIds nftAsset nftTokenId :=
    (h.indexed _ (h.registered_live hreg)).2.1
  rw [hloanId]
  rfl

theorem InCustody.congr {nftAsset borrower : Address} {tokenId : Nat}
    (howner : (s'.erc721 nftAsset).owners tokenId = (s.erc721 nftAsset).owners tokenId)
    (happroved : (s'.erc721 nftAsset).tokenApprovals tokenId =
      (s.erc721 nftAsset).tokenApprovals tokenId)
    (hreceipt : (s'.cNFTs nftAsset).owners tokenId = (s.cNFTs nftAsset).owners tokenId)
    (hminter : (s'.cNFTs nftAsset).minters tokenId = (s.cNFTs nftAsset).minters tokenId)
    (h : InCustody s nftAsset tokenId borrower) : InCustody s' nftAsset tokenId borrower :=
  ⟨howner.trans h.owner, happroved.trans h.unapproved, hreceipt.trans h.receipt, h.borrower_ne,
    hminter.trans h.minter⟩

theorem InCustody.of_other {nftAsset other borrower receiver holder minter : Address}
    {tokenId otherId : Nat}
    (herc721 : s'.erc721 = Function.update s.erc721 other ((s.erc721 other).given receiver otherId))
    (hcNFTs : s'.cNFTs = Function.update s.cNFTs other
      ⟨Function.update (s.cNFTs other).owners otherId holder,
        Function.update (s.cNFTs other).minters otherId minter⟩)
    (hne : ¬(nftAsset = other ∧ tokenId = otherId)) (h : InCustody s nftAsset tokenId borrower) :
    InCustody s' nftAsset tokenId borrower := by
  by_cases hasset : nftAsset = other
  · subst hasset
    have htoken : tokenId ≠ otherId := fun htoken => hne ⟨rfl, htoken⟩
    obtain ⟨howners, happrovals⟩ := given_of_ne (s.erc721 nftAsset) (a := receiver) htoken
    refine h.congr ?_ ?_ ?_ ?_
    · rw [herc721, Function.update_self, howners]
    · rw [herc721, Function.update_self, happrovals]
    · rw [hcNFTs, Function.update_self]
      exact Function.update_of_ne htoken _ _
    · rw [hcNFTs, Function.update_self]
      exact Function.update_of_ne htoken _ _
  · refine h.congr ?_ ?_ ?_ ?_
    · rw [herc721, Function.update_of_ne hasset]
    · rw [herc721, Function.update_of_ne hasset]
    · rw [hcNFTs, Function.update_of_ne hasset]
    · rw [hcNFTs, Function.update_of_ne hasset]

/-! ### The three ways the book changes -/

theorem BookValid.of_unchanged (hb : BookValid s) (hloan : s'.loanStore = s.loanStore)
    (hcustody : ∀ nftAsset tokenId borrower, InCustody s nftAsset tokenId borrower →
      InCustody s' nftAsset tokenId borrower) : BookValid s' where
  tracker_pos := by
    rw [hloan]
    exact hb.tracker_pos
  fresh := by
    rw [hloan]
    exact hb.fresh
  filed := by
    unfold State.loanOf
    rw [hloan]
    exact hb.filed
  indexed := by
    rw [hloan]
    exact hb.indexed
  offer := by
    rw [hloan]
    exact hb.offer
  custody := by
    rw [hloan]
    exact fun loanId hlive => hcustody _ _ _ (hb.custody loanId hlive)

theorem BookValid.of_opened {loan : LoanData} (hb : BookValid s) (hactive : loan.state = .Active)
    (hid : loan.loanId = s.loanStore.loanIdTracker) (h : LoanOpened s loan s') : BookValid s' := by
  have hlive : loan.state.isLive = true := by
    rw [hactive]
    rfl
  have hpos : s.loanStore.loanIdTracker ≠ 0 := Nat.ne_of_gt hb.tracker_pos
  -- an older loan is about another NFT: the new one was not registered
  have hother : ∀ loanId, (s.loanStore.loans loanId).state.isLive = true →
      ¬((s.loanStore.loans loanId).nftAsset = loan.nftAsset ∧
        (s.loanStore.loans loanId).nftTokenId = loan.nftTokenId) := by
    rintro loanId hold ⟨hasset, htoken⟩
    obtain ⟨hne, -, hindex⟩ := hb.indexed loanId hold
    rw [hasset, htoken, h.unregistered] at hindex
    exact hne hindex.symm
  refine ⟨?_, ?_, ?_, ?_, ?_, ?_⟩
  · rw [h.loanStore]
    exact Nat.succ_pos _
  · intro loanId hle
    rw [h.loanStore, LoanStore.opened_loanIdTracker] at hle
    rw [h.loanStore, LoanStore.opened_loans, Function.update_of_ne (by omega)]
    exact hb.fresh loanId (by omega)
  · intro nftAsset tokenId hreg
    unfold State.loanOf
    rw [h.loanStore, LoanStore.opened_nftToLoanIds] at hreg ⊢
    rw [LoanStore.opened_loans]
    by_cases hsame : nftAsset = loan.nftAsset ∧ tokenId = loan.nftTokenId
    · rw [if_pos hsame, Function.update_self]
      exact ⟨hlive, hsame.1.symm, hsame.2.symm⟩
    · rw [if_neg hsame] at hreg ⊢
      have hlt := hb.lt_tracker (hb.registered_live hreg)
      rw [Function.update_of_ne (Nat.ne_of_lt hlt)]
      exact hb.filed nftAsset tokenId hreg
  · intro loanId
    rw [h.loanStore, LoanStore.opened_loans]
    by_cases hnew : loanId = s.loanStore.loanIdTracker
    · subst hnew
      intro _
      rw [Function.update_self, LoanStore.opened_nftToLoanIds, if_pos ⟨rfl, rfl⟩]
      exact ⟨hpos, hid, rfl⟩
    · rw [Function.update_of_ne hnew]
      intro hold
      rw [LoanStore.opened_nftToLoanIds, if_neg (hother loanId hold)]
      exact hb.indexed loanId hold
  · intro loanId
    rw [h.loanStore, LoanStore.opened_loans]
    by_cases hnew : loanId = s.loanStore.loanIdTracker
    · subst hnew
      rw [Function.update_self, hactive]
      exact fun hsale => by cases hsale
    · rw [Function.update_of_ne hnew]
      exact hb.offer loanId
  · intro loanId
    rw [h.loanStore, LoanStore.opened_loans]
    by_cases hnew : loanId = s.loanStore.loanIdTracker
    · subst hnew
      intro _
      rw [Function.update_self]
      refine ⟨?_, ?_, ?_, h.borrower, ?_⟩
      · simp [h.erc721, ERC721.given]
      · simp [h.erc721, ERC721.given]
      · simp [h.cNFTs]
      · simp [h.cNFTs]
    · rw [Function.update_of_ne hnew]
      exact fun hold => (hb.custody loanId hold).of_other h.erc721 h.cNFTs (hother loanId hold)

theorem BookValid.of_replaced {loan : LoanData} (hb : BookValid s)
    (hold : (s.loanStore.loans loanId).state.isLive = true) (hlive : loan.state.isLive = true)
    (hoffer : loan.state = .BuyItNow → loan.buyItNowBuyerAddress ≠ .zero ∧ 0 < loan.buyItNowPrice)
    (hsame : SameDeal (s.loanStore.loans loanId) loan) (h : LoanReplaced s loanId loan s') :
    BookValid s' := by
  have hlt := hb.lt_tracker hold
  have hcustody : ∀ nftAsset tokenId borrower, InCustody s nftAsset tokenId borrower →
      InCustody s' nftAsset tokenId borrower := by
    intro nftAsset tokenId borrower hc
    apply hc.congr <;> first | rw [h.erc721] | rw [h.cNFTs]
  refine ⟨?_, ?_, ?_, ?_, ?_, ?_⟩
  · rw [h.loanStore]
    exact hb.tracker_pos
  · intro other hle
    rw [h.loanStore, LoanStore.withLoan_loanIdTracker] at hle
    rw [h.loanStore, LoanStore.withLoan_loans, Function.update_of_ne (by omega)]
    exact hb.fresh other hle
  · intro nftAsset tokenId hreg
    unfold State.loanOf
    rw [h.loanStore, LoanStore.withLoan_nftToLoanIds] at hreg ⊢
    rw [LoanStore.withLoan_loans]
    obtain ⟨-, hasset, htoken⟩ := hb.filed nftAsset tokenId hreg
    by_cases hloan : s.loanStore.nftToLoanIds nftAsset tokenId = loanId
    · subst hloan
      rw [Function.update_self, hsame.nftAsset, hsame.nftTokenId]
      exact ⟨hlive, hasset, htoken⟩
    · rw [Function.update_of_ne hloan]
      exact hb.filed nftAsset tokenId hreg
  · intro other
    rw [h.loanStore, LoanStore.withLoan_loans, LoanStore.withLoan_nftToLoanIds]
    by_cases hloan : other = loanId
    · subst hloan
      intro _
      rw [Function.update_self, hsame.loanId, hsame.nftAsset, hsame.nftTokenId]
      exact hb.indexed other hold
    · rw [Function.update_of_ne hloan]
      exact hb.indexed other
  · intro other
    rw [h.loanStore, LoanStore.withLoan_loans]
    by_cases hloan : other = loanId
    · subst hloan
      rw [Function.update_self]
      exact hoffer
    · rw [Function.update_of_ne hloan]
      exact hb.offer other
  · intro other
    rw [h.loanStore, LoanStore.withLoan_loans]
    by_cases hloan : other = loanId
    · subst hloan
      intro _
      rw [Function.update_self, hsame.nftAsset, hsame.nftTokenId, hsame.borrower]
      exact hcustody _ _ _ (hb.custody other hold)
    · rw [Function.update_of_ne hloan]
      exact fun hlive => hcustody _ _ _ (hb.custody other hlive)

theorem BookValid.of_closed {ended : LoanData} {receiver : Address} (hb : BookValid s)
    (hold : (s.loanStore.loans loanId).state.isLive = true) (hdead : ended.state.isLive = false)
    (hsame : SameDeal (s.loanStore.loans loanId) ended)
    (h : LoanClosed s loanId ended receiver s') : BookValid s' := by
  have hlt := hb.lt_tracker hold
  -- any other live loan is about another NFT
  have hother : ∀ other, other ≠ loanId → (s.loanStore.loans other).state.isLive = true →
      ¬((s.loanStore.loans other).nftAsset = ended.nftAsset ∧
        (s.loanStore.loans other).nftTokenId = ended.nftTokenId) := by
    rintro other hne hlive ⟨hasset, htoken⟩
    exact hne (hb.unique hold hlive (hasset.trans hsame.nftAsset) (htoken.trans hsame.nftTokenId))
  have hnot : ∀ {P : Prop}, ended.state.isLive = true → P := by
    intro P hlive
    rw [hdead] at hlive
    cases hlive
  refine ⟨?_, ?_, ?_, ?_, ?_, ?_⟩
  · rw [h.loanStore]
    exact hb.tracker_pos
  · intro other hle
    rw [h.loanStore, LoanStore.closed_loanIdTracker] at hle
    rw [h.loanStore, LoanStore.closed_loans, Function.update_of_ne (by omega)]
    exact hb.fresh other hle
  · intro nftAsset tokenId hreg
    unfold State.loanOf
    rw [h.loanStore, LoanStore.closed_nftToLoanIds] at hreg ⊢
    by_cases hnft : nftAsset = ended.nftAsset ∧ tokenId = ended.nftTokenId
    · rw [if_pos hnft] at hreg
      exact absurd rfl hreg
    · rw [if_neg hnft] at hreg ⊢
      obtain ⟨hlive, hasset, htoken⟩ := hb.filed nftAsset tokenId hreg
      have hne : s.loanStore.nftToLoanIds nftAsset tokenId ≠ loanId := by
        rintro rfl
        exact hnft ⟨hasset.symm.trans hsame.nftAsset.symm, htoken.symm.trans hsame.nftTokenId.symm⟩
      rw [LoanStore.closed_loans, Function.update_of_ne hne]
      exact ⟨hlive, hasset, htoken⟩
  · intro other
    rw [h.loanStore, LoanStore.closed_loans]
    by_cases hloan : other = loanId
    · subst hloan
      rw [Function.update_self]
      exact hnot
    · rw [Function.update_of_ne hloan]
      intro hlive
      rw [LoanStore.closed_nftToLoanIds, if_neg (hother other hloan hlive)]
      exact hb.indexed other hlive
  · intro other
    rw [h.loanStore, LoanStore.closed_loans]
    by_cases hloan : other = loanId
    · subst hloan
      rw [Function.update_self]
      intro hsale
      apply hnot
      rw [hsale]
      rfl
    · rw [Function.update_of_ne hloan]
      exact hb.offer other
  · intro other
    rw [h.loanStore, LoanStore.closed_loans]
    by_cases hloan : other = loanId
    · subst hloan
      rw [Function.update_self]
      exact hnot
    · rw [Function.update_of_ne hloan]
      exact fun hlive => (hb.custody other hlive).of_other h.erc721 h.cNFTs (hother other hloan hlive)

theorem BookValid.of_change (hb : BookValid s) (h : BookChange s s') : BookValid s' := by
  cases h with
  | unchanged h =>
    apply hb.of_unchanged h.loanStore
    intro nftAsset tokenId borrower hc
    apply hc.congr <;> first | rw [h.erc721] | rw [h.cNFTs]
  | opened hactive hid _ h => exact hb.of_opened hactive hid h
  | replaced hreg h hlive hoffer hsame =>
    exact hb.of_replaced (hb.registered_live hreg) hlive hoffer hsame h
  | closed hreg h hdead hsame => exact hb.of_closed (hb.registered_live hreg) hdead hsame h

theorem Address.ne_zero_of_cToken {a asset : Address} (h : a = .cToken asset) : a ≠ .zero := by
  rw [h]
  exact fun hzero => by cases hzero

theorem PoolAction.bookChange (h : PoolAction s operation s') : BookChange s s' := by
  have hlive : ∀ {loan : LoanData}, loan.state = .Active → loan.state.isLive = true := by
    intro loan hactive
    rw [hactive]
    rfl
  have hnever : ∀ {loan : LoanData} {P : Prop}, loan.state = .Active → loan.state = .BuyItNow → P := by
    intro loan P hactive hsale
    rw [hactive] at hsale
    cases hsale
  cases h with
  | deposit _ h => exact .unchanged h.book
  | withdraw _ h => exact .unchanged h.book
  | borrow _ _ h =>
    rcases h.book with hopened | htopped
    · obtain ⟨_, haccrual⟩ := h.step.accrual
      refine .opened rfl rfl ?_ hopened
      exact Address.ne_zero_of_cToken haccrual.listed.cToken
    · exact .replaced htopped.registered htopped.replaced (hlive htopped.active)
        (hnever htopped.active) ⟨rfl, rfl, rfl, rfl, rfl⟩
  | repay _ _ h =>
    rcases h.book with ⟨-, -, hpartly⟩ | ⟨-, hclosed⟩
    · exact .replaced h.registered hpartly (hlive h.active) (hnever h.active)
        ⟨rfl, rfl, rfl, rfl, rfl⟩
    · exact .closed h.registered hclosed rfl ⟨rfl, rfl, rfl, rfl, rfl⟩
  | buyItNow _ _ h =>
    exact .replaced h.registered h.replaced rfl (fun _ => ⟨h.onBehalfOf, h.price_pos⟩)
      ⟨rfl, rfl, rfl, rfl, rfl⟩
  | redeem _ _ h hs =>
    subst hs
    exact .replaced h.registered h.replaced rfl (fun hsale => by cases hsale)
      ⟨rfl, rfl, rfl, rfl, rfl⟩
  | liquidate _ _ h hs =>
    subst hs
    exact .closed h.registered h.closed rfl ⟨rfl, rfl, rfl, rfl, rfl⟩

theorem BookChange.operators (h : BookChange s s') (nftAsset owner operator : Address) :
    (s'.erc721 nftAsset).operatorApprovals owner operator =
      (s.erc721 nftAsset).operatorApprovals owner operator := by
  cases h with
  | unchanged h => rw [h.erc721]
  | opened _ _ _ h =>
    rw [h.erc721]
    apply given_operators
  | replaced _ h _ _ _ => rw [h.erc721]
  | closed _ h _ _ =>
    rw [h.erc721]
    apply given_operators

def LoansListed (s : State) : Prop :=
  ∀ loanId, (s.loanStore.loans loanId).state.isLive = true →
    (s.pool.reserves (s.loanStore.loans loanId).reserveAsset).cTokenAddress ≠ .zero

theorem LoansListed.of_change (hl : LoansListed s) (hb : BookValid s) (h : BookChange s s')
    (hcToken : ∀ asset, (s'.pool.reserves asset).cTokenAddress =
      (s.pool.reserves asset).cTokenAddress) : LoansListed s' := by
  intro loanId
  rw [hcToken]
  cases h with
  | unchanged h =>
    rw [h.loanStore]
    exact hl loanId
  | opened hactive hid hlisted h =>
    rw [h.loanStore, LoanStore.opened_loans]
    by_cases hnew : loanId = s.loanStore.loanIdTracker
    · subst hnew
      rw [Function.update_self]
      exact fun _ => hlisted
    · rw [Function.update_of_ne hnew]
      exact hl loanId
  | @replaced nftAsset nftTokenId loan hreg h hlive hoffer hsame =>
    rw [h.loanStore, LoanStore.withLoan_loans]
    by_cases hloan : loanId = s.loanStore.nftToLoanIds nftAsset nftTokenId
    · subst hloan
      rw [Function.update_self, hsame.reserveAsset]
      exact fun _ => hl _ (hb.registered_live hreg)
    · rw [Function.update_of_ne hloan]
      exact hl loanId
  | @closed nftAsset receiver nftTokenId ended hreg h hdead hsame =>
    rw [h.loanStore, LoanStore.closed_loans]
    by_cases hloan : loanId = s.loanStore.nftToLoanIds nftAsset nftTokenId
    · subst hloan
      rw [Function.update_self, hdead]
      exact fun hlive => by cases hlive
    · rw [Function.update_of_ne hloan]
      exact hl loanId

theorem Sound.of_action (hs : Sound s) (h : PoolAction s operation s') : Sound s' := by
  obtain ⟨asset, li, vi, program, events, hsettled⟩ := h.settled
  obtain ⟨token, htoken, herc20⟩ := hsettled.cash.ledger
  refine ⟨hsettled.step.wired hs.wired, ?_, ?_⟩
  · intro other
    rw [herc20]
    by_cases hother : other = asset
    · subst hother
      rw [Function.update_self]
      exact hsettled.protects _ _ (hs.guarded.allowances other) htoken
    · rw [Function.update_of_ne hother]
      exact hs.guarded.allowances other
  · intro nftAsset owner operator howner hoperator
    rw [h.bookChange.operators]
    exact hs.guarded.operators nftAsset owner operator howner hoperator

/-! ### Reachable states -/

theorem Genesis.sound (h : Genesis s) : Sound s where
  wired := by
    refine ⟨?_, ?_, ?_⟩
    · intro asset
      rw [h.pool]
      exact ⟨Nat.two_pow_pos 40, .inl ⟨rfl, rfl⟩⟩
    · intro asset
      rw [h.pool]
      exact .inl rfl
    · intro asset
      rw [h.cNFTProxys]
      exact .inl rfl
  guarded := ⟨h.allowances, fun nftAsset owner operator howner _ =>
    h.operators nftAsset owner operator howner⟩

theorem Genesis.bookValid (h : Genesis s) : BookValid s := by
  have hdead : ∀ {loanId : Nat} {P : Prop},
      (s.loanStore.loans loanId).state.isLive = true → P := by
    intro loanId P hlive
    rw [h.loanStore] at hlive
    cases hlive
  refine ⟨?_, ?_, ?_, fun _ => hdead, ?_, fun _ => hdead⟩
  · rw [h.loanStore]
    exact Nat.one_pos
  · intro loanId _
    rw [h.loanStore]
    rfl
  · intro nftAsset tokenId hreg
    rw [h.loanStore] at hreg
    exact absurd rfl hreg
  · intro loanId hsale
    rw [h.loanStore] at hsale
    cases hsale

/-- What every other invariant may use about a reachable state. -/
structure Regular (s : State) : Prop where
  sound : Sound s
  book : BookValid s
  listed : LoansListed s

theorem Regular.step (h : Regular s) (hs : operation.run s = .ok s') :
    Regular s' := by
  rcases Operation.cases h.sound.wired h.book.toFiled hs with haction | ⟨-, hkept⟩
  · obtain ⟨_, _, _, _, _, hsettled⟩ := haction.settled
    exact ⟨h.sound.of_action haction, h.book.of_change haction.bookChange,
      h.listed.of_change h.book haction.bookChange hsettled.step.cTokenAddress⟩
  · refine ⟨hkept.sound h.sound, h.book.of_unchanged hkept.loanStore (hkept.custody h.sound), ?_⟩
    intro loanId
    rw [hkept.loanStore]
    exact fun hlive => hkept.listed _ (h.listed loanId hlive)

theorem Regular.cases (h : Regular s) (hs : operation.run s = .ok s') :
    PoolAction s operation s' ∨ (operation.entersPool = false ∧ Kept s s') :=
  Operation.cases h.sound.wired h.book.toFiled hs

theorem regular_of_reachable (h : Reachable operations s) : Regular s := by
  apply h.invariant
  · intro s hs
    refine ⟨Genesis.sound hs, Genesis.bookValid hs, ?_⟩
    intro loanId hlive
    rw [hs.loanStore] at hlive
    cases hlive
  · exact fun s operation s' _ hreg hs => hreg.step hs

end Confetti

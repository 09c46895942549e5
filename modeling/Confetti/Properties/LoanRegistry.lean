import Confetti.Invariants.Registry
import Confetti.Properties.LoanHistory

/-! The registry from NFTs to loans, the ids and the counters agree with the loans in
every reachable state. -/
namespace Confetti
open Outcome TransitionSystem

def LoanData.IsBackedBy (loan : LoanData) (nftAsset : Address) (nftTokenId : Nat) : Prop :=
  (loan.state = .Active ∨ loan.state = .BuyItNow) ∧ loan.nftAsset = nftAsset ∧
    loan.nftTokenId = nftTokenId

/-- The counter checks of `repayLoan` and `liquidateLoan`. -/
def CounterFault (e : Revert) : Prop :=
  e = .error .LP_INVALIED_USER_NFT_AMOUNT ∨ e = .error .LP_INVALIED_NFT_AMOUNT

/-- The four maps of the loan contract and its id counter describe one set of loans.
The pool calls the loan contract from states `m` that still have this loan store. -/
structure RegistryExact (s : State) : Prop where
  registry : ∀ nftAsset nftTokenId loanId, loanId ≠ 0 →
    (s.loanStore.nftToLoanIds nftAsset nftTokenId = loanId ↔
      (s.loanStore.loans loanId).IsBackedBy nftAsset nftTokenId)
  unique : ∀ nftAsset nftTokenId loanId other,
    (s.loanStore.loans loanId).IsBackedBy nftAsset nftTokenId →
      (s.loanStore.loans other).IsBackedBy nftAsset nftTokenId → other = loanId
  ids : ∀ loanId, (s.loanStore.loans loanId).state ≠ .None → loanId ≠ 0 ∧
    loanId < s.loanStore.loanIdTracker ∧ (s.loanStore.loans loanId).loanId = loanId
  total : ∀ nftAsset, s.loanStore.nftTotalCollateral nftAsset =
    (s.loanIds.filter fun loanId => ((s.loanStore.loans loanId).state = .Active ∨
      (s.loanStore.loans loanId).state = .BuyItNow) ∧
        (s.loanStore.loans loanId).nftAsset = nftAsset).card
  user : ∀ user nftAsset, s.loanStore.userNftCollateral user nftAsset =
    (s.loanIds.filter fun loanId => ((s.loanStore.loans loanId).state = .Active ∨
      (s.loanStore.loans loanId).state = .BuyItNow) ∧
        (s.loanStore.loans loanId).nftAsset = nftAsset ∧
          (s.loanStore.loans loanId).borrower = user).card
  checks : ∀ m, m.loanStore = s.loanStore → ∀ loanId cNFTAddress borrowAmount,
    Avoids CounterFault (LendPoolLoan.repayLoan m loanId cNFTAddress) ∧
      Avoids CounterFault (LendPoolLoan.liquidateLoan m loanId cNFTAddress borrowAmount)

/-- Ids are handed out once: a loan keeps its terms, and an ended loan its record. -/
structure IdsKept (s s' : State) : Prop where
  tracker : s.loanStore.loanIdTracker ≤ s'.loanStore.loanIdTracker
  deal : ∀ loanId, (s.loanStore.loans loanId).state ≠ .None →
    (s'.loanStore.loans loanId).state ≠ .None ∧
      SameDeal (s.loanStore.loans loanId) (s'.loanStore.loans loanId)
  ended : ∀ loanId, (s.loanStore.loans loanId).state = .Repaid ∨
    (s.loanStore.loans loanId).state = .Defaulted →
      s'.loanStore.loans loanId = s.loanStore.loans loanId
  opened : ∀ loanId, (s.loanStore.loans loanId).state = .None →
    (s'.loanStore.loans loanId).state ≠ .None → s.loanStore.loanIdTracker ≤ loanId

/-- The loan contract may take the NFT from the pool, the collection's wrapper may take it on, and
the counters have room. -/
structure Pledgeable (m : State) (onBehalfOf nftAsset : Address) (nftTokenId : Nat) : Prop where
  held : (m.erc721 nftAsset).owners nftTokenId = .lendPool
  allowed : (m.erc721 nftAsset).MayMove .lendPoolLoan nftTokenId
  wrapper : (m.erc721 nftAsset).operatorApprovals .lendPoolLoan (.cNFT nftAsset) = true
  unwrapped : (m.cNFTs nftAsset).owners nftTokenId = .zero
  receiver : onBehalfOf ≠ .zero
  user : m.loanStore.userNftCollateral onBehalfOf nftAsset + 1 ≤ Uint256.max
  total : m.loanStore.nftTotalCollateral nftAsset + 1 ≤ Uint256.max

/-- The NFT is free again: nothing about it stands in the way of a new loan, which gets an unused
id. -/
structure FreeAgain (s : State) (nftAsset : Address) (nftTokenId : Nat) : Prop where
  unregistered : s.loanStore.nftToLoanIds nftAsset nftTokenId = 0
  accepted : ∀ m, m.loanStore = s.loanStore →
    ∀ onBehalfOf cNFTAddress reserveAsset amount borrowIndex,
      Avoids (· = .error .LP_NFT_HAS_USED_AS_COLLATERAL)
        (LendPoolLoan.createLoan m onBehalfOf nftAsset nftTokenId cNFTAddress reserveAsset amount
          borrowIndex)
  returns : ∀ m, m.loanStore = s.loanStore → ∀ onBehalfOf reserveAsset amount borrowIndex,
    Succeeds (LendPoolLoan.createLoan m onBehalfOf nftAsset nftTokenId (.cNFT nftAsset)
        reserveAsset amount borrowIndex) ↔
      Succeeds (rayDiv amount borrowIndex) ∧ Pledgeable m onBehalfOf nftAsset nftTokenId
  fresh : ∀ m m', m.loanStore = s.loanStore → ∀ onBehalfOf reserveAsset amount borrowIndex,
    LendPoolLoan.createLoan m onBehalfOf nftAsset nftTokenId (.cNFT nftAsset) reserveAsset amount
        borrowIndex = .ok m' →
      m'.loanStore.nftToLoanIds nftAsset nftTokenId = s.loanStore.loanIdTracker ∧
        (m'.loanStore.loans s.loanStore.loanIdTracker).IsBackedBy nftAsset nftTokenId ∧
          ∀ loanId, (s.loanStore.loans loanId).state ≠ .None → loanId < s.loanStore.loanIdTracker

variable {s s' m : State} {operation : Operation} {loanId nftTokenId : Nat} {nftAsset : Address}

theorem isBackedBy_iff (loan : LoanData) : loan.IsBackedBy nftAsset nftTokenId ↔
    loan.state.isLive = true ∧ loan.nftAsset = nftAsset ∧ loan.nftTokenId = nftTokenId := by
  unfold LoanData.IsBackedBy
  cases loan.state <;> simp [LoanState.isLive]

theorem backs_eq_ite (nftAsset : Address) (loan : LoanData) : loan.backs nftAsset =
    if (loan.state = .Active ∨ loan.state = .BuyItNow) ∧ loan.nftAsset = nftAsset
      then 1 else 0 := by
  unfold LoanData.backs spot
  simp only [eq_comm (a := nftAsset)]
  cases loan.state <;> simp [LoanState.isLive]

theorem backsFor_eq_ite (user nftAsset : Address) (loan : LoanData) :
    loan.backsFor user nftAsset =
      if (loan.state = .Active ∨ loan.state = .BuyItNow) ∧ loan.nftAsset = nftAsset ∧
        loan.borrower = user then 1 else 0 := by
  unfold LoanData.backsFor spot
  simp only [eq_comm (a := nftAsset), eq_comm (a := user), and_comm (a := loan.borrower = user)]
  cases loan.state <;> simp [LoanState.isLive]

/-! ### The counter checks -/

private theorem not_counterFault_message (text : String) : ¬CounterFault (.message text) := by
  rintro (h | h) <;> cases h

private theorem avoids_burnCNFT (cNFTAddress caller : Address) (tokenId : Nat) :
    Avoids CounterFault (m.burnCNFT cNFTAddress caller tokenId) := by
  apply Avoids.bind
  · cases cNFTAddress
    case cNFT asset => exact avoids_ok _
    all_goals
      apply avoids_error
      rintro (h | h) <;> cases h
  · intro asset _
    exact (CNFT.avoids_burn not_counterFault_message).bind fun _ _ => avoids_pure _

theorem avoids_counterFault {ended loan : LoanData} (cNFTAddress : Address)
    (huser : 1 ≤ m.loanStore.userNftCollateral loan.borrower loan.nftAsset)
    (htotal : 1 ≤ m.loanStore.nftTotalCollateral loan.nftAsset) :
    Avoids CounterFault
      (LendPoolLoan.releaseCollateral (m.withLoan loanId ended) loan cNFTAddress) := by
  apply Avoids.bind
  · exact avoids_require fun hno => absurd huser hno
  · intro _ _
    apply Avoids.bind
    · exact avoids_require fun hno => absurd htotal hno
    · intro _ _
      apply Avoids.bind
      · exact avoids_burnCNFT _ _ _
      · intro _ _
        apply Avoids.bind
        · exact ERC721.avoids_safeTransferFrom not_counterFault_message
        · exact fun _ _ => avoids_pure _

private theorem avoids_state_check {actual expected : LoanState} {program : Except Revert State}
    (h : actual = expected → Avoids CounterFault program) :
    Avoids CounterFault (require (actual = expected) (.error .LPL_INVALID_LOAN_STATE) >>=
      fun _ => program) := by
  apply Avoids.bind
  · apply avoids_require
    rintro _ (h | h) <;> cases h
  · intro _ hpassed
    exact h (require_eq_ok.mp hpassed)

theorem Counted.checks (hc : Counted s) (hb : BookValid s) (hstore : m.loanStore = s.loanStore)
    (loanId : Nat) (cNFTAddress : Address) (borrowAmount : Nat) :
    Avoids CounterFault (LendPoolLoan.repayLoan m loanId cNFTAddress) ∧
      Avoids CounterFault (LendPoolLoan.liquidateLoan m loanId cNFTAddress borrowAmount) := by
  have hcounted : (m.loanStore.loans loanId).state.isLive = true →
      1 ≤ m.loanStore.userNftCollateral (m.loanStore.loans loanId).borrower
          (m.loanStore.loans loanId).nftAsset ∧
        1 ≤ m.loanStore.nftTotalCollateral (m.loanStore.loans loanId).nftAsset := by
    rw [hstore]
    exact fun hlive => ⟨hc.user_pos hb hlive, hc.total_pos hb hlive⟩
  refine ⟨avoids_state_check fun hactive => ?_, avoids_state_check fun hsale => ?_⟩
  · have hlive : (m.loanStore.loans loanId).state.isLive = true := by
      rw [hactive]
      rfl
    exact avoids_counterFault cNFTAddress (hcounted hlive).1 (hcounted hlive).2
  · have hlive : (m.loanStore.loans loanId).state.isLive = true := by
      rw [hsale]
      rfl
    exact avoids_counterFault cNFTAddress (hcounted hlive).1 (hcounted hlive).2

theorem registryExact_of_regular (hb : BookValid s) (hc : Counted s) : RegistryExact s where
  registry := by
    intro nftAsset nftTokenId loanId hne
    rw [isBackedBy_iff]
    constructor
    · intro hreg
      subst hreg
      exact hb.filed nftAsset nftTokenId hne
    · rintro ⟨hlive, rfl, rfl⟩
      exact (hb.indexed loanId hlive).2.2
  unique := by
    intro nftAsset nftTokenId loanId other hloan hother
    rw [isBackedBy_iff] at hloan hother
    exact hb.unique hloan.1 hother.1 (hother.2.1.trans hloan.2.1.symm)
      (hother.2.2.trans hloan.2.2.symm)
  ids := hc.numbered
  total := by
    intro nftAsset
    rw [hc.total, sumLoans_filter _ (backs_eq_ite nftAsset), Finset.card_eq_sum_ones]
  user := by
    intro user nftAsset
    rw [hc.user, sumLoans_filter _ (backsFor_eq_ite user nftAsset), Finset.card_eq_sum_ones]
  checks := fun _ hstore => hc.checks hb hstore

/-! ### A free NFT -/

private theorem avoids_rayDiv_used (a b : Nat) :
    Avoids (· = .error .LP_NFT_HAS_USED_AS_COLLATERAL) (rayDiv a b) := by
  unfold rayDiv divHalfUp
  apply Avoids.bind
  · exact avoids_require fun _ h => by cases h
  · intro _ _
    apply Avoids.bind
    · exact avoids_require fun _ h => by cases h
    · intro _ _
      apply (Uint256.avoids_mul (fun h => by cases h) _ _).bind
      intro _ _
      exact (Uint256.avoids_add (fun h => by cases h) _ _).bind fun _ _ => avoids_pure _

private theorem avoids_mintCNFT_used (cNFTAddress caller recipient : Address) (tokenId : Nat) :
    Avoids (· = .error .LP_NFT_HAS_USED_AS_COLLATERAL)
      (m.mintCNFT cNFTAddress caller recipient tokenId) := by
  apply Avoids.bind
  · cases cNFTAddress
    case cNFT asset => exact avoids_ok _
    all_goals exact avoids_error fun h => by cases h
  · intro asset _
    exact (CNFT.avoids_mint fun text h => by cases h).bind fun _ _ => avoids_pure _

theorem avoids_used (hfree : m.loanStore.nftToLoanIds nftAsset nftTokenId = 0)
    (onBehalfOf cNFTAddress reserveAsset : Address) (amount borrowIndex : Nat) :
    Avoids (· = .error .LP_NFT_HAS_USED_AS_COLLATERAL)
      (LendPoolLoan.createLoan m onBehalfOf nftAsset nftTokenId cNFTAddress reserveAsset amount
        borrowIndex) := by
  apply Avoids.bind
  · exact avoids_require fun hno => absurd hfree hno
  · intro _ _
    apply (avoids_rayDiv_used _ _).bind
    intro scaled _
    apply Avoids.bind
    · exact (ERC721.avoids_safeTransferFrom fun text h => by cases h).bind fun _ _ => avoids_pure _
    · intro _ _
      apply (avoids_mintCNFT_used _ _ _ _).bind
      intro _ _
      apply (Uint256.avoids_add (fun h => by cases h) _ _).bind
      intro _ _
      exact (Uint256.avoids_add (fun h => by cases h) _ _).bind fun _ _ => avoids_pure _

theorem createLoan_succeeds_iff (hfree : m.loanStore.nftToLoanIds nftAsset nftTokenId = 0)
    (onBehalfOf reserveAsset : Address) (amount borrowIndex : Nat) :
    Succeeds (LendPoolLoan.createLoan m onBehalfOf nftAsset nftTokenId (.cNFT nftAsset)
        reserveAsset amount borrowIndex) ↔
      Succeeds (rayDiv amount borrowIndex) ∧ Pledgeable m onBehalfOf nftAsset nftTokenId := by
  simp only [Succeeds, LendPoolLoan.createLoan, State.mintCNFT, bind_eq_ok, require_eq_ok,
    exists_const, State.safeTransferNFT_eq_ok, State.cNFTAt_eq_ok, Address.cNFT.injEq,
    pure_eq_ok, Uint256.add_eq_ok]
  constructor
  · rintro ⟨_, -, scaled, hscaled, _, ⟨hheld, -, hallowed, -, -, rfl⟩, _,
      ⟨_, rfl, ⟨nft, cNFT⟩, hmint, rfl⟩, _, ⟨huser, rfl⟩, _, ⟨htotal, rfl⟩, -⟩
    obtain ⟨-, hunwrapped, -, -, hmove, -, hreceiver, rfl, rfl⟩ := CNFT.mint_eq_ok.mp hmint
    have hwrapper : (m.erc721 nftAsset).operatorApprovals .lendPoolLoan (.cNFT nftAsset) = true := by
      simpa [ERC721.MayMove, ERC721.given] using hmove
    exact ⟨⟨scaled, hscaled⟩, hheld, hallowed, hwrapper, hunwrapped, hreceiver, huser, htotal⟩
  · rintro ⟨⟨scaled, hscaled⟩, hpledge⟩
    exact ⟨_, hfree, scaled, hscaled, _,
      ⟨hpledge.held, by decide, hpledge.allowed, by decide, rfl, rfl⟩, _,
      ⟨_, rfl, (_, _), CNFT.mint_eq_ok.mpr ⟨rfl, hpledge.unwrapped, by simp [ERC721.given],
        by decide, by simpa [ERC721.MayMove, ERC721.given] using hpledge.wrapper, rfl,
        hpledge.receiver, rfl, rfl⟩, rfl⟩, _,
      ⟨hpledge.user, rfl⟩, _, ⟨hpledge.total, rfl⟩, rfl⟩

theorem freeAgain_of_unregistered (hc : Counted s)
    (hfree : s.loanStore.nftToLoanIds nftAsset nftTokenId = 0) :
    FreeAgain s nftAsset nftTokenId where
  unregistered := hfree
  accepted := by
    intro m hstore
    rw [← hstore] at hfree
    exact avoids_used hfree
  returns := by
    intro m hstore
    rw [← hstore] at hfree
    exact createLoan_succeeds_iff hfree
  fresh := by
    intro m m' hstore onBehalfOf reserveAsset amount borrowIndex hcreate
    obtain ⟨scaled, -, -, -, -, -, rfl⟩ := LendPoolLoan.createLoan_spec hcreate
    have hloans : m.loanStore.loanIdTracker = s.loanStore.loanIdTracker := by rw [hstore]
    refine ⟨?_, ?_, fun loanId hexists => (hc.numbered loanId hexists).2.1⟩
    · rw [LoanStore.opened_nftToLoanIds, if_pos ⟨rfl, rfl⟩, hloans]
    · rw [LoanStore.opened_loans, hloans, Function.update_self]
      exact ⟨.inl rfl, rfl, rfl⟩

theorem BookChange.freed (hb : BookValid s) (h : BookChange s s')
    (hlive : (s.loanStore.loans loanId).state.isLive = true)
    (hdead : (s'.loanStore.loans loanId).state.isLive = false) :
    s'.loanStore.nftToLoanIds (s.loanStore.loans loanId).nftAsset
      (s.loanStore.loans loanId).nftTokenId = 0 := by
  have hstill : ∀ {loan : LoanData}, s'.loanStore.loans loanId = loan →
      loan.state.isLive = true → s'.loanStore.nftToLoanIds (s.loanStore.loans loanId).nftAsset
        (s.loanStore.loans loanId).nftTokenId = 0 := by
    intro loan hloan hstill
    rw [hloan, hstill] at hdead
    cases hdead
  cases h with
  | unchanged h => exact hstill (by rw [h.loanStore]) hlive
  | opened _ _ _ h =>
    have hlt := hb.lt_tracker hlive
    apply hstill _ hlive
    rw [h.loanStore, LoanStore.opened_loans, Function.update_of_ne (Nat.ne_of_lt hlt)]
  | @replaced nftAsset nftTokenId loan _ h hnew =>
    by_cases hloan : loanId = s.loanStore.nftToLoanIds nftAsset nftTokenId
    · apply hstill _ hnew
      rw [h.loanStore, LoanStore.withLoan_loans, hloan, Function.update_self]
    · apply hstill _ hlive
      rw [h.loanStore, LoanStore.withLoan_loans, Function.update_of_ne hloan]
  | @closed nftAsset receiver nftTokenId ended _ h _ hsame =>
    by_cases hloan : loanId = s.loanStore.nftToLoanIds nftAsset nftTokenId
    · subst hloan
      have hasset := hsame.nftAsset
      have htoken := hsame.nftTokenId
      rw [h.loanStore, LoanStore.closed_nftToLoanIds]
      exact if_pos ⟨hasset.symm, htoken.symm⟩
    · apply hstill _ hlive
      rw [h.loanStore, LoanStore.closed_loans, Function.update_of_ne hloan]

/-! ### Ids along a run -/

theorem BookChange.tracker_le (h : BookChange s s') :
    s.loanStore.loanIdTracker ≤ s'.loanStore.loanIdTracker := by
  cases h with
  | unchanged h => rw [h.loanStore]
  | opened _ _ _ h =>
    rw [h.loanStore, LoanStore.opened_loanIdTracker]
    exact Nat.le_succ _
  | replaced _ h => rw [h.loanStore, LoanStore.withLoan_loanIdTracker]
  | closed _ h => rw [h.loanStore, LoanStore.closed_loanIdTracker]

theorem BookChange.opened_id (hb : BookValid s) (h : BookChange s s')
    (hnone : (s.loanStore.loans loanId).state = .None)
    (hexists : (s'.loanStore.loans loanId).state ≠ .None) :
    loanId = s.loanStore.loanIdTracker := by
  have hregistered : ∀ {nftAsset : Address} {nftTokenId : Nat},
      s.loanStore.nftToLoanIds nftAsset nftTokenId ≠ 0 →
        loanId ≠ s.loanStore.nftToLoanIds nftAsset nftTokenId := by
    rintro nftAsset nftTokenId hreg rfl
    exact ne_none_of_live (hb.registered_live hreg) hnone
  by_contra hother
  apply hexists
  rw [← hnone]
  cases h with
  | unchanged h => rw [h.loanStore]
  | opened _ _ _ h => rw [h.loanStore, LoanStore.opened_loans, Function.update_of_ne hother]
  | replaced hreg h =>
    rw [h.loanStore, LoanStore.withLoan_loans, Function.update_of_ne (hregistered hreg)]
  | closed hreg h =>
    rw [h.loanStore, LoanStore.closed_loans, Function.update_of_ne (hregistered hreg)]

theorem follows_exists {before after : LoanState} (h : after.follows before = true)
    (hexists : before ≠ .None) : after ≠ .None := by
  revert h hexists
  cases before <;> cases after <;> decide

theorem idsKept_of_same (hstore : s'.loanStore = s.loanStore) : IdsKept s s' where
  tracker := by rw [hstore]
  deal := by
    rw [hstore]
    exact fun loanId hexists => ⟨hexists, rfl, rfl, rfl, rfl, rfl⟩
  ended := by
    rw [hstore]
    exact fun loanId _ => rfl
  opened := by
    rw [hstore]
    exact fun loanId hnone hexists => absurd hnone hexists

theorem idsKept_step (hreg : Regular s) (h : operation.run s = .ok s') : IdsKept s s' := by
  rcases hreg.cases h with haction | ⟨-, hkept⟩
  · have hchange := haction.bookChange
    refine ⟨hchange.tracker_le, ?_, ?_, ?_⟩
    · intro loanId hexists
      have hfollows := (legitimate_move hreg h loanId).follows
      exact ⟨follows_exists hfollows hexists, (hchange.deal hreg.book hexists).1⟩
    · rintro loanId (hended | hended)
      · exact (hchange.deal hreg.book (by simp [hended])).2 (by simp [hended, LoanState.isLive])
      · exact (hchange.deal hreg.book (by simp [hended])).2 (by simp [hended, LoanState.isLive])
    · intro loanId hnone hexists
      exact Nat.le_of_eq (hchange.opened_id hreg.book hnone hexists).symm
  · exact idsKept_of_same hkept.loanStore

theorem IdsKept.trans {s'' : State} (h : IdsKept s s') (h' : IdsKept s' s'') :
    IdsKept s s'' where
  tracker := h.tracker.trans h'.tracker
  deal := by
    intro loanId hexists
    obtain ⟨hmiddle, hfirst⟩ := h.deal loanId hexists
    obtain ⟨hlast, hnext⟩ := h'.deal loanId hmiddle
    exact ⟨hlast, hnext.loanId.trans hfirst.loanId, hnext.borrower.trans hfirst.borrower,
      hnext.nftAsset.trans hfirst.nftAsset, hnext.nftTokenId.trans hfirst.nftTokenId,
      hnext.reserveAsset.trans hfirst.reserveAsset⟩
  ended := by
    intro loanId hended
    have hsame := h.ended loanId hended
    rw [← hsame] at hended
    exact (h'.ended loanId hended).trans hsame
  opened := by
    intro loanId hnone hexists
    by_cases hmiddle : (s'.loanStore.loans loanId).state = .None
    · exact h.tracker.trans (h'.opened loanId hmiddle hexists)
    · exact h.opened loanId hnone hmiddle

theorem idsKept_operations {history : List (Transition State Operation)}
    (hs : Reachable operations s) (hrun : Run operations s history s') : IdsKept s s' := by
  induction hrun with
  | nil => exact idsKept_of_same rfl
  | snoc hrun hstep ih =>
    exact ih.trans (idsKept_step (regular_of_reachable (hrun.reachable hs)) hstep)

theorem idsKept_transactions {history : List (Transition State Transaction)}
    (hs : Reachable transactions s) (hrun : Run transactions s history s') : IdsKept s s' := by
  induction hrun with
  | nil => exact idsKept_of_same rfl
  | snoc hrun hstep ih =>
    have hm := reachable_operations (hrun.reachable hs)
    obtain ⟨_, hitems, -⟩ := Transaction.runs (regular_of_reachable hm) hstep
    exact ih.trans (idsKept_operations hm hitems)

/-- In every reachable state the registry, the ids and the counters describe the live
loans; ids are never given twice, and the NFT of a loan that ends is free for a loan
with a new id. -/
theorem loan_registry_exact (hs : Reachable transactions s) :
    RegistryExact s ∧
      (∀ history s', Run transactions s history s' → IdsKept s s') ∧
      ∀ operation s', Operation.run s operation = .ok s' →
        ∀ loanId nftAsset nftTokenId,
          (s.loanStore.loans loanId).IsBackedBy nftAsset nftTokenId →
            (s'.loanStore.loans loanId).state = .Repaid ∨
              (s'.loanStore.loans loanId).state = .Defaulted →
              loanId < s'.loanStore.loanIdTracker ∧ FreeAgain s' nftAsset nftTokenId := by
  have hs' := reachable_operations hs
  have hreg := regular_of_reachable hs'
  refine ⟨registryExact_of_regular hreg.book (counted_of_reachable hs'),
    fun history s' hrun => idsKept_transactions hs hrun, ?_⟩
  intro operation s' hstep loanId nftAsset nftTokenId hbacked hended
  obtain ⟨hlive, rfl, rfl⟩ := (isBackedBy_iff _).mp hbacked
  have hdead : (s'.loanStore.loans loanId).state.isLive = false := by
    rcases hended with hended | hended <;> rw [hended] <;> rfl
  have hcounted : Counted s' := counted_of_reachable (.step hs' hstep)
  refine ⟨?_, freeAgain_of_unregistered hcounted ?_⟩
  · exact Nat.lt_of_lt_of_le (hreg.book.lt_tracker hlive) (idsKept_step hreg hstep).tracker
  · rcases hreg.cases hstep with haction | ⟨-, hkept⟩
    · exact haction.bookChange.freed hreg.book hlive hdead
    · rw [hkept.loanStore, hlive] at hdead
      cases hdead

/-- The loan is repaid, and a second one is opened against the same NFT. -/
def sampleReborrow : List Operation :=
  [.user (.repay 2 sampleMarket.nftAsset 7 (40 * 10 ^ 18)),
    .user (.borrow 2 sampleMarket.asset (30 * 10 ^ 18) sampleMarket.nftAsset 7 (.account 2))]

def sampleReborrowed : State := replayed operations sampleWorld (sampleLending ++ sampleReborrow)

theorem sampleReborrowed_reachable : Reachable operations sampleReborrowed :=
  fresh_reachable (by decide) _ _ _ _

theorem loan_registry_exact_reborrowed : RegistryExact sampleReborrowed ∧
    sampleReborrowed.loanStore.nftToLoanIds sampleMarket.nftAsset 7 = 2 :=
  ⟨(loan_registry_exact (reachable_transactions sampleReborrowed_reachable)).1, by decide +kernel⟩

end Confetti

import Confetti.Effects.Frames
import Confetti.Invariants.Batches
import Confetti.Protocol.Deployment

/-! The sale fields of a loan and its state always tell the same story, and the bids of
one sale only rise. -/
namespace Confetti
open Outcome TransitionSystem

/-- A loan on sale has a start, a buyer and a price that covers the debt it was measured
by; a loan that is not on sale has none of these. -/
structure LoanData.SaleMatches (loan : LoanData) : Prop where
  sale : loan.state = .BuyItNow → loan.buyItNowStartTimestamp ≠ 0 ∧
    loan.buyItNowBuyerAddress ≠ .zero ∧ 0 < loan.buyItNowPrice ∧
      loan.buyItNowBorrowAmount ≤ loan.buyItNowPrice
  active : loan.state = .Active → loan.buyItNowStartTimestamp = 0 ∧
    loan.buyItNowBuyerAddress = .zero ∧ loan.buyItNowPrice = 0 ∧ loan.buyItNowBorrowAmount = 0

/-- The four sale fields, and the state they belong to. -/
structure SameSale (old new : LoanData) : Prop where
  state : new.state = old.state
  start : new.buyItNowStartTimestamp = old.buyItNowStartTimestamp
  buyer : new.buyItNowBuyerAddress = old.buyItNowBuyerAddress
  price : new.buyItNowPrice = old.buyItNowPrice
  borrowAmount : new.buyItNowBorrowAmount = old.buyItNowBorrowAmount

def Operation.bid (s : State) (loanId : Nat) : Operation → Option Nat
  | .user (.buyItNow _ nftAsset nftTokenId price _) =>
    if s.loanStore.nftToLoanIds nftAsset nftTokenId = loanId then some price else none
  | _ => none

/-- What an accepted offer writes, and what it had to find. -/
structure BidAccepted (s : State) (old new : LoanData) (price : Nat) : Prop where
  turn : (old.state = .Active ∧ old.buyItNowStartTimestamp = 0) ∨
    (old.state = .BuyItNow ∧ old.buyItNowStartTimestamp ≠ 0 ∧ old.buyItNowPrice < price)
  state : new.state = .BuyItNow
  start : new.buyItNowStartTimestamp =
    if old.buyItNowStartTimestamp = 0 then s.timestamp else old.buyItNowStartTimestamp
  buyer : new.buyItNowBuyerAddress ≠ .zero
  price_eq : new.buyItNowPrice = price
  price_pos : 0 < price
  borrowAmount : new.buyItNowBorrowAmount ≤ price

inductive SaleMove (s : State) (operation : Operation) (s' : State) (loanId : Nat) : Prop
  | kept (hbid : operation.bid s loanId = none)
      (h : SameSale (s.loanStore.loans loanId) (s'.loanStore.loans loanId))
  | bid {price : Nat} (hbid : operation.bid s loanId = some price)
      (h : BidAccepted s (s.loanStore.loans loanId) (s'.loanStore.loans loanId) price)
  | cleared (hbid : operation.bid s loanId = none)
      (hactive : (s'.loanStore.loans loanId).state = .Active)
      (h : (s'.loanStore.loans loanId).SaleMatches)
  | ended (hbid : operation.bid s loanId = none)
      (hdead : (s'.loanStore.loans loanId).state.isLive = false)

variable {s s' : State} {operation : Operation} {loanId other : Nat} {loan : LoanData}

theorem SameSale.refl (loan : LoanData) : SameSale loan loan := ⟨rfl, rfl, rfl, rfl, rfl⟩

theorem saleMove_of_same (hbid : operation.bid s loanId = none)
    (hstore : s'.loanStore = s.loanStore) : SaleMove s operation s' loanId := by
  apply SaleMove.kept hbid
  rw [hstore]
  exact SameSale.refl _

theorem LoanReplaced.saleMove (h : LoanReplaced s other loan s')
    (hbid : loanId ≠ other → operation.bid s loanId = none)
    (hmove : loanId = other → s'.loanStore.loans loanId = loan →
      SaleMove s operation s' loanId) : SaleMove s operation s' loanId := by
  by_cases hloan : loanId = other
  · apply hmove hloan
    rw [h.loanStore, LoanStore.withLoan_loans, hloan, Function.update_self]
  · apply SaleMove.kept (hbid hloan)
    rw [h.loanStore, LoanStore.withLoan_loans, Function.update_of_ne hloan]
    exact SameSale.refl _

theorem LoanClosed.saleMove {receiver : Address} (h : LoanClosed s other loan receiver s')
    (hbid : operation.bid s loanId = none) (hdead : loan.state.isLive = false) :
    SaleMove s operation s' loanId := by
  by_cases hloan : loanId = other
  · apply SaleMove.ended hbid
    rw [h.loanStore, LoanStore.closed_loans, hloan, Function.update_self]
    exact hdead
  · apply SaleMove.kept hbid
    rw [h.loanStore, LoanStore.closed_loans, Function.update_of_ne hloan]
    exact SameSale.refl _

theorem BorrowEffect.saleMove {p : ExecuteBorrowParams} {li vi scaled : Nat} (hb : BookValid s)
    (hbid : operation.bid s loanId = none) (h : BorrowEffect s p s' li vi scaled) :
    SaleMove s operation s' loanId := by
  rcases h.book with hopened | htopped
  · by_cases hnew : loanId = s.loanStore.loanIdTracker
    · -- the slot of a new loan was never written
      have hempty := hb.fresh s.loanStore.loanIdTracker (Nat.le_refl _)
      have hloan : s'.loanStore.loans loanId = borrowedLoan s p scaled := by
        rw [hopened.loanStore, LoanStore.opened_loans, hnew, Function.update_self]
      apply SaleMove.cleared hbid
      · rw [hloan]
        rfl
      · rw [hloan]
        refine ⟨(fun hsale => by cases hsale), fun _ => ?_⟩
        simp only [borrowedLoan, LendPoolLoan.newLoan, hempty]
        exact ⟨rfl, rfl, rfl, rfl⟩
    · apply SaleMove.kept hbid
      rw [hopened.loanStore, LoanStore.opened_loans, Function.update_of_ne hnew]
      exact SameSale.refl _
  · apply htopped.replaced.saleMove fun _ => hbid
    rintro rfl hloan
    apply SaleMove.kept hbid
    rw [hloan]
    exact ⟨rfl, rfl, rfl, rfl, rfl⟩

theorem RepayEffect.saleMove {p : ExecuteRepayParams} {li vi debt paid scaled : Nat}
    (hbid : operation.bid s loanId = none)
    (h : RepayEffect s p (s.loanOf p.nftAsset p.nftTokenId) s' li vi debt paid scaled) :
    SaleMove s operation s' loanId := by
  rcases h.book with ⟨-, -, hpartly⟩ | ⟨-, hclosed⟩
  · apply hpartly.saleMove fun _ => hbid
    rintro rfl hloan
    apply SaleMove.kept hbid
    rw [hloan]
    exact ⟨rfl, rfl, rfl, rfl, rfl⟩
  · exact hclosed.saleMove hbid rfl

theorem BuyItNowEffect.saleMove {p : ExecuteBuyItNowParams} {n li vi debt threshold liquidate : Nat}
    (hcall : operation = .user (.ofBuyItNow n p))
    (h : BuyItNowEffect s p (s.loanOf p.nftAsset p.nftTokenId) s' li vi debt threshold liquidate) :
    SaleMove s operation s' loanId := by
  subst hcall
  apply h.replaced.saleMove
  · exact fun hloan => if_neg (Ne.symm hloan)
  · rintro rfl hloan
    have hbid : Operation.bid s (s.loanStore.nftToLoanIds p.nftAsset p.nftTokenId)
        (.user (.ofBuyItNow n p)) = some p.buyItNowPrice := if_pos rfl
    apply SaleMove.bid hbid
    rw [hloan]
    refine ⟨?_, rfl, rfl, h.onBehalfOf, rfl, h.price_pos, h.covered⟩
    rcases h.turn with ⟨hactive, hstart, -⟩ | hsale
    · exact .inl ⟨hactive, hstart⟩
    · exact .inr hsale

theorem Redemption.saleMove {p : ExecuteRedeemParams} {li vi debt fine scaled lr vr : Nat}
    {cTokens : Address → CToken} {token : ERC20} (hbid : operation.bid s loanId = none)
    (h : Redemption s p (s.loanOf p.nftAsset p.nftTokenId) li vi cTokens debt fine scaled lr vr
      token) :
    SaleMove s operation (afterRedemption s p (s.loanOf p.nftAsset p.nftTokenId) li vi cTokens fine
      scaled lr vr token) loanId := by
  apply h.replaced.saleMove fun _ => hbid
  rintro rfl hloan
  apply SaleMove.cleared hbid
  · rw [hloan]
    rfl
  · rw [hloan]
    exact ⟨(fun hsale => by cases hsale), fun _ => ⟨rfl, rfl, rfl, rfl⟩⟩

/-- One step: a sale is kept, bid on, cleared or over. -/
theorem sale_move (hreg : Regular s) (hrun : operation.run s = .ok s') (loanId : Nat) :
    SaleMove s operation s' loanId := by
  rcases hreg.cases hrun with haction | ⟨haside, hkept⟩
  · cases haction with
    | deposit hcall h => exact saleMove_of_same (by rw [hcall]; rfl) h.book.loanStore
    | withdraw hcall h => exact saleMove_of_same (by rw [hcall]; rfl) h.book.loanStore
    | borrow hcall _ h => exact h.saleMove hreg.book (by rw [hcall]; rfl)
    | repay hcall _ h => exact h.saleMove (by rw [hcall]; rfl)
    | buyItNow hcall _ h => exact h.saleMove hcall
    | redeem hcall _ h hs =>
      subst hs
      exact h.saleMove (by rw [hcall]; rfl)
    | liquidate hcall _ h hs =>
      subst hs
      exact h.closed.saleMove (by rw [hcall]; rfl) rfl
  · apply saleMove_of_same _ hkept.loanStore
    unfold Operation.bid
    split
    · cases haside
    · rfl

/-! ### Reachable states -/

theorem LoanData.SaleMatches.of_same {old new : LoanData} (h : SameSale old new)
    (hold : old.SaleMatches) : new.SaleMatches where
  sale := by
    rw [h.state, h.start, h.buyer, h.price, h.borrowAmount]
    exact hold.sale
  active := by
    rw [h.state, h.start, h.buyer, h.price, h.borrowAmount]
    exact hold.active

theorem BidAccepted.saleMatches {old new : LoanData} {price : Nat}
    (h : BidAccepted s old new price) (hclock : 0 < s.timestamp) : new.SaleMatches where
  sale := by
    intro _
    rw [h.start, h.price_eq]
    refine ⟨?_, h.buyer, h.price_pos, h.borrowAmount⟩
    split
    · exact Nat.ne_of_gt hclock
    · assumption
  active := by
    rw [h.state]
    exact fun hactive => by cases hactive

theorem SaleMove.saleMatches (h : SaleMove s operation s' loanId) (hclock : 0 < s.timestamp)
    (hold : (s.loanStore.loans loanId).SaleMatches) : (s'.loanStore.loans loanId).SaleMatches := by
  cases h with
  | kept _ h => exact hold.of_same h
  | bid _ h => exact h.saleMatches hclock
  | cleared _ _ h => exact h
  | ended _ hdead =>
    constructor <;>
      · intro hlive
        rw [hlive] at hdead
        cases hdead

theorem clock_pos (hs : Reachable operations s) : 0 < s.timestamp := by
  apply hs.invariant
  · exact fun s h => h.timestamp
  · intro s operation s' hs hpos hstep
    have hreg := regular_of_reachable hs
    exact Nat.lt_of_lt_of_le hpos
      (Operation.timestamp_le hreg.sound.wired hreg.book.toFiled hstep)

theorem saleMatches_of_reachable (hs : Reachable operations s) :
    ∀ loanId, (s.loanStore.loans loanId).SaleMatches := by
  apply hs.invariant
  · intro s h loanId
    rw [h.loanStore]
    exact ⟨(fun hsale => by cases hsale), fun hactive => by cases hactive⟩
  · intro s operation s' hs hold hstep loanId
    exact (sale_move (regular_of_reachable hs) hstep loanId).saleMatches (clock_pos hs)
      (hold loanId)

/-- The check on the start timestamp in `buyItNowLoan` and its two state checks. The pool
calls it right after the update of the reserve. -/
structure StateChecksAgree (s : State) : Prop where
  test : ∀ loanId, (s.loanStore.loans loanId).state.isLive = true →
    ((s.loanStore.loans loanId).buyItNowStartTimestamp = 0 ↔
      (s.loanStore.loans loanId).state = .Active)
  checks : ∀ nftAsset nftTokenId m, s.loanStore.nftToLoanIds nftAsset nftTokenId ≠ 0 →
    ReserveLogic.updateState s (s.loanOf nftAsset nftTokenId).reserveAsset = .ok m →
      ∀ onBehalfOf price borrowAmount, Avoids (· = .error .LPL_INVALID_LOAN_STATE)
        (LendPoolLoan.buyItNowLoan m (s.loanStore.nftToLoanIds nftAsset nftTokenId) onBehalfOf
          price borrowAmount)

theorem start_eq_zero_iff (h : loan.SaleMatches) (hlive : loan.state.isLive = true) :
    loan.buyItNowStartTimestamp = 0 ↔ loan.state = .Active := by
  constructor
  · intro hstart
    by_contra hactive
    have hsale : loan.state = .BuyItNow := by
      revert hlive hactive
      cases loan.state <;> simp [LoanState.isLive]
    exact (h.sale hsale).1 hstart
  · exact fun hactive => (h.active hactive).1

theorem avoids_invalid_state {m : State} {onBehalfOf : Address} {price borrowAmount : Nat}
    (hmatch : (m.loanStore.loans loanId).SaleMatches)
    (hlive : (m.loanStore.loans loanId).state.isLive = true) :
    Avoids (· = .error .LPL_INVALID_LOAN_STATE)
      (LendPoolLoan.buyItNowLoan m loanId onBehalfOf price borrowAmount) := by
  have htest := start_eq_zero_iff hmatch hlive
  apply Avoids.bind
  · apply avoids_ite
    · intro hstart
      apply Avoids.bind
      · exact avoids_require fun hno => absurd (htest.mp hstart) hno
      · exact fun _ _ => avoids_pure _
    · intro hstart
      have hsale : (m.loanStore.loans loanId).state = .BuyItNow := by
        have hactive := mt htest.mpr hstart
        revert hlive hactive
        cases (m.loanStore.loans loanId).state <;> simp [LoanState.isLive]
      apply Avoids.bind
      · exact avoids_require fun hno => absurd hsale hno
      · intro _ _
        apply Avoids.bind
        · exact avoids_require fun _ h => by cases h
        · exact fun _ _ => avoids_pure _
  · exact fun _ _ => avoids_pure _

theorem stateChecksAgree (hs : Reachable operations s) : StateChecksAgree s where
  test := fun loanId hlive => start_eq_zero_iff (saleMatches_of_reachable hs loanId) hlive
  checks := by
    intro nftAsset nftTokenId m hreg hupdate onBehalfOf price borrowAmount
    obtain ⟨_, _, _, _, -, -, -, -, rfl⟩ := ReserveLogic.updateState_eq_ok.mp hupdate
    apply avoids_invalid_state
    · exact saleMatches_of_reachable hs _
    · exact (regular_of_reachable hs).book.registered_live hreg

/-! ### The bids of a sale -/

/-- Time and price of the bids on a loan since it was last not on sale. -/
def saleBids (loanId : Nat) (history : List (Transition State Operation)) : List (Nat × Nat) :=
  history.foldl (fun bids t =>
    if (t.post.loanStore.loans loanId).state = .BuyItNow then
      bids ++ ((t.label.bid t.pre loanId).map fun price => (t.pre.timestamp, price)).toList
    else []) []

/-- The loan records the time of the first bid and the price of the last, and every bid
was higher than the one before. -/
structure SaleRecorded (bids : List (Nat × Nat)) (loan : LoanData) : Prop where
  running : loan.state = .BuyItNow ↔ bids ≠ []
  start : ∀ first ∈ bids.head?, loan.buyItNowStartTimestamp = first.1
  price : ∀ last ∈ bids.getLast?, loan.buyItNowPrice = last.2
  rising : bids.IsChain fun bid next => bid.2 < next.2

variable {bids : List (Nat × Nat)} {old new : LoanData} {price : Nat}

theorem saleRecorded_of_not_sale (h : loan.state ≠ .BuyItNow) : SaleRecorded [] loan where
  running := ⟨fun hsale => absurd hsale h, fun hne => absurd rfl hne⟩
  start := fun _ hfirst => by cases hfirst
  price := fun _ hlast => by cases hlast
  rising := .nil

theorem SaleRecorded.of_same (h : SaleRecorded bids old) (hsame : SameSale old new) :
    SaleRecorded bids new where
  running := by
    rw [hsame.state]
    exact h.running
  start := by
    rw [hsame.start]
    exact h.start
  price := by
    rw [hsame.price]
    exact h.price
  rising := h.rising

theorem SaleRecorded.of_bid (h : SaleRecorded bids old) (hbid : BidAccepted s old new price) :
    SaleRecorded (bids ++ [(s.timestamp, price)]) new := by
  refine ⟨⟨fun _ => by simp, fun _ => hbid.state⟩, ?_, ?_, ?_⟩
  · intro first hfirst
    rw [hbid.start]
    rcases hbid.turn with ⟨hactive, hstart⟩ | ⟨hsale, hstart, -⟩
    · have hempty : bids = [] := by
        by_contra hne
        rw [h.running.mpr hne] at hactive
        cases hactive
      subst hempty
      cases hfirst
      exact if_pos hstart
    · rw [if_neg hstart]
      apply h.start
      rwa [List.head?_append_of_ne_nil _ (h.running.mp hsale)] at hfirst
  · intro last hlast
    rw [List.getLast?_concat] at hlast
    cases hlast
    exact hbid.price_eq
  · rw [List.isChain_append]
    refine ⟨h.rising, .singleton _, ?_⟩
    intro last hlast next hnext
    cases hnext
    rcases hbid.turn with ⟨hactive, -⟩ | ⟨-, -, hprice⟩
    · have hempty : bids = [] := by
        by_contra hne
        rw [h.running.mpr hne] at hactive
        cases hactive
      subst hempty
      cases hlast
    · rw [← h.price last hlast]
      exact hprice

theorem saleBids_snoc (history : List (Transition State Operation)) :
    saleBids loanId (history ++ [⟨s, operation, s'⟩]) =
      if (s'.loanStore.loans loanId).state = .BuyItNow then
        saleBids loanId history ++
          ((operation.bid s loanId).map fun price => (s.timestamp, price)).toList
      else [] := by
  unfold saleBids
  rw [List.foldl_append]
  rfl

theorem saleRecorded_of_run {s₀ : State} {history : List (Transition State Operation)}
    (hs₀ : Genesis s₀) (hrun : Run operations s₀ history s) :
    SaleRecorded (saleBids loanId history) (s.loanStore.loans loanId) := by
  have hreach : Reachable operations s₀ := .initial hs₀
  induction hrun with
  | nil =>
    apply saleRecorded_of_not_sale
    rw [hs₀.loanStore]
    exact fun hsale => by cases hsale
  | @snoc m s' operation history hrun hstep ih =>
    have hmove := sale_move (regular_of_reachable (hrun.reachable hreach)) hstep loanId
    rw [saleBids_snoc]
    by_cases hsale : (s'.loanStore.loans loanId).state = .BuyItNow
    · rw [if_pos hsale]
      cases hmove with
      | kept hbid h =>
        rw [hbid]
        simp only [Option.map_none, Option.toList_none, List.append_nil]
        exact ih.of_same h
      | bid hbid h =>
        rw [hbid]
        exact ih.of_bid h
      | cleared _ hactive _ =>
        rw [hactive] at hsale
        cases hsale
      | ended _ hdead =>
        rw [hsale] at hdead
        cases hdead
    · rw [if_neg hsale]
      exact saleRecorded_of_not_sale hsale

/-- In every reachable state the sale fields match the loan state and the state checks
of an offer pass; in every run the bids of a sale rise and the loan remembers the time
of the first and the price of the last. -/
theorem sale_fields_match :
    (∀ s, Reachable transactions s →
      (∀ loanId, (s.loanStore.loans loanId).SaleMatches) ∧ StateChecksAgree s) ∧
    ∀ s₀ history s, Genesis s₀ → Run operations s₀ history s →
      ∀ loanId, SaleRecorded (saleBids loanId history) (s.loanStore.loans loanId) := by
  refine ⟨?_, fun s₀ history s hs₀ hrun loanId => saleRecorded_of_run hs₀ hrun⟩
  intro s hs
  have hs' := reachable_operations hs
  exact ⟨saleMatches_of_reachable hs', stateChecksAgree hs'⟩

/-- An offer, and a higher one a minute later. -/
def sampleBidding : List Operation :=
  sampleLending ++ sampleOffer ++ [.world (.tick 60), sampleOutbid]

/-- The loan keeps the time of the first offer and the price of the last. -/
theorem sale_fields_match_on_sale :
    SaleRecorded [(1086400, 50 * 10 ^ 18), (1086460, 60 * 10 ^ 18)]
      ((replayed operations sampleWorld sampleBidding).loanStore.loans 1) := by
  have hbids : saleBids 1 (trace operations sampleWorld sampleBidding) =
      [(1086400, 50 * 10 ^ 18), (1086460, 60 * 10 ^ 18)] := by decide +kernel
  rw [← hbids]
  exact sale_fields_match.2 sampleWorld _ _ (State.fresh_genesis (by decide) _ _ _)
    (trace_run _ _) 1

end Confetti

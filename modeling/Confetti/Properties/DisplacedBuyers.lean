import Confetti.Invariants.Batches
import Confetti.Invariants.Ledger
import Confetti.Protocol.Deployment

/-! Where the money goes that buyers lock on loans. An offer on a loan that is already on
sale overwrites buyer and price, and the refund of the displaced buyer is commented out:
that buyer's money stays in the pool. -/
namespace Confetti
open Outcome TransitionSystem

def paidByPool (events : List Transfer) (asset recipient : Address) : Nat :=
  (events.map fun e =>
    if e.token = asset ∧ e.sender = .lendPool ∧ e.recipient = recipient then e.amount else 0).sum

def LoanData.heldFor (buyer : Address) (loan : LoanData) : Nat :=
  spot (loan.state = .BuyItNow ∧ loan.buyItNowBuyerAddress = buyer) loan.buyItNowPrice

/-- What a buyer has locked on a loan that is still the loan's current price. -/
def held (s : State) (loanId : Nat) (buyer : Address) : Nat :=
  (s.loanStore.loans loanId).heldFor buyer

def locked (t : Transition State Operation) (loanId : Nat) (buyer : Address) : Nat :=
  match t.label with
  | .user (.buyItNow _ nftAsset nftTokenId price onBehalfOf) =>
    spot (t.pre.loanStore.nftToLoanIds nftAsset nftTokenId = loanId ∧ onBehalfOf = buyer) price
  | _ => 0

/-- What an offer or a redemption of a loan transfers from the pool to a buyer. -/
def returned (t : Transition State Operation) (loanId : Nat) (buyer : Address) : Nat :=
  match t.label with
  | .user (.buyItNow _ nftAsset nftTokenId _ _) | .user (.redeem _ nftAsset nftTokenId _ _) =>
    spot (t.pre.loanStore.nftToLoanIds nftAsset nftTokenId = loanId)
      (paidByPool (newTransfers t.pre t.post) (t.pre.loanStore.loans loanId).reserveAsset buyer)
  | _ => 0

def spent (t : Transition State Operation) (loanId : Nat) (buyer : Address) : Nat :=
  match t.label with
  | .user (.liquidate _ nftAsset nftTokenId _) =>
    spot (t.pre.loanStore.nftToLoanIds nftAsset nftTokenId = loanId) (held t.pre loanId buyer)
  | _ => 0

def displaced (t : Transition State Operation) (loanId : Nat) (buyer : Address) : Nat :=
  match t.label with
  | .user (.buyItNow _ nftAsset nftTokenId _ _) =>
    spot (t.pre.loanStore.nftToLoanIds nftAsset nftTokenId = loanId) (held t.pre loanId buyer)
  | _ => 0

def overHistory (history : List (Transition State Operation))
    (flow : Transition State Operation → Nat → Address → Nat) (loanId : Nat) (buyer : Address) :
    Nat :=
  (history.map fun t => flow t loanId buyer).sum

/-- All a buyer ever locked on a loan is its price, or was returned, or was spent. -/
def Accounted (history : List (Transition State Operation)) (s : State) (loanId : Nat)
    (buyer : Address) : Prop :=
  overHistory history locked loanId buyer = held s loanId buyer +
    overHistory history returned loanId buyer + overHistory history spent loanId buyer

variable {s s' : State} {operation : Operation} {loanId other : Nat} {buyer : Address}

theorem not_sale_of_active {loan : LoanData} (h : loan.state = .Active) :
    loan.state ≠ .BuyItNow := by
  rw [h]
  decide

theorem heldFor_of_ne {loan : LoanData} (h : loan.state ≠ .BuyItNow) : loan.heldFor buyer = 0 := by
  unfold LoanData.heldFor spot
  exact if_neg fun hsale => h hsale.1

theorem heldFor_of_sale {loan : LoanData} (h : loan.state = .BuyItNow) :
    loan.heldFor buyer = spot (loan.buyItNowBuyerAddress = buyer) loan.buyItNowPrice := by
  unfold LoanData.heldFor spot
  simp only [h, true_and]

/-! ### One step -/

theorem held_opened {loan : LoanData} (hb : BookValid s) (hactive : loan.state = .Active)
    (h : LoanOpened s loan s') : held s' loanId buyer = held s loanId buyer := by
  unfold held
  rw [h.loanStore, LoanStore.opened_loans]
  by_cases hnew : loanId = s.loanStore.loanIdTracker
  · subst hnew
    rw [Function.update_self, hb.fresh _ le_rfl, heldFor_of_ne (not_sale_of_active hactive),
      heldFor_of_ne (by decide)]
  · rw [Function.update_of_ne hnew]

theorem held_replaced {loan : LoanData} (h : LoanReplaced s other loan s') :
    held s' loanId buyer = if loanId = other then loan.heldFor buyer else held s loanId buyer := by
  unfold held
  rw [h.loanStore, LoanStore.withLoan_loans]
  by_cases hloan : loanId = other
  · subst hloan
    rw [Function.update_self, if_pos rfl]
  · rw [Function.update_of_ne hloan, if_neg hloan]

theorem held_closed {ended : LoanData} {receiver : Address}
    (h : LoanClosed s other ended receiver s') :
    held s' loanId buyer = if loanId = other then ended.heldFor buyer
      else held s loanId buyer := by
  unfold held
  rw [h.loanStore, LoanStore.closed_loans]
  by_cases hloan : loanId = other
  · subst hloan
    rw [Function.update_self, if_pos rfl]
  · rw [Function.update_of_ne hloan, if_neg hloan]

/-- What happens to a loan that is not on sale before or after does not count. -/
theorem held_of_idle {new : LoanData}
    (h : held s' loanId buyer = if loanId = other then new.heldFor buyer
      else held s loanId buyer)
    (hbefore : (s.loanStore.loans other).state ≠ .BuyItNow) (hafter : new.state ≠ .BuyItNow) :
    held s' loanId buyer = held s loanId buyer := by
  rw [h]
  split
  · rename_i hloan
    subst hloan
    rw [heldFor_of_ne hafter, held, heldFor_of_ne hbefore]
  · rfl

theorem paidByPool_refund (asset initiator holder buyer : Address) (amount price fine : Nat)
    (hinitiator : initiator ≠ .lendPool) :
    paidByPool (redemptionEvents asset initiator holder amount price fine) asset buyer =
      spot (holder = buyer) price := by
  simp [paidByPool, redemptionEvents, spot, hinitiator]

/-- Every amount that is locked or was current is current, returned, spent or displaced. -/
def FlowBalanced (s : State) (operation : Operation) (s' : State) (loanId : Nat)
    (buyer : Address) : Prop :=
  locked ⟨s, operation, s'⟩ loanId buyer + held s loanId buyer =
    held s' loanId buyer + returned ⟨s, operation, s'⟩ loanId buyer +
      spent ⟨s, operation, s'⟩ loanId buyer + displaced ⟨s, operation, s'⟩ loanId buyer

private theorem offer_balanced {p : ExecuteBuyItNowParams} {n li vi debt threshold liquidate : Nat}
    (hn : p.initiator = .account n)
    (h : BuyItNowEffect s p (s.loanOf p.nftAsset p.nftTokenId) s' li vi debt threshold liquidate) :
    FlowBalanced s (.user (.ofBuyItNow n p)) s' loanId buyer := by
  have hpaid : ∀ asset : Address, paidByPool
      [⟨(s.loanOf p.nftAsset p.nftTokenId).reserveAsset, p.initiator, .lendPool, p.buyItNowPrice⟩]
        asset buyer = 0 := by
    simp [paidByPool, hn]
  simp only [FlowBalanced, locked, returned, spent, displaced, UserCall.ofBuyItNow]
  rw [held_replaced h.replaced, h.cash.newTransfers, hpaid, spot_zero]
  by_cases hloan : s.loanStore.nftToLoanIds p.nftAsset p.nftTokenId = loanId
  · subst hloan
    have hnew : (offeredLoan s p (s.loanOf p.nftAsset p.nftTokenId) debt).heldFor buyer =
      spot (p.onBehalfOf = buyer) p.buyItNowPrice := heldFor_of_sale rfl
    rw [if_pos rfl, hnew]
    simp [spot]
  · simp [spot, hloan, Ne.symm hloan]

private theorem redemption_balanced {p : ExecuteRedeemParams} {n li vi debt fine scaled lr vr : Nat}
    {cTokens : Address → CToken} {token : ERC20} (hn : p.initiator = .account n)
    (h : Redemption s p (s.loanOf p.nftAsset p.nftTokenId) li vi cTokens debt fine scaled lr vr
      token) :
    FlowBalanced s (.user (.ofRedeem n p)) (afterRedemption s p (s.loanOf p.nftAsset p.nftTokenId) li
      vi cTokens fine scaled lr vr token) loanId buyer := by
  simp only [FlowBalanced, locked, returned, spent, displaced, UserCall.ofRedeem]
  rw [held_replaced h.replaced, h.cash.newTransfers]
  by_cases hloan : s.loanStore.nftToLoanIds p.nftAsset p.nftTokenId = loanId
  · subst hloan
    have hold : held s (s.loanStore.nftToLoanIds p.nftAsset p.nftTokenId) buyer =
      spot ((s.loanOf p.nftAsset p.nftTokenId).buyItNowBuyerAddress = buyer)
        (s.loanOf p.nftAsset p.nftTokenId).buyItNowPrice := heldFor_of_sale h.sale
    have hpaid := paidByPool_refund (s.loanOf p.nftAsset p.nftTokenId).reserveAsset
      p.initiator (s.loanOf p.nftAsset p.nftTokenId).buyItNowBuyerAddress buyer p.amount
      (s.loanOf p.nftAsset p.nftTokenId).buyItNowPrice fine (by simp [hn])
    rw [if_pos rfl, heldFor_of_ne (fun hsale => by cases hsale), hold]
    unfold State.loanOf at hpaid ⊢
    rw [hpaid]
    simp [spot]
  · simp [spot, hloan, Ne.symm hloan]

private theorem liquidation_balanced {p : ExecuteLiquidateParams} {n li vi debt scaled lr vr : Nat}
    {cTokens : Address → CToken} {token : ERC20}
    (h : Liquidation s p (s.loanOf p.nftAsset p.nftTokenId) li vi cTokens debt scaled lr vr token) :
    FlowBalanced s (.user (.ofLiquidate n p)) (afterLiquidation s p
      (s.loanOf p.nftAsset p.nftTokenId) li vi cTokens debt scaled lr vr token) loanId buyer := by
  simp only [FlowBalanced, locked, returned, spent, displaced, UserCall.ofLiquidate]
  rw [held_closed h.closed]
  by_cases hloan : s.loanStore.nftToLoanIds p.nftAsset p.nftTokenId = loanId
  · subst hloan
    rw [if_pos rfl, heldFor_of_ne (fun hsale => by cases hsale)]
    simp [spot]
  · simp [spot, hloan, Ne.symm hloan]

private theorem outside_balanced (hlocked : locked ⟨s, operation, s'⟩ loanId buyer = 0)
    (hreturned : returned ⟨s, operation, s'⟩ loanId buyer = 0)
    (hspent : spent ⟨s, operation, s'⟩ loanId buyer = 0)
    (hdisplaced : displaced ⟨s, operation, s'⟩ loanId buyer = 0)
    (hheld : held s' loanId buyer = held s loanId buyer) :
    FlowBalanced s operation s' loanId buyer := by
  unfold FlowBalanced
  omega

theorem flow_balanced (hreg : Regular s) (hrun : operation.run s = .ok s') :
    FlowBalanced s operation s' loanId buyer := by
  rcases hreg.cases hrun with haction | ⟨houtside, hkept⟩
  · cases haction with
    | deposit hcall h =>
      subst hcall
      exact outside_balanced rfl rfl rfl rfl (by unfold held; rw [h.book.loanStore])
    | withdraw hcall h =>
      subst hcall
      exact outside_balanced rfl rfl rfl rfl (by unfold held; rw [h.book.loanStore])
    | borrow hcall hn h =>
      subst hcall
      apply outside_balanced rfl rfl rfl rfl
      rcases h.book with hopened | htopped
      · exact held_opened hreg.book rfl hopened
      · have hactive := not_sale_of_active htopped.active
        exact held_of_idle (held_replaced htopped.replaced) hactive hactive
    | repay hcall hn h =>
      subst hcall
      apply outside_balanced rfl rfl rfl rfl
      have hactive := not_sale_of_active h.active
      rcases h.book with ⟨-, -, hpartly⟩ | ⟨-, hclosed⟩
      · exact held_of_idle (held_replaced hpartly) hactive hactive
      · exact held_of_idle (held_closed hclosed) hactive (fun hsale => by cases hsale)
    | buyItNow hcall hn h =>
      subst hcall
      exact offer_balanced hn h
    | redeem hcall hn h hs =>
      subst hcall hs
      exact redemption_balanced hn h
    | liquidate hcall hn h hs =>
      subst hcall hs
      exact liquidation_balanced h
  · have hheld : held s' loanId buyer = held s loanId buyer := by
      unfold held
      rw [hkept.loanStore]
    cases operation with
    | user call =>
      cases call <;> first
        | exact outside_balanced rfl rfl rfl rfl hheld
        | cases houtside
    | token call => exact outside_balanced rfl rfl rfl rfl hheld
    | admin call => exact outside_balanced rfl rfl rfl rfl hheld
    | world event => exact outside_balanced rfl rfl rfl rfl hheld

/-! ### Whole runs -/

variable {s₀ : State} {history : List (Transition State Operation)}

theorem overHistory_snoc (flow : Transition State Operation → Nat → Address → Nat)
    (t : Transition State Operation) :
    overHistory (history ++ [t]) flow loanId buyer =
      overHistory history flow loanId buyer + flow t loanId buyer := by
  simp [overHistory]

theorem run_balanced (hrun : Run operations s₀ history s) (hs₀ : Reachable operations s₀)
    (loanId : Nat) (buyer : Address) :
    overHistory history locked loanId buyer + held s₀ loanId buyer =
      held s loanId buyer + overHistory history returned loanId buyer +
        overHistory history spent loanId buyer + overHistory history displaced loanId buyer := by
  induction hrun with
  | nil => simp [overHistory]
  | @snoc m s' operation history hrun hstep ih =>
    have hbefore := ih
    have hflow : FlowBalanced m operation s' loanId buyer :=
      flow_balanced (regular_of_reachable (hrun.reachable hs₀)) hstep
    unfold FlowBalanced at hflow
    simp only [overHistory_snoc]
    omega

def displaces (t : Transition State Operation) : Bool :=
  match t.label with
  | .user (.buyItNow _ nftAsset nftTokenId _ _) =>
    (t.pre.loanOf nftAsset nftTokenId).state == .BuyItNow
  | _ => false

theorem displaced_of_not {t : Transition State Operation} (h : displaces t = false) :
    displaced t loanId buyer = 0 := by
  unfold displaced
  split
  · rename_i caller nftAsset nftTokenId price onBehalfOf hlabel
    simp only [displaces, hlabel, beq_eq_false_iff_ne] at h
    by_cases hloan : t.pre.loanStore.nftToLoanIds nftAsset nftTokenId = loanId
    · subst hloan
      unfold State.loanOf at h
      rw [held, heldFor_of_ne h, spot_zero]
    · rw [spot, if_neg hloan]
  · rfl

theorem displaced_pos {t : Transition State Operation} (hreg : Regular t.pre)
    (h : displaces t = true) : ∃ loanId buyer, 0 < displaced t loanId buyer := by
  unfold displaces at h
  split at h
  · rename_i caller nftAsset nftTokenId price onBehalfOf hlabel
    have hsale := beq_iff_eq.mp h
    refine ⟨t.pre.loanStore.nftToLoanIds nftAsset nftTokenId,
      (t.pre.loanOf nftAsset nftTokenId).buyItNowBuyerAddress, ?_⟩
    have hheld : held t.pre (t.pre.loanStore.nftToLoanIds nftAsset nftTokenId)
        (t.pre.loanOf nftAsset nftTokenId).buyItNowBuyerAddress =
          (t.pre.loanOf nftAsset nftTokenId).buyItNowPrice :=
      (heldFor_of_sale hsale).trans (if_pos rfl)
    simp only [displaced, hlabel, hheld, spot, if_true]
    exact (hreg.book.offer _ hsale).2
  · cases h

/-- In a run from the start every buyer's money is accounted for exactly if nobody was
displaced. -/
theorem accounted_iff (hs₀ : Genesis s₀) (hrun : Run operations s₀ history s) :
    (∀ loanId buyer, Accounted history s loanId buyer) ↔
      ∀ t ∈ history, displaces t = false := by
  have hreach : Reachable operations s₀ := .initial hs₀
  have hnone : ∀ loanId buyer, held s₀ loanId buyer = 0 := by
    intro loanId buyer
    rw [held, hs₀.loanStore]
    exact heldFor_of_ne (fun hsale => by cases hsale)
  constructor
  · intro h t ht
    by_contra hdisplaces
    obtain ⟨hpre, -⟩ := hrun.transition_reachable hreach t ht
    obtain ⟨loanId, buyer, hpos⟩ :=
      displaced_pos (regular_of_reachable hpre) (Bool.eq_true_of_not_eq_false hdisplaces)
    have hall := run_balanced hrun hreach loanId buyer
    have hsum : displaced t loanId buyer ≤ overHistory history displaced loanId buyer :=
      List.le_sum_of_mem (List.mem_map_of_mem ht)
    have haccounted := h loanId buyer
    have hstart := hnone loanId buyer
    unfold Accounted at haccounted
    omega
  · intro h loanId buyer
    have hall := run_balanced hrun hreach loanId buyer
    have hsum : overHistory history displaced loanId buyer = 0 := by
      apply List.sum_eq_zero
      intro amount hamount
      obtain ⟨t, ht, rfl⟩ := List.mem_map.mp hamount
      exact displaced_of_not (h t ht)
    have hstart := hnone loanId buyer
    unfold Accounted
    omega

def State.refund (s : State) (nftAsset : Address) (nftTokenId : Nat) : Transfer :=
  ⟨(s.loanOf nftAsset nftTokenId).reserveAsset, .lendPool,
    (s.loanOf nftAsset nftTokenId).buyItNowBuyerAddress,
    (s.loanOf nftAsset nftTokenId).buyItNowPrice⟩

theorem LendPool.buyItNow_transfers {caller nftTokenId price : Nat} {nftAsset onBehalfOf : Address}
    (hs : Reachable operations s)
    (h : LendPool.buyItNow s (.account caller) nftAsset nftTokenId price onBehalfOf = .ok s') :
    newTransfers s s' =
      [⟨(s.loanOf nftAsset nftTokenId).reserveAsset, .account caller, .lendPool, price⟩] := by
  obtain ⟨_, _, _, _, _, heffect⟩ :=
    buyItNow_effect (regular_of_reachable hs).sound.wired (LendPool.of_whenNotPaused h)
  exact heffect.cash.newTransfers

/-- Offers on loans that are not on sale yet are the only ones that leave every buyer's
money accounted for; a displaced buyer is never paid. -/
theorem displaced_buyers_unpaid (hs₀ : Genesis s₀) (hrun : Run operations s₀ history s) :
    (∀ caller nftAsset nftTokenId price onBehalfOf s',
      LendPool.buyItNow s (.account caller) nftAsset nftTokenId price onBehalfOf = .ok s' →
        (((s.loanOf nftAsset nftTokenId).state = .BuyItNow →
            s.refund nftAsset nftTokenId ∈ newTransfers s s') ↔
          (s.loanOf nftAsset nftTokenId).state ≠ .BuyItNow)) ∧
      ((∀ loanId buyer, Accounted history s loanId buyer) ↔
        ∀ t ∈ history, displaces t = false) := by
  refine ⟨?_, accounted_iff hs₀ hrun⟩
  intro caller nftAsset nftTokenId price onBehalfOf s' h
  rw [LendPool.buyItNow_transfers (hrun.reachable (.initial hs₀)) h]
  constructor
  · intro hrefund hsale
    have hmem := List.mem_singleton.mp (hrefund hsale)
    cases congrArg Transfer.sender hmem
  · exact fun hnot hsale => absurd hsale hnot

/-- One offer, nobody displaced. -/
theorem displaced_buyers_unpaid_first_offer :
    Accounted (trace operations sampleWorld (sampleLending ++ sampleOffer)) sampleOnSale 1
      (.account 3) :=
  (displaced_buyers_unpaid (State.fresh_genesis (by decide) _ _ _)
    (trace_run _ _)).2.mpr (by decide +kernel) 1 (.account 3)

/-- Account 1 offers more than account 3, whose money stays in the pool. -/
theorem outbid_buyer_unpaid :
    (¬∀ s caller nftAsset nftTokenId price onBehalfOf s', Reachable operations s →
      LendPool.buyItNow s (.account caller) nftAsset nftTokenId price onBehalfOf = .ok s' →
        (s.loanOf nftAsset nftTokenId).state = .BuyItNow →
          s.refund nftAsset nftTokenId ∈ newTransfers s s') ∧
    ¬∀ s₀ history s, Genesis s₀ → Run operations s₀ history s →
      ∀ loanId buyer, Accounted history s loanId buyer := by
  refine ⟨fun h => ?_, fun h => ?_⟩
  · have hcheck : passes (sampleOutbid.run sampleOnSale) (fun s' =>
        sampleOnSale.refund sampleMarket.nftAsset 7 ∉ newTransfers sampleOnSale s') = true := by
      decide +kernel
    obtain ⟨s', hrun, hunpaid⟩ := exists_of_passes hcheck
    apply of_decide_eq_true hunpaid
    exact h sampleOnSale 1 sampleMarket.nftAsset 7 _ _ s' sampleOnSale_reachable hrun
      (by decide +kernel)
  · have haccounted := h sampleWorld _ _ (State.fresh_genesis (by decide) _ _ _)
      (trace_run sampleWorld (sampleLending ++ sampleOffer ++ [sampleOutbid])) 1 (.account 3)
    revert haccounted
    unfold Accounted
    decide +kernel

end Confetti

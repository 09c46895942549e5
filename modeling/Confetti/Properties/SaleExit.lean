import Confetti.Invariants.Batches
import Confetti.Invariants.Registry
import Confetti.Invariants.Shortfall
import Confetti.Invariants.TokenSupply
import Confetti.Protocol.Deployment

/-! Whether somebody can end a sale. Once the time to redeem is over only the liquidation is
left, and it pushes the NFT to an address that the last offer was free to choose. -/
namespace Confetti
open Outcome TransitionSystem LiquidateLogic

def Closable (s : State) (nftAsset : Address) (nftTokenId : Nat) : Prop :=
  ∃ n amount,
    (∃ fine r, LendPool.redeem s (.account n) nftAsset nftTokenId amount fine = .ok r) ∨
      ∃ r, LendPool.liquidate s (.account n) nftAsset nftTokenId amount = .ok r

/-- A sale in a pool that runs, of a pair that is switched on, after the first offer's block. -/
structure SaleOpen (s : State) (loan : LoanData) : Prop where
  sale : loan.state = .BuyItNow
  unpaused : s.pool.paused = false
  active : ValidationLogic.BothActive (s.pool.reserves loan.reserveAsset)
    (s.pool.nfts loan.nftAsset)
  started : loan.buyItNowStartTimestamp < s.timestamp

/-- The new indexes, the debt, the prices of the NFT and the rates after the debt is paid can
be computed. -/
def SaleFits (s : State) (loan : LoanData) : Prop :=
  ∃ li vi cTokens debt lr vr, Accrual s loan.reserveAsset li vi cTokens ∧
    rayMul loan.scaledAmount vi = .ok debt ∧ rayDiv debt vi = .ok loan.scaledAmount ∧
      (∃ threshold liquidate,
        SalePrices s loan.reserveAsset loan.nftAsset threshold liquidate) ∧
        RatesAccept s loan.reserveAsset vi debt
          ((s.debtTokens loan.reserveAsset).ledger.totalSupply - loan.scaledAmount) lr vr

/-- An account holds what the price leaves open of the debt, and the pool may take it. -/
def Funded (s : State) (loan : LoanData) (n : Nat) : Prop :=
  ∀ vi, s.nextBorrowIndex loan.reserveAsset = .ok vi →
    ∀ debt, rayMul loan.scaledAmount vi = .ok debt →
      debt - loan.buyItNowPrice ≤ (s.erc20 loan.reserveAsset).balances (.account n) ∧
        debt - loan.buyItNowPrice ≤
          (s.erc20 loan.reserveAsset).allowances (.account n) .lendPool

def RedeemOver (s : State) (loan : LoanData) : Prop :=
  ∀ redeemEndTimestamp, endTimestamp loan.buyItNowStartTimestamp
    (s.pool.nfts loan.nftAsset).configuration.getRedeemDuration = .ok redeemEndTimestamp →
      redeemEndTimestamp < s.timestamp

/-- An offer names a buyer that takes ERC-721 tokens, and no buyer of a running sale stops
taking them. -/
def Operation.Receptive (s : State) : Operation → Prop
  | .user (.buyItNow _ _ _ _ onBehalfOf) => s.acceptsERC721 onBehalfOf = true
  | .world (.account n kind) => ∀ loanId ∈ s.loanIds,
    (s.loanStore.loans loanId).state = .BuyItNow →
      (s.loanStore.loans loanId).buyItNowBuyerAddress = .account n → kind ≠ .contract false
  | _ => True

def Transaction.Receptive (s : State) : Transaction → Prop
  | .single operation => operation.Receptive s
  | _ => True

instance (s : State) (operation : Operation) : Decidable (operation.Receptive s) := by
  unfold Operation.Receptive
  split <;> infer_instance

instance (s : State) (transaction : Transaction) : Decidable (transaction.Receptive s) := by
  unfold Transaction.Receptive
  split <;> infer_instance

def SalesOwed (s : State) : Prop :=
  ∀ loanId, (s.loanStore.loans loanId).state = .BuyItNow →
    0 < (s.loanStore.loans loanId).scaledAmount

def BuyersReceptive (s : State) : Prop :=
  ∀ loanId, (s.loanStore.loans loanId).state = .BuyItNow →
    s.acceptsERC721 (s.loanStore.loans loanId).buyItNowBuyerAddress = true

variable {s s' : State} {operation : Operation} {loanId n tokenId : Nat} {nftAsset : Address}
  {loan : LoanData}

/-! ### What a sale keeps until it ends -/

/-- Only an offer brings a loan on sale, and the first one finds a debt. -/
theorem SalesOwed.step (hreg : Regular s) (howed : SalesOwed s)
    (h : operation.run s = .ok s') : SalesOwed s' := by
  intro loanId hsale
  rcases hreg.cases h with haction | ⟨-, hkept⟩
  · rcases haction.sale_origin hsale with hsame | ⟨_, p, _, _, _, _, _, -, heffect, -, hloan⟩
    · rw [hsame] at hsale ⊢
      exact howed loanId hsale
    · rw [hloan]
      change 0 < (s.loanOf p.nftAsset p.nftTokenId).scaledAmount
      rcases heffect.turn with ⟨-, -, hover, -⟩ | ⟨hbefore, -⟩
      · apply Nat.pos_of_ne_zero
        intro hzero
        have hdebt := heffect.debt_eq
        rw [hzero, rayMul_zero_left] at hdebt
        rw [← Except.ok.inj hdebt] at hover
        exact Nat.not_lt_zero _ hover
      · exact howed _ hbefore
  · rw [hkept.loanStore] at hsale ⊢
    exact howed loanId hsale

theorem acceptsERC721_step (hreg : Regular s) (h : operation.run s = .ok s') (a : Address)
    (hevent : ∀ n kind, operation = .world (.account n kind) →
      a = .account n → kind ≠ .contract false)
    (haccepts : s.acceptsERC721 a = true) : s'.acceptsERC721 a = true := by
  cases operation with
  | user call =>
    have haccounts : s'.accounts = s.accounts := by
      rcases UserCall.cases hreg.sound.wired hreg.book.toFiled h with haction | ⟨haside, -⟩
      · obtain ⟨_, _, _, _, _, hsettled⟩ := haction.settled
        exact hsettled.step.world.accounts
      · obtain ⟨_, _, _, rfl⟩ := UserCall.frame haside h
        rfl
    rw [acceptsERC721_congr haccounts]
    exact haccepts
  | token call =>
    obtain ⟨_, _, _, _, rfl⟩ := TokenCall.frame h
    exact haccepts
  | admin call =>
    obtain ⟨_, _, _, rfl⟩ := (AdminCall.frame h).shape
    exact haccepts
  | world event =>
    cases event with
    | account n kind =>
      obtain rfl := pure_eq_ok.mp h
      cases a with
      | account m =>
        change (Function.update s.accounts n kind m != .contract false) = true
        by_cases hm : m = n
        · subst hm
          rw [Function.update_self]
          exact bne_iff_ne.mpr (hevent m kind rfl rfl)
        · rw [Function.update_of_ne hm]
          exact haccepts
      | _ => exact haccepts
    | deployInterestRate =>
      obtain ⟨_, -, h⟩ := bind_eq_ok.mp h
      obtain ⟨_, -, h⟩ := bind_eq_ok.mp h
      obtain rfl := pure_eq_ok.mp h
      exact haccepts
    | _ =>
      obtain rfl := pure_eq_ok.mp h
      exact haccepts

theorem BuyersReceptive.step (hreg : Regular s) (hreceptive : BuyersReceptive s)
    (hallowed : operation.Receptive s) (h : operation.run s = .ok s') : BuyersReceptive s' := by
  intro loanId hsale
  have hkept : s'.loanStore.loans loanId = s.loanStore.loans loanId →
      s'.acceptsERC721 (s'.loanStore.loans loanId).buyItNowBuyerAddress = true := by
    intro hsame
    rw [hsame] at hsale ⊢
    apply acceptsERC721_step hreg h _ _ (hreceptive loanId hsale)
    intro n kind hcall hbuyer
    subst hcall
    have hlive : (s.loanStore.loans loanId).state.isLive = true := by
      rw [hsale]
      rfl
    have hmem : loanId ∈ s.loanIds := Finset.mem_range.mpr (hreg.book.lt_tracker hlive)
    exact hallowed loanId hmem hsale hbuyer
  rcases hreg.cases h with haction | ⟨-, hsame⟩
  · rcases haction.sale_origin hsale with hsame | ⟨_, p, _, _, _, _, _, hcall, heffect, -, hloan⟩
    · exact hkept hsame
    · subst hcall
      rw [hloan]
      apply acceptsERC721_step hreg h
      · exact fun n kind hcall => by cases hcall
      · exact hallowed
  · exact hkept (by rw [hsame.loanStore])

/-! ### A liquidation that goes through -/

section Payments

variable {ledger : ERC20} {borrower caller : Address} {price debt : Nat}

theorem liquidationPayments_ok (asset : Address) (hbacked : ledger.Backed)
    (hborrower : borrower ≠ .zero) (hcaller : caller ≠ .zero) (hpool : caller ≠ .lendPool)
    (hprice : price ≤ ledger.balances .lendPool) (hbalance : debt - price ≤ ledger.balances caller)
    (hallowance : debt - price ≤ ledger.allowances caller .lendPool) :
    ∃ token, liquidationPayments asset caller borrower price debt ledger = .ok token := by
  -- the caller adds what the price leaves open
  obtain ⟨first, hfirst, hbacked₁, hfilled⟩ : ∃ first,
      (if debt - price > 0 then
          ERC20.transferFrom asset ledger .lendPool caller .lendPool (debt - price)
        else pure ledger) = .ok first ∧ first.Backed ∧
        price + (debt - price) ≤ first.balances .lendPool := by
    by_cases hopen : debt - price > 0
    · simp only [if_pos hopen]
      refine ⟨_, ERC20.transferFrom_eq_ok.mpr ⟨hcaller, by decide, by decide, hbalance,
        hbacked.moved_fits hbalance, hallowance, rfl⟩, hbacked.moved hbalance _, ?_⟩
      change _ ≤ ERC20.moved ledger.balances caller .lendPool (debt - price) .lendPool
      rw [ERC20.moved_recipient hpool]
      omega
    · simp only [if_neg hopen]
      refine ⟨ledger, rfl, hbacked, ?_⟩
      omega
  -- the debt goes to the reserve
  obtain ⟨second, hsecond, hbacked₂, hleft⟩ : ∃ second,
      ERC20.transfer asset first .lendPool (.cToken asset) debt = .ok second ∧ second.Backed ∧
        price - debt ≤ second.balances .lendPool := by
    have hdebt : debt ≤ first.balances .lendPool := by omega
    refine ⟨_, ERC20.transfer_eq_ok.mpr ⟨by decide, (fun h => by cases h), hdebt,
      hbacked₁.moved_fits hdebt, rfl⟩, hbacked₁.moved hdebt _, ?_⟩
    change _ ≤ ERC20.moved first.balances .lendPool (.cToken asset) debt .lendPool
    rw [ERC20.moved_sender (fun h => by cases h)]
    omega
  -- what the price leaves over goes to the borrower
  obtain ⟨third, hthird⟩ : ∃ third,
      (if price - debt > 0 then ERC20.transfer asset second .lendPool borrower (price - debt)
        else pure second) = .ok third := by
    by_cases hover : price - debt > 0
    · simp only [if_pos hover]
      exact ⟨_, ERC20.transfer_eq_ok.mpr
        ⟨by decide, hborrower, hleft, hbacked₂.moved_fits hleft, rfl⟩⟩
    · simp only [if_neg hover]
      exact ⟨second, rfl⟩
  exact ⟨third, bind_eq_ok.mpr ⟨first, hfirst, bind_eq_ok.mpr ⟨second, hsecond, hthird⟩⟩⟩

end Payments

theorem loanOf_of_live (hbook : BookValid s)
    (hlive : (s.loanStore.loans loanId).state.isLive = true) :
    s.loanStore.nftToLoanIds (s.loanStore.loans loanId).nftAsset
        (s.loanStore.loans loanId).nftTokenId ≠ 0 ∧
      s.loanOf (s.loanStore.loans loanId).nftAsset (s.loanStore.loans loanId).nftTokenId =
        s.loanStore.loans loanId := by
  obtain ⟨hne, -, hindexed⟩ := hbook.indexed loanId hlive
  unfold State.loanOf
  rw [hindexed]
  exact ⟨hne, rfl⟩

private def closing (n : Nat) (nftAsset : Address) (tokenId amount : Nat) :
    ExecuteLiquidateParams where
  initiator := .account n
  nftAsset
  nftTokenId := tokenId
  amount

section Open

variable (hs : Solvent s) (hcounted : Counted s) (hbacked : TokensBacked s) (howed : SalesOwed s)
  (hreg : s.loanStore.nftToLoanIds nftAsset tokenId ≠ 0)
  (hopen : SaleOpen s (s.loanOf nftAsset tokenId)) (hfits : SaleFits s (s.loanOf nftAsset tokenId))
  (hfunded : Funded s (s.loanOf nftAsset tokenId) n)
  (haccepts : s.acceptsERC721 (s.loanOf nftAsset tokenId).buyItNowBuyerAddress = true)

include hs hcounted hbacked howed hreg hopen hfits hfunded haccepts

theorem liquidation_of_open :
    ∃ li vi cTokens debt lr vr token, Liquidation s (closing n nftAsset tokenId debt)
      (s.loanOf nftAsset tokenId) li vi cTokens debt (s.loanOf nftAsset tokenId).scaledAmount lr vr
        token := by
  obtain ⟨li, vi, cTokens, debt, lr, vr, haccrual, hdebt, hscaled, hprices, hrates⟩ := hfits
  have hbook := hs.regular.book
  have hlive := hbook.registered_live hreg
  have hcustody : InCustody s (s.loanOf nftAsset tokenId).nftAsset
      (s.loanOf nftAsset tokenId).nftTokenId (s.loanOf nftAsset tokenId).borrower :=
    hbook.custody _ hlive
  have hreleasable : LendPoolLoan.Releasable s (s.loanOf nftAsset tokenId) :=
    hcounted.releasable hbook hlive
  obtain ⟨hbalance, hallowance⟩ := hfunded vi haccrual.variableBorrowIndex debt hdebt
  obtain ⟨token, hpaid⟩ := liquidationPayments_ok _ (hbacked _) hcustody.borrower_ne
    (fun h => by cases h) (fun h => by cases h) (hs.price_le hreg hopen.sale) hbalance hallowance
  refine ⟨li, vi, cTokens, debt, lr, vr, token, ?_⟩
  exact {
    registered := hreg
    active := hopen.active
    sale := hopen.sale
    buyer := (hbook.offer _ hopen.sale).1
    started := hopen.started
    accrual := haccrual
    debt_eq := hdebt
    prices := hprices
    extra := fun _ => Nat.sub_le _ _
    releasable := hreleasable
    scaled_eq := hscaled
    scaled_ne := Nat.ne_of_gt (howed _ hopen.sale)
    borrower := hcustody.borrower_ne
    burned := hs.scaledAmount_le hreg
    rates := hrates
    paid := hpaid
    accepts := haccepts }

theorem closable_of_open : Closable s nftAsset tokenId := by
  obtain ⟨li, vi, cTokens, debt, lr, vr, token, h⟩ :=
    liquidation_of_open hs hcounted hbacked howed hreg hopen hfits hfunded haccepts
  have hrun := (executeLiquidate_eq_ok hs.regular.sound.wired hs.regular.book.toFiled).mpr
    ⟨li, vi, cTokens, debt, _, lr, vr, token, h, rfl, rfl⟩
  have hstart : LendPool.whenNotPaused s = .ok () := require_of hopen.unpaused
  exact ⟨n, debt, .inr ⟨_, bind_eq_ok.mpr ⟨(), hstart, hrun⟩⟩⟩

end Open

/-! ### Once the loan can no longer be redeemed -/

theorem Closable.after_redeem (hw : Wired s) (hf : Filed s)
    (hover : RedeemOver s (s.loanOf nftAsset tokenId)) (h : Closable s nftAsset tokenId) :
    s.acceptsERC721 (s.loanOf nftAsset tokenId).buyItNowBuyerAddress = true ∧
      SaleFits s (s.loanOf nftAsset tokenId) := by
  obtain ⟨n, amount, ⟨fine, ⟨s', paid⟩, h⟩ | ⟨⟨s', paid⟩, h⟩⟩ := h
  · obtain ⟨_, -, h⟩ := bind_eq_ok.mp h
    obtain ⟨_, _, _, _, _, _, _, _, _, h, -⟩ := (executeRedeem_eq_ok hw).mp h
    obtain ⟨redeemEndTimestamp, hend, hwindow⟩ := h.window
    exact absurd hwindow (Nat.not_le_of_lt (hover _ hend))
  · obtain ⟨_, -, h⟩ := bind_eq_ok.mp h
    obtain ⟨li, vi, cTokens, debt, scaled, lr, vr, _, h, -⟩ :=
      (executeLiquidate_eq_ok hw hf).mp h
    have hall := h.scaled_all
    subst hall
    exact ⟨h.accepts, li, vi, cTokens, debt, lr, vr, h.accrual, h.debt_eq, h.scaled_eq, h.prices,
      h.rates⟩

/-- Neither time nor money helps. -/
theorem not_closable_later {now : Nat} {erc20 : Address → ERC20} (hw : Wired s) (hf : Filed s)
    (hover : RedeemOver s (s.loanOf nftAsset tokenId)) (hnow : s.timestamp ≤ now)
    (hrefuses : s.acceptsERC721 (s.loanOf nftAsset tokenId).buyItNowBuyerAddress = false) :
    ¬Closable { s with timestamp := now, erc20 } nftAsset tokenId := by
  intro h
  have hw' : Wired { s with timestamp := now, erc20 } := ⟨hw.reserve, hw.nft, hw.proxy⟩
  have hf' : Filed { s with timestamp := now, erc20 } := hf
  have hover' : RedeemOver { s with timestamp := now, erc20 }
      (State.loanOf { s with timestamp := now, erc20 } nftAsset tokenId) :=
    fun redeemEndTimestamp hend => Nat.lt_of_lt_of_le (hover _ hend) hnow
  have haccepts := (h.after_redeem hw' hf' hover').1
  have hsame : State.acceptsERC721 { s with timestamp := now, erc20 }
      (s.loanOf nftAsset tokenId).buyItNowBuyerAddress =
        s.acceptsERC721 (s.loanOf nftAsset tokenId).buyItNowBuyerAddress :=
    acceptsERC721_congr rfl _
  exact Bool.false_ne_true (hrefuses.symm.trans (hsame.symm.trans haccepts))

/-! ### Whole runs -/

theorem Genesis.no_sale (h : Genesis s) : (s.loanStore.loans loanId).state ≠ .BuyItNow := by
  rw [h.loanStore]
  exact fun hsale => by cases hsale

theorem salesOwed_of_reachable (h : Reachable operations s) : SalesOwed s := by
  apply h.invariant
  · exact fun s hs loanId hsale => absurd hsale (Genesis.no_sale hs)
  · exact fun s operation s' hs howed hstep => howed.step (regular_of_reachable hs) hstep

section Runs

variable {s₀ : State} {history : List (Transition State Transaction)}

theorem tokensBacked_of_run (hs₀ : Genesis s₀) (hbacked : TokensBacked s₀)
    (hrun : Run transactions s₀ history s) : TokensBacked s := by
  have hstep : ∀ m (operation : Operation) m', Reachable operations m → True → TokensBacked m →
      operation.run m = .ok m' → TokensBacked m' := fun m operation m' hm _ hbacked h =>
    hbacked.step (regular_of_reachable hm) h
  exact (Run.preserves_operations hstep (fun _ _ _ => trivial) (fun _ _ _ => trivial)
    (.initial hs₀) hrun (fun _ _ _ _ => trivial) hbacked).1

theorem buyersReceptive_of_run (hs₀ : Genesis s₀) (hrun : Run transactions s₀ history s)
    (hreceptive : ∀ t ∈ history, t.label.Receptive t.pre) : BuyersReceptive s := by
  have hstep : ∀ m (operation : Operation) m', Reachable operations m → operation.Receptive m →
      BuyersReceptive m → operation.run m = .ok m' → BuyersReceptive m' :=
    fun m operation m' hm hallowed hinv h => hinv.step (regular_of_reachable hm) hallowed h
  have hallowed : ∀ t ∈ history, ∀ operation, t.label = .single operation →
      operation.Receptive t.pre := by
    intro t ht operation hlabel
    have h := hreceptive t ht
    rw [hlabel] at h
    exact h
  exact (Run.preserves_operations hstep (fun _ _ _ => trivial) (fun _ _ _ => trivial)
    (.initial hs₀) hrun hallowed fun loanId hsale => absurd hsale hs₀.no_sale).1

/-- If every buyer takes ERC-721 tokens, every open sale whose numbers fit can be ended by
anybody who can pay. Once the loan can no longer be redeemed, this is also necessary. -/
theorem sales_can_end (hs₀ : Genesis s₀) (hbacked : TokensBacked s₀)
    (hrun : Run transactions s₀ history s) :
    ((∀ t ∈ history, t.label.Receptive t.pre) →
      ∀ loanId n, SaleOpen s (s.loanStore.loans loanId) →
        SaleFits s (s.loanStore.loans loanId) → Funded s (s.loanStore.loans loanId) n →
          Closable s (s.loanStore.loans loanId).nftAsset (s.loanStore.loans loanId).nftTokenId) ∧
    ∀ loanId n, SaleOpen s (s.loanStore.loans loanId) → Funded s (s.loanStore.loans loanId) n →
      RedeemOver s (s.loanStore.loans loanId) →
        (Closable s (s.loanStore.loans loanId).nftAsset (s.loanStore.loans loanId).nftTokenId ↔
          s.acceptsERC721 (s.loanStore.loans loanId).buyItNowBuyerAddress = true ∧
            SaleFits s (s.loanStore.loans loanId)) := by
  have hs := reachable_operations (hrun.reachable (.initial hs₀))
  have hsolvent := solvent_of_reachable hs
  have hregular := hsolvent.regular
  have hclosable : ∀ loanId n, SaleOpen s (s.loanStore.loans loanId) →
      SaleFits s (s.loanStore.loans loanId) → Funded s (s.loanStore.loans loanId) n →
        s.acceptsERC721 (s.loanStore.loans loanId).buyItNowBuyerAddress = true →
          Closable s (s.loanStore.loans loanId).nftAsset
            (s.loanStore.loans loanId).nftTokenId := by
    intro loanId n hopen hfits hfunded haccepts
    obtain ⟨hreg, hloan⟩ := loanOf_of_live hregular.book (by rw [hopen.sale]; rfl)
    rw [← hloan] at hopen hfits hfunded haccepts
    exact closable_of_open hsolvent (counted_of_reachable hs)
      (tokensBacked_of_run hs₀ hbacked hrun) (salesOwed_of_reachable hs) hreg hopen hfits hfunded
      haccepts
  refine ⟨?_, ?_⟩
  · intro hreceptive loanId n hopen hfits hfunded
    have hbuyers := buyersReceptive_of_run hs₀ hrun hreceptive
    exact hclosable loanId n hopen hfits hfunded (hbuyers loanId hopen.sale)
  · intro loanId n hopen hfunded hover
    constructor
    · intro h
      obtain ⟨-, hloan⟩ := loanOf_of_live hregular.book (by rw [hopen.sale]; rfl)
      rw [← hloan] at hover ⊢
      exact h.after_redeem hregular.sound.wired hregular.book.toFiled hover
    · rintro ⟨haccepts, hfits⟩
      exact hclosable loanId n hopen hfits hfunded haccepts

end Runs

/-- Two days after the offer of account 3. -/
def sampleSaleEnd : List Transaction :=
  (sampleLending ++ sampleOffer ++ [Operation.world (.tick (2 * 86400))]).map .single

def sampleSaleOver : State := replayed transactions sampleWorld sampleSaleEnd

private theorem sampleSaleOver_fits : SaleFits sampleSaleOver
    (sampleSaleOver.loanOf sampleMarket.nftAsset 7) := by
  have hreach : Reachable transactions sampleSaleOver :=
    replayed_reachable (.initial (State.fresh_genesis (by decide) _ _ _)) sampleSaleEnd
  have hregular := regular_of_reachable (reachable_operations hreach)
  obtain ⟨r, h, -⟩ := exists_of_passes (show passes
    (LendPool.liquidate sampleSaleOver (.account 3) sampleMarket.nftAsset 7 0)
      (fun _ => true) = true by decide +kernel)
  have hover : RedeemOver sampleSaleOver (sampleSaleOver.loanOf sampleMarket.nftAsset 7) := by
    unfold RedeemOver
    decide +kernel
  have hclosable : Closable sampleSaleOver sampleMarket.nftAsset 7 := ⟨3, 0, .inr ⟨r, h⟩⟩
  exact (hclosable.after_redeem hregular.sound.wired hregular.book.toFiled hover).2

theorem sales_can_end_sold : Closable sampleSaleOver sampleMarket.nftAsset 7 := by
  have hs₀ : Genesis sampleWorld := State.fresh_genesis (by decide) _ _ _
  have hreceptive : ∀ t ∈ trace transactions sampleWorld sampleSaleEnd,
      t.label.Receptive t.pre := by decide +kernel
  have hopen : SaleOpen sampleSaleOver (sampleSaleOver.loanStore.loans 1) :=
    ⟨by decide +kernel, by decide +kernel,
      ⟨by decide +kernel, by decide +kernel, by decide +kernel, by decide +kernel⟩,
      by decide +kernel⟩
  have hfits : SaleFits sampleSaleOver (sampleSaleOver.loanStore.loans 1) := by
    have hid : sampleSaleOver.loanStore.nftToLoanIds sampleMarket.nftAsset 7 = 1 := by
      decide +kernel
    have h := sampleSaleOver_fits
    unfold State.loanOf at h
    rw [hid] at h
    exact h
  have hfunded : Funded sampleSaleOver (sampleSaleOver.loanStore.loans 1) 3 := by
    unfold Funded
    decide +kernel
  have hnft : (sampleSaleOver.loanStore.loans 1).nftAsset = sampleMarket.nftAsset ∧
      (sampleSaleOver.loanStore.loans 1).nftTokenId = 7 := by decide +kernel
  have h : Closable sampleSaleOver (sampleSaleOver.loanStore.loans 1).nftAsset
      (sampleSaleOver.loanStore.loans 1).nftTokenId :=
    (sales_can_end hs₀ sampleWorld_backed (trace_run sampleWorld sampleSaleEnd)).1 hreceptive 1 3
      hopen hfits hfunded
  rw [hnft.1, hnft.2] at h
  exact h

/-- Account 150, a contract that takes no ERC-721 tokens, is named as the buyer. -/
def sampleRefused : State :=
  replayed operations sampleWorld (sampleLending ++
    [.world (.account 150 (.contract false)), .world (.tick 86400),
      .world (.nftPrice sampleMarket.nftAsset (.ok (50 * 10 ^ 18))),
      .user (.buyItNow 3 sampleMarket.nftAsset 7 (50 * 10 ^ 18) (.account 150)),
      .world (.tick (2 * 86400))])

/-- A day after the offer nobody can end the sale any more, whenever and with whatever
money. -/
theorem sale_stuck :
    Reachable operations sampleRefused ∧
      SaleOpen sampleRefused (sampleRefused.loanOf sampleMarket.nftAsset 7) ∧
        sampleRefused.reserveOracle sampleMarket.asset = .ok (10 ^ 18) ∧
          sampleRefused.nftOracle sampleMarket.nftAsset = .ok (50 * 10 ^ 18) ∧
            (sampleRefused.pool.reserves sampleMarket.asset).configuration.getReserveFactor ≤
              PERCENTAGE_FACTOR ∧
              ∀ now erc20, sampleRefused.timestamp ≤ now →
                ¬Closable { sampleRefused with timestamp := now, erc20 } sampleMarket.nftAsset
                  7 := by
  have hreach : Reachable operations sampleRefused := fresh_reachable (by decide) _ _ _ _
  have hregular := regular_of_reachable hreach
  have hover : RedeemOver sampleRefused (sampleRefused.loanOf sampleMarket.nftAsset 7) := by
    unfold RedeemOver
    decide +kernel
  refine ⟨hreach, ⟨by decide +kernel, by decide +kernel,
    ⟨by decide +kernel, by decide +kernel, by decide +kernel, by decide +kernel⟩,
    by decide +kernel⟩, by decide +kernel, by decide +kernel, by decide +kernel, ?_⟩
  intro now erc20 hnow
  exact not_closable_later hregular.sound.wired hregular.book.toFiled hover hnow
    (by decide +kernel)

end Confetti

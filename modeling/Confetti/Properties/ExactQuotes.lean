import Confetti.Properties.LoanHistory
import Confetti.Properties.Views

/-! What the pool quotes for an offer and for a redemption, and what the operations
then ask for. Both extrapolate the debt index, the views without storing it. -/
namespace Confetti
open Outcome TransitionSystem ReserveLogic GenericLogic LiquidateLogic

/-- A quoted price and debt are what a first offer is measured by: whoever could offer more is
accepted with less exactly down to the quote. -/
structure OfferQuoteExact (s : State) (nftAsset : Address) (nftTokenId : Nat) (loan : LoanData)
    (liquidatePrice paybackAmount : Nat) : Prop where
  checks : ∀ m prices, updateState s loan.reserveAsset = .ok m →
    calculateLoanLiquidatePrice m (s.loanStore.nftToLoanIds nftAsset nftTokenId) loan.reserveAsset
      loan.nftAsset = .ok prices → prices.2.1 < prices.1 → ∀ price,
        checkFirstOffer price prices.1 prices.2.1 prices.2.2 = .ok () ↔ liquidatePrice ≤ price
  accepts : ∀ user most onBehalfOf, user ≠ .cToken loan.reserveAsset →
    Succeeds (LendPool.buyItNow s user nftAsset nftTokenId most onBehalfOf) → ∀ price ≤ most,
      (Succeeds (LendPool.buyItNow s user nftAsset nftTokenId price onBehalfOf) ↔
        liquidatePrice ≤ price)
  recorded : ∀ user price onBehalfOf s',
    LendPool.buyItNow s user nftAsset nftTokenId price onBehalfOf = .ok s' →
      liquidatePrice ≤ price ∧
        (s'.loanOf nftAsset nftTokenId).buyItNowBorrowAmount = paybackAmount

/-- An amount between the threshold's share of the debt and nine tenths of it. -/
def WithinBounds (debt redeemThreshold amount : Nat) : Prop :=
  ∃ least most, percentMul debt redeemThreshold = .ok least ∧ least ≤ amount ∧
    percentMul debt (PERCENTAGE_FACTOR - TEN_PERCENT) = .ok most ∧ amount ≤ most

/-- A quoted fine is what a redemption demands, and what it pays beside the amount. -/
structure FineQuoteExact (s : State) (nftAsset : Address) (nftTokenId : Nat) (loan : LoanData)
    (quotedFine : Nat) : Prop where
  checks : ∀ m prices fines p, updateState s loan.reserveAsset = .ok m →
    calculateLoanLiquidatePrice m (s.loanStore.nftToLoanIds nftAsset nftTokenId) loan.reserveAsset
      loan.nftAsset = .ok prices →
    calculateLoanBuyItNowFine m loan.reserveAsset loan.nftAsset loan = .ok fines →
    WithinBounds prices.1 (s.pool.nfts loan.nftAsset).configuration.getRedeemThreshold p.amount →
      (checkRedeem p prices.1 fines.2 (s.pool.nfts loan.nftAsset).configuration.getRedeemThreshold =
        .ok () ↔ quotedFine ≤ p.buyItNowFine)
  accepts : ∀ user amount buyItNowFine,
    Succeeds (LendPool.redeem s user nftAsset nftTokenId amount buyItNowFine) ↔
      quotedFine ≤ buyItNowFine ∧
        Succeeds (LendPool.redeem s user nftAsset nftTokenId amount quotedFine)
  pays : ∀ user amount buyItNowFine s' paid,
    LendPool.redeem s user nftAsset nftTokenId amount buyItNowFine = .ok (s', paid) →
      quotedFine ≤ buyItNowFine ∧ paid = amount + quotedFine ∧
        Pays s s' loan.reserveAsset (redemptionEvents loan.reserveAsset user
          loan.buyItNowBuyerAddress amount loan.buyItNowPrice quotedFine)

variable {s m s' : State} {asset nftAsset : Address} {nftTokenId li vi : Nat}
  {cTokens : Address → CToken}

theorem checkFirstOffer_eq_ok {price debt threshold liquidate : Nat} :
    checkFirstOffer price debt threshold liquidate = .ok () ↔
      threshold < debt ∧ liquidate ≤ price ∧ debt ≤ price := by
  simp only [checkFirstOffer, bind_eq_ok, require_eq_ok, exists_const, gt_iff_lt, ge_iff_le]

theorem SalePrices.unique {threshold liquidate threshold' liquidate' : Nat}
    (h : SalePrices s asset nftAsset threshold liquidate)
    (h' : SalePrices s asset nftAsset threshold' liquidate') :
    threshold' = threshold ∧ liquidate' = liquidate := by
  have hprices : salePrices s asset nftAsset = .ok (threshold, liquidate) :=
    salePrices_eq_ok.mpr h
  have hprices' : salePrices s asset nftAsset = .ok (threshold', liquidate') :=
    salePrices_eq_ok.mpr h'
  exact Prod.mk.inj (Except.ok.inj (hprices'.symm.trans hprices))

theorem transferFrom_less {token spender sender recipient : Address} {self paid : ERC20}
    {amount less : Nat} (hle : less ≤ amount)
    (h : ERC20.transferFrom token self spender sender recipient amount = .ok paid) :
    ∃ paid', ERC20.transferFrom token self spender sender recipient less = .ok paid' := by
  obtain ⟨hsender, hrecipient, hspender, hbalance, hmax, hallowed, -⟩ :=
    ERC20.transferFrom_eq_ok.mp h
  refine ⟨_, ERC20.transferFrom_eq_ok.mpr ⟨hsender, hrecipient, hspender, hle.trans hbalance, ?_,
    hle.trans hallowed, rfl⟩⟩
  by_cases hself : recipient = sender
  · subst hself
    simp only [ERC20.moved, Function.update_self] at hmax ⊢
    omega
  · simp only [ERC20.moved, Function.update_self, Function.update_of_ne hself] at hmax ⊢
    omega

theorem buyItNowLoan_first {loanId : Nat} (onBehalfOf : Address) (price borrow : Nat) {other : Nat}
    (hturn : if (s.loanStore.loans loanId).buyItNowStartTimestamp = 0 then
        (s.loanStore.loans loanId).state = .Active
      else (s.loanStore.loans loanId).state = .BuyItNow ∧
        (s.loanStore.loans loanId).buyItNowPrice < other)
    (hactive : (s.loanStore.loans loanId).state = .Active) :
    LendPoolLoan.buyItNowLoan s loanId onBehalfOf price borrow = .ok (s.withLoan loanId
      (LendPoolLoan.offered s (s.loanStore.loans loanId) onBehalfOf price borrow)) := by
  have hstart : (s.loanStore.loans loanId).buyItNowStartTimestamp = 0 := by
    by_contra hne
    rw [if_neg hne, hactive] at hturn
    cases hturn.1
  unfold LendPoolLoan.buyItNowLoan LendPoolLoan.offered
  simp only [if_pos hstart, bind_eq_ok, require_eq_ok, exists_const, pure_eq_ok]
  exact ⟨_, ⟨hactive, rfl⟩, rfl⟩

theorem buyItNow_lowered {p : ExecuteBuyItNowParams} {price : Nat} (hw : Wired s)
    (hinitiator : p.initiator ≠ .cToken (s.loanOf p.nftAsset p.nftTokenId).reserveAsset)
    (hactive : (s.loanOf p.nftAsset p.nftTokenId).state = .Active) (hle : price ≤ p.buyItNowPrice)
    (hcheck : ∀ li vi cTokens debt threshold liquidate,
      Accrual s (s.loanOf p.nftAsset p.nftTokenId).reserveAsset li vi cTokens →
      rayMul (s.loanOf p.nftAsset p.nftTokenId).scaledAmount vi = .ok debt →
      SalePrices s (s.loanOf p.nftAsset p.nftTokenId).reserveAsset
        (s.loanOf p.nftAsset p.nftTokenId).nftAsset threshold liquidate →
      liquidate ≤ price ∧ debt ≤ price)
    (h : Succeeds (executeBuyItNow s p)) :
    Succeeds (executeBuyItNow s { p with buyItNowPrice := price }) := by
  obtain ⟨s', h⟩ := h
  simp only [executeBuyItNow, bind_eq_ok, require_eq_ok, exists_const, updateState_iff hw,
    Succeeds] at h ⊢
  simp only [getCollateralLoanId_eq, getLoan_eq_loanOf] at h ⊢
  obtain ⟨hbehalf, hid, _, hvalid, _, ⟨li, vi, cTokens, haccrual, rfl⟩,
    ⟨debt, threshold, liquidate⟩, hprices, _, hfirst, s₂, hoffer, s₃, hlock, hrates⟩ := h
  obtain ⟨hboth, hlive, -⟩ := ValidationLogic.validateBuyItNow_eq_ok.mp hvalid
  obtain ⟨hdebt, hsale⟩ := (liquidatePrice_accrued rfl).mp hprices
  obtain ⟨hliquidate, hcovered⟩ :=
    hcheck li vi cTokens debt threshold liquidate haccrual hdebt hsale
  simp only [hactive, ↓reduceIte] at hfirst ⊢
  obtain ⟨hrisk, -, -⟩ := checkFirstOffer_eq_ok.mp hfirst
  have hlower : checkFirstOffer price debt threshold liquidate = .ok () :=
    checkFirstOffer_eq_ok.mpr ⟨hrisk, hliquidate, hcovered⟩
  obtain ⟨hturn, rfl⟩ := LendPoolLoan.buyItNowLoan_spec hoffer
  obtain ⟨token, hpaid, rfl⟩ := safeTransferFrom_eq_paid.mp hlock
  obtain ⟨token', hpaid'⟩ := transferFrom_less hle hpaid
  obtain ⟨debtAsset, owed, interestRate, rates, hasset, howed, hmodel, hnew, hliquidity, hvariable,
    -⟩ := updateInterestRates_eq_ok.mp hrates
  have hcash : token'.balances (.cToken (s.loanOf p.nftAsset p.nftTokenId).reserveAsset) =
      token.balances (.cToken (s.loanOf p.nftAsset p.nftTokenId).reserveAsset) := by
    obtain ⟨-, -, -, -, -, -, rfl⟩ := ERC20.transferFrom_eq_ok.mp hpaid
    obtain ⟨-, -, -, -, -, -, rfl⟩ := ERC20.transferFrom_eq_ok.mp hpaid'
    have hpool : Address.cToken (s.loanOf p.nftAsset p.nftTokenId).reserveAsset ≠ .lendPool := by
      simp
    exact (ERC20.moved_of_ne hinitiator.symm hpool).trans
      (ERC20.moved_of_ne hinitiator.symm hpool).symm
  have hoffer' := buyItNowLoan_first p.onBehalfOf price debt hturn hactive
  refine ⟨_, hbehalf, hid, (), ValidationLogic.validateBuyItNow_eq_ok.mpr ⟨hboth, hlive, by
    exact Nat.lt_of_le_of_lt (Nat.zero_le _) (Nat.lt_of_lt_of_le hrisk hcovered)⟩, _,
    ⟨li, vi, cTokens, haccrual, rfl⟩, (debt, threshold, liquidate), hprices, (), hlower, _, hoffer',
    _, safeTransferFrom_eq_paid.mpr ⟨token', hpaid', rfl⟩, updateInterestRates_eq_ok.mpr
      ⟨debtAsset, owed, interestRate, rates, hasset, howed, hmodel, ?_, hliquidity, hvariable, rfl⟩⟩
  simp only [State.pays, State.withLoan, Function.update_self, haccrual.accrued_cToken] at hnew ⊢
  rw [hcash]
  exact hnew

theorem offerQuoteExact_of_reachable (hs : Reachable operations s) (hslot : s.timestamp < 2 ^ 40)
    (hid : s.loanStore.nftToLoanIds nftAsset nftTokenId ≠ 0)
    (hrate : (s.pool.reserves
      (s.loanOf nftAsset nftTokenId).reserveAsset).currentLiquidityRate ≠ 0)
    (hactive : (s.loanOf nftAsset nftTokenId).state = .Active) {quote : Nat × Nat}
    (hquote : LendPool.getNftLiquidatePrice s nftAsset nftTokenId = .ok quote) :
    OfferQuoteExact s nftAsset nftTokenId (s.loanOf nftAsset nftTokenId) quote.1 quote.2 := by
  have hw := (regular_of_reachable hs).sound.wired
  obtain ⟨threshold, liquidate, hshown, hsale, hmax⟩ := getNftLiquidatePrice_spec hid hquote
  have hcharged : ∀ li vi cTokens debt,
      Accrual s (s.loanOf nftAsset nftTokenId).reserveAsset li vi cTokens →
      rayMul (s.loanOf nftAsset nftTokenId).scaledAmount vi = .ok debt → debt = quote.2 := by
    intro li vi cTokens debt ha hdebt
    have hsame := borrowAmount_shown hs hslot hid rfl (.inl hrate) ha
    rw [borrowAmount_accrued _ rfl, hdebt, hshown] at hsame
    exact Except.ok.inj hsame
  have hrecorded : ∀ user price onBehalfOf s',
      LendPool.buyItNow s user nftAsset nftTokenId price onBehalfOf = .ok s' →
        quote.1 ≤ price ∧ (s'.loanOf nftAsset nftTokenId).buyItNowBorrowAmount = quote.2 := by
    intro user price onBehalfOf s' h
    obtain ⟨li, vi, debt, threshold', liquidate', heffect⟩ :=
      buyItNow_effect hw (LendPool.of_whenNotPaused h)
    obtain ⟨cTokens, ha⟩ := heffect.step.accrual
    have hdebt' := hcharged li vi cTokens debt ha heffect.debt_eq
    have hliquidate := (hsale.unique heffect.prices).2
    have hcovered := heffect.covered
    obtain ⟨-, -, -, hle⟩ := heffect.turn.resolve_right fun hnext => by
      have hstate := hactive.symm.trans hnext.1
      cases hstate
    refine ⟨?_, ?_⟩
    · change debt ≤ price at hcovered
      change liquidate' ≤ price at hle
      omega
    · rw [heffect.replaced.loanOf]
      exact hdebt'
  refine ⟨?_, ?_, hrecorded⟩
  · intro m prices hupdate hprices hrisk price
    obtain ⟨li, vi, cTokens, ha, rfl⟩ := (updateState_iff hw).mp hupdate
    obtain ⟨hdebt, hsale'⟩ := (liquidatePrice_accrued rfl).mp hprices
    have hdebt' := hcharged li vi cTokens prices.1 ha hdebt
    have hliquidate := (hsale.unique hsale').2
    rw [checkFirstOffer_eq_ok]
    omega
  · intro user most onBehalfOf hinitiator hmost price hle
    constructor
    · rintro ⟨s', h⟩
      exact (hrecorded user price onBehalfOf s' h).1
    · intro hcovered
      obtain ⟨s', hmost⟩ := hmost
      obtain ⟨_, hpaused, hmost⟩ := bind_eq_ok.mp hmost
      have hlowered :
          Succeeds (executeBuyItNow s ⟨user, nftAsset, nftTokenId, price, onBehalfOf⟩) := by
        apply buyItNow_lowered hw hinitiator hactive hle _ ⟨s', hmost⟩
        intro li vi cTokens debt threshold' liquidate' ha hdebt hsale'
        have hdebt' := hcharged li vi cTokens debt ha hdebt
        have hliquidate := (hsale.unique hsale').2
        omega
      obtain ⟨s'', h⟩ := hlowered
      exact ⟨s'', bind_eq_ok.mpr ⟨(), hpaused, h⟩⟩

theorem Redemption.of_fine {p : ExecuteRedeemParams} {loan : LoanData} {token : ERC20}
    {debt fine scaled lr vr offered : Nat}
    (h : Redemption s p loan li vi cTokens debt fine scaled lr vr token) (hfine : fine ≤ offered) :
    Redemption s { p with buyItNowFine := offered } loan li vi cTokens debt fine scaled lr vr
      token := by
  have hcheck := h.check
  simp only [checkRedeem, bind_eq_ok, require_eq_ok, exists_const] at hcheck
  refine ⟨h.registered, h.active, h.sale, h.buyer, h.amount_pos, h.window, h.accrual, h.debt_eq,
    h.prices, h.fine_eq, ?_, h.scaled_eq, h.scaled_ne, h.scaled_le, h.borrower, h.burned, h.rates,
    h.paid, h.total⟩
  simp only [checkRedeem, bind_eq_ok, require_eq_ok, exists_const]
  exact ⟨hfine, hcheck.2⟩

theorem fineQuoteExact_of_reachable (hs : Reachable operations s) (hslot : s.timestamp < 2 ^ 40)
    (hid : s.loanStore.nftToLoanIds nftAsset nftTokenId ≠ 0)
    (hrate : (s.pool.reserves
      (s.loanOf nftAsset nftTokenId).reserveAsset).currentLiquidityRate ≠ 0)
    {quote : LendPool.NftBuyItNowData}
    (hquote : LendPool.getNftBuyItNowData s nftAsset nftTokenId = .ok quote) :
    FineQuoteExact s nftAsset nftTokenId (s.loanOf nftAsset nftTokenId) quote.buyItNowFine := by
  have hreg := regular_of_reachable hs
  have hw := hreg.sound.wired
  obtain ⟨minFine, hshown⟩ := getNftBuyItNowData_spec hid hquote
  have hnft : (s.loanOf nftAsset nftTokenId).nftAsset = nftAsset :=
    (hreg.book.filed nftAsset nftTokenId hid).2.1
  have hself : s.loanStore.loans (s.loanOf nftAsset nftTokenId).loanId =
      s.loanOf nftAsset nftTokenId := hreg.book.loanOf_loanId hid
  have hcharged : ∀ li vi cTokens fines,
      Accrual s (s.loanOf nftAsset nftTokenId).reserveAsset li vi cTokens →
      calculateLoanBuyItNowFine (s.accrued (s.loanOf nftAsset nftTokenId).reserveAsset li vi cTokens)
        (s.loanOf nftAsset nftTokenId).reserveAsset (s.loanOf nftAsset nftTokenId).nftAsset
          (s.loanOf nftAsset nftTokenId) = .ok fines → fines.2 = quote.buyItNowFine := by
    intro li vi cTokens fines ha hfines
    rw [calculateLoanBuyItNowFine_accrued, hnft, hshown] at hfines
    · exact congrArg Prod.snd (Except.ok.inj hfines).symm
    · rw [hself]
      exact borrowAmount_shown hs hslot hid rfl (.inl hrate) ha
  -- a redemption with one fine on offer is one with any other that covers the quote
  have hredeem : ∀ user amount f r,
      LendPool.redeem s user nftAsset nftTokenId amount f = .ok r → quote.buyItNowFine ≤ f ∧
        ∀ f', quote.buyItNowFine ≤ f' →
          Succeeds (LendPool.redeem s user nftAsset nftTokenId amount f') := by
    intro user amount f r h
    obtain ⟨_, hpaused, h⟩ := bind_eq_ok.mp h
    obtain ⟨li, vi, cTokens, debt, fine, scaled, lr, vr, token, hredemption, -, -⟩ :=
      (executeRedeem_eq_ok hw).mp h
    obtain ⟨_, hfine⟩ := hredemption.fine_eq
    have hsame : fine = quote.buyItNowFine := hcharged li vi cTokens _ hredemption.accrual hfine
    have hcheck := hredemption.check
    simp only [checkRedeem, bind_eq_ok, require_eq_ok, exists_const] at hcheck
    refine ⟨hsame ▸ hcheck.1, ?_⟩
    intro f' hf'
    exact ⟨_, bind_eq_ok.mpr ⟨(), hpaused, (executeRedeem_eq_ok hw).mpr ⟨li, vi, cTokens, debt,
      fine, scaled, lr, vr, token, hredemption.of_fine (hsame ▸ hf'), rfl, rfl⟩⟩⟩
  refine ⟨?_, ?_, ?_⟩
  · intro m prices fines p hupdate hprices hfines hbounds
    obtain ⟨li, vi, cTokens, ha, rfl⟩ := (updateState_iff hw).mp hupdate
    obtain ⟨least, most, hleast, hle, hmost, hge⟩ := hbounds
    rw [hcharged li vi cTokens fines ha hfines]
    simp only [checkRedeem, bind_eq_ok, require_eq_ok, exists_const]
    constructor
    · rintro ⟨hfine, -⟩
      exact hfine
    · intro hfine
      exact ⟨hfine, least, hleast, hle, most, hmost, hge⟩
  · intro user amount buyItNowFine
    constructor
    · rintro ⟨r, h⟩
      obtain ⟨hle, hother⟩ := hredeem user amount buyItNowFine r h
      exact ⟨hle, hother quote.buyItNowFine le_rfl⟩
    · rintro ⟨hle, r, h⟩
      exact (hredeem user amount quote.buyItNowFine r h).2 buyItNowFine hle
  · intro user amount buyItNowFine s' paid h
    have hle := (hredeem user amount buyItNowFine _ h).1
    obtain ⟨li, vi, cTokens, debt, fine, scaled, lr, vr, token, hredemption, rfl, rfl⟩ :=
      (executeRedeem_eq_ok hw).mp (LendPool.of_whenNotPaused h)
    obtain ⟨_, hfine⟩ := hredemption.fine_eq
    have hsame : fine = quote.buyItNowFine := hcharged li vi cTokens _ hredemption.accrual hfine
    rw [← hsame]
    exact ⟨hsame ▸ hle, rfl, hredemption.cash.pays (recorded_redemption _ _ _ _ _ _)⟩

/-- Where depositors earn and block times fit their slot, both quotes of the pool are exact. -/
theorem quotes_are_exact (hs : Reachable operations s) (hslot : s.timestamp < 2 ^ 40)
    (hid : s.loanStore.nftToLoanIds nftAsset nftTokenId ≠ 0)
    (hrate : (s.pool.reserves
      (s.loanOf nftAsset nftTokenId).reserveAsset).currentLiquidityRate ≠ 0) :
    ((s.loanOf nftAsset nftTokenId).state = .Active → ∀ liquidatePrice paybackAmount,
      LendPool.getNftLiquidatePrice s nftAsset nftTokenId = .ok (liquidatePrice, paybackAmount) →
        OfferQuoteExact s nftAsset nftTokenId (s.loanOf nftAsset nftTokenId) liquidatePrice
          paybackAmount) ∧
    ((s.loanOf nftAsset nftTokenId).state = .BuyItNow → ∀ quote,
      LendPool.getNftBuyItNowData s nftAsset nftTokenId = .ok quote →
        FineQuoteExact s nftAsset nftTokenId (s.loanOf nftAsset nftTokenId) quote.buyItNowFine) :=
  ⟨fun hactive _ _ hquote => offerQuoteExact_of_reachable hs hslot hid hrate hactive hquote,
    fun _ _ hquote => fineQuoteExact_of_reachable hs hslot hid hrate hquote⟩

/-! ### Examples -/

/-- The sample loan when time has passed and its NFT is worth half. -/
def sampleHalved (seconds : Nat) : State :=
  replayed operations sampleLent
    [.world (.tick seconds), .world (.nftPrice sampleMarket.nftAsset (.ok (50 * 10 ^ 18)))]

theorem sampleHalved_reachable (seconds : Nat) : Reachable operations (sampleHalved seconds) :=
  replayed_reachable sampleLent_reachable _

/-- Account 3 offers the whole price after a day, and account 2 redeems its NFT. -/
theorem quotes_are_exact_day :
    (∃ liquidatePrice paybackAmount s',
      LendPool.getNftLiquidatePrice (sampleHalved 86400) sampleMarket.nftAsset 7 =
        .ok (liquidatePrice, paybackAmount) ∧
      LendPool.buyItNow (sampleHalved 86400) (.account 3) sampleMarket.nftAsset 7 (50 * 10 ^ 18)
        (.account 3) = .ok s' ∧
      (s'.loanOf sampleMarket.nftAsset 7).buyItNowBorrowAmount = paybackAmount) ∧
    ∃ quote s' paid,
      LendPool.getNftBuyItNowData sampleOnSale sampleMarket.nftAsset 7 = .ok quote ∧
      LendPool.redeem sampleOnSale (.account 2) sampleMarket.nftAsset 7 (25 * 10 ^ 18)
        (10 * 10 ^ 18) = .ok (s', paid) ∧
      paid = 25 * 10 ^ 18 + quote.buyItNowFine := by
  constructor
  · obtain ⟨⟨liquidatePrice, paybackAmount⟩, hquote, -⟩ := exists_of_passes (show passes
      (LendPool.getNftLiquidatePrice (sampleHalved 86400) sampleMarket.nftAsset 7) (fun _ => true) =
        true by decide +kernel)
    obtain ⟨s', hoffer, -⟩ := exists_of_passes (show passes (LendPool.buyItNow (sampleHalved 86400)
      (.account 3) sampleMarket.nftAsset 7 (50 * 10 ^ 18) (.account 3)) (fun _ => true) = true by
        decide +kernel)
    have hexact := (quotes_are_exact (sampleHalved_reachable 86400) (by decide +kernel)
      (by decide +kernel) (by decide +kernel)).1 (by decide +kernel) liquidatePrice paybackAmount
        hquote
    exact ⟨liquidatePrice, paybackAmount, s', hquote, hoffer,
      (hexact.recorded _ _ _ _ hoffer).2⟩
  · obtain ⟨quote, hquote, -⟩ := exists_of_passes (show passes
      (LendPool.getNftBuyItNowData sampleOnSale sampleMarket.nftAsset 7) (fun _ => true) = true by
        decide +kernel)
    obtain ⟨⟨s', paid⟩, hredeem, -⟩ := exists_of_passes (show passes (LendPool.redeem sampleOnSale
      (.account 2) sampleMarket.nftAsset 7 (25 * 10 ^ 18) (10 * 10 ^ 18)) (fun _ => true) = true by
        decide +kernel)
    have hexact := (quotes_are_exact sampleOnSale_reachable (by decide +kernel)
      (by decide +kernel) (by decide +kernel)).2 (by decide +kernel) quote hquote
    exact ⟨quote, s', paid, hquote, hredeem, (hexact.pays _ _ _ _ _ hredeem).2.1⟩

/-- Forty bits of seconds later the view still quotes the old debt. -/
theorem quotes_stale_at_wrap :
    ¬∀ (s : State) (nftAsset : Address) (nftTokenId liquidatePrice paybackAmount : Nat),
      Reachable operations s → s.loanStore.nftToLoanIds nftAsset nftTokenId ≠ 0 →
      (s.pool.reserves (s.loanOf nftAsset nftTokenId).reserveAsset).currentLiquidityRate ≠ 0 →
      (s.loanOf nftAsset nftTokenId).state = .Active →
      LendPool.getNftLiquidatePrice s nftAsset nftTokenId = .ok (liquidatePrice, paybackAmount) →
        OfferQuoteExact s nftAsset nftTokenId (s.loanOf nftAsset nftTokenId) liquidatePrice
          paybackAmount := by
  intro h
  have hcheck : passes (LendPool.getNftLiquidatePrice (sampleHalved (2 ^ 40)) sampleMarket.nftAsset
      7) (fun quote => passes (updateState (sampleHalved (2 ^ 40)) sampleMarket.asset) fun m =>
        passes (calculateLoanLiquidatePrice m 1 sampleMarket.asset sampleMarket.nftAsset)
          fun prices => decide (prices.2.1 < prices.1 ∧
            checkFirstOffer quote.1 prices.1 prices.2.1 prices.2.2 ≠ .ok ())) = true := by
    decide +kernel
  obtain ⟨⟨liquidatePrice, paybackAmount⟩, hquote, hcheck⟩ := exists_of_passes hcheck
  obtain ⟨m, hupdate, hcheck⟩ := exists_of_passes hcheck
  obtain ⟨prices, hprices, hdecided⟩ := exists_of_passes hcheck
  obtain ⟨hrisk, hrefused⟩ := of_decide_eq_true hdecided
  have hid : (sampleHalved (2 ^ 40)).loanStore.nftToLoanIds sampleMarket.nftAsset 7 = 1 := by
    decide +kernel
  have hloan : ((sampleHalved (2 ^ 40)).loanOf sampleMarket.nftAsset 7).reserveAsset =
      sampleMarket.asset ∧
        ((sampleHalved (2 ^ 40)).loanOf sampleMarket.nftAsset 7).nftAsset =
          sampleMarket.nftAsset := by decide +kernel
  have hexact := h (sampleHalved (2 ^ 40)) sampleMarket.nftAsset 7 liquidatePrice paybackAmount
    (sampleHalved_reachable _) (by decide +kernel) (by decide +kernel) (by decide +kernel) hquote
  have hiff := hexact.checks m prices (by rw [hloan.1]; exact hupdate)
    (by rw [hid, hloan.1, hloan.2]; exact hprices) hrisk liquidatePrice
  exact hrefused (hiff.mpr le_rfl)

end Confetti

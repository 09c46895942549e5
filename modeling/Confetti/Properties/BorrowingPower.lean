import Confetti.Effects.Quotes
import Confetti.Invariants.AssetLists
import Confetti.Protocol.Deployment

/-! What may still be borrowed, advertised and accepted. The view takes the rounded
percentage of the collateral, the check divides the new debt by the percentage; both
round to the nearest unit, and only the view rounds in the borrower's favour. -/
namespace Confetti
open Outcome HalfUp TransitionSystem GenericLogic ValidationLogic

/-- The last unit on offer comes from rounding up, and the check does not round it away. -/
def OverAdvertised (collateral debt ltv amount : Nat) : Prop :=
  debt + amount = collateral * ltv / PERCENTAGE_FACTOR + 1 ∧
    PERCENTAGE_FACTOR / 2 ≤ collateral * ltv % PERCENTAGE_FACTOR ∧
      (collateral * ltv % PERCENTAGE_FACTOR + (ltv + 1) / 2 ≤ PERCENTAGE_FACTOR ∨
        Uint256.max < (debt + amount) * PERCENTAGE_FACTOR + ltv / 2)

instance (collateral debt ltv amount : Nat) : Decidable (OverAdvertised collateral debt ltv amount) :=
  inferInstanceAs (Decidable (_ ∧ _))

/-- Everything but the amount speaks for the borrower. -/
structure BorrowAllowed (s : State) (user reserveAsset nftAsset : Address)
    (loanId collateral debt : Nat) : Prop where
  reserve : (s.pool.reserves reserveAsset).cTokenAddress ≠ .zero
  nft : (s.pool.nfts nftAsset).cNFTAddress ≠ .zero
  loan : loanId ≠ 0 →
    validateBorrowedLoan (s.loanStore.loans loanId) user reserveAsset = .ok ()
  active : (s.pool.reserves reserveAsset).configuration.getFlags.1 = true
  unfrozen : (s.pool.reserves reserveAsset).configuration.getFlags.2.1 = false
  enabled : (s.pool.reserves reserveAsset).configuration.getFlags.2.2.1 = true
  nftActive : (s.pool.nfts nftAsset).configuration.getFlags.1 = true
  nftUnfrozen : (s.pool.nfts nftAsset).configuration.getFlags.2 = false
  health : ∃ healthFactor, HEALTH_FACTOR_LIQUIDATION_THRESHOLD < healthFactor ∧
    calculateLoanData s reserveAsset nftAsset loanId = .ok (collateral, debt, healthFactor)

instance (s : State) (user reserveAsset nftAsset : Address) (loanId collateral debt : Nat) :
    Decidable (BorrowAllowed s user reserveAsset nftAsset loanId collateral debt) :=
  decidable_of_iff
    ((s.pool.reserves reserveAsset).cTokenAddress ≠ .zero ∧
      (s.pool.nfts nftAsset).cNFTAddress ≠ .zero ∧
      (loanId ≠ 0 → passes (validateBorrowedLoan (s.loanStore.loans loanId) user reserveAsset)
        (fun _ => true) = true) ∧
      ((s.pool.reserves reserveAsset).configuration.getFlags.1 = true ∧
        (s.pool.reserves reserveAsset).configuration.getFlags.2.1 = false ∧
        (s.pool.reserves reserveAsset).configuration.getFlags.2.2.1 = true) ∧
      ((s.pool.nfts nftAsset).configuration.getFlags.1 = true ∧
        (s.pool.nfts nftAsset).configuration.getFlags.2 = false) ∧
      passes (calculateLoanData s reserveAsset nftAsset loanId) (fun data =>
        decide (data.1 = collateral ∧ data.2.1 = debt ∧
          HEALTH_FACTOR_LIQUIDATION_THRESHOLD < data.2.2)) = true) (by
    constructor
    · rintro ⟨hreserve, hnft, hloan, ⟨hactive, hunfrozen, henabled⟩, ⟨hnftActive, hnftUnfrozen⟩,
        hchecked⟩
      obtain ⟨data, hdata, hchecked⟩ := exists_of_passes hchecked
      obtain ⟨rfl, rfl, hhealth⟩ := of_decide_eq_true hchecked
      refine ⟨hreserve, hnft, ?_, hactive, hunfrozen, henabled, hnftActive, hnftUnfrozen,
        data.2.2, hhealth, hdata⟩
      intro hid
      obtain ⟨u, h, -⟩ := exists_of_passes (hloan hid)
      exact h
    · intro h
      obtain ⟨healthFactor, hhealth, hdata⟩ := h.health
      refine ⟨h.reserve, h.nft, ?_, ⟨h.active, h.unfrozen, h.enabled⟩,
        ⟨h.nftActive, h.nftUnfrozen⟩, ?_⟩
      · intro hid
        rw [h.loan hid]
        rfl
      · rw [hdata]
        exact decide_eq_true ⟨rfl, rfl, hhealth⟩)

variable {s s' : State} {user reserveAsset nftAsset : Address}
  {loanId nftTokenId collateral debt ltv amount available : Nat}

theorem BorrowAllowed.validateBorrow_iff
    (h : BorrowAllowed s user reserveAsset nftAsset loanId collateral debt) (hamount : 0 < amount) :
    validateBorrow s user reserveAsset amount nftAsset loanId = .ok () ↔
      0 < collateral ∧ debt + amount ≤ Uint256.max ∧
        ∃ needed, percentDiv (debt + amount)
          (s.pool.nfts nftAsset).configuration.getCollateralParams.1 = .ok needed ∧
            needed ≤ collateral := by
  obtain ⟨healthFactor, hhealth, hdata⟩ := h.health
  have hloan : (if loanId ≠ 0 then
      validateBorrowedLoan (s.loanStore.loans loanId) user reserveAsset else pure ()) = .ok () := by
    by_cases hid : loanId = 0
    · rw [if_neg (by omega)]
      rfl
    · rw [if_pos hid]
      exact h.loan hid
  simp only [validateBorrow, require_of h.reserve, require_of h.nft, require_of hamount,
    require_of h.active, require_of h.unfrozen, require_of h.enabled, require_of h.nftActive,
    require_of h.nftUnfrozen, hloan, hdata, ok_bind, bind_eq_ok, require_eq_ok, exists_const,
    gt_iff_lt, hhealth, true_and, Uint256.add_eq_ok]
  constructor
  · rintro ⟨hcollateral, _, ⟨hmax, rfl⟩, hneeded⟩
    exact ⟨hcollateral, hmax, hneeded⟩
  · rintro ⟨hcollateral, hmax, hneeded⟩
    exact ⟨hcollateral, _, ⟨hmax, rfl⟩, hneeded⟩

theorem le_available_iff (hamount : 0 < amount)
    (h : calculateAvailableBorrows collateral debt ltv = .ok available) :
    amount ≤ available ↔
      (debt + amount) * PERCENTAGE_FACTOR ≤ collateral * ltv + PERCENTAGE_FACTOR / 2 := by
  obtain ⟨total, htotal, h⟩ := bind_eq_ok.mp h
  obtain ⟨-, rfl⟩ := percentMul_eq_ok.mp htotal
  rw [← le_halfUp_iff (by decide)]
  split at h
  · rw [pure_eq_ok] at h
    omega
  · rw [pure_eq_ok] at h
    omega

/-- The check compares the rounded collateral that the new debt needs. -/
theorem accepted_iff (hltv : 0 < ltv) :
    (debt + amount ≤ Uint256.max ∧ ∃ needed, percentDiv (debt + amount) ltv = .ok needed ∧
      needed ≤ collateral) ↔
        (debt + amount) * PERCENTAGE_FACTOR + ltv / 2 ≤ Uint256.max ∧
          (debt + amount) * PERCENTAGE_FACTOR < collateral * ltv + (ltv + 1) / 2 := by
  have hsplit : (collateral + 1) * ltv = collateral * ltv + ltv := by ring
  have hround : halfUp ((debt + amount) * PERCENTAGE_FACTOR) ltv ≤ collateral ↔
      (debt + amount) * PERCENTAGE_FACTOR < collateral * ltv + (ltv + 1) / 2 := by
    rw [halfUp_le_iff hltv]
    omega
  have hscale : debt + amount ≤ (debt + amount) * PERCENTAGE_FACTOR :=
    Nat.le_mul_of_pos_right _ (by decide)
  simp only [percentDiv_eq_ok]
  constructor
  · rintro ⟨-, needed, ⟨-, hmax, rfl⟩, hle⟩
    exact ⟨hmax, hround.mp hle⟩
  · rintro ⟨hmax, hle⟩
    exact ⟨by omega, _, ⟨by omega, hmax, rfl⟩, hround.mpr hle⟩

/-- Both limits against each other: they differ by the one over-advertised unit. -/
theorem limits_agree_iff (hltv : ltv ≤ PERCENTAGE_FACTOR) (hpos : 0 < ltv) (hamount : 0 < amount)
    (hmax : collateral * ltv + PERCENTAGE_FACTOR / 2 ≤ Uint256.max) :
    ((0 < collateral ∧ (debt + amount) * PERCENTAGE_FACTOR + ltv / 2 ≤ Uint256.max ∧
        (debt + amount) * PERCENTAGE_FACTOR < collateral * ltv + (ltv + 1) / 2) ↔
      (debt + amount) * PERCENTAGE_FACTOR ≤ collateral * ltv + PERCENTAGE_FACTOR / 2) ↔
        ¬OverAdvertised collateral debt ltv amount := by
  unfold OverAdvertised
  have hcollateral : collateral = 0 → collateral * ltv = 0 := by
    intro hzero
    rw [hzero, Nat.zero_mul]
  have htotal : 0 < debt + amount := by omega
  have hunit : PERCENTAGE_FACTOR = 10000 := rfl
  rw [hunit] at hltv hmax ⊢
  generalize collateral * ltv = worth at *
  generalize debt + amount = total at *
  generalize Uint256.max = most at *
  have hworth := Nat.div_add_mod worth 10000
  have hhalf : ltv / 2 ≤ 10000 / 2 := Nat.div_le_div_right hltv
  have hrest : worth % 10000 < 10000 := Nat.mod_lt worth (by decide)
  rcases Nat.lt_trichotomy total (worth / 10000 + 1) with hbelow | hlast | habove
  · -- exactly covered debts pass both ways
    have hwhole : total * 10000 ≤ worth := by omega
    constructor
    · omega
    · intro _
      constructor
      · omega
      · intro _
        have hroom : total * 10000 + ltv / 2 ≤ most :=
          (Nat.add_le_add hwhole hhalf).trans hmax
        exact ⟨by omega, hroom, by omega⟩
  · have hnext : total * 10000 = worth - worth % 10000 + 10000 := by omega
    constructor
    · rintro hagree ⟨-, hrounded, hlost⟩
      have haccepted := hagree.mpr (by omega)
      omega
    · intro hkept
      constructor
      · omega
      · intro hadvertised
        have hrounded : 10000 / 2 ≤ worth % 10000 := by omega
        by_contra hrefused
        apply hkept
        refine ⟨hlast, hrounded, ?_⟩
        by_contra hroom
        apply hrefused
        have hfits : total * 10000 + ltv / 2 ≤ most := by
          by_contra hover
          exact hroom (.inr (Nat.lt_of_not_le hover))
        exact ⟨by omega, hfits, by omega⟩
  · have hfar : worth + 10000 < total * 10000 := by omega
    constructor
    · omega
    · intro _
      constructor <;> omega

theorem BorrowAllowed.quoted {data : LendPool.NftDebtData} {li vi : Nat}
    {cTokens : Address → CToken} (hs : Reachable operations s)
    (h : BorrowAllowed (s.accrued reserveAsset li vi cTokens) user reserveAsset nftAsset
      (s.loanStore.nftToLoanIds nftAsset nftTokenId) collateral debt)
    (hlisted : (s.pool.reserves reserveAsset).cTokenAddress ≠ .zero)
    (hid : s.loanStore.nftToLoanIds nftAsset nftTokenId ≠ 0)
    (hindex : ShowsDebtIndex s reserveAsset vi)
    (hquote : LendPool.getNftDebtData s nftAsset nftTokenId = .ok data) :
    calculateAvailableBorrows collateral debt
      (s.pool.nfts nftAsset).configuration.getCollateralParams.1 = .ok data.availableBorrows := by
  have hasset : reserveAsset = (s.loanOf nftAsset nftTokenId).reserveAsset := by
    have hloan := h.loan hid
    simp only [validateBorrowedLoan, bind_eq_ok, require_eq_ok, exists_const] at hloan
    exact hloan.2.1
  have hzero : reserveAsset ≠ .zero := ne_zero_of_listed hs hlisted
  have hquoted := getNftDebtData_spec hid (hasset ▸ hzero) hquote
  obtain ⟨healthFactor, -, hdata⟩ := h.health
  simp only [calculateLoanData, if_pos hid, bind_eq_ok, pure_eq_ok, Prod.mk.injEq] at hdata
  obtain ⟨debtData, hdebt, collateralData, hcollateral, _, -, rfl, rfl, -⟩ := hdata
  have hprice := calculateNftCollateralData_spec hzero hcollateral
  rw [nftPriceInReserve_accrued] at hprice
  have hborrowed := calculateNftDebtData_spec hdebt
  have hshown : data.totalDebt = debtData.2 := by
    have hview := hquoted.debt
    rw [hindex.borrowAmount hasset.symm] at hview
    have hafter : LendPoolLoan.borrowAmount (s.accrued reserveAsset li vi cTokens)
        (s.loanOf nftAsset nftTokenId) = .ok debtData.2 := hborrowed
    rw [borrowAmount_accrued _ hasset.symm] at hafter
    exact Except.ok.inj (hview.symm.trans hafter)
  have hworth : data.totalCollateral = collateralData.2 := by
    have hview := hquoted.collateral
    rw [← hasset] at hview
    exact Except.ok.inj (hview.symm.trans hprice)
  rw [← hshown, ← hworth]
  exact hquoted.availableBorrows

/-- With everything else in order, an amount is accepted exactly if it is on offer, unless
it reaches for the over-advertised unit; and what is on offer is what the view quotes. -/
theorem borrow_accepted_iff_on_offer (hs : Reachable operations s)
    (hupdate : ReserveLogic.updateState s reserveAsset = .ok s')
    (hallowed : BorrowAllowed s' user reserveAsset nftAsset
      (s.loanStore.nftToLoanIds nftAsset nftTokenId) collateral debt)
    (hpos : 0 < (s.pool.nfts nftAsset).configuration.getCollateralParams.1)
    (hltv : (s.pool.nfts nftAsset).configuration.getCollateralParams.1 ≤ PERCENTAGE_FACTOR)
    (hamount : 0 < amount)
    (havailable : calculateAvailableBorrows collateral debt
      (s.pool.nfts nftAsset).configuration.getCollateralParams.1 = .ok available) :
    ((validateBorrow s' user reserveAsset amount nftAsset
          (s.loanStore.nftToLoanIds nftAsset nftTokenId) = .ok () ↔ amount ≤ available) ↔
        ¬OverAdvertised collateral debt
          (s.pool.nfts nftAsset).configuration.getCollateralParams.1 amount) ∧
      (s.loanStore.nftToLoanIds nftAsset nftTokenId ≠ 0 →
        ShowsDebtIndex s reserveAsset (s'.pool.reserves reserveAsset).variableBorrowIndex →
          ∀ data, LendPool.getNftDebtData s nftAsset nftTokenId = .ok data →
            data.availableBorrows = available) := by
  obtain ⟨li, vi, cTokens, haccrual, rfl⟩ :=
    (updateState_iff (regular_of_reachable hs).sound.wired).mp hupdate
  constructor
  · obtain ⟨_, htotal, -⟩ := bind_eq_ok.mp havailable
    rw [hallowed.validateBorrow_iff hamount, le_available_iff hamount havailable]
    refine (iff_congr (iff_congr (and_congr_right fun _ => ?_) Iff.rfl) Iff.rfl).mpr
      (limits_agree_iff hltv hpos hamount (percentMul_eq_ok.mp htotal).1)
    exact accepted_iff hpos
  · intro hid hindex data hquote
    rw [accrued_variableBorrowIndex] at hindex
    have hlisted : (s.pool.reserves reserveAsset).cTokenAddress ≠ .zero :=
      Address.ne_zero_of_cToken haccrual.listed.cToken
    exact Except.ok.inj ((hallowed.quoted hs hlisted hid hindex hquote).symm.trans havailable)

/-- What account 2 may borrow on top of its 40 units, at two prices of its NFT: five of
the eight units on offer are accepted, the last of two smallest units is not. -/
private def sampleOnOffer (nftPrice amount available : Nat) (accepted : Bool) : Bool :=
  passes (ReserveLogic.updateState (samplePriced nftPrice) sampleMarket.asset) fun s' =>
    decide (BorrowAllowed s' (.account 2) sampleMarket.asset sampleMarket.nftAsset 1 nftPrice
      (40 * 10 ^ 18)) &&
    passes (calculateAvailableBorrows nftPrice (40 * 10 ^ 18) 4000)
      (fun onOffer => decide (onOffer = available)) &&
    decide ((fault (validateBorrow s' (.account 2) sampleMarket.asset amount sampleMarket.nftAsset
      1)).isNone = accepted)

theorem borrow_accepted_iff_on_offer_five :
    ∃ s', ReserveLogic.updateState (samplePriced (120 * 10 ^ 18)) sampleMarket.asset = .ok s' ∧
      (validateBorrow s' (.account 2) sampleMarket.asset (5 * 10 ^ 18) sampleMarket.nftAsset 1 =
        .ok () ↔ 5 * 10 ^ 18 ≤ 8 * 10 ^ 18) := by
  have hcheck : sampleOnOffer (120 * 10 ^ 18) (5 * 10 ^ 18) (8 * 10 ^ 18) true = true := by
    decide +kernel
  obtain ⟨s', hupdate, hcheck⟩ := exists_of_passes hcheck
  obtain ⟨hcheck, -⟩ := Bool.and_eq_true_iff.mp hcheck
  obtain ⟨hallowed, havailable⟩ := Bool.and_eq_true_iff.mp hcheck
  have hsample : (samplePriced (120 * 10 ^ 18)).loanStore.nftToLoanIds sampleMarket.nftAsset 7 = 1 ∧
      ((samplePriced (120 * 10 ^ 18)).pool.nfts
        sampleMarket.nftAsset).configuration.getCollateralParams.1 = 4000 := by decide +kernel
  obtain ⟨hid, hparams⟩ := hsample
  have hamount : 0 < 5 * 10 ^ 18 := by decide
  have hallowed' : BorrowAllowed s' (.account 2) sampleMarket.asset sampleMarket.nftAsset
      ((samplePriced (120 * 10 ^ 18)).loanStore.nftToLoanIds sampleMarket.nftAsset 7)
      (120 * 10 ^ 18) (40 * 10 ^ 18) := by
    rw [hid]
    exact of_decide_eq_true hallowed
  refine ⟨s', hupdate, ?_⟩
  have hiff := (borrow_accepted_iff_on_offer (samplePriced_reachable (120 * 10 ^ 18)) hupdate
    hallowed' (by rw [hparams]; decide) (by rw [hparams]; decide) hamount
    (by rw [hparams]; exact eq_ok_of_passes havailable)).1
  rw [hid, hparams] at hiff
  exact hiff.mpr (by decide)

/-- At a price of 100 units and a little, two smallest units are on offer, and the check
refuses them. -/
theorem on_offer_yet_refused :
    ¬∀ (s : State) (user reserveAsset nftAsset : Address)
      (nftTokenId collateral debt amount available : Nat) (s' : State),
      Reachable operations s → ReserveLogic.updateState s reserveAsset = .ok s' →
      BorrowAllowed s' user reserveAsset nftAsset
        (s.loanStore.nftToLoanIds nftAsset nftTokenId) collateral debt →
      0 < (s.pool.nfts nftAsset).configuration.getCollateralParams.1 →
      (s.pool.nfts nftAsset).configuration.getCollateralParams.1 ≤ PERCENTAGE_FACTOR →
      0 < amount →
      calculateAvailableBorrows collateral debt
        (s.pool.nfts nftAsset).configuration.getCollateralParams.1 = .ok available →
      (validateBorrow s' user reserveAsset amount nftAsset
        (s.loanStore.nftToLoanIds nftAsset nftTokenId) = .ok () ↔ amount ≤ available) := by
  intro h
  have hcheck : sampleOnOffer (100 * 10 ^ 18 + 4) 2 2 false = true := by decide +kernel
  obtain ⟨s', hupdate, hcheck⟩ := exists_of_passes hcheck
  obtain ⟨hcheck, hrefused⟩ := Bool.and_eq_true_iff.mp hcheck
  obtain ⟨hallowed, havailable⟩ := Bool.and_eq_true_iff.mp hcheck
  have hsample : (samplePriced (100 * 10 ^ 18 + 4)).loanStore.nftToLoanIds sampleMarket.nftAsset 7 =
        1 ∧
      ((samplePriced (100 * 10 ^ 18 + 4)).pool.nfts
        sampleMarket.nftAsset).configuration.getCollateralParams.1 = 4000 := by decide +kernel
  obtain ⟨hid, hparams⟩ := hsample
  have hiff := h (samplePriced (100 * 10 ^ 18 + 4)) (.account 2) sampleMarket.asset
    sampleMarket.nftAsset 7 (100 * 10 ^ 18 + 4) (40 * 10 ^ 18) 2 2 s' (samplePriced_reachable _)
    hupdate (by rw [hid]; exact of_decide_eq_true hallowed) (by rw [hparams]; decide)
    (by rw [hparams]; decide) (by decide) (by rw [hparams]; exact eq_ok_of_passes havailable)
  rw [hid] at hiff
  have haccepted := hiff.mpr le_rfl
  have hfault := of_decide_eq_true hrefused
  rw [haccepted] at hfault
  cases hfault

end Confetti

import Confetti.Invariants.DepositorSupply
import Confetti.Properties.DepositorBalances

/-! Withdrawals within one's balance. The balance is shown before the reserve is updated
and burned after it; what is burned is never more than the position, and all of it when
everything is withdrawn. -/
namespace Confetti
open Outcome TransitionSystem ReserveLogic

/-- What a withdrawal of an amount depends on besides the position it is taken from. -/
structure PaysOut (s m : State) (asset : Address) (amount : Nat) (recipient : Address) : Prop where
  unpaused : s.pool.paused = false
  recipient_ne : recipient ≠ .zero
  active : (s.pool.reserves asset).configuration.getFlags.1 = true
  rates : Succeeds (updateInterestRates m asset (.cToken asset) 0 amount)
  scaled : ∃ scaled, rayDiv amount (m.pool.reserves asset).liquidityIndex = .ok scaled ∧ scaled ≠ 0
  cash : Succeeds (ERC20.transfer asset (s.erc20 asset) (.cToken asset) recipient amount)

variable {s m s' : State} {asset user recipient : Address}
  {amount request balance scaled index li vi : Nat} {cTokens : Address → CToken}

section Indexes

variable {reserve : ReserveData} {now : Nat}

theorem le_shown (hincome : getNormalizedIncome reserve now = .ok index) :
    reserve.liquidityIndex ≤ index := by
  unfold getNormalizedIncome at hincome
  by_cases hclock : reserve.lastUpdateTimestamp = uint40 now
  · rw [if_pos hclock, pure_eq_ok] at hincome
    exact Nat.le_of_eq hincome
  · rw [if_neg hclock] at hincome
    obtain ⟨factor, hfactor, hmul⟩ := bind_eq_ok.mp hincome
    exact le_rayMul (RAY_le_linearInterest hfactor) hmul

theorem shown_le_updated (hincome : getNormalizedIncome reserve now = .ok index)
    (hli : updatedLiquidityIndex reserve now = .ok li) : index ≤ li := by
  have hgrown := le_updatedLiquidityIndex hli
  have hupdated := income_eq_updated hli
  unfold getNormalizedIncome at hincome
  by_cases hclock : reserve.lastUpdateTimestamp = uint40 now
  · rw [if_pos hclock, pure_eq_ok] at hincome
    omega
  · rw [if_neg hclock] at hincome
    obtain ⟨factor, hfactor, hmul⟩ := bind_eq_ok.mp hincome
    obtain ⟨-, -, -, rfl⟩ := calculateLinearInterest_eq_ok.mp hfactor
    have hshown : reserve.income now = index := (rayMul_eq_ok.mp hmul).2
    omega

theorem rayDiv_le_of_index_le {i j r : Nat} (hi : 0 < i) (hij : i ≤ j)
    (hj : rayDiv amount j = .ok r) : r ≤ HalfUp.halfUp (amount * RAY) i := by
  obtain ⟨-, -, rfl⟩ := rayDiv_eq_ok.mp hj
  exact HalfUp.halfUp_le_halfUp (by omega) hi (Nat.mul_le_mul_left (amount * RAY) hij)

end Indexes

theorem balanceOf_eq_ok :
    CToken.balanceOf s (.cToken asset) user = .ok balance ↔
      ∃ index, getNormalizedIncome (s.pool.reserves asset) s.timestamp = .ok index ∧
        rayMul (s.position asset user) index = .ok balance := by
  simp only [CToken.balanceOf, State.cTokenAt, ok_bind, bind_eq_ok]
  rfl

/-- An amount within the balance shown scales down to within the position, at the index
stored. -/
theorem Accrual.scaled_le_position (ha : Accrual s asset li vi cTokens)
    (hbalance : CToken.balanceOf s (.cToken asset) user = .ok balance) (hamount : amount ≤ balance)
    (hscaled : rayDiv amount li = .ok scaled) : scaled ≤ s.position asset user := by
  obtain ⟨index, hindex, hmul⟩ := balanceOf_eq_ok.mp hbalance
  obtain ⟨-, rfl⟩ := rayMul_eq_ok.mp hmul
  have hray : RAY ≤ index := ha.listed.RAY_le_liquidityIndex.trans (le_shown hindex)
  calc
    scaled ≤ HalfUp.halfUp (amount * RAY) index :=
      rayDiv_le_of_index_le (RAY_pos.trans_le hray) (shown_le_updated hindex ha.liquidityIndex)
        hscaled
    _ ≤ s.position asset user := HalfUp.halfUp_le_of_le_value RAY_pos two_dvd_RAY hray hamount

theorem Accrual.scaled_eq_position (ha : Accrual s asset li vi cTokens)
    (hslot : s.timestamp < 2 ^ 40)
    (hbalance : CToken.balanceOf s (.cToken asset) user = .ok balance)
    (hscaled : rayDiv balance li = .ok scaled) : scaled = s.position asset user := by
  obtain ⟨index, hindex, hmul⟩ := balanceOf_eq_ok.mp hbalance
  have hsame : index = li :=
    (income_eq_shown hslot hindex).symm.trans (income_eq_updated ha.liquidityIndex)
  rw [hsame] at hmul
  exact rayDiv_of_rayMul (ha.listed.RAY_le_liquidityIndex.trans
    (le_updatedLiquidityIndex ha.liquidityIndex)) hmul hscaled

theorem afterWithdrawal_position (s : State) (p : ExecuteWithdrawParams)
    (amount li vi : Nat) (cTokens : Address → CToken) (scaled lr vr : Nat) (token : ERC20) :
    (afterWithdrawal s p amount li vi cTokens scaled lr vr token).position p.asset p.initiator =
      (cTokens p.asset).ledger.balances p.initiator - scaled := by
  simp [State.position, afterWithdrawal, CToken.debited]

theorem withdraw_succeeds_iff (hs : Reachable operations s) (huser : user ≠ .zero)
    (hbalance : CToken.balanceOf s (.cToken asset) user = .ok balance)
    (hupdate : updateState s asset = .ok m)
    (hrequest : amount = if request = Uint256.max then balance else request) (hne : amount ≠ 0)
    (hle : amount ≤ balance) :
    Succeeds (LendPool.withdraw s user asset request recipient) ↔
      PaysOut s m asset amount recipient := by
  have hw := (regular_of_reachable hs).sound.wired
  obtain ⟨li, vi, cTokens, ha, rfl⟩ := (updateState_iff hw).mp hupdate
  constructor
  · rintro ⟨⟨s', paid⟩, h⟩
    obtain ⟨_, hpaused, h⟩ := bind_eq_ok.mp h
    obtain ⟨balance', li', vi', cTokens', scaled, lr, vr, token, hwithdrawal, rfl⟩ :=
      (executeWithdraw_eq_ok hw).mp h
    obtain rfl : li' = li :=
      Except.ok.inj (hwithdrawal.accrual.liquidityIndex.symm.trans ha.liquidityIndex)
    obtain rfl : vi' = vi :=
      Except.ok.inj (hwithdrawal.accrual.variableBorrowIndex.symm.trans ha.variableBorrowIndex)
    obtain rfl : balance' = balance := Except.ok.inj (hwithdrawal.balance_eq.symm.trans hbalance)
    obtain rfl : paid = amount := hwithdrawal.amount_eq.trans hrequest.symm
    refine ⟨require_eq_ok.mp hpaused, hwithdrawal.recipient, hwithdrawal.active,
      ⟨_, (updateInterestRates_accrued ha).mpr ⟨lr, vr, hwithdrawal.rates, rfl⟩⟩,
      ⟨scaled, ?_, hwithdrawal.scaled_ne⟩, ⟨token, hwithdrawal.paid⟩⟩
    rw [accrued_liquidityIndex]
    exact hwithdrawal.scaled_eq
  · intro h
    obtain ⟨s₂, hrates⟩ := h.rates
    obtain ⟨lr, vr, hallow, -⟩ := (updateInterestRates_accrued ha).mp hrates
    obtain ⟨scaled, hscaled, hscaledNe⟩ := h.scaled
    obtain ⟨token, hpaid⟩ := h.cash
    rw [accrued_liquidityIndex] at hscaled
    have hcovered := ha.positionsCovered (positionsCovered_of_reachable hs)
    have hposition : scaled ≤ (cTokens asset).ledger.balances user :=
      (ha.scaled_le_position hbalance hle hscaled).trans ha.position_le
    refine ⟨_, bind_eq_ok.mpr ⟨(), require_eq_ok.mpr h.unpaused,
      (executeWithdraw_eq_ok hw).mpr ⟨balance, li, vi, cTokens, scaled, lr, vr, token,
        ⟨h.recipient_ne, hbalance, hrequest, hne, hle, h.active, ha, hallow, hscaled, hscaledNe,
          ⟨huser, hposition, ?_⟩, hpaid⟩, rfl⟩⟩⟩
    exact hposition.trans (ERC20.Covered.single_le (hcovered asset))

def PositionShort (asset user : Address) (e : Revert) : Prop :=
  e = .erc20 (.cToken asset) user .burnExceedsBalance

theorem avoids_executeWithdraw (hw : Wired s) {p : ExecuteWithdrawParams} :
    Avoids (PositionShort p.asset p.initiator) (SupplyLogic.executeWithdraw s p) := by
  have hbad : BalanceFault (PositionShort p.asset p.initiator) := by
    rintro e rfl
    exact ⟨_, _, .inr rfl⟩
  unfold SupplyLogic.executeWithdraw
  refine (avoids_require fun _ => hbad.error _).bind fun _ _ => ?_
  refine (avoids_require fun _ => hbad.error _).bind fun _ _ => ?_
  refine (CToken.avoids_balanceOf hbad).bind fun balance hbalance => ?_
  refine (ValidationLogic.avoids_validateWithdraw hbad _).bind fun _ hvalid => ?_
  refine (avoids_updateState hbad _ _).bind fun m hupdate => ?_
  refine (avoids_updateInterestRates hbad _ _ _ _ _).bind fun m' hrates => ?_
  refine (CToken.avoids_burn hbad ?_ ?_).bind fun _ _ => avoids_pure _
  · intro own scaled hown hscaled hshort
    obtain ⟨li, vi, cTokens, ha, rfl⟩ := (updateState_iff hw).mp hupdate
    rw [hown] at hbalance hrates
    obtain rfl : p.asset = own := Address.cToken.inj (ha.listed.cToken.symm.trans hown)
    obtain ⟨lr, vr, -, rfl⟩ := (updateInterestRates_accrued ha).mp hrates
    simp only [LendPoolStorage.setReserve_reserves, Function.update_self] at hscaled
    obtain ⟨-, hle, -⟩ := ValidationLogic.validateWithdraw_eq_ok.mp hvalid
    have hwithin := (ha.scaled_le_position hbalance hle hscaled).trans ha.position_le
    exact absurd hwithin (Nat.not_le_of_lt hshort)
  · intro other h
    simp [PositionShort] at h

/-- No withdrawal fails for want of a position. -/
theorem withdraw_never_exceeds (hs : Reachable operations s) (request : Nat)
    (recipient : Address) :
    fault (LendPool.withdraw s user asset request recipient) ≠
      some (.erc20 (.cToken asset) user .burnExceedsBalance) := by
  have hw := (regular_of_reachable hs).sound.wired
  have havoid : Avoids (PositionShort asset user)
      (LendPool.withdraw s user asset request recipient) := by
    refine Avoids.bind (avoids_require fun _ => ?_) fun _ _ => avoids_executeWithdraw hw
    intro h
    cases h
  intro h
  cases hrun : LendPool.withdraw s user asset request recipient with
  | ok r =>
    rw [hrun] at h
    cases h
  | error e =>
    rw [hrun] at h
    exact havoid e hrun (Option.some.inj h)

/-- Within the balance shown, the position always suffices; and as long as block times fit
their slot, withdrawing everything pays the balance shown and leaves nothing. -/
theorem withdrawals_stay_within_position (hs : Reachable operations s)
    (htreasury : user ≠ (s.cTokens asset).treasury) (huser : user ≠ .zero)
    (hposition : 0 < s.position asset user)
    (hbalance : CToken.balanceOf s (.cToken asset) user = .ok balance)
    (hupdate : updateState s asset = .ok m) :
    (∀ amount scaled, amount ≤ balance →
      rayDiv amount (m.pool.reserves asset).liquidityIndex = .ok scaled →
        scaled ≤ s.position asset user) ∧
    (∀ request recipient, fault (LendPool.withdraw s user asset request recipient) ≠
      some (.erc20 (.cToken asset) user .burnExceedsBalance)) ∧
    ∀ recipient,
      (Succeeds (LendPool.withdraw s user asset Uint256.max recipient) ↔
        PaysOut s m asset balance recipient) ∧
      (s.timestamp < 2 ^ 40 → ∀ s' paid,
        LendPool.withdraw s user asset Uint256.max recipient = .ok (s', paid) →
          paid = balance ∧ newTransfers s s' = [⟨asset, .cToken asset, recipient, balance⟩] ∧
            s'.position asset user = 0) := by
  have hw := (regular_of_reachable hs).sound.wired
  obtain ⟨li, vi, cTokens, ha, rfl⟩ := (updateState_iff hw).mp hupdate
  refine ⟨?_, withdraw_never_exceeds hs, ?_⟩
  · intro amount scaled hamount hscaled
    rw [accrued_liquidityIndex] at hscaled
    exact ha.scaled_le_position hbalance hamount hscaled
  · intro recipient
    constructor
    · obtain ⟨index, hindex, hmul⟩ := balanceOf_eq_ok.mp hbalance
      have hray : RAY ≤ index := ha.listed.RAY_le_liquidityIndex.trans (le_shown hindex)
      have hpos : 0 < balance := rayMul_pos hray hposition hmul
      exact withdraw_succeeds_iff hs huser hbalance hupdate (if_pos rfl).symm (by omega) le_rfl
    · intro hslot s' paid h
      obtain ⟨balance', li', vi', cTokens', scaled, lr, vr, token, hwithdrawal, rfl⟩ :=
        (executeWithdraw_eq_ok hw).mp (LendPool.of_whenNotPaused h)
      obtain rfl : balance' = balance := Except.ok.inj (hwithdrawal.balance_eq.symm.trans hbalance)
      obtain rfl : paid = balance' := hwithdrawal.amount_eq.trans (if_pos rfl)
      have hall := hwithdrawal.accrual.scaled_eq_position hslot hbalance hwithdrawal.scaled_eq
      refine ⟨rfl, ?_, ?_⟩
      · unfold newTransfers afterWithdrawal
        rw [List.length_cons, Nat.add_sub_cancel_left]
        rfl
      · have hleft := hwithdrawal.accrual.balance_eq htreasury asset
        have hburned := afterWithdrawal_position s ⟨user, asset, Uint256.max, recipient⟩ paid li' vi'
          cTokens' scaled lr vr token
        refine hburned.trans ?_
        change (cTokens' asset).ledger.balances user - scaled = 0
        rw [hleft, hall]
        exact Nat.sub_self _

/-- Account 3 deposits ten units beside the sample loan, and time passes. -/
def sampleShared (seconds : Nat) : State :=
  replayed operations sampleLent
    [.user (.deposit 3 sampleMarket.asset (10 * 10 ^ 18) (.account 3)), .world (.tick seconds)]

theorem sampleShared_reachable (seconds : Nat) : Reachable operations (sampleShared seconds) :=
  replayed_reachable sampleLent_reachable _

/-- Account 3 withdraws everything; the position that is left passes a check. -/
private def sampleExit (seconds : Nat) (left : Nat → Bool) : Bool :=
  passes (CToken.balanceOf (sampleShared seconds) (.cToken sampleMarket.asset) (.account 3))
    fun _ => passes (updateState (sampleShared seconds) sampleMarket.asset) fun _ =>
      passes (LendPool.withdraw (sampleShared seconds) (.account 3) sampleMarket.asset Uint256.max
        (.account 3)) fun r => left (r.1.position sampleMarket.asset (.account 3))

theorem withdrawals_stay_within_position_day :
    ∃ balance s' paid,
      CToken.balanceOf (sampleShared 86400) (.cToken sampleMarket.asset) (.account 3) =
        .ok balance ∧
      LendPool.withdraw (sampleShared 86400) (.account 3) sampleMarket.asset Uint256.max
        (.account 3) = .ok (s', paid) ∧
      paid = balance ∧ s'.position sampleMarket.asset (.account 3) = 0 := by
  have hcheck : sampleExit 86400 (fun _ => true) = true := by decide +kernel
  obtain ⟨balance, hbalance, hcheck⟩ := exists_of_passes hcheck
  obtain ⟨m, hupdate, hcheck⟩ := exists_of_passes hcheck
  obtain ⟨⟨s', paid⟩, hwithdraw, -⟩ := exists_of_passes hcheck
  obtain ⟨hpaid, -, hempty⟩ := ((withdrawals_stay_within_position (sampleShared_reachable 86400)
    (by decide +kernel) (by decide) (by decide +kernel) hbalance hupdate).2.2 (.account 3)).2
      (by decide +kernel) s' paid hwithdraw
  exact ⟨balance, s', paid, hbalance, hwithdraw, hpaid, hempty⟩

/-- Forty bits of seconds after the last update the view shows the index stored then. What
it shows is paid at the new index, and most of the position stays. -/
theorem withdrawing_everything_at_wrap :
    ¬∀ (s m : State) (asset user : Address) (balance : Nat), Reachable operations s →
      user ≠ (s.cTokens asset).treasury → 0 < s.position asset user →
      CToken.balanceOf s (.cToken asset) user = .ok balance → updateState s asset = .ok m →
      ∀ recipient s' paid, LendPool.withdraw s user asset Uint256.max recipient = .ok (s', paid) →
        paid = balance ∧ s'.position asset user = 0 := by
  intro h
  have hcheck : sampleExit (2 ^ 40) (fun left => decide (left ≠ 0)) = true := by decide +kernel
  obtain ⟨balance, hbalance, hcheck⟩ := exists_of_passes hcheck
  obtain ⟨m, hupdate, hcheck⟩ := exists_of_passes hcheck
  obtain ⟨⟨s', paid⟩, hwithdraw, hleft⟩ := exists_of_passes hcheck
  have hempty := (h (sampleShared (2 ^ 40)) m sampleMarket.asset (.account 3) balance
    (sampleShared_reachable _) (by decide +kernel) (by decide +kernel) hbalance hupdate (.account 3)
      s' paid hwithdraw).2
  exact of_decide_eq_true hleft hempty

end Confetti

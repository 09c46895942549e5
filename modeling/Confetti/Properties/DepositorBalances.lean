import Confetti.Effects.Frames
import Confetti.Effects.Positions
import Confetti.Invariants.Batches
import Confetti.Protocol.Deployment

/-! Indexes and depositors' balances over time, through every mixture of extrapolation
and storage. -/
namespace Confetti
open Outcome TransitionSystem HalfUp ReserveLogic

/-- The depositors' index at a time: extrapolated from the stored one, in numbers of any
size. -/
def ReserveData.income (reserve : ReserveData) (now : Nat) : Nat :=
  halfUp ((reserve.currentLiquidityRate * (now - reserve.lastUpdateTimestamp) / SECONDS_PER_YEAR +
    RAY) * reserve.liquidityIndex) RAY

def ReserveData.StoresWhole (reserve : ReserveData) : Prop :=
  ∀ scaledVariableDebt now updated li vi,
    updateIndexes reserve scaledVariableDebt reserve.liquidityIndex reserve.variableBorrowIndex
        reserve.lastUpdateTimestamp now = .ok (updated, li, vi) →
      updated.liquidityIndex = li ∧ updated.variableBorrowIndex = vi

/-- Both indexes start at one ray, only rise, and fit their slots. -/
structure IndexesGrow (old new : ReserveData) : Prop where
  RAY_le_liquidityIndex : RAY ≤ old.liquidityIndex
  RAY_le_variableBorrowIndex : RAY ≤ old.variableBorrowIndex
  liquidityIndex : old.liquidityIndex ≤ new.liquidityIndex
  variableBorrowIndex : old.variableBorrowIndex ≤ new.variableBorrowIndex
  liquidityIndex_fits : new.liquidityIndex ≤ Uint128.max
  variableBorrowIndex_fits : new.variableBorrowIndex ≤ Uint128.max
  stores : new.StoresWhole

/-- The reserve and the holder whose cTokens a call burns or transfers. -/
def UserCall.spends : UserCall → Option (Address × Address)
  | .withdraw caller asset _ _ => some (asset, .account caller)
  | .transferCToken caller asset _ _ => some (asset, .account caller)
  | .transferCTokenFrom _ asset sender _ _ => some (asset, sender)
  | _ => none

def Operation.spends : Operation → Option (Address × Address)
  | .user call => call.spends
  | _ => none

def Transaction.spends : Transaction → Option (Address × Address)
  | .single operation => operation.spends
  | _ => none

variable {s s' : State} {operation : Operation} {asset other user : Address}

/-! ### The extrapolated index -/

section Income

variable {reserve : ReserveData} {now later li i : Nat}

theorem liquidityIndex_le_income : reserve.liquidityIndex ≤ reserve.income now :=
  le_halfUp_mul RAY_pos (Nat.le_add_left RAY _)

theorem income_mono (h : now ≤ later) : reserve.income now ≤ reserve.income later := by
  unfold ReserveData.income
  apply halfUp_mono
  apply Nat.mul_le_mul_right
  have hperiod : now - reserve.lastUpdateTimestamp ≤ later - reserve.lastUpdateTimestamp := by omega
  have hinterest := Nat.div_le_div_right (c := SECONDS_PER_YEAR)
    (Nat.mul_le_mul_left reserve.currentLiquidityRate hperiod)
  omega

theorem income_eq_updated (h : updatedLiquidityIndex reserve now = .ok li) :
    reserve.income now = li := by
  unfold updatedLiquidityIndex at h
  by_cases hrate : reserve.currentLiquidityRate > 0
  · rw [if_pos hrate] at h
    obtain ⟨factor, hfactor, hmul, -⟩ := accumulate_eq_ok.mp h
    obtain ⟨-, -, -, rfl⟩ := calculateLinearInterest_eq_ok.mp hfactor
    exact (rayMul_eq_ok.mp hmul).2
  · have hzero : reserve.currentLiquidityRate = 0 := by omega
    rw [if_neg hrate, pure_eq_ok] at h
    unfold ReserveData.income
    rw [hzero, Nat.zero_mul, Nat.zero_div, Nat.zero_add, Nat.mul_comm, halfUp_mul_self RAY_pos, h]

theorem income_eq_shown (hslot : now < 2 ^ 40)
    (h : getNormalizedIncome reserve now = .ok i) : reserve.income now = i := by
  unfold getNormalizedIncome at h
  rw [show uint40 now = now from Nat.mod_eq_of_lt hslot] at h
  by_cases hnow : reserve.lastUpdateTimestamp = now
  · rw [if_pos hnow, pure_eq_ok] at h
    unfold ReserveData.income
    rw [hnow, Nat.sub_self, Nat.mul_zero, Nat.zero_div, Nat.zero_add, Nat.mul_comm,
      halfUp_mul_self RAY_pos, h]
  · rw [if_neg hnow] at h
    obtain ⟨factor, hfactor, hmul⟩ := bind_eq_ok.mp h
    obtain ⟨-, -, -, rfl⟩ := calculateLinearInterest_eq_ok.mp hfactor
    exact (rayMul_eq_ok.mp hmul).2

end Income

theorem storesWhole (reserve : ReserveData) : reserve.StoresWhole := by
  intro scaled now updated li vi h
  obtain ⟨-, -, rfl⟩ := updateIndexes_eq_ok.mp h
  exact ⟨rfl, rfl⟩

/-! ### One reserve over one step -/

/-- A listed reserve stays listed, and neither its indexes nor the income it shows fall. -/
structure ReserveGrows (asset : Address) (s s' : State) : Prop where
  timestamp : s.timestamp ≤ s'.timestamp
  listed : (s'.pool.reserves asset).cTokenAddress ≠ .zero
  liquidityIndex : (s.pool.reserves asset).liquidityIndex ≤ (s'.pool.reserves asset).liquidityIndex
  variableBorrowIndex : (s.pool.reserves asset).variableBorrowIndex ≤
    (s'.pool.reserves asset).variableBorrowIndex
  income : (s.pool.reserves asset).income s.timestamp ≤ (s'.pool.reserves asset).income s'.timestamp

theorem ReserveGrows.refl (hlisted : (s.pool.reserves asset).cTokenAddress ≠ .zero) :
    ReserveGrows asset s s := ⟨le_rfl, hlisted, le_rfl, le_rfl, le_rfl⟩

theorem ReserveGrows.trans {m : State} (h : ReserveGrows asset s m) (h' : ReserveGrows asset m s') :
    ReserveGrows asset s s' where
  timestamp := h.timestamp.trans h'.timestamp
  listed := h'.listed
  liquidityIndex := h.liquidityIndex.trans h'.liquidityIndex
  variableBorrowIndex := h.variableBorrowIndex.trans h'.variableBorrowIndex
  income := h.income.trans h'.income

/-- Time may pass, and whatever the accrual does not read may be written. -/
structure SameAccrual (old new : ReserveData) : Prop where
  cTokenAddress : new.cTokenAddress = old.cTokenAddress
  liquidityIndex : new.liquidityIndex = old.liquidityIndex
  variableBorrowIndex : new.variableBorrowIndex = old.variableBorrowIndex
  currentLiquidityRate : new.currentLiquidityRate = old.currentLiquidityRate
  currentVariableBorrowRate : new.currentVariableBorrowRate = old.currentVariableBorrowRate
  lastUpdateTimestamp : new.lastUpdateTimestamp = old.lastUpdateTimestamp

theorem SameAccrual.grows (h : SameAccrual (s.pool.reserves asset) (s'.pool.reserves asset))
    (hlisted : (s.pool.reserves asset).cTokenAddress ≠ .zero) (htime : s.timestamp ≤ s'.timestamp) :
    ReserveGrows asset s s' where
  timestamp := htime
  listed := by
    rw [h.cTokenAddress]
    exact hlisted
  liquidityIndex := Nat.le_of_eq h.liquidityIndex.symm
  variableBorrowIndex := Nat.le_of_eq h.variableBorrowIndex.symm
  income := by
    have hsame : (s'.pool.reserves asset).income s'.timestamp =
        (s.pool.reserves asset).income s'.timestamp := by
      unfold ReserveData.income
      rw [h.liquidityIndex, h.currentLiquidityRate, h.lastUpdateTimestamp]
    rw [hsame]
    exact income_mono htime

theorem PoolStep.reserveGrows {li vi : Nat} (h : PoolStep s other li vi s')
    (hlisted : (s.pool.reserves asset).cTokenAddress ≠ .zero) : ReserveGrows asset s s' := by
  obtain ⟨lr, vr, hpool⟩ := h.pool
  by_cases hown : asset = other
  · subst hown
    obtain ⟨_, haccrual⟩ := h.accrual
    have hreserve : s'.pool.reserves asset =
        ((s.pool.reserves asset).accrued li vi s.timestamp).withRates lr vr := by
      rw [hpool, LendPoolStorage.setReserve_reserves, Function.update_self]
    refine ⟨Nat.le_of_eq h.world.timestamp.symm, ?_, ?_, ?_, ?_⟩
    · rw [hreserve]
      exact hlisted
    · rw [hreserve]
      exact le_updatedLiquidityIndex haccrual.liquidityIndex
    · rw [hreserve]
      exact le_updatedBorrowIndex haccrual.variableBorrowIndex
    · rw [income_eq_updated haccrual.liquidityIndex]
      have hstored : (s'.pool.reserves asset).liquidityIndex = li := by
        rw [hreserve]
        rfl
      rw [← hstored]
      exact liquidityIndex_le_income
  · have hreserve : s'.pool.reserves asset = s.pool.reserves asset := by
      rw [hpool, LendPoolStorage.setReserve_reserves, Function.update_of_ne hown]
    have hsame : SameAccrual (s.pool.reserves asset) (s'.pool.reserves asset) := by
      rw [hreserve]
      exact ⟨rfl, rfl, rfl, rfl, rfl, rfl⟩
    exact hsame.grows hlisted (Nat.le_of_eq h.world.timestamp.symm)

theorem sameAccrual_setReserve {reserve : ReserveData}
    (h : SameAccrual (s.pool.reserves other) reserve) (asset : Address) :
    SameAccrual (s.pool.reserves asset) ((s.pool.setReserve other reserve).reserves asset) := by
  rw [LendPoolStorage.setReserve_reserves, Function.update_apply]
  split
  · rename_i heq
    rw [heq]
    exact h
  · exact ⟨rfl, rfl, rfl, rfl, rfl, rfl⟩

theorem AdminStep.sameAccrual {call : AdminCall} (h : AdminStep call s s')
    (hlisted : (s.pool.reserves asset).cTokenAddress ≠ .zero) :
    SameAccrual (s.pool.reserves asset) (s'.pool.reserves asset) := by
  cases h with
  | listReserve _ _ h =>
    obtain ⟨hfresh, pool, _, _, -, hreserves, rfl⟩ := executeInitReserve_spec h
    have hother : asset ≠ _ := fun heq => hlisted (heq ▸ hfresh)
    simp only [hreserves, Function.update_of_ne hother]
    exact ⟨rfl, rfl, rfl, rfl, rfl, rfl⟩
  | listNft _ _ h =>
    obtain ⟨-, pool, _, _, hreserves, -, -, rfl⟩ := executeInitNft_spec h
    simp only [hreserves]
    exact ⟨rfl, rfl, rfl, rfl, rfl, rfl⟩
  | reserveActive | reserveBorrowing | reserveFrozen | reserveFactor | strategy =>
    apply sameAccrual_setReserve
    exact ⟨rfl, rfl, rfl, rfl, rfl, rfl⟩
  | _ => exact ⟨rfl, rfl, rfl, rfl, rfl, rfl⟩

theorem SameAccrual.refl (reserve : ReserveData) : SameAccrual reserve reserve :=
  ⟨rfl, rfl, rfl, rfl, rfl, rfl⟩

theorem SameAccrual.trans {old mid new : ReserveData} (h : SameAccrual old mid)
    (h' : SameAccrual mid new) : SameAccrual old new where
  cTokenAddress := h'.cTokenAddress.trans h.cTokenAddress
  liquidityIndex := h'.liquidityIndex.trans h.liquidityIndex
  variableBorrowIndex := h'.variableBorrowIndex.trans h.variableBorrowIndex
  currentLiquidityRate := h'.currentLiquidityRate.trans h.currentLiquidityRate
  currentVariableBorrowRate := h'.currentVariableBorrowRate.trans h.currentVariableBorrowRate
  lastUpdateTimestamp := h'.lastUpdateTimestamp.trans h.lastUpdateTimestamp

theorem AdminCall.sameAccrual {call : AdminCall} (h : call.run s = .ok s')
    (hlisted : (s.pool.reserves asset).cTokenAddress ≠ .zero) :
    SameAccrual (s.pool.reserves asset) (s'.pool.reserves asset) := by
  apply AdminCall.preserves (fun m => SameAccrual (s.pool.reserves asset)
    (m.pool.reserves asset)) _ h (.refl _)
  intro m m' hstep hm
  apply hm.trans
  apply hstep.sameAccrual
  rw [hm.cTokenAddress]
  exact hlisted

theorem AdminCall.reserveGrows {call : AdminCall} (h : call.run s = .ok s')
    (hlisted : (s.pool.reserves asset).cTokenAddress ≠ .zero) : ReserveGrows asset s s' := by
  apply AdminCall.preserves (ReserveGrows asset s) _ h (ReserveGrows.refl hlisted)
  intro m m' hstep hm
  have htime : m.timestamp ≤ m'.timestamp := by
    obtain ⟨_, _, _, hshape⟩ := hstep.frame.shape
    rw [hshape]
  exact hm.trans ((hstep.sameAccrual hm.listed).grows hm.listed htime)

theorem Operation.reserveGrows (hw : Wired s) (hf : Filed s)
    (hlisted : (s.pool.reserves asset).cTokenAddress ≠ .zero) (h : operation.run s = .ok s') :
    ReserveGrows asset s s' := by
  have hpool : s'.pool = s.pool → ReserveGrows asset s s' := by
    intro hpool
    apply SameAccrual.grows _ hlisted (Operation.timestamp_le hw hf h)
    rw [hpool]
    exact ⟨rfl, rfl, rfl, rfl, rfl, rfl⟩
  cases operation with
  | user call =>
    rcases UserCall.cases hw hf h with haction | ⟨haside, -⟩
    · obtain ⟨_, _, _, _, _, hsettled⟩ := haction.settled
      exact hsettled.step.reserveGrows hlisted
    · obtain ⟨_, _, _, rfl⟩ := UserCall.frame haside h
      exact hpool rfl
  | token call =>
    obtain ⟨_, _, _, _, rfl⟩ := TokenCall.frame h
    exact hpool rfl
  | admin call => exact AdminCall.reserveGrows h hlisted
  | world event =>
    obtain ⟨_, _, _, _, _, -, rfl⟩ := WorldEvent.frame h
    exact hpool rfl

/-! ### The scaled positions -/

def State.position (s : State) (asset user : Address) : Nat :=
  (s.cTokens asset).ledger.balances user

theorem position_credited {cTokens : Address → CToken} {holder : Address} (scaled : Nat) :
    (cTokens asset).ledger.balances user ≤
      (Function.update cTokens other ((cTokens other).credited holder scaled)
        asset).ledger.balances user := by
  rw [Function.update_apply]
  split
  · rename_i heq
    rw [heq]
    simp only [CToken.credited, Function.update_apply]
    split
    · rename_i hholder
      rw [hholder]
      exact Nat.le_add_right _ _
    · exact le_rfl
  · exact le_rfl

theorem position_debited {cTokens : Address → CToken} {holder : Address} (scaled : Nat)
    (hother : some (other, holder) ≠ some (asset, user)) :
    (cTokens asset).ledger.balances user ≤
      (Function.update cTokens other ((cTokens other).debited holder scaled)
        asset).ledger.balances user := by
  rw [Function.update_apply]
  split
  · rename_i heq
    have hholder : user ≠ holder := by
      rintro rfl
      exact hother (by rw [heq])
    rw [heq]
    simp only [CToken.debited, Function.update_of_ne hholder]
    exact le_rfl
  · exact le_rfl

theorem Accrual.position_le {li vi : Nat} {cTokens : Address → CToken}
    (h : Accrual s other li vi cTokens) :
    s.position asset user ≤ (cTokens asset).ledger.balances user := by
  have hminted := mintToTreasury_spec h.listed.cToken h.treasury
  rw [hminted]
  exact position_credited _

theorem position_withLedger {ledger : ERC20} {sender recipient : Address} {scaled : Nat}
    (hmoved : ledger.balances =
      ERC20.moved (s.cTokens other).ledger.balances sender recipient scaled)
    (hkeeps : some (other, sender) ≠ some (asset, user)) :
    s.position asset user ≤ (CToken.withLedger s other ledger).position asset user := by
  unfold State.position CToken.withLedger
  simp only [Function.update_apply]
  split
  · rename_i heq
    have hsender : user ≠ sender := by
      rintro rfl
      exact hkeeps (by rw [heq])
    simp only [hmoved, heq]
    exact ERC20.le_moved hsender
  · exact le_rfl

theorem UserCall.position_le (hw : Wired s) (hf : Filed s) {call : UserCall}
    (hkeeps : call.spends ≠ some (asset, user)) (h : call.run s = .ok s') :
    s.position asset user ≤ s'.position asset user := by
  by_cases hpool : call.entersPool = true
  · obtain ⟨own, li, vi, cTokens, haccrual, hmove⟩ := depositors_move hw hf hpool h
    refine haccrual.position_le.trans ?_
    unfold State.position
    cases hmove with
    | kept h => rw [h]
    | minted _ _ _ h =>
      rw [h]
      exact position_credited _
    | burned hcall _ h =>
      rw [h]
      apply position_debited
      subst hcall
      exact hkeeps
  · cases call with
    | transferCToken caller own recipient amount =>
      obtain ⟨asset', hown, h⟩ := bind_eq_ok.mp h
      obtain rfl := (hw.reserve own).of_cTokenAt hown
      obtain ⟨ledger, hledger, rfl⟩ := bind_pure_eq_ok.mp h
      obtain ⟨_, scaled, -, -, -, hmoved, -⟩ := CToken.transferScaled_spec hledger
      exact position_withLedger hmoved hkeeps
    | transferCTokenFrom caller own sender recipient amount =>
      obtain ⟨asset', ledger, hown, hledger, -, -, rfl⟩ := CToken.transferFrom_eq_ok.mp h
      obtain rfl := (hw.reserve own).of_cTokenAt (State.cTokenAt_eq_ok.mpr hown)
      obtain ⟨_, scaled, -, -, -, hmoved, -⟩ := CToken.transferScaled_spec hledger
      exact position_withLedger hmoved hkeeps
    | approveCToken caller own spender amount =>
      obtain ⟨asset', -, h⟩ := bind_eq_ok.mp h
      obtain ⟨ledger, happrove, rfl⟩ := bind_pure_eq_ok.mp h
      obtain ⟨-, rfl⟩ := ERC20.approve_eq_ok.mp happrove
      apply Nat.le_of_eq
      unfold State.position CToken.withLedger
      simp only [Function.update_apply]
      split
      · rename_i heq
        rw [heq]
      · rfl
    | approveDelegation caller own delegatee amount =>
      obtain ⟨_, -, rfl⟩ := bind_pure_eq_ok.mp h
      exact le_rfl
    | createCNFT nftAsset =>
      obtain rfl := CNFTRegistry.createCNFT_spec h
      exact le_rfl
    | deposit | withdraw | borrow | repay | buyItNow | redeem | liquidate => exact absurd rfl hpool

theorem Operation.position_le (hw : Wired s) (hf : Filed s)
    (hkeeps : operation.spends ≠ some (asset, user)) (h : operation.run s = .ok s') :
    s.position asset user ≤ s'.position asset user := by
  cases operation with
  | user call => exact UserCall.position_le hw hf hkeeps h
  | token call =>
    obtain ⟨_, _, _, _, rfl⟩ := TokenCall.frame h
    exact le_rfl
  | admin call =>
    unfold State.position
    rw [(AdminCall.frame h).ledgers]
  | world event =>
    obtain ⟨_, _, _, _, _, -, rfl⟩ := WorldEvent.frame h
    exact le_rfl

/-! ### Along runs -/

section Runs

variable {history : List (Transition State Transaction)}

theorem reserveGrows_of_run (hs : Reachable transactions s)
    (hlisted : (s.pool.reserves asset).cTokenAddress ≠ .zero)
    (hrun : Run transactions s history s') : ReserveGrows asset s s' := by
  have hstep : ∀ m (operation : Operation) m', Reachable operations m → True →
      ReserveGrows asset s m → operation.run m = .ok m' → ReserveGrows asset s m' := by
    intro m operation m' hm _ hgrows hrun
    have hreg := regular_of_reachable hm
    exact hgrows.trans
      (Operation.reserveGrows hreg.sound.wired hreg.book.toFiled hgrows.listed hrun)
  exact (Run.preserves_operations hstep (fun _ _ _ => trivial) (fun _ _ _ => trivial) hs hrun
    (fun _ _ _ _ => trivial) (ReserveGrows.refl hlisted)).1

theorem position_le_of_run (hs : Reachable transactions s) (hrun : Run transactions s history s')
    (hkeeps : ∀ t ∈ history, t.label.spends ≠ some (asset, user)) :
    s.position asset user ≤ s'.position asset user := by
  have hstep : ∀ m (operation : Operation) m', Reachable operations m →
      operation.spends ≠ some (asset, user) → s.position asset user ≤ m.position asset user →
        operation.run m = .ok m' → s.position asset user ≤ m'.position asset user := by
    intro m operation m' hm hkeeps hle hrun
    have hreg := regular_of_reachable hm
    exact hle.trans (Operation.position_le hreg.sound.wired hreg.book.toFiled hkeeps hrun)
  refine (Run.preserves_operations hstep (fun _ _ _ h => by cases h) (fun _ _ _ h => by cases h)
    hs hrun ?_ le_rfl).1
  intro t ht operation hlabel
  have hnow := hkeeps t ht
  rw [hlabel] at hnow
  exact hnow

theorem balanceOf_eq_income (hslot : s.timestamp < 2 ^ 40) {balance : Nat}
    (h : CToken.balanceOf s (.cToken asset) user = .ok balance) :
    halfUp (s.position asset user * (s.pool.reserves asset).income s.timestamp) RAY = balance := by
  simp only [CToken.balanceOf, State.cTokenAt, ok_bind] at h
  obtain ⟨index, hindex, hmul⟩ := bind_eq_ok.mp h
  rw [income_eq_shown hslot hindex]
  exact (rayMul_eq_ok.mp hmul).2

/-- Indexes never fall, and as long as block times fit their slot no depositor's balance
falls either, except by the depositor's own burns and transfers. -/
theorem balances_never_fall (hs : Reachable transactions s)
    (hlisted : (s.pool.reserves asset).cTokenAddress ≠ .zero)
    (hrun : Run transactions s history s') :
    IndexesGrow (s.pool.reserves asset) (s'.pool.reserves asset) ∧
      (s'.timestamp < 2 ^ 40 → ∀ user, (∀ t ∈ history, t.label.spends ≠ some (asset, user)) →
        ∀ before after, CToken.balanceOf s (.cToken asset) user = .ok before →
          CToken.balanceOf s' (.cToken asset) user = .ok after → before ≤ after) := by
  have hgrows := reserveGrows_of_run hs hlisted hrun
  have hwired := (regular_of_reachable (reachable_operations hs)).sound.wired
  have hwired' := (regular_of_reachable (reachable_operations (hrun.reachable hs))).sound.wired
  have hstart := (hwired.reserve asset).of_cToken hlisted
  have hend := (hwired'.reserve asset).of_cToken hgrows.listed
  constructor
  · exact ⟨hstart.RAY_le_liquidityIndex, hstart.RAY_le_variableBorrowIndex, hgrows.liquidityIndex,
      hgrows.variableBorrowIndex, hend.liquidityIndex_le, hend.variableBorrowIndex_le,
      storesWhole _⟩
  · intro hslot user hkeeps before after hbefore hafter
    have hslot' : s.timestamp < 2 ^ 40 := hgrows.timestamp.trans_lt hslot
    rw [← balanceOf_eq_income hslot' hbefore, ← balanceOf_eq_income hslot hafter]
    apply halfUp_mono
    exact Nat.mul_le_mul (position_le_of_run hs hrun hkeeps) hgrows.income

end Runs

/-- A day passes, and the borrower repays a part. -/
def sampleDay : List Transaction :=
  [.single (.world (.tick 86400)), .single (.user (.repay 2 sampleMarket.nftAsset 7 (10 ^ 19)))]

def sampleBalance (s : State) : Except Revert Nat :=
  CToken.balanceOf s (.cToken sampleMarket.asset) (.account 1)

theorem balances_never_fall_over_a_day : ∃ before after,
    sampleBalance sampleLent = .ok before ∧
      sampleBalance (replayed transactions sampleLent sampleDay) = .ok after ∧ before ≤ after := by
  obtain ⟨before, hbefore, hboth⟩ := exists_of_passes (show passes (sampleBalance sampleLent)
    (fun _ => passes (sampleBalance (replayed transactions sampleLent sampleDay))
      fun _ => true) = true by decide +kernel)
  obtain ⟨after, hafter, -⟩ := exists_of_passes hboth
  refine ⟨before, after, hbefore, hafter, ?_⟩
  exact (balances_never_fall (reachable_transactions sampleLent_reachable) (by decide +kernel)
    (trace_run sampleLent sampleDay)).2 (by decide +kernel) (.account 1) (by decide +kernel) before
      after hbefore hafter

/-- After forty bits of seconds the view takes the time for that of the last update, and
the interest it has shown a second earlier is gone. -/
theorem balance_falls_at_wrap :
    let s := replayed operations sampleLent [.world (.tick (2 ^ 40 - 1))]
    Reachable operations s ∧ ∃ s', Operation.run s (.world (.tick 1)) = .ok s' ∧
      ∃ before after, sampleBalance s = .ok before ∧ sampleBalance s' = .ok after ∧
        after < before := by
  intro s
  refine ⟨replayed_reachable sampleLent_reachable _, _, rfl, ?_⟩
  obtain ⟨before, hbefore, hboth⟩ := exists_of_passes (show passes (sampleBalance s) (fun before =>
    passes (sampleBalance { s with timestamp := s.timestamp + 1 }) fun after =>
      decide (after < before)) = true by decide +kernel)
  obtain ⟨after, hafter, hlt⟩ := exists_of_passes hboth
  exact ⟨before, after, hbefore, hafter, of_decide_eq_true hlt⟩

end Confetti

import Confetti.Gateway.PoolCharges
import Confetti.Gateway.WETHGateway
import Confetti.Properties.DepositorBalances
import Confetti.Properties.Views

/-! The WETH gateway, call by call: whatever the pool takes of it, it has wrapped of
somebody's ether, and whatever the pool gives it, it has unwrapped for somebody. -/
namespace Confetti
open Outcome

/-- The pool has taken `n` of the wrapped ether from the WETH gateway, and `payer` has paid
for it in ether; the gateways hold the things they held. -/
structure Passed (setup : GatewaySetup) (w w' : World) (n : ℤ) (payer : Address) : Prop where
  segment : Segment setup w w'
    (entry (.account setup.wethGateway) (.token setup.wethAsset) n - entry payer .ether n)
    (-entry (.account setup.wethGateway) (.token setup.wethAsset) n)
  held : Held setup [] w w'

variable {setup : GatewaySetup} {w₀ w w' w'' : World} {n n' : ℤ} {payer : Address}
  {msgSender msgValue amount nftTokenId : Nat} {nftAsset onBehalfOf recipient : Address}

theorem Passed.orderly (h : Passed setup w w' n payer) : Orderly setup w' := h.segment.orderly

theorem Passed.trans (h : Passed setup w w' n payer) (h' : Passed setup w' w'' n' payer) :
    Passed setup w w'' (n + n') payer := by
  refine ⟨(h.segment.trans h'.segment).congr ?_ ?_, h.held.trans h'.held⟩
  · rw [entry_add, entry_add]
    abel
  · rw [entry_add]
    abel

theorem Segment.passed {δ γ : Sheet} (h : Segment setup w w' δ γ) (hheld : Held setup [] w w')
    (hδ : δ = entry (.account setup.wethGateway) (.token setup.wethAsset) n - entry payer .ether n)
    (hγ : γ = -entry (.account setup.wethGateway) (.token setup.wethAsset) n) :
    Passed setup w w' n payer := ⟨h.congr hδ hγ, hheld⟩

namespace WETHGateway
open LendPoolLoan

theorem depositETH_passes (ho : Orderly setup w₀) (honBehalfOf : ¬setup.IsGateway onBehalfOf)
    (hsend : w₀.sendEther (.account msgSender) (.account setup.wethGateway) msgValue = .ok w)
    (h : depositETH setup w msgSender msgValue onBehalfOf = .ok w') :
    Passed setup w₀ w' msgValue (.account msgSender) := by
  obtain ⟨_, -, h⟩ := bind_eq_ok.mp h
  obtain ⟨m, hwrap, hdeposit⟩ := bind_eq_ok.mp h
  have hcash := (sendEther_step ho hsend).trans
    (depositWETH_step (sendEther_step ho hsend).segment.orderly hwrap)
  obtain ⟨hpool, hheld⟩ := deposit_segment hcash.segment.orderly honBehalfOf hdeposit
  apply (hcash.segment.trans hpool).passed (hcash.held.trans hheld)
  · abel
  · abel

/-! ### Borrowing -/

/-- An NFT without a loan comes from the sender; one with a loan is in custody already. -/
theorem takeNFT_spec (ho : Orderly setup w)
    (h : takeNFT setup w msgSender nftAsset nftTokenId = .ok w') :
    Segment setup w w' 0 0 ∧
      (w.owner (.nft nftAsset nftTokenId) = .cNFT nftAsset ∨
        w.owner (.nft nftAsset nftTokenId) = .account msgSender) ∧
      ∃ a, w'.owner = Function.update w.owner (.nft nftAsset nftTokenId) a := by
  unfold takeNFT at h
  by_cases hid : getCollateralLoanId w.state nftAsset nftTokenId = 0
  · rw [if_pos hid] at h
    have horderly := ho.of_token h
    obtain ⟨_, hrun, rfl⟩ := World.call_eq_ok.mp h
    obtain ⟨howner, -, -, -, -, rfl⟩ := State.safeTransferNFT_eq_ok.mp hrun
    refine ⟨Segment.of_moved horderly rfl ?_, .inr howner, _, owner_of_given rfl rfl rfl⟩
    unfold World.holdings
    rw [holdings_congr rfl rfl]
    exact (add_zero _).symm
  · rw [if_neg hid] at h
    obtain rfl := pure_eq_ok.mp h
    exact ⟨Segment.refl ho, .inl (ho.in_custody hid), _, (Function.update_eq_self _ _).symm⟩

theorem borrowItemETH_spec (ho : Orderly setup w) (honBehalfOf : onBehalfOf ≠ setup.wethAsset)
    (h : borrowItemETH setup w msgSender onBehalfOf nftAsset nftTokenId amount = .ok w') :
    Segment setup w w'
        (entry (.account setup.wethGateway) (.token setup.wethAsset) (-(amount : ℤ)) -
          entry onBehalfOf .ether (-(amount : ℤ)))
        (-entry (.account setup.wethGateway) (.token setup.wethAsset) (-(amount : ℤ))) ∧
      (w.owner (.nft nftAsset nftTokenId) = .cNFT nftAsset ∨
        w.owner (.nft nftAsset nftTokenId) = .account msgSender) ∧
      w'.owner = Function.update w.owner (.nft nftAsset nftTokenId) (.cNFT nftAsset) := by
  obtain ⟨w₁, htake, h⟩ := bind_eq_ok.mp h
  obtain ⟨w₂, hborrow, h⟩ := bind_eq_ok.mp h
  obtain ⟨w₃, hunwrap, hpay⟩ := bind_eq_ok.mp h
  obtain ⟨htaken, hfrom, _, howner₁⟩ := takeNFT_spec ho htake
  obtain ⟨hborrowed, howner₂⟩ := borrow_segment htaken.orderly hborrow
  have hunwrapped := withdrawWETH_step hborrowed.orderly hunwrap
  have hcash := hunwrapped.trans (safeTransferETH_step hunwrapped.segment.orderly honBehalfOf hpay)
  refine ⟨((htaken.trans hborrowed).trans hcash.segment).congr ?_ ?_, hfrom, ?_⟩
  · rw [entry_neg, entry_neg]
    abel
  · rw [entry_neg]
    abel
  · rw [hcash.owner, howner₂, howner₁, Function.update_idem]

theorem borrowItemsETH_spec (honBehalfOf : onBehalfOf ≠ setup.wethAsset)
    (items : List (Address × Nat × Nat)) : ∀ w, Orderly setup w →
      items.foldlM (fun w item =>
        borrowItemETH setup w msgSender onBehalfOf item.1 item.2.1 item.2.2) w = .ok w' →
      (∃ n : ℤ, Segment setup w w'
        (entry (.account setup.wethGateway) (.token setup.wethAsset) n - entry onBehalfOf .ether n)
        (-entry (.account setup.wethGateway) (.token setup.wethAsset) n)) ∧
      (¬setup.IsGateway (.account msgSender) → Held setup [] w w') ∧
      ∀ things w₀, Held setup (items.map (fun item => .nft item.1 item.2.1) ++ things) w₀ w →
        Held setup things w₀ w' := by
  induction items with
  | nil =>
    intro w ho h
    obtain rfl := pure_eq_ok.mp h
    refine ⟨⟨0, (Segment.refl ho).congr ?_ ?_⟩, fun _ => Held.refl, fun _ _ h => h⟩
    · simp
    · simp
  | cons item items ih =>
    intro w ho h
    rw [List.foldlM_cons] at h
    obtain ⟨m, hitem, hrest⟩ := bind_eq_ok.mp h
    obtain ⟨hlent, hfrom, howner⟩ := borrowItemETH_spec ho honBehalfOf hitem
    obtain ⟨⟨n, hsegment⟩, hown, hplaced⟩ := ih m hlent.orderly hrest
    refine ⟨⟨-(item.2.2 : ℤ) + n, (hlent.trans hsegment).congr ?_ ?_⟩, fun hsender => ?_,
      fun things w₀ hheld => ?_⟩
    · rw [entry_add, entry_add]
      abel
    · rw [entry_add]
      abel
    · apply Held.trans (Held.handed _ (not_gateway_cNFT setup _) howner) (hown hsender)
      rcases hfrom with hcustody | hsent
      · rw [hcustody]
        exact not_gateway_cNFT setup _
      · rw [hsent]
        exact hsender
    · apply hplaced things w₀
      exact hheld.placed (not_gateway_cNFT setup _) howner

theorem borrowETH_passes (ho : Orderly setup w)
    (hsender : ¬setup.IsGateway (.account msgSender)) (honBehalfOf : onBehalfOf ≠ setup.wethAsset)
    (h : borrowETH setup w msgSender amount nftAsset nftTokenId onBehalfOf = .ok w') :
    Passed setup w w' (-(amount : ℤ)) onBehalfOf := by
  obtain ⟨_, -, hitem⟩ := bind_eq_ok.mp h
  obtain ⟨hlent, hfrom, howner⟩ := borrowItemETH_spec ho honBehalfOf hitem
  refine ⟨hlent, Held.handed ?_ (not_gateway_cNFT setup _) howner⟩
  rcases hfrom with hcustody | hsent
  · rw [hcustody]
    exact not_gateway_cNFT setup _
  · rw [hsent]
    exact hsender

theorem batchBorrowETH_passes {amounts nftTokenIds : List Nat} {nftAssets : List Address}
    (ho : Orderly setup w) (hsender : ¬setup.IsGateway (.account msgSender))
    (honBehalfOf : onBehalfOf ≠ setup.wethAsset)
    (h : batchBorrowETH setup w msgSender amounts nftAssets nftTokenIds onBehalfOf = .ok w') :
    ∃ n, Passed setup w w' n onBehalfOf := by
  obtain ⟨_, -, h⟩ := bind_eq_ok.mp h
  obtain ⟨_, -, h⟩ := bind_eq_ok.mp h
  obtain ⟨_, -, hitems⟩ := bind_eq_ok.mp h
  obtain ⟨⟨n, hlent⟩, hheld, -⟩ := borrowItemsETH_spec honBehalfOf _ w ho hitems
  exact ⟨n, hlent, hheld hsender⟩

/-! ### Withdrawing -/

theorem withdrawETH_spec (ho : Orderly setup w) (hrecipient : recipient ≠ setup.wethAsset)
    (h : withdrawETH setup w msgSender amount recipient = .ok w') :
    ∃ paid taken : Nat, Segment setup w w'
        (entry recipient .ether paid -
          entry (.account setup.wethGateway) (.token setup.wethAsset) paid +
          (entry (.account setup.wethGateway) (.cToken setup.wethAsset) taken -
            entry (.account msgSender) (.cToken setup.wethAsset) taken))
        (entry (.account setup.wethGateway) (.token setup.wethAsset) paid -
          entry (.account setup.wethGateway) (.cToken setup.wethAsset) taken) ∧
      Held setup [] w w' := by
  obtain ⟨_, -, h⟩ := bind_eq_ok.mp h
  obtain ⟨balance, -, h⟩ := bind_eq_ok.mp h
  obtain ⟨w₁, hpull, h⟩ := bind_eq_ok.mp h
  obtain ⟨w₂, hwithdraw, h⟩ := bind_eq_ok.mp h
  obtain ⟨w₃, hunwrap, hpay⟩ := bind_eq_ok.mp h
  revert hpull hwithdraw hunwrap hpay
  generalize (if amount = Uint256.max then balance else amount) = paid
  intro hpull hwithdraw hunwrap hpay
  obtain ⟨index, taken, hindex, htaken, hpulled⟩ := transferCTokenFrom_step ho hpull
  -- an amount that the cToken could scale is not the one that means everything
  have hall : paid ≠ Uint256.max := by
    obtain ⟨-, hfits, -⟩ := rayDiv_eq_ok.mp htaken
    intro hmax
    rw [hmax, RAY, Uint256.max] at hfits
    omega
  obtain ⟨li, scaled, hli, hscaled, hwithdrawn, hheld⟩ :=
    withdraw_segment hpulled.orderly hall hwithdraw
  have hsame : li = index := by
    obtain ⟨_, _, _, hstate⟩ := hpulled.state
    rw [hstate] at hli
    rw [← income_eq_updated hli]
    exact income_eq_shown ho.slot hindex
  rw [hsame, htaken] at hscaled
  obtain rfl : taken = scaled := Except.ok.inj hscaled
  have hunwrapped := withdrawWETH_step hwithdrawn.orderly hunwrap
  have hpaid := safeTransferETH_step hunwrapped.orderly hrecipient hpay
  refine ⟨paid, taken, ?_, (hpulled.held.trans hheld).trans (hunwrapped.trans hpaid).held⟩
  apply ((hpulled.segment.trans hwithdrawn).trans (hunwrapped.trans hpaid).segment).congr
  · abel
  · abel

/-! ### Repaying -/

theorem repayItemETH_spec {accAmount : Nat} {r : World × Nat × Bool} (ho : Orderly setup w)
    (hrepayable : Repayable setup w.state nftAsset nftTokenId)
    (h : repayItemETH setup w msgValue nftAsset nftTokenId amount accAmount = .ok r) :
    accAmount + r.2.1 ≤ msgValue ∧ Passed setup w r.1 r.2.1 (.account setup.wethGateway) ∧
      ∀ other otherId, Repayable setup w.state other otherId →
        Repayable setup r.1.state other otherId := by
  obtain ⟨w', paid, closed⟩ := r
  unfold repayItemETH at h
  obtain ⟨_, hid, h⟩ := bind_eq_ok.mp h
  obtain ⟨shown, hshown, h⟩ := bind_eq_ok.mp h
  obtain ⟨_, hreserve, h⟩ := bind_eq_ok.mp h
  obtain ⟨needed, hneeded, h⟩ := bind_eq_ok.mp h
  obtain ⟨_, henough, h⟩ := bind_eq_ok.mp h
  obtain ⟨m, hwrap, hrepay⟩ := bind_eq_ok.mp h
  have hcash := depositWETH_step ho hwrap
  obtain ⟨s', li, vi, debt, scaled, heffect, -, rfl, hsegment, hheld⟩ :=
    repay_segment hcash.orderly hrepay
  have hrepayable' : Repayable setup m.state nftAsset nftTokenId := hcash.repayable.mpr hrepayable
  have hids : m.state.loanStore.nftToLoanIds nftAsset nftTokenId =
      w.state.loanStore.nftToLoanIds nftAsset nftTokenId := by
    obtain ⟨_, _, _, hstate⟩ := hcash.state
    rw [hstate]
  have hdebt : shown.2 = debt := by
    apply heffect.shown_eq hcash.orderly hrepayable'
    rw [hids, hcash.borrowAmount]
    exact hshown
  have hpaid : (if amount < shown.2 then amount else shown.2) = paid := by
    rw [heffect.paid_eq, hdebt]
    change _ = min amount debt
    by_cases hless : amount < debt
    · rw [if_pos hless, Nat.min_eq_left hless.le]
    · rw [if_neg hless, Nat.min_eq_right (Nat.le_of_not_lt hless)]
  have hasset : (m.state.loanOf nftAsset nftTokenId).reserveAsset = setup.wethAsset := by
    rw [hcash.loanOf]
    exact (LendPoolLoan.getLoanReserveBorrowAmount_eq_ok.mp hshown).1.symm.trans
      (require_eq_ok.mp hreserve)
  refine ⟨?_, (hcash.segment.trans hsegment).passed (hcash.held.trans (hheld ?_)) ?_ ?_, ?_⟩
  · have hle := require_eq_ok.mp henough
    obtain ⟨-, rfl⟩ := Uint256.add_eq_ok.mp hneeded
    rw [hpaid] at hle
    exact hle
  · exact (hrepayable' heffect.registered).1
  · rw [hpaid]
    abel
  · rw [hasset]
    abel
  · intro other otherId hother
    exact heffect.repayable (hcash.repayable.mpr hother)

theorem refundETH_step {gateway used : Nat} (ho : Orderly setup w)
    (hsender : .account msgSender ≠ setup.wethAsset) (hused : used ≤ msgValue)
    (h : refundETH setup w msgSender gateway msgValue used = .ok w') :
    CashStep setup w w' (entry (.account msgSender) .ether ((msgValue : ℤ) - used) -
      entry (.account gateway) .ether ((msgValue : ℤ) - used)) := by
  unfold refundETH at h
  by_cases hless : used < msgValue
  · rw [if_pos hless] at h
    have hstep := safeTransferETH_step ho hsender h
    rw [Nat.cast_sub hused] at hstep
    exact hstep
  · rw [if_neg hless] at h
    obtain rfl := pure_eq_ok.mp h
    obtain rfl : used = msgValue := by omega
    simp only [sub_self, entry_zero]
    exact CashStep.refl ho

theorem refundETH_passes {gateway used : Nat} (ho : Orderly setup w₀)
    (hsend : w₀.sendEther (.account msgSender) (.account gateway) msgValue = .ok w)
    (hsender : .account msgSender ≠ setup.wethAsset)
    (h : Passed setup w w' used (.account gateway)) (hused : used ≤ msgValue)
    (hrefund : refundETH setup w' msgSender gateway msgValue used = .ok w'') :
    Passed setup w₀ w'' used (.account msgSender) := by
  have hsent := sendEther_step ho hsend
  have hback := refundETH_step h.orderly hsender hused hrefund
  apply ((hsent.segment.trans h.segment).trans hback.segment).passed
    ((hsent.held.trans h.held).trans hback.held)
  · rw [entry_sub, entry_sub]
    abel
  · abel

theorem repayETH_passes {r : World × Nat × Bool} (ho : Orderly setup w₀)
    (hsender : .account msgSender ≠ setup.wethAsset)
    (hrepayable : Repayable setup w₀.state nftAsset nftTokenId)
    (hsend : w₀.sendEther (.account msgSender) (.account setup.wethGateway) msgValue = .ok w)
    (h : repayETH setup w msgSender msgValue nftAsset nftTokenId amount = .ok r) :
    Passed setup w₀ r.1 r.2.1 (.account msgSender) ∧ r.2.1 ≤ msgValue ∧
      ∀ other otherId, Repayable setup w₀.state other otherId →
        Repayable setup r.1.state other otherId := by
  obtain ⟨q, hitem, h⟩ := bind_eq_ok.mp h
  obtain ⟨m, hrefund, hpure⟩ := bind_eq_ok.mp h
  obtain rfl := pure_eq_ok.mp hpure
  have hsent := sendEther_step ho hsend
  obtain ⟨hle, hpassed, hkept⟩ :=
    repayItemETH_spec hsent.orderly (hsent.repayable.mpr hrepayable) hitem
  rw [Nat.zero_add] at hle
  refine ⟨refundETH_passes ho hsend hsender hpassed hle hrefund, hle, ?_⟩
  intro other otherId hother
  exact (refundETH_step hpassed.orderly hsender hle hrefund).repayable.mpr
    (hkept other otherId (hsent.repayable.mpr hother))

theorem repayBatch_spec {ι : Type} {ready : World → ι → Prop}
    {repayItem : World → ι → Nat → Except Revert (World × Nat × Bool)}
    (hitem : ∀ w item accAmount r, Orderly setup w → ready w item →
      repayItem w item accAmount = .ok r → accAmount + r.2.1 ≤ msgValue ∧
        Passed setup w r.1 r.2.1 payer ∧ ∀ other, ready w other → ready r.1 other)
    {batch' : RepayBatch} (items : List ι) : ∀ batch : RepayBatch, Orderly setup batch.world →
      (∀ item ∈ items, ready batch.world item) → batch.allRepayDebtAmount ≤ msgValue →
      items.foldlM (fun (batch : RepayBatch) item => do
        let r ← repayItem batch.world item batch.allRepayDebtAmount
        let all ← Uint256.add batch.allRepayDebtAmount r.2.1
        pure (⟨r.1, all, batch.results ++ [r.2]⟩ : RepayBatch)) batch = .ok batch' →
      ∃ paid : Nat, batch'.allRepayDebtAmount = batch.allRepayDebtAmount + paid ∧
        batch'.allRepayDebtAmount ≤ msgValue ∧
          Passed setup batch.world batch'.world paid payer := by
  induction items with
  | nil =>
    intro batch ho _ hwithin h
    obtain rfl := pure_eq_ok.mp h
    refine ⟨0, rfl, hwithin, (Segment.refl ho).passed Held.refl ?_ ?_⟩
    · simp
    · simp
  | cons item items ih =>
    intro batch ho hready hwithin h
    rw [List.foldlM_cons] at h
    obtain ⟨m, hbody, hrest⟩ := bind_eq_ok.mp h
    obtain ⟨r, hrepay, hbody⟩ := bind_eq_ok.mp hbody
    obtain ⟨all, hall, hpure⟩ := bind_eq_ok.mp hbody
    obtain rfl := pure_eq_ok.mp hpure
    obtain ⟨-, rfl⟩ := Uint256.add_eq_ok.mp hall
    obtain ⟨hle, hpassed, hkept⟩ := hitem _ _ _ _ ho (hready item List.mem_cons_self) hrepay
    obtain ⟨paid, hsum, hmax, hrepaid⟩ := ih _ hpassed.orderly
      (fun other hother => hkept other (hready other (List.mem_cons_of_mem item hother))) hle hrest
    refine ⟨r.2.1 + paid, ?_, hmax, ?_⟩
    · rw [hsum, Nat.add_assoc]
    · rw [Nat.cast_add]
      exact hpassed.trans hrepaid

private theorem mem_zip_of_mem_zip_zip {α β γ : Type} {zs : List γ} {x : α × β × γ} :
    ∀ {xs : List α} {ys : List β}, x ∈ xs.zip (ys.zip zs) → (x.1, x.2.1) ∈ xs.zip ys := by
  induction zs with
  | nil =>
    intro xs ys h
    simp at h
  | cons z zs ih =>
    intro xs ys h
    cases xs with
    | nil => simp at h
    | cons first xs =>
      cases ys with
      | nil => simp at h
      | cons next ys =>
        rw [List.zip_cons_cons, List.zip_cons_cons] at h
        rw [List.zip_cons_cons]
        rcases List.mem_cons.mp h with rfl | hmem
        · exact List.mem_cons_self
        · exact List.mem_cons_of_mem _ (ih hmem)

theorem batchRepayETH_passes {nftAssets : List Address} {nftTokenIds amounts : List Nat}
    {r : World × List (Nat × Bool)} (ho : Orderly setup w₀)
    (hsender : .account msgSender ≠ setup.wethAsset)
    (hrepayable : ∀ item ∈ nftAssets.zip nftTokenIds, Repayable setup w₀.state item.1 item.2)
    (hsend : w₀.sendEther (.account msgSender) (.account setup.wethGateway) msgValue = .ok w)
    (h : batchRepayETH setup w msgSender msgValue nftAssets nftTokenIds amounts = .ok r) :
    ∃ paid : Nat, Passed setup w₀ r.1 paid (.account msgSender) := by
  obtain ⟨_, -, h⟩ := bind_eq_ok.mp h
  obtain ⟨_, -, h⟩ := bind_eq_ok.mp h
  obtain ⟨batch, hbatch, h⟩ := bind_eq_ok.mp h
  obtain ⟨m, hrefund, hpure⟩ := bind_eq_ok.mp h
  obtain rfl := pure_eq_ok.mp hpure
  have hsent := sendEther_step ho hsend
  have hitem : ∀ w (item : Address × Nat × Nat) accAmount r, Orderly setup w →
      Repayable setup w.state item.1 item.2.1 →
      repayItemETH setup w msgValue item.1 item.2.1 item.2.2 accAmount = .ok r →
        accAmount + r.2.1 ≤ msgValue ∧ Passed setup w r.1 r.2.1 (.account setup.wethGateway) ∧
          ∀ other : Address × Nat × Nat, Repayable setup w.state other.1 other.2.1 →
            Repayable setup r.1.state other.1 other.2.1 := by
    intro w item accAmount r ho hready hrepay
    obtain ⟨hle, hpassed, hkept⟩ := repayItemETH_spec ho hready hrepay
    exact ⟨hle, hpassed, fun other => hkept other.1 other.2.1⟩
  have hready : ∀ item ∈ nftAssets.zip (nftTokenIds.zip amounts),
      Repayable setup w.state item.1 item.2.1 := by
    intro item hmem
    apply hsent.repayable.mpr
    exact hrepayable (item.1, item.2.1) (mem_zip_of_mem_zip_zip hmem)
  obtain ⟨paid, hsum, hmax, hpassed⟩ :=
    repayBatch_spec hitem _ _ hsent.orderly hready (Nat.zero_le _) hbatch
  rw [hsum, Nat.zero_add] at hrefund hmax
  exact ⟨paid, refundETH_passes ho hsend hsender hpassed hmax hrefund⟩

/-! ### Sales -/

theorem checkLoanOfWETH_spec {u : Unit}
    (h : checkLoanOfWETH setup w nftAsset nftTokenId = .ok u) :
    (w.state.loanOf nftAsset nftTokenId).reserveAsset = setup.wethAsset := by
  obtain ⟨_, -, h⟩ := bind_eq_ok.mp h
  exact require_eq_ok.mp h

theorem buyItNowETH_passes (ho : Orderly setup w₀)
    (hsend : w₀.sendEther (.account msgSender) (.account setup.wethGateway) msgValue = .ok w)
    (h : buyItNowETH setup w msgSender msgValue nftAsset nftTokenId onBehalfOf = .ok w') :
    Passed setup w₀ w' msgValue (.account msgSender) := by
  obtain ⟨_, -, h⟩ := bind_eq_ok.mp h
  obtain ⟨_, hcheck, h⟩ := bind_eq_ok.mp h
  obtain ⟨m, hwrap, hoffer⟩ := bind_eq_ok.mp h
  have hwrapped := depositWETH_step (sendEther_step ho hsend).orderly hwrap
  have hcash := (sendEther_step ho hsend).trans hwrapped
  obtain ⟨hpool, hheld⟩ := buyItNow_segment hcash.orderly hoffer
  apply (hcash.segment.trans hpool).passed (hcash.held.trans hheld)
  · abel
  · rw [hwrapped.loanOf, checkLoanOfWETH_spec hcheck]
    abel

theorem refundWETH_step {used : Nat} (ho : Orderly setup w)
    (hsender : .account msgSender ≠ setup.wethAsset) (hused : used ≤ msgValue)
    (h : refundWETH setup w msgSender msgValue used = .ok w') :
    CashStep setup w w' (entry (.account msgSender) .ether ((msgValue : ℤ) - used) -
      entry (.account setup.wethGateway) (.token setup.wethAsset) ((msgValue : ℤ) - used)) := by
  unfold refundWETH at h
  by_cases hless : used < msgValue
  · rw [if_pos hless] at h
    obtain ⟨m, hunwrap, hpay⟩ := bind_eq_ok.mp h
    have hunwrapped := withdrawWETH_step ho hunwrap
    have hstep := hunwrapped.trans (safeTransferETH_step hunwrapped.orderly hsender hpay)
    rw [Nat.cast_sub hused] at hstep
    apply hstep.congr
    intro a _
    simp only [Pi.add_apply, Pi.sub_apply]
    abel
  · rw [if_neg hless] at h
    obtain rfl := pure_eq_ok.mp h
    obtain rfl : used = msgValue := by omega
    simp only [sub_self, entry_zero]
    exact CashStep.refl ho

theorem redeemETH_passes {buyItNowFine : Nat} {r : World × Nat} (ho : Orderly setup w₀)
    (hsender : .account msgSender ≠ setup.wethAsset)
    (hbuyer : ¬setup.IsGateway (w₀.state.loanOf nftAsset nftTokenId).buyItNowBuyerAddress)
    (hsend : w₀.sendEther (.account msgSender) (.account setup.wethGateway) msgValue = .ok w)
    (h : redeemETH setup w msgSender msgValue nftAsset nftTokenId amount buyItNowFine = .ok r) :
    Passed setup w₀ r.1 r.2 (.account msgSender) ∧ r.2 ≤ msgValue := by
  obtain ⟨_, hcheck, h⟩ := bind_eq_ok.mp h
  obtain ⟨total, htotal, h⟩ := bind_eq_ok.mp h
  obtain ⟨_, henough, h⟩ := bind_eq_ok.mp h
  obtain ⟨m, hwrap, h⟩ := bind_eq_ok.mp h
  obtain ⟨q, hredeem, h⟩ := bind_eq_ok.mp h
  obtain ⟨m', hrefund, hpure⟩ := bind_eq_ok.mp h
  obtain rfl := pure_eq_ok.mp hpure
  have hsent := sendEther_step ho hsend
  have hwrapped := depositWETH_step hsent.orderly hwrap
  have hcash := hsent.trans hwrapped
  rw [← hcash.loanOf] at hbuyer
  obtain ⟨hle, hpool, hheld⟩ := redeem_segment hcash.orderly hbuyer hredeem
  have hused : q.2 ≤ msgValue := by
    have hall := require_eq_ok.mp henough
    obtain ⟨-, rfl⟩ := Uint256.add_eq_ok.mp htotal
    omega
  have hback := refundWETH_step hpool.orderly hsender hused hrefund
  refine ⟨((hcash.segment.trans hpool).trans hback.segment).passed
    ((hcash.held.trans hheld).trans hback.held) ?_ ?_, hused⟩
  · rw [entry_sub, entry_sub]
    abel
  · rw [hwrapped.loanOf, checkLoanOfWETH_spec hcheck]
    abel

theorem liquidateETH_passes {r : World × Nat} (ho : Orderly setup w₀)
    (hsender : .account msgSender ≠ setup.wethAsset)
    (hborrower : ¬setup.IsGateway (w₀.state.loanOf nftAsset nftTokenId).borrower)
    (hbuyer : ¬setup.IsGateway (w₀.state.loanOf nftAsset nftTokenId).buyItNowBuyerAddress)
    (hsend : w₀.sendEther (.account msgSender) (.account setup.wethGateway) msgValue = .ok w)
    (h : liquidateETH setup w msgSender msgValue nftAsset nftTokenId = .ok r) :
    Passed setup w₀ r.1 r.2 (.account msgSender) ∧ r.2 ≤ msgValue := by
  obtain ⟨_, hcheck, h⟩ := bind_eq_ok.mp h
  obtain ⟨m, hwrap, h⟩ := bind_eq_ok.mp h
  obtain ⟨q, hliquidate, h⟩ := bind_eq_ok.mp h
  obtain ⟨m', hrefund, hpure⟩ := bind_eq_ok.mp h
  obtain rfl := pure_eq_ok.mp hpure
  have hsent := sendEther_step ho hsend
  have hwrapped : CashStep setup w m
      (entry (.account setup.wethGateway) (.token setup.wethAsset) msgValue -
        entry (.account setup.wethGateway) .ether msgValue) := by
    by_cases hpos : msgValue > 0
    · rw [if_pos hpos] at hwrap
      exact depositWETH_step hsent.orderly hwrap
    · rw [if_neg hpos] at hwrap
      obtain rfl := pure_eq_ok.mp hwrap
      obtain rfl : msgValue = 0 := by omega
      simp only [Nat.cast_zero, entry_zero, sub_zero]
      exact CashStep.refl hsent.orderly
  have hcash := hsent.trans hwrapped
  rw [← hcash.loanOf] at hborrower hbuyer
  obtain ⟨hused, hpool, hheld⟩ := liquidate_segment hcash.orderly hborrower hbuyer hliquidate
  have hback := refundWETH_step hpool.orderly hsender hused hrefund
  refine ⟨((hcash.segment.trans hpool).trans hback.segment).passed
    ((hcash.held.trans hheld).trans hback.held) ?_ ?_, hused⟩
  · rw [entry_sub, entry_sub]
    abel
  · rw [hwrapped.loanOf, checkLoanOfWETH_spec hcheck]
    abel

end WETHGateway

end Confetti

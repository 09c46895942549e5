import Confetti.Gateway.PunkPasses
import Confetti.Gateway.System
import Confetti.Properties.ETHWithdrawals

/-! The gateways pass everything through: after a call they hold what they held before, and
what the pool charged them somebody has paid. -/
namespace Confetti
open Outcome TransitionSystem

/-! ### What a call may name -/

section Conditions

variable (setup : GatewaySetup) (s : State)

/-- Somebody who is neither a gateway nor WETH. -/
def GatewaySetup.IsOutside (a : Address) : Prop := ¬setup.IsGateway a ∧ a ≠ setup.wethAsset

/-- Proceeds are for no gateway, ether is not for WETH, and the loan that ends or is paid back
belongs to no gateway, nor was it bought by one. -/
def WETHGatewayCall.Admissible : WETHGatewayCall → Prop
  | .depositETH onBehalfOf => ¬setup.IsGateway onBehalfOf
  | .withdrawETH _ recipient => setup.IsOutside recipient
  | .borrowETH _ _ _ onBehalfOf => setup.IsOutside onBehalfOf
  | .batchBorrowETH _ _ _ onBehalfOf => setup.IsOutside onBehalfOf
  | .repayETH nftAsset nftTokenId _ => Repayable setup s nftAsset nftTokenId
  | .batchRepayETH nftAssets nftTokenIds _ =>
    ∀ item ∈ nftAssets.zip nftTokenIds, Repayable setup s item.1 item.2
  | .buyItNowETH _ _ _ => True
  | .redeemETH nftAsset nftTokenId _ _ =>
    ¬setup.IsGateway (s.loanOf nftAsset nftTokenId).buyItNowBuyerAddress
  | .liquidateETH nftAsset nftTokenId =>
    ¬setup.IsGateway (s.loanOf nftAsset nftTokenId).borrower ∧
      ¬setup.IsGateway (s.loanOf nftAsset nftTokenId).buyItNowBuyerAddress

def PunkGatewayCall.Admissible : PunkGatewayCall → Prop
  | .borrow _ _ _ onBehalfOf => ¬setup.IsGateway onBehalfOf
  | .batchBorrow _ _ _ onBehalfOf => ¬setup.IsGateway onBehalfOf
  | .repay punkIndex _ => Repayable setup s setup.punkAsset punkIndex
  | .batchRepay punkIndexs _ =>
    ∀ punkIndex ∈ punkIndexs, Repayable setup s setup.punkAsset punkIndex
  | .buyItNow _ _ _ => True
  | .redeem punkIndex _ _ =>
    ¬setup.IsGateway (s.loanOf setup.punkAsset punkIndex).buyItNowBuyerAddress
  | .liquidate punkIndex _ => ¬setup.IsGateway (s.loanOf setup.punkAsset punkIndex).borrower
  | .borrowETH _ _ onBehalfOf => setup.IsOutside onBehalfOf
  | .batchBorrowETH _ _ onBehalfOf => setup.IsOutside onBehalfOf
  | .repayETH punkIndex _ => Repayable setup s setup.punkAsset punkIndex
  | .batchRepayETH punkIndexs _ =>
    ∀ punkIndex ∈ punkIndexs, Repayable setup s setup.punkAsset punkIndex
  | .buyItNowETH _ _ => True
  | .redeemETH punkIndex _ _ =>
    ¬setup.IsGateway (s.loanOf setup.punkAsset punkIndex).buyItNowBuyerAddress
  | .liquidateETH punkIndex => ¬setup.IsGateway (s.loanOf setup.punkAsset punkIndex).borrower

def GatewayCall.Admissible : GatewayCall → Prop
  | .weth call => call.Admissible setup s
  | .punk call => call.Admissible setup s

/-- A call of an outsider, at a time that fits its slot, with no gateway in the roles that the
pool pays. -/
structure Admissible (w : World) (caller : Nat) (call : GatewayCall) : Prop where
  slot : w.state.timestamp < 2 ^ 40
  treasury : ∀ asset, (w.state.pool.reserves asset).cTokenAddress ≠ .zero →
    ¬setup.IsGateway (w.state.cTokens asset).treasury
  caller : setup.IsOutside (.account caller)
  call : call.Admissible setup w.state

end Conditions

/-! ### Who pays what -/

section Bills

variable (setup : GatewaySetup)

/-- The one a call is billed to, coin by coin. The proceeds of a loan or of a withdrawal are
for whom the call names. -/
def WETHGatewayCall.bearer (caller : Nat) : WETHGatewayCall → Coin → Address
  | .withdrawETH _ recipient, .ether => recipient
  | .borrowETH _ _ _ onBehalfOf, _ => onBehalfOf
  | .batchBorrowETH _ _ _ onBehalfOf, _ => onBehalfOf
  | _, _ => .account caller

def PunkGatewayCall.bearer (caller : Nat) : PunkGatewayCall → Coin → Address
  | .borrow _ _ _ onBehalfOf, _ => onBehalfOf
  | .batchBorrow _ _ _ onBehalfOf, _ => onBehalfOf
  | .borrowETH _ _ onBehalfOf, _ => onBehalfOf
  | .batchBorrowETH _ _ onBehalfOf, _ => onBehalfOf
  | _, _ => .account caller

def GatewayCall.bearer (caller : Nat) : GatewayCall → Coin → Address
  | .weth call => call.bearer caller
  | .punk call => call.bearer caller

def GatewayCall.inEther : GatewayCall → Bool
  | .weth _ => true
  | .punk (.borrowETH ..) | .punk (.batchBorrowETH ..) | .punk (.repayETH ..)
  | .punk (.batchRepayETH ..) | .punk (.buyItNowETH ..) | .punk (.redeemETH ..)
  | .punk (.liquidateETH ..) => true
  | _ => false

/-- What the pool took from the gateways in the calls on record, less what it gave them. -/
def World.charged (w : World) : Coin → ℤ :=
  -(w.given (.account setup.wethGateway) + w.given (.account setup.punkGateway))

def unwrapped (c : Coin → ℤ) : Coin → ℤ
  | .ether => c (.token setup.wethAsset)
  | .token asset => if asset = setup.wethAsset then 0 else c (.token asset)
  | .cToken asset => c (.cToken asset)

def GatewayCall.bill (w : World) (call : GatewayCall) : Coin → ℤ :=
  if call.inEther = true then unwrapped setup (w.charged setup) else w.charged setup

/-- The gateways hold what they held, in coins, NFTs and punks, and apart from what the pool
itself gave, everybody else but WETH has paid exactly the bill made out to him. -/
structure PassThrough (w w' : World) (bearer : Coin → Address) (bill : Coin → ℤ) : Prop where
  coins : ∀ g, setup.IsGateway g → w'.holdings g = w.holdings g
  things : ∀ x g, setup.IsGateway g → (w'.owner x = g ↔ w.owner x = g)
  paid : ∀ a k, ¬setup.IsGateway a → a ≠ setup.wethAsset →
    w.holdings a k - w'.own a k = if a = bearer k then bill k else 0

end Bills

section Settling

variable {setup : GatewaySetup} {w w' w₀ : World} {δ γ : Sheet} {bearer : Coin → Address}
  {bill : Coin → ℤ} {n : ℤ} {payer : Address} {c : Coin → ℤ}

theorem own_of_fresh (hcalls : w.poolCalls = []) : w.own = w.holdings := by
  unfold World.own World.given
  rw [hcalls, List.map_nil, List.sum_nil, sub_zero]

theorem given_of_fresh (hcalls : w.poolCalls = []) : w.given = 0 := by
  unfold World.given
  rw [hcalls, List.map_nil, List.sum_nil]

theorem Segment.passThrough (h : Segment setup w w' δ γ) (hheld : Held setup [] w w')
    (hcalls : w.poolCalls = []) (hgateways : ∀ g, setup.IsGateway g → δ g + γ g = 0)
    (hpaid : ∀ a k, ¬setup.IsGateway a → δ a k = if a = bearer k then -bill k else 0) :
    PassThrough setup w w' bearer bill := by
  refine ⟨fun g hg => ?_, fun x g hg => hheld.same x nofun g hg, fun a k ha hweth => ?_⟩
  · have hown := h.own g hg.ne_weth
    have hgiven := h.given g hg
    rw [own_of_fresh hcalls] at hown
    rw [given_of_fresh hcalls] at hgiven
    have hholdings : w'.holdings g = w'.own g + w'.given g := by
      rw [← w'.own_add_given, Pi.add_apply]
    rw [hholdings, hown, hgiven, Pi.zero_apply, zero_add, add_assoc, hgateways g hg, add_zero]
  · rw [h.own a hweth, own_of_fresh hcalls, Pi.add_apply, hpaid a k ha]
    split
    · omega
    · omega

theorem Segment.charged (h : Segment setup w w' δ γ) (hcalls : w.poolCalls = []) :
    w'.charged setup =
      -(γ (.account setup.wethGateway) + γ (.account setup.punkGateway)) := by
  unfold World.charged
  rw [h.given _ setup.isGateway_weth, h.given _ setup.isGateway_punk, given_of_fresh hcalls,
    Pi.zero_apply, Pi.zero_apply, zero_add, zero_add]

theorem unwrapped_single (n : ℤ) :
    unwrapped setup (Pi.single (.token setup.wethAsset) n) = Pi.single .ether n := by
  funext k
  cases k with
  | ether => simp [unwrapped]
  | token asset =>
    have hether : Coin.token asset ≠ .ether := nofun
    rw [Pi.single_eq_of_ne hether]
    by_cases hasset : asset = setup.wethAsset
    · exact if_pos hasset
    · have hcoin : Coin.token asset ≠ .token setup.wethAsset :=
        fun heq => hasset (Coin.token.inj heq)
      simp only [unwrapped, if_neg hasset]
      exact Pi.single_eq_of_ne hcoin _
  | cToken asset => simp [unwrapped]

theorem Passed.passThrough (h : Passed setup w w' n payer) (hcalls : w.poolCalls = [])
    (hpayer : ¬setup.IsGateway payer) :
    PassThrough setup w w' (fun _ => payer) (unwrapped setup (w'.charged setup)) := by
  have hcharged : w'.charged setup = Pi.single (.token setup.wethAsset) n := by
    rw [h.segment.charged hcalls, Pi.neg_apply, Pi.neg_apply, entry_self,
      entry_of_ne setup.gateways_ne, neg_zero, add_zero, neg_neg]
  rw [hcharged, unwrapped_single]
  apply h.segment.passThrough h.held hcalls
  · intro g hg
    have hne : g ≠ payer := by
      rintro rfl
      exact hpayer hg
    rw [Pi.sub_apply, Pi.neg_apply, entry_of_ne hne]
    abel
  · intro a k ha
    have hne : a ≠ .account setup.wethGateway := by
      rintro rfl
      exact ha setup.isGateway_weth
    rw [Pi.sub_apply, entry_of_ne hne, zero_sub, entry_apply]
    split
    · rfl
    · rfl

theorem Traded.passThrough (h : Traded setup w w' c payer) (hcalls : w.poolCalls = [])
    (hpayer : ¬setup.IsGateway payer) :
    PassThrough setup w w' (fun _ => payer) (w'.charged setup) := by
  have hcharged : w'.charged setup = c := by
    rw [h.segment.charged hcalls, Pi.neg_apply, Pi.neg_apply, place_self,
      place_of_ne setup.gateways_ne.symm, neg_zero, zero_add, neg_neg]
  rw [hcharged]
  apply h.segment.passThrough h.held hcalls
  · intro g hg
    have hne : g ≠ payer := by
      rintro rfl
      exact hpayer hg
    rw [Pi.sub_apply, Pi.neg_apply, place_of_ne hne]
    abel
  · intro a k ha
    have hne : a ≠ .account setup.punkGateway := by
      rintro rfl
      exact ha setup.isGateway_punk
    rw [Pi.sub_apply, place_of_ne hne, zero_sub]
    by_cases hpays : a = payer
    · rw [if_pos hpays, hpays, place_self]
      rfl
    · rw [if_neg hpays, place_of_ne hpays]
      rfl

private theorem entry_coin (a b : Address) (k j : Coin) (v : ℤ) :
    entry a k v b j = if b = a ∧ j = k then v else 0 := by
  rw [entry_apply]
  by_cases ha : b = a
  · simp [ha, Pi.single_apply]
  · simp [ha]

theorem withdrawETH_passThrough {msgSender amount : Nat} {recipient : Address}
    (ho : Orderly setup w) (hcalls : w.poolCalls = [])
    (hsender : ¬setup.IsGateway (.account msgSender)) (hrecipient : setup.IsOutside recipient)
    (h : WETHGateway.withdrawETH setup w msgSender amount recipient = .ok w') :
    PassThrough setup w w'
      (WETHGatewayCall.bearer msgSender (.withdrawETH amount recipient))
      (unwrapped setup (w'.charged setup)) := by
  obtain ⟨paid, taken, hsegment, hheld⟩ :=
    WETHGateway.withdrawETH_spec ho hrecipient.2 h
  have hcharged : w'.charged setup = Pi.single (.cToken setup.wethAsset) (taken : ℤ) -
      Pi.single (.token setup.wethAsset) (paid : ℤ) := by
    rw [hsegment.charged hcalls, Pi.sub_apply, Pi.sub_apply, entry_self, entry_self,
      entry_of_ne setup.gateways_ne, entry_of_ne setup.gateways_ne]
    abel
  apply hsegment.passThrough hheld hcalls
  · intro g hg
    have hne : g ≠ recipient := by
      rintro rfl
      exact hrecipient.1 hg
    have hne' : g ≠ .account msgSender := by
      rintro rfl
      exact hsender hg
    simp only [Pi.add_apply, Pi.sub_apply, entry_of_ne hne, entry_of_ne hne']
    abel
  · intro a k ha
    have hne : a ≠ .account setup.wethGateway := by
      rintro rfl
      exact ha setup.isGateway_weth
    rw [hcharged]
    simp only [Pi.add_apply, Pi.sub_apply, entry_of_ne hne, entry_coin, Pi.zero_apply]
    cases k with
    | ether => simp [unwrapped, WETHGatewayCall.bearer]
    | token asset =>
      by_cases hasset : asset = setup.wethAsset
      · simp [unwrapped, hasset]
      · simp [unwrapped, hasset]
    | cToken asset =>
      by_cases hown : a = .account msgSender
      · simp [unwrapped, WETHGatewayCall.bearer, hown, Pi.single_apply]
      · simp [WETHGatewayCall.bearer, hown]

end Settling

/-! ### All calls -/

section Calls

variable {setup : GatewaySetup} {w w₁ w' : World} {caller value : Nat}

theorem sendEther_zero {sender recipient : Address}
    (h : w.sendEther sender recipient 0 = .ok w') : w' = w := by
  obtain ⟨-, rfl⟩ := World.sendEther_eq_ok.mp h
  have hsame : ERC20.moved w.ether sender recipient 0 = w.ether := by
    simp only [ERC20.moved, Nat.sub_zero, Nat.add_zero, Function.update_eq_self]
  rw [hsame]

private theorem Passed.settled {call : GatewayCall} {n : ℤ} {payer : Address}
    (h : Passed setup w w' n payer) (hcalls : w.poolCalls = []) (hpayer : ¬setup.IsGateway payer)
    (hether : call.inEther = true) (hbearer : call.bearer caller = fun _ => payer) :
    PassThrough setup w w' (call.bearer caller) (call.bill setup w') := by
  unfold GatewayCall.bill
  rw [if_pos hether, hbearer]
  exact h.passThrough hcalls hpayer

private theorem Traded.settled {call : GatewayCall} {c : Coin → ℤ} {payer : Address}
    (h : Traded setup w w' c payer) (hcalls : w.poolCalls = []) (hpayer : ¬setup.IsGateway payer)
    (hether : call.inEther = false) (hbearer : call.bearer caller = fun _ => payer) :
    PassThrough setup w w' (call.bearer caller) (call.bill setup w') := by
  have hnot : ¬call.inEther = true := by
    rw [hether]
    exact nofun
  unfold GatewayCall.bill
  rw [if_neg hnot, hbearer]
  exact h.passThrough hcalls hpayer

theorem WETHGatewayCall.passThrough {call : WETHGatewayCall} (ho : Orderly setup w)
    (hcalls : w.poolCalls = []) (hcaller : setup.IsOutside (.account caller))
    (hcall : call.Admissible setup w.state) (hvalue : call.payable = false → value = 0)
    (hsend : w.sendEther (.account caller) (.account setup.wethGateway) value = .ok w₁)
    (h : call.execute setup w₁ caller value = .ok w') :
    PassThrough setup w w' (GatewayCall.bearer caller (.weth call))
      (GatewayCall.bill setup w' (.weth call)) := by
  cases call with
  | depositETH onBehalfOf =>
    exact (WETHGateway.depositETH_passes ho hcall hsend h).settled hcalls hcaller.1 rfl rfl
  | withdrawETH amount recipient =>
    obtain rfl := hvalue rfl
    obtain rfl := sendEther_zero hsend
    exact withdrawETH_passThrough ho hcalls hcaller.1 hcall h
  | borrowETH amount nftAsset nftTokenId onBehalfOf =>
    obtain rfl := hvalue rfl
    obtain rfl := sendEther_zero hsend
    have hpassed := WETHGateway.borrowETH_passes ho hcaller.1 hcall.2 h
    exact hpassed.settled hcalls hcall.1 rfl rfl
  | batchBorrowETH amounts nftAssets nftTokenIds onBehalfOf =>
    obtain rfl := hvalue rfl
    obtain rfl := sendEther_zero hsend
    obtain ⟨n, hpassed⟩ := WETHGateway.batchBorrowETH_passes ho hcaller.1 hcall.2 h
    exact hpassed.settled hcalls hcall.1 rfl rfl
  | repayETH nftAsset nftTokenId amount =>
    obtain ⟨r, hrun, rfl⟩ := map_eq_ok.mp h
    have hpassed := (WETHGateway.repayETH_passes ho hcaller.2 hcall hsend hrun).1
    exact hpassed.settled hcalls hcaller.1 rfl rfl
  | batchRepayETH nftAssets nftTokenIds amounts =>
    obtain ⟨r, hrun, rfl⟩ := map_eq_ok.mp h
    obtain ⟨paid, hpassed⟩ := WETHGateway.batchRepayETH_passes ho hcaller.2 hcall hsend hrun
    exact hpassed.settled hcalls hcaller.1 rfl rfl
  | buyItNowETH nftAsset nftTokenId onBehalfOf =>
    exact (WETHGateway.buyItNowETH_passes ho hsend h).settled hcalls hcaller.1 rfl rfl
  | redeemETH nftAsset nftTokenId amount buyItNowFine =>
    obtain ⟨r, hrun, rfl⟩ := map_eq_ok.mp h
    have hpassed := (WETHGateway.redeemETH_passes ho hcaller.2 hcall hsend hrun).1
    exact hpassed.settled hcalls hcaller.1 rfl rfl
  | liquidateETH nftAsset nftTokenId =>
    obtain ⟨r, hrun, rfl⟩ := map_eq_ok.mp h
    have hpassed := (WETHGateway.liquidateETH_passes ho hcaller.2 hcall.1 hcall.2 hsend hrun).1
    exact hpassed.settled hcalls hcaller.1 rfl rfl

theorem PunkGatewayCall.passThrough {call : PunkGatewayCall} (ho : Orderly setup w)
    (hcalls : w.poolCalls = []) (hcaller : setup.IsOutside (.account caller))
    (hcall : call.Admissible setup w.state) (hvalue : call.payable = false → value = 0)
    (hsend : w.sendEther (.account caller) (.account setup.punkGateway) value = .ok w₁)
    (h : call.execute setup w₁ caller value = .ok w') :
    PassThrough setup w w' (GatewayCall.bearer caller (.punk call))
      (GatewayCall.bill setup w' (.punk call)) := by
  have hfree : call.payable = false → w₁ = w := by
    intro hpayable
    obtain rfl := hvalue hpayable
    exact sendEther_zero hsend
  cases call with
  | borrow reserveAsset amount punkIndex onBehalfOf =>
    obtain rfl := hfree rfl
    obtain ⟨c, htraded⟩ := PunkGateway.borrow_passes ho hcaller.1 h
    exact htraded.settled hcalls hcall rfl rfl
  | batchBorrow reserveAssets amounts punkIndexs onBehalfOf =>
    obtain rfl := hfree rfl
    obtain ⟨c, htraded⟩ := PunkGateway.batchBorrow_passes ho hcaller.1 h
    exact htraded.settled hcalls hcall rfl rfl
  | repay punkIndex amount =>
    obtain rfl := hfree rfl
    obtain ⟨r, hrun, rfl⟩ := map_eq_ok.mp h
    obtain ⟨⟨c, htraded⟩, -⟩ := PunkGateway.repayItem_passes ho hcaller.1 hcall hrun
    exact htraded.settled hcalls hcaller.1 rfl rfl
  | batchRepay punkIndexs amounts =>
    obtain rfl := hfree rfl
    obtain ⟨r, hrun, rfl⟩ := map_eq_ok.mp h
    obtain ⟨c, htraded⟩ := PunkGateway.batchRepay_passes ho hcaller.1 hcall hrun
    exact htraded.settled hcalls hcaller.1 rfl rfl
  | buyItNow punkIndex buyItNowPrice onBehalfOf =>
    obtain rfl := hfree rfl
    obtain ⟨c, htraded⟩ := PunkGateway.buyItNow_passes ho h
    exact htraded.settled hcalls hcaller.1 rfl rfl
  | redeem punkIndex amount buyItNowFine =>
    obtain rfl := hfree rfl
    obtain ⟨r, hrun, rfl⟩ := map_eq_ok.mp h
    obtain ⟨c, htraded⟩ := PunkGateway.redeem_passes ho hcall hrun
    exact htraded.settled hcalls hcaller.1 rfl rfl
  | liquidate punkIndex amount =>
    obtain rfl := hfree rfl
    obtain ⟨r, hrun, rfl⟩ := map_eq_ok.mp h
    obtain ⟨c, htraded⟩ := PunkGateway.liquidate_passes ho hcaller.1 hcall hrun
    exact htraded.settled hcalls hcaller.1 rfl rfl
  | borrowETH amount punkIndex onBehalfOf =>
    obtain rfl := hfree rfl
    have hpassed := PunkGateway.borrowETH_passes ho hcaller.1 hcall.2 h
    exact hpassed.settled hcalls hcall.1 rfl rfl
  | batchBorrowETH amounts punkIndexs onBehalfOf =>
    obtain rfl := hfree rfl
    obtain ⟨n, hpassed⟩ := PunkGateway.batchBorrowETH_passes ho hcaller.1 hcall.2 h
    exact hpassed.settled hcalls hcall.1 rfl rfl
  | repayETH punkIndex amount =>
    obtain ⟨r, hrun, rfl⟩ := map_eq_ok.mp h
    have hpassed := PunkGateway.repayETH_passes ho hcaller.2 hsend hcaller.1 hcall hrun
    exact hpassed.settled hcalls hcaller.1 rfl rfl
  | batchRepayETH punkIndexs amounts =>
    obtain ⟨r, hrun, rfl⟩ := map_eq_ok.mp h
    obtain ⟨paid, hpassed⟩ :=
      PunkGateway.batchRepayETH_passes ho hcaller.2 hsend hcaller.1 hcall hrun
    exact hpassed.settled hcalls hcaller.1 rfl rfl
  | buyItNowETH punkIndex onBehalfOf =>
    have hpassed := PunkGateway.buyItNowETH_passes ho hcaller.2 hsend h
    exact hpassed.settled hcalls hcaller.1 rfl rfl
  | redeemETH punkIndex amount buyItNowFine =>
    obtain ⟨r, hrun, rfl⟩ := map_eq_ok.mp h
    have hpassed := PunkGateway.redeemETH_passes ho hcaller.2 hsend hcall hrun
    exact hpassed.settled hcalls hcaller.1 rfl rfl
  | liquidateETH punkIndex =>
    obtain ⟨r, hrun, rfl⟩ := map_eq_ok.mp h
    have hpassed := PunkGateway.liquidateETH_passes ho hcaller.2 hsend hcaller.1 hcall hrun
    exact hpassed.settled hcalls hcaller.1 rfl rfl

/-- Whatever an admissible call does, the gateways are left with what they had, and what the
pool charged is paid for by whom the call is billed to. -/
theorem gateways_pass_through {call : GatewayCall} (hs : Reachable operations w.state)
    (h : Admissible setup w caller call) (hrun : call.run setup w caller value = .ok w') :
    PassThrough setup w w' (call.bearer caller) (call.bill setup w') := by
  obtain ⟨_, hpayable, hrun⟩ := bind_eq_ok.mp hrun
  obtain ⟨w₁, hsend, hexecute⟩ := bind_eq_ok.mp hrun
  have hvalue : call.payable = false → value = 0 := require_eq_ok.mp hpayable
  have ho : Orderly setup { w with poolCalls := [] } := ⟨hs, h.slot, h.treasury⟩
  have hthrough : PassThrough setup { w with poolCalls := [] } w' (call.bearer caller)
      (call.bill setup w') := by
    cases call with
    | weth call => exact call.passThrough ho rfl h.caller h.call hvalue hsend hexecute
    | punk call => exact call.passThrough ho rfl h.caller h.call hvalue hsend hexecute
  exact ⟨hthrough.coins, hthrough.things, hthrough.paid⟩

end Calls

/-! ### A repayment in ether -/

/-- The sample market with the gateway's allowance for the pool. -/
def sampleServed : State :=
  replayed operations sampleLent
    [.token (.approve 101 sampleMarket.asset .lendPool (10 ^ 24))]

theorem sampleServed_reachable : Reachable operations sampleServed :=
  replayed_reachable sampleLent_reachable _

/-- Account 3 has ether, and account 1 may act for others. -/
def sampleServing : World where
  state := sampleServed
  ether := fun a => if a = .account 100 then 10 ^ 30 else 10 ^ 20
  acceptsETH := fun _ => true
  punks := ⟨false, fun _ => .zero, fun _ => 0, fun _ => ⟨false, .zero, 0, .zero⟩,
    fun _ => ⟨false, .zero, 0⟩, fun _ => 0⟩
  wrapperPaused := false
  wethWhitelist := fun a => decide (a = .account 1)
  punkWhitelist := fun _ => false
  poolCalls := []

/-- Account 3 pays ten ether back for account 2, and sends fifteen. -/
def sampleRepayment : GatewayCall := .weth (.repayETH sampleMarket.nftAsset 7 (10 * 10 ^ 18))

private theorem sampleServed_treasury (asset : Address)
    (hlisted : (sampleServed.pool.reserves asset).cTokenAddress ≠ .zero) :
    ¬sampleSetup.IsGateway (sampleServed.cTokens asset).treasury := by
  have hlists := assetLists_of_reachable sampleServed_reachable
  have hmem := hlists.reserves.mem_toList.mpr hlisted
  have hlist : sampleServed.pool.reserveDirectory.toList = [sampleMarket.asset] := by
    decide +kernel
  rw [hlist, List.mem_singleton] at hmem
  rw [hmem]
  decide +kernel

/-- The ten ether are paid, and the other five are handed back. -/
theorem gateways_pass_through_repaid :
    ∃ w', sampleRepayment.run sampleSetup sampleServing 3 (15 * 10 ^ 18) = .ok w' ∧
      PassThrough sampleSetup sampleServing w' (fun _ => .account 3)
        (sampleRepayment.bill sampleSetup w') ∧
      sampleRepayment.bill sampleSetup w' .ether = 10 * 10 ^ 18 := by
  obtain ⟨w', hrun, hbill⟩ := exists_of_passes (show passes
    (sampleRepayment.run sampleSetup sampleServing 3 (15 * 10 ^ 18))
    (fun w' => decide (sampleRepayment.bill sampleSetup w' .ether = 10 * 10 ^ 18)) = true by
      decide +kernel)
  have h : Admissible sampleSetup sampleServing 3 sampleRepayment := by
    refine ⟨by decide +kernel, sampleServed_treasury, ⟨by decide, by decide⟩, fun _ => ⟨?_, ?_⟩⟩
    · decide +kernel
    · exact .inl (by decide +kernel)
  exact ⟨w', hrun, gateways_pass_through sampleServed_reachable h hrun, of_decide_eq_true hbill⟩

/-- Account 1, which may act for others, deposits ether for the other gateway. -/
def sampleGift : GatewayCall := .weth (.depositETH (.account 102))

private theorem sampleServed_buyers (nftAsset : Address) (nftTokenId : Nat) :
    ¬sampleSetup.IsGateway (sampleServed.loanOf nftAsset nftTokenId).buyItNowBuyerAddress := by
  have hb := (regular_of_reachable sampleServed_reachable).book
  have hfirst : ∀ loanId < 2,
      ¬sampleSetup.IsGateway (sampleServed.loanStore.loans loanId).buyItNowBuyerAddress := by
    decide +kernel
  apply hfirst
  by_cases hid : sampleServed.loanStore.nftToLoanIds nftAsset nftTokenId = 0
  · omega
  · have hlt := hb.lt_tracker (hb.registered_live hid)
    have htracker : sampleServed.loanStore.loanIdTracker = 2 := by decide +kernel
    omega

/-- Whoever may act for others can leave a gateway with what it did not have. -/
theorem gateway_keeps_gift :
    ¬∀ (setup : GatewaySetup) (w w' : World) (caller value : Nat) (call : GatewayCall),
      Reachable operations w.state →
      (w.state.pool.reserves setup.wethAsset).currentLiquidityRate ≠ 0 →
      (∀ nftAsset nftTokenId,
        ¬setup.IsGateway (w.state.loanOf nftAsset nftTokenId).buyItNowBuyerAddress) →
      call.run setup w caller value = .ok w' →
      ∀ g, setup.IsGateway g → w'.holdings g = w.holdings g := by
  intro hclaim
  obtain ⟨w', hrun, hgift⟩ := exists_of_passes (show passes
    (sampleGift.run sampleSetup sampleServing 1 (10 ^ 18))
    (fun w' => decide (w'.holdings (.account 102) (.cToken sampleMarket.asset) ≠
      sampleServing.holdings (.account 102) (.cToken sampleMarket.asset))) = true by
      decide +kernel)
  have hsame := hclaim sampleSetup sampleServing w' 1 (10 ^ 18) sampleGift sampleServed_reachable
    (by decide +kernel) sampleServed_buyers hrun (.account 102) sampleSetup.isGateway_punk
  exact of_decide_eq_true hgift (congrFun hsame _)

end Confetti

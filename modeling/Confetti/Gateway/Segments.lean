import Confetti.Effects.Frames
import Confetti.Gateway.Belongings
import Confetti.Gateway.Holdings
import Confetti.Invariants.AssetLists
import Confetti.Invariants.Registry

/-! A stretch of a gateway's code: what it makes everybody gain and lose, and what the
pool gives to the gateways and takes from them in it. -/
namespace Confetti
open Outcome TransitionSystem

def place (a : Address) (c : Coin → ℤ) : Sheet := Pi.single a c

/-- The conditions under which the gateways' sums come out. -/
structure Orderly (setup : GatewaySetup) (w : World) : Prop where
  reachable : Reachable operations w.state
  slot : w.state.timestamp < 2 ^ 40
  treasury : ∀ asset, (w.state.pool.reserves asset).cTokenAddress ≠ .zero →
    ¬setup.IsGateway (w.state.cTokens asset).treasury

/-- The stretch adds `δ` to what everybody but WETH owns, and in it the pool gives `γ` to
the gateways. -/
structure Segment (setup : GatewaySetup) (w w' : World) (δ γ : Sheet) : Prop where
  orderly : Orderly setup w'
  own : ∀ a, a ≠ setup.wethAsset → w'.own a = w.own a + δ a
  given : ∀ g, setup.IsGateway g → w'.given g = w.given g + γ g

/-- A stretch outside of the pool that moves coins only. -/
structure CashStep (setup : GatewaySetup) (w w' : World) (δ : Sheet) : Prop where
  segment : Segment setup w w' δ 0
  state : ∃ erc20 transfers cTokens, w'.state = { w.state with erc20, transfers, cTokens }
  punks : w'.punks = w.punks

variable {setup : GatewaySetup} {w w' w'' : World} {δ δ' γ γ' : Sheet} {a b : Address} {k : Coin}
  {v : ℤ} {c : Coin → ℤ}

@[simp] theorem place_self : place a c a = c := by
  unfold place
  rw [Pi.single_eq_same]

theorem place_of_ne (h : b ≠ a) : place a c b = 0 := by
  unfold place
  rw [Pi.single_eq_of_ne h]

@[simp] theorem place_zero : place a 0 = 0 := by
  unfold place
  rw [Pi.single_zero]

theorem place_add (c c' : Coin → ℤ) : place a (c + c') = place a c + place a c' := by
  unfold place
  rw [Pi.single_add]

namespace GatewaySetup

variable (setup)

theorem isGateway_weth : setup.IsGateway (.account setup.wethGateway) := .inl rfl

theorem isGateway_punk : setup.IsGateway (.account setup.punkGateway) := .inr rfl

theorem wethGateway_ne : Address.account setup.wethGateway ≠ setup.wethAsset := by
  have hne := (List.nodup_cons.mp setup.nodup).1
  intro h
  apply hne
  rw [← Address.account.inj h]
  simp

theorem punkGateway_ne : Address.account setup.punkGateway ≠ setup.wethAsset := by
  have hne := (List.nodup_cons.mp setup.nodup).1
  intro h
  apply hne
  rw [← Address.account.inj h]
  simp

theorem gateways_ne : Address.account setup.punkGateway ≠ .account setup.wethGateway := by
  have hne := (List.nodup_cons.mp (List.nodup_cons.mp setup.nodup).2).1
  intro h
  apply hne
  rw [← Address.account.inj h]
  simp

variable {setup}

theorem IsGateway.ne_weth (h : setup.IsGateway a) : a ≠ setup.wethAsset := by
  rcases h with rfl | rfl
  · exact setup.wethGateway_ne
  · exact setup.punkGateway_ne

end GatewaySetup

/-! ### Putting stretches together -/

theorem Orderly.of_same (h : Orderly setup w) (hstate : w'.state = w.state) :
    Orderly setup w' := by
  refine ⟨?_, ?_, ?_⟩
  · rw [hstate]
    exact h.reachable
  · rw [hstate]
    exact h.slot
  · rw [hstate]
    exact h.treasury

theorem Segment.refl (h : Orderly setup w) : Segment setup w w 0 0 := by
  refine ⟨h, fun a _ => ?_, fun g _ => ?_⟩
  · exact (add_zero _).symm
  · exact (add_zero _).symm

theorem Segment.trans (h : Segment setup w w' δ γ) (h' : Segment setup w' w'' δ' γ') :
    Segment setup w w'' (δ + δ') (γ + γ') := by
  refine ⟨h'.orderly, fun a ha => ?_, fun g hg => ?_⟩
  · rw [h'.own a ha, h.own a ha, Pi.add_apply, add_assoc]
  · rw [h'.given g hg, h.given g hg, Pi.add_apply, add_assoc]

theorem Segment.congr (h : Segment setup w w' δ γ) (hδ : δ = δ') (hγ : γ = γ') :
    Segment setup w w' δ' γ' := by
  rw [← hδ, ← hγ]
  exact h

theorem CashStep.refl (h : Orderly setup w) : CashStep setup w w 0 :=
  ⟨Segment.refl h, ⟨_, _, _, rfl⟩, rfl⟩

theorem CashStep.trans (h : CashStep setup w w' δ) (h' : CashStep setup w' w'' δ') :
    CashStep setup w w'' (δ + δ') := by
  refine ⟨(h.segment.trans h'.segment).congr rfl (add_zero _), ?_, h'.punks.trans h.punks⟩
  obtain ⟨_, _, _, hstate⟩ := h.state
  obtain ⟨erc20, transfers, cTokens, hstate'⟩ := h'.state
  refine ⟨erc20, transfers, cTokens, ?_⟩
  rw [hstate', hstate]

theorem CashStep.owner (h : CashStep setup w w' δ) : w'.owner = w.owner := by
  obtain ⟨_, _, _, hstate⟩ := h.state
  apply owner_of_same _ h.punks
  rw [hstate]

theorem CashStep.held (h : CashStep setup w w' δ) : Held setup [] w w' := Held.of_owner h.owner

theorem CashStep.orderly (h : CashStep setup w w' δ) : Orderly setup w' := h.segment.orderly

theorem CashStep.congr (h : CashStep setup w w' δ)
    (hδ : ∀ a, a ≠ setup.wethAsset → δ a = δ' a) : CashStep setup w w' δ' := by
  refine ⟨⟨h.segment.orderly, fun a ha => ?_, h.segment.given⟩, h.state, h.punks⟩
  rw [h.segment.own a ha, hδ a ha]

/-- Outside of the pool, what moves is everybody's own. -/
theorem Segment.of_moved (horderly : Orderly setup w') (hcalls : w'.poolCalls = w.poolCalls)
    (hmoved : w'.holdings = w.holdings + δ) : Segment setup w w' δ 0 := by
  have hgiven : w'.given = w.given := by
    unfold World.given
    rw [hcalls]
  refine ⟨horderly, fun a ha => ?_, fun g _ => ?_⟩
  · unfold World.own
    rw [hgiven, hmoved, Pi.sub_apply, Pi.sub_apply, Pi.add_apply]
    abel
  · rw [hgiven]
    exact (add_zero _).symm

theorem Orderly.step {operation : Operation} {s' : State} (h : Orderly setup w)
    (hrun : operation.run w.state = .ok s') (hstate : w'.state = s')
    (htime : s'.timestamp = w.state.timestamp)
    (hreserves : s'.pool.reserveDirectory = w.state.pool.reserveDirectory)
    (htreasury : ∀ asset, (s'.cTokens asset).treasury = (w.state.cTokens asset).treasury) :
    Orderly setup w' := by
  subst hstate
  have hstep : operations.step w.state operation = .ok w'.state := hrun
  refine ⟨h.reachable.step hstep, ?_, ?_⟩
  · rw [htime]
    exact h.slot
  · intro asset hlisted
    have hpresent : w'.state.pool.reserveDirectory.present asset := hlisted
    rw [hreserves] at hpresent
    rw [htreasury]
    exact h.treasury asset hpresent

theorem Orderly.of_token {call : TokenCall} (h : Orderly setup w)
    (hcall : w.call (.token call) = .ok w') : Orderly setup w' := by
  obtain ⟨s', hrun, rfl⟩ := World.call_eq_ok.mp hcall
  apply h.step hrun rfl
  · obtain ⟨_, _, _, _, rfl⟩ := TokenCall.frame hrun
    rfl
  · obtain ⟨_, _, _, _, rfl⟩ := TokenCall.frame hrun
    rfl
  · obtain ⟨_, _, _, _, rfl⟩ := TokenCall.frame hrun
    exact fun _ => rfl

/-! ### Ether and its wrapper -/

section Ether

variable {sender recipient : Address} {caller value : Nat}

theorem sendEther_holdings (h : w.sendEther sender recipient value = .ok w') :
    w'.holdings = w.holdings + (entry recipient .ether value - entry sender .ether value) := by
  obtain ⟨hle, rfl⟩ := World.sendEther_eq_ok.mp h
  unfold World.holdings
  rw [amounts_moved hle, column_add, column_sub, column_single, column_single]
  abel

theorem sendEther_step (ho : Orderly setup w)
    (h : w.sendEther sender recipient value = .ok w') :
    CashStep setup w w' (entry recipient .ether value - entry sender .ether value) := by
  have hholdings := sendEther_holdings h
  obtain ⟨-, rfl⟩ := World.sendEther_eq_ok.mp h
  exact ⟨Segment.of_moved (ho.of_same rfl) rfl hholdings, ⟨_, _, _, rfl⟩, rfl⟩

theorem tokenCall_step {call : TokenCall} {asset : Address} {ledger : ERC20}
    {transfers : List Transfer} {q : Address → ℤ} (ho : Orderly setup w)
    (h : w.call (.token call) = .ok w')
    (hstate : w'.state = { w.state with
      erc20 := Function.update w.state.erc20 asset ledger
      transfers })
    (hledger : amounts ledger.balances = amounts (w.state.erc20 asset).balances + q) :
    CashStep setup w w' (column (.token asset) q) := by
  have horderly := ho.of_token h
  have hholdings : w'.state.holdings = w.state.holdings + column (.token asset) q := by
    rw [hstate]
    exact holdings_of_token rfl rfl hledger
  obtain ⟨_, -, rfl⟩ := World.call_eq_ok.mp h
  refine ⟨Segment.of_moved horderly rfl ?_, ⟨_, _, _, hstate⟩, rfl⟩
  unfold World.holdings
  rw [add_right_comm, ← hholdings]

theorem depositWETH_step (ho : Orderly setup w)
    (h : w.depositWETH setup caller value = .ok w') :
    CashStep setup w w' (entry (.account caller) (.token setup.wethAsset) value -
      entry (.account caller) .ether value) := by
  obtain ⟨m, hsend, hmint⟩ := bind_eq_ok.mp h
  have hsent := sendEther_step ho hsend
  have hminted : CashStep setup m w'
      (column (.token setup.wethAsset) (Pi.single (.account caller) (value : ℤ))) := by
    obtain ⟨_, hrun, hw'⟩ := World.call_eq_ok.mp hmint
    obtain ⟨ledger, hledger, rfl⟩ := map_eq_ok.mp hrun
    obtain ⟨-, -, -, rfl⟩ := ERC20.mint_eq_ok.mp hledger
    apply tokenCall_step hsent.segment.orderly hmint
    · rw [hw']
      rfl
    · rw [amounts_update]
      congr 2
      push_cast
      omega
  apply (hsent.trans hminted).congr
  intro a ha
  rw [column_single, Pi.add_apply, Pi.sub_apply, Pi.sub_apply, entry_of_ne ha]
  abel

theorem withdrawWETH_step (ho : Orderly setup w)
    (h : w.withdrawWETH setup caller value = .ok w') :
    CashStep setup w w' (entry (.account caller) .ether value -
      entry (.account caller) (.token setup.wethAsset) value) := by
  obtain ⟨m, hburn, hsend⟩ := bind_eq_ok.mp h
  have hburned : CashStep setup w m
      (column (.token setup.wethAsset) (Pi.single (.account caller) (-(value : ℤ)))) := by
    obtain ⟨_, hrun, hm⟩ := World.call_eq_ok.mp hburn
    obtain ⟨ledger, hledger, rfl⟩ := map_eq_ok.mp hrun
    obtain ⟨-, hle, -, rfl⟩ := ERC20.burn_eq_ok.mp hledger
    apply tokenCall_step ho hburn
    · rw [hm]
      rfl
    · rw [amounts_update]
      congr 2
      omega
  apply (hburned.trans (sendEther_step hburned.segment.orderly hsend)).congr
  intro a ha
  rw [column_single, entry_neg, Pi.add_apply, Pi.sub_apply, Pi.sub_apply, Pi.neg_apply,
    entry_of_ne ha]
  abel

theorem safeTransferETH_step (ho : Orderly setup w) (hrecipient : recipient ≠ setup.wethAsset)
    (h : w.safeTransferETH setup caller recipient value = .ok w') :
    CashStep setup w w' (entry recipient .ether value - entry (.account caller) .ether value) := by
  obtain ⟨hle, -, rfl⟩ := (World.safeTransferETH_eq_ok hrecipient).mp h
  exact sendEther_step ho (World.sendEther_eq_ok.mpr ⟨hle, rfl⟩)

end Ether

/-! ### Tokens -/

section Tokens

variable {caller amount : Nat} {asset sender recipient : Address}

theorem column_flows (k : Coin) : column k (flows [⟨asset, sender, recipient, amount⟩]) =
    entry recipient k amount - entry sender k amount := by
  simp only [flows, List.map_cons, List.map_nil, List.sum_singleton]
  rw [column_sub, column_single, column_single]

theorem transferFrom_step (ho : Orderly setup w)
    (h : w.call (.token (.transferFrom caller asset sender recipient amount)) = .ok w') :
    CashStep setup w w'
      (entry recipient (.token asset) amount - entry sender (.token asset) amount) := by
  rw [← column_flows]
  obtain ⟨_, hrun, hw'⟩ := World.call_eq_ok.mp h
  obtain ⟨ledger, hledger, rfl⟩ := safeTransferFrom_eq_paid.mp hrun
  apply tokenCall_step ho h
  · rw [hw']
    rfl
  · exact settles_transferFrom _ _ hledger

theorem transfer_step (ho : Orderly setup w)
    (h : w.call (.token (.transfer caller asset recipient amount)) = .ok w') :
    CashStep setup w w'
      (entry recipient (.token asset) amount - entry (.account caller) (.token asset) amount) := by
  rw [← column_flows]
  obtain ⟨_, hrun, hw'⟩ := World.call_eq_ok.mp h
  obtain ⟨ledger, hledger, rfl⟩ := safeTransfer_eq_paid.mp hrun
  apply tokenCall_step ho h
  · rw [hw']
    rfl
  · exact settles_transfer _ _ hledger

theorem transferCTokenFrom_step (ho : Orderly setup w)
    (h : w.call (.user (.transferCTokenFrom caller asset sender recipient amount)) = .ok w') :
    ∃ index scaled, ReserveLogic.getNormalizedIncome (w.state.pool.reserves asset)
        w.state.timestamp = .ok index ∧ rayDiv amount index = .ok scaled ∧
      CashStep setup w w' (entry recipient (.cToken asset) scaled -
        entry sender (.cToken asset) scaled) := by
  have hwired := (regular_of_reachable ho.reachable).sound.wired
  obtain ⟨s', hrun, rfl⟩ := World.call_eq_ok.mp h
  obtain ⟨own, ledger, hown, hledger, -, -, rfl⟩ := CToken.transferFrom_eq_ok.mp hrun
  obtain rfl : asset = own :=
    (hwired.reserve asset).of_cTokenAt (State.cTokenAt_eq_ok.mpr hown)
  obtain ⟨index, scaled, hindex, hscaled, hle, hbalances, -⟩ := CToken.transferScaled_spec hledger
  refine ⟨index, scaled, hindex, hscaled, Segment.of_moved ?_ ?_ ?_, ⟨_, _, _, rfl⟩, rfl⟩
  · refine ho.step hrun rfl rfl rfl fun other => ?_
    unfold CToken.withLedger
    simp only [Function.update_apply]
    split
    · rename_i heq
      rw [heq]
    · rfl
  · rfl
  · have hledger : amounts ledger.balances = amounts (w.state.cTokens asset).ledger.balances +
        (Pi.single recipient (scaled : ℤ) - Pi.single sender (scaled : ℤ)) := by
      rw [hbalances]
      exact amounts_moved hle
    have hmoved : (CToken.withLedger w.state asset { ledger with
        allowances := ERC20.allowed ledger.allowances sender (.account caller)
          (ledger.allowances sender (.account caller) - amount) }).holdings =
        w.state.holdings + column (.cToken asset)
          (Pi.single recipient (scaled : ℤ) - Pi.single sender (scaled : ℤ)) :=
      holdings_of_cToken rfl rfl hledger
    unfold World.holdings
    rw [hmoved, column_sub, column_single, column_single]
    abel

end Tokens

end Confetti

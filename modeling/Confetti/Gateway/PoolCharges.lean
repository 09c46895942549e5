import Confetti.Effects.Positions
import Confetti.Gateway.Segments
import Confetti.Properties.Views

/-! What the pool takes from a gateway that calls it, and gives to it. -/
namespace Confetti
open Outcome TransitionSystem

/-! ### Positions -/

section Positions

variable {s s' : State} {asset user : Address} {li vi : Nat} {cTokens : Address → CToken}

theorem UserCall.treasury_eq (hw : Wired s) (hf : Filed s) {call : UserCall}
    (hpool : call.entersPool = true) (h : call.run s = .ok s') (other : Address) :
    (s'.cTokens other).treasury = (s.cTokens other).treasury := by
  obtain ⟨own, li, vi, cTokens, ha, hmove⟩ := depositors_move hw hf hpool h
  rw [← ha.treasury_eq other]
  cases hmove with
  | kept hkept => rw [hkept]
  | minted _ _ _ hminted =>
    rw [hminted, Function.update_apply]
    split
    · rename_i heq
      rw [heq]
      rfl
    · rfl
  | burned _ _ hburned =>
    rw [hburned, Function.update_apply]
    split
    · rename_i heq
      rw [heq]
      rfl
    · rfl

def UserCall.Spares (call : UserCall) (user : Address) : Prop :=
  (∀ n asset amount onBehalfOf, call = .deposit n asset amount onBehalfOf → user ≠ onBehalfOf) ∧
    ∀ n asset amount recipient, call ≠ .withdraw n asset amount recipient

theorem UserCall.Spares.balance_eq (hw : Wired s) (hf : Filed s) {call : UserCall}
    (hspares : call.Spares user) (htreasury : ∀ other,
      (s.pool.reserves other).cTokenAddress ≠ .zero → user ≠ (s.cTokens other).treasury)
    (hpool : call.entersPool = true) (h : call.run s = .ok s') (other : Address) :
    (s'.cTokens other).ledger.balances user = (s.cTokens other).ledger.balances user := by
  obtain ⟨own, li, vi, cTokens, ha, hmove⟩ := depositors_move hw hf hpool h
  rw [← ha.balance_eq (htreasury own (Address.ne_zero_of_cToken ha.listed.cToken)) other]
  cases hmove with
  | kept hkept => rw [hkept]
  | minted hcall _ _ hminted =>
    have huser := hspares.1 _ _ _ _ hcall
    rw [hminted, Function.update_apply]
    split
    · rename_i heq
      rw [heq]
      exact Function.update_of_ne huser _ _
    · rfl
  | burned hcall _ _ => exact absurd hcall (hspares.2 _ _ _ _)

end Positions

/-! ### Cash -/

section Cash

variable {s s' : State} {asset user : Address} {program : ERC20 → Except Revert ERC20}
  {events : List Transfer}

theorem Cash.holdings_gained {q : Address → ℤ} (hcash : Cash s asset program events s')
    (hsettles : Settles program events)
    (hpositions : ∀ other, ((s'.cTokens other).ledger.balances user : ℤ) =
      (s.cTokens other).ledger.balances user + if other = asset then q user else 0) :
    s'.holdings user = s.holdings user + column (.token asset) (flows events) user +
      column (.cToken asset) q user := by
  obtain ⟨token, htoken, herc20⟩ := hcash.ledger
  funext k
  cases k with
  | ether => simp [State.holdings, column]
  | cToken other =>
    have hcoin : (Coin.cToken other = .cToken asset) ↔ other = asset := by simp
    simp [State.holdings, column, hpositions, Pi.single_apply, hcoin]
  | token other =>
    simp only [State.holdings, column, Pi.add_apply, herc20]
    have hne : Coin.token other ≠ .cToken asset := by simp
    rw [Pi.single_eq_of_ne hne, add_zero]
    by_cases hother : other = asset
    · subst hother
      rw [Function.update_self, Pi.single_eq_same]
      exact congrFun (hsettles _ _ htoken) user
    · rw [Function.update_of_ne hother, Pi.single_eq_of_ne (fun h => hother (Coin.token.inj h)),
        add_zero]

theorem Cash.holdings_eq (hcash : Cash s asset program events s')
    (hsettles : Settles program events)
    (hpositions : ∀ other, (s'.cTokens other).ledger.balances user =
      (s.cTokens other).ledger.balances user) :
    s'.holdings user = s.holdings user + column (.token asset) (flows events) user := by
  have hgained := hcash.holdings_gained (q := 0) hsettles fun other => by
    rw [hpositions other]
    simp
  rw [hgained]
  funext k
  simp [column]

theorem withdraw_cash {p : ExecuteWithdrawParams} {balance amount li vi scaled lr vr : Nat}
    {cTokens : Address → CToken} {token : ERC20}
    (h : Withdrawal s p balance amount li vi cTokens scaled lr vr token) :
    Cash s p.asset (fun token => ERC20.transfer p.asset token (.cToken p.asset) p.recipient amount)
      [⟨p.asset, .cToken p.asset, p.recipient, amount⟩]
      (afterWithdrawal s p amount li vi cTokens scaled lr vr token) :=
  ⟨⟨token, h.paid, rfl⟩, rfl⟩

theorem positions_withdrawn {initiator : Address} {scaled : Nat} {cTokens : Address → CToken}
    (hsame : ∀ other, (cTokens other).ledger.balances user =
      (s.cTokens other).ledger.balances user)
    (hle : scaled ≤ (cTokens asset).ledger.balances initiator) (other : Address) :
    (((Function.update cTokens asset ((cTokens asset).debited initiator scaled)
        other).ledger.balances user : Nat) : ℤ) = (s.cTokens other).ledger.balances user +
      if other = asset then (Pi.single initiator (-(scaled : ℤ)) : Address → ℤ) user else 0 := by
  rw [← hsame other]
  by_cases hother : other = asset
  · subst hother
    rw [Function.update_self, if_pos rfl, Pi.single_apply]
    by_cases huser : user = initiator
    · subst huser
      simp only [CToken.debited, Function.update_self, if_pos]
      omega
    · simp [CToken.debited, huser]
  · rw [Function.update_of_ne hother, if_neg hother, add_zero]

theorem column_flows_cons (k : Coin) (e : Transfer) :
    column k (flows (e :: events)) =
      (entry e.recipient k e.amount - entry e.sender k e.amount) + column k (flows events) := by
  have hflows : flows (e :: events) = flows [e] + flows events := flows_append [e] events
  rw [hflows, column_add]
  congr 1
  exact column_flows k

theorem column_flows_nil (k : Coin) : column k (flows []) = 0 := by
  funext a
  simp [flows, column]

theorem column_flows_positive (k : Coin) {sender recipient : Address} {amount : Nat} :
    column k (flows (if amount > 0 then [⟨asset, sender, recipient, amount⟩] else [])) =
      entry recipient k amount - entry sender k amount := by
  by_cases hpos : amount > 0
  · rw [if_pos hpos, column_flows]
  · obtain rfl : amount = 0 := by omega
    rw [if_neg hpos, column_flows_nil]
    simp

end Cash

/-! ### The calls -/

section Calls

variable {setup : GatewaySetup} {w w' : World} {s' : State} {call : UserCall} {γ : Sheet}
  {n amount nftTokenId : Nat} {asset nftAsset onBehalfOf : Address}

theorem Orderly.treasury_ne (ho : Orderly setup w) {g : Address} (hg : setup.IsGateway g)
    (other : Address) (hlisted : (w.state.pool.reserves other).cTokenAddress ≠ .zero) :
    g ≠ (w.state.cTokens other).treasury := by
  rintro rfl
  exact ho.treasury other hlisted hg

theorem called_segment (ho : Orderly setup w) (hpool : call.entersPool = true)
    (hrun : call.run w.state = .ok s')
    (hgift : ∀ g, setup.IsGateway g → s'.holdings g = w.state.holdings g + γ g) :
    Segment setup w (w.called call s') 0 γ := by
  have hreg := regular_of_reachable ho.reachable
  refine ⟨?_, fun a _ => ?_, fun g hg => ?_⟩
  · have hstep : Operation.run w.state (.user call) = .ok s' := hrun
    have htreasury := UserCall.treasury_eq hreg.sound.wired hreg.book.toFiled hpool hrun
    rcases UserCall.cases hreg.sound.wired hreg.book.toFiled hrun with haction | haside
    · obtain ⟨_, _, _, _, _, hsettled⟩ := haction.settled
      refine ho.step hstep rfl hsettled.step.world.timestamp ?_ htreasury
      obtain ⟨_, _, hreserves⟩ := hsettled.step.pool
      rw [hreserves]
      exact reserveDirectory_setReserve rfl rfl
    · rw [hpool] at haside
      cases haside.1
  · rw [own_called]
    exact (add_zero _).symm
  · rw [given_called, Pi.add_apply, Pi.sub_apply, hgift g hg]
    abel

theorem charged_segment {program : ERC20 → Except Revert ERC20} {events : List Transfer}
    (ho : Orderly setup w) (hpool : call.entersPool = true) (hrun : call.run w.state = .ok s')
    (hspares : ∀ g, setup.IsGateway g → call.Spares g)
    (hcash : Cash w.state asset program events s') (hsettles : Settles program events)
    (hγ : ∀ g, setup.IsGateway g → column (.token asset) (flows events) g = γ g) :
    Segment setup w (w.called call s') 0 γ := by
  have hreg := regular_of_reachable ho.reachable
  apply called_segment ho hpool hrun
  intro g hg
  rw [hcash.holdings_eq hsettles, hγ g hg]
  exact (hspares g hg).balance_eq hreg.sound.wired hreg.book.toFiled (ho.treasury_ne hg) hpool hrun

theorem IsGateway.ne_cToken {g : Address} (hg : setup.IsGateway g) (other : Address) :
    g ≠ .cToken other := by
  rcases hg with rfl | rfl <;> exact fun h => by cases h

theorem IsGateway.ne_lendPool {g : Address} (hg : setup.IsGateway g) : g ≠ .lendPool := by
  rcases hg with rfl | rfl <;> exact fun h => by cases h

theorem Orderly.in_custody (ho : Orderly setup w)
    (hid : w.state.loanStore.nftToLoanIds nftAsset nftTokenId ≠ 0) :
    w.owner (.nft nftAsset nftTokenId) = .cNFT nftAsset := by
  have hb := (regular_of_reachable ho.reachable).book
  have hcustody := hb.custody _ (hb.registered_live hid)
  obtain ⟨hasset, htoken⟩ := hb.toFiled nftAsset nftTokenId hid
  have howner := hcustody.owner
  unfold State.loanOf at hasset htoken
  rw [hasset, htoken] at howner
  exact howner

theorem IsGateway.ne_cNFT {g : Address} (hg : setup.IsGateway g) (other : Address) :
    g ≠ .cNFT other := by
  rcases hg with rfl | rfl <;> exact fun h => by cases h

theorem not_gateway_cNFT (setup : GatewaySetup) (other : Address) :
    ¬setup.IsGateway (.cNFT other) := fun hg => IsGateway.ne_cNFT hg other rfl

theorem called_held (h : s'.erc721 = w.state.erc721) : Held setup [] w (w.called call s') :=
  Held.of_owner (owner_of_same h rfl)

theorem LoanClosed.held {loanId : Nat} {ended : LoanData} {receiver : Address}
    (h : LoanClosed w.state loanId ended receiver s') (hreceiver : ¬setup.IsGateway receiver) :
    Held setup [] w (w.called call s') := by
  have howner : (w.called call s').owner =
      Function.update w.owner (.nft ended.nftAsset ended.nftTokenId) receiver :=
    owner_of_given h.erc721 rfl rfl
  apply Held.handed _ hreceiver howner
  rw [owner_nft, h.releasable.2.2.2.2]
  exact not_gateway_cNFT setup _

theorem deposit_segment (ho : Orderly setup w) (honBehalfOf : ¬setup.IsGateway onBehalfOf)
    (h : w.callPool (.deposit n asset amount onBehalfOf) = .ok w') :
    Segment setup w w' 0 (-entry (.account n) (.token asset) amount) ∧ Held setup [] w w' := by
  obtain ⟨s', hrun, rfl⟩ := World.callPool_eq_ok.mp h
  have hwired := (regular_of_reachable ho.reachable).sound.wired
  obtain ⟨_, _, heffect⟩ := deposit_effect hwired (LendPool.of_whenNotPaused hrun)
  refine ⟨?_, called_held heffect.book.erc721⟩
  refine charged_segment ho rfl hrun ?_ heffect.cash settles_transferFrom fun g hg => ?_
  · intro g hg
    refine ⟨?_, nofun⟩
    intro _ _ _ _ hcall
    cases hcall
    rintro rfl
    exact honBehalfOf hg
  · rw [column_flows, Pi.sub_apply, Pi.neg_apply, entry_of_ne (IsGateway.ne_cToken hg _)]
    exact zero_sub _

theorem borrow_segment (ho : Orderly setup w)
    (h : w.callPool (.borrow n asset amount nftAsset nftTokenId onBehalfOf) = .ok w') :
    Segment setup w w' 0 (entry (.account n) (.token asset) amount) ∧
      w'.owner = Function.update w.owner (.nft nftAsset nftTokenId) (.cNFT nftAsset) := by
  obtain ⟨s', hrun, rfl⟩ := World.callPool_eq_ok.mp h
  have hwired := (regular_of_reachable ho.reachable).sound.wired
  obtain ⟨_, _, _, heffect⟩ := borrow_effect hwired (LendPool.of_whenNotPaused hrun)
  refine ⟨?_, ?_⟩
  swap
  · rcases heffect.book with hopened | htopped
    · exact owner_of_given hopened.erc721 rfl rfl
    · have hsame : (w.called (.borrow n asset amount nftAsset nftTokenId onBehalfOf) s').owner =
          w.owner := owner_of_same htopped.replaced.erc721 rfl
      rw [hsame, ← ho.in_custody htopped.registered, Function.update_eq_self]
  refine charged_segment ho rfl hrun ?_ heffect.cash settles_transfer fun g hg => ?_
  · exact fun g _ => ⟨nofun, nofun⟩
  · rw [column_flows, Pi.sub_apply, entry_of_ne (IsGateway.ne_cToken hg _)]
    exact sub_zero _

theorem buyItNow_segment (ho : Orderly setup w)
    (h : w.callPool (.buyItNow n nftAsset nftTokenId amount onBehalfOf) = .ok w') :
    Segment setup w w' 0 (-entry (.account n)
      (.token (w.state.loanOf nftAsset nftTokenId).reserveAsset) amount) ∧
        Held setup [] w w' := by
  obtain ⟨s', hrun, rfl⟩ := World.callPool_eq_ok.mp h
  have hwired := (regular_of_reachable ho.reachable).sound.wired
  obtain ⟨_, _, _, _, _, heffect⟩ := buyItNow_effect hwired (LendPool.of_whenNotPaused hrun)
  refine ⟨?_, called_held heffect.replaced.erc721⟩
  refine charged_segment ho rfl hrun ?_ heffect.cash settles_transferFrom fun g hg => ?_
  · exact fun g _ => ⟨nofun, nofun⟩
  · rw [column_flows, Pi.sub_apply, Pi.neg_apply, entry_of_ne (IsGateway.ne_lendPool hg)]
    exact zero_sub _

theorem withdraw_segment (ho : Orderly setup w) (hamount : amount ≠ Uint256.max)
    (h : w.callPool (.withdraw n asset amount (.account n)) = .ok w') :
    ∃ li scaled, ReserveLogic.updatedLiquidityIndex (w.state.pool.reserves asset)
        w.state.timestamp = .ok li ∧ rayDiv amount li = .ok scaled ∧
      Segment setup w w' 0 (entry (.account n) (.token asset) amount -
        entry (.account n) (.cToken asset) scaled) ∧ Held setup [] w w' := by
  obtain ⟨s', hrun, rfl⟩ := World.callPool_eq_ok.mp h
  have hwired := (regular_of_reachable ho.reachable).sound.wired
  obtain ⟨⟨_, withdrawn⟩, hwithdraw, rfl⟩ := map_eq_ok.mp hrun
  obtain ⟨balance, li, vi, cTokens, scaled, lr, vr, token, hwithdrawal, rfl⟩ :=
    (executeWithdraw_eq_ok hwired).mp (LendPool.of_whenNotPaused hwithdraw)
  obtain rfl : withdrawn = amount := hwithdrawal.amount_eq.trans (if_neg hamount)
  refine ⟨li, scaled, hwithdrawal.accrual.liquidityIndex, hwithdrawal.scaled_eq,
    called_segment ho rfl hrun fun g hg => ?_, called_held rfl⟩
  have hlisted := Address.ne_zero_of_cToken hwithdrawal.accrual.listed.cToken
  have hburned := hwithdrawal.burned.2.1
  have hcash := (withdraw_cash hwithdrawal).holdings_gained settles_transfer
    (positions_withdrawn (hwithdrawal.accrual.balance_eq
      (ho.treasury_ne hg _ hlisted)) hburned)
  rw [hcash, column_flows, column_single]
  simp only [Pi.sub_apply, entry_of_ne (IsGateway.ne_cToken hg _), entry_neg, Pi.neg_apply]
  abel

theorem repay_segment {paid : Nat} {closed : Bool} (ho : Orderly setup w)
    (h : w.repay n nftAsset nftTokenId amount = .ok (w', paid, closed)) :
    ∃ s' li vi debt scaled,
      RepayEffect w.state ⟨.account n, nftAsset, nftTokenId, amount⟩
        (w.state.loanOf nftAsset nftTokenId) s' li vi debt paid scaled ∧
      closed = decide (debt ≤ amount) ∧ w' = w.called (.repay n nftAsset nftTokenId amount) s' ∧
      Segment setup w w' 0 (-entry (.account n)
        (.token (w.state.loanOf nftAsset nftTokenId).reserveAsset) paid) ∧
      (¬setup.IsGateway (w.state.loanOf nftAsset nftTokenId).borrower → Held setup [] w w') := by
  obtain ⟨⟨s', r⟩, hrepay, heq⟩ := bind_pure_eq_ok.mp h
  cases heq
  have hreg := regular_of_reachable ho.reachable
  have hrun : (UserCall.repay n nftAsset nftTokenId amount).run w.state = .ok s' :=
    map_eq_ok.mpr ⟨_, hrepay, rfl⟩
  obtain ⟨li, vi, debt, scaled, heffect, hclosed⟩ :=
    repay_effect hreg.sound.wired hreg.book.toFiled (LendPool.of_whenNotPaused hrepay)
  refine ⟨s', li, vi, debt, scaled, heffect, hclosed, rfl, ?_, fun hborrower => ?_⟩
  · refine charged_segment ho rfl hrun ?_ heffect.cash settles_transferFrom fun g hg => ?_
    · exact fun g _ => ⟨nofun, nofun⟩
    · rw [column_flows, Pi.sub_apply, Pi.neg_apply, entry_of_ne (IsGateway.ne_cToken hg _)]
      exact zero_sub _
  · rcases heffect.book with ⟨-, -, hpartly⟩ | ⟨-, hended⟩
    · exact called_held hpartly.erc721
    · exact hended.held hborrower

theorem redeem_segment {buyItNowFine paid : Nat} (ho : Orderly setup w)
    (hbuyer : ¬setup.IsGateway (w.state.loanOf nftAsset nftTokenId).buyItNowBuyerAddress)
    (h : w.redeem n nftAsset nftTokenId amount buyItNowFine = .ok (w', paid)) :
    paid ≤ amount + buyItNowFine ∧
      Segment setup w w' 0 (-entry (.account n)
        (.token (w.state.loanOf nftAsset nftTokenId).reserveAsset) paid) ∧
      Held setup [] w w' := by
  obtain ⟨⟨s', r⟩, hredeem, heq⟩ := bind_pure_eq_ok.mp h
  cases heq
  have hreg := regular_of_reachable ho.reachable
  have hrun : (UserCall.redeem n nftAsset nftTokenId amount buyItNowFine).run w.state = .ok s' :=
    map_eq_ok.mpr ⟨_, hredeem, rfl⟩
  obtain ⟨li, vi, cTokens, debt, fine, scaled, lr, vr, token, hredemption, rfl, rfl⟩ :=
    (executeRedeem_eq_ok hreg.sound.wired).mp (LendPool.of_whenNotPaused hredeem)
  have hfine : fine ≤ buyItNowFine := by
    have hcheck := hredemption.check
    simp only [LiquidateLogic.checkRedeem, bind_eq_ok, require_eq_ok, exists_const] at hcheck
    exact hcheck.1
  refine ⟨Nat.add_le_add_left hfine _, ?_, called_held rfl⟩
  refine charged_segment ho rfl hrun ?_ hredemption.cash ?_ fun g hg => ?_
  · exact fun g _ => ⟨nofun, nofun⟩
  · exact settles_transferFrom.bind (settles_transfer.bind settles_transferFrom)
  · have hne : g ≠ (w.state.loanOf nftAsset nftTokenId).buyItNowBuyerAddress := by
      rintro rfl
      exact hbuyer hg
    unfold redemptionEvents
    rw [column_flows_cons, column_flows_cons, column_flows_cons, column_flows_nil]
    simp only [Pi.add_apply, Pi.sub_apply, Pi.neg_apply, Pi.zero_apply, entry_of_ne hne,
      entry_of_ne (IsGateway.ne_cToken hg _), entry_of_ne (IsGateway.ne_lendPool hg), Nat.cast_add,
      entry_add]
    abel

theorem liquidate_segment {paid : Nat} (ho : Orderly setup w)
    (hborrower : ¬setup.IsGateway (w.state.loanOf nftAsset nftTokenId).borrower)
    (hbuyer : ¬setup.IsGateway (w.state.loanOf nftAsset nftTokenId).buyItNowBuyerAddress)
    (h : w.liquidate n nftAsset nftTokenId amount = .ok (w', paid)) :
    paid ≤ amount ∧
      Segment setup w w' 0 (-entry (.account n)
        (.token (w.state.loanOf nftAsset nftTokenId).reserveAsset) paid) ∧
      Held setup [] w w' := by
  obtain ⟨⟨s', r⟩, hliquidate, heq⟩ := bind_pure_eq_ok.mp h
  cases heq
  have hreg := regular_of_reachable ho.reachable
  have hrun : (UserCall.liquidate n nftAsset nftTokenId amount).run w.state = .ok s' :=
    map_eq_ok.mpr ⟨_, hliquidate, rfl⟩
  obtain ⟨li, vi, cTokens, debt, scaled, lr, vr, token, hliquidation, rfl, rfl⟩ :=
    (executeLiquidate_eq_ok hreg.sound.wired hreg.book.toFiled).mp
      (LendPool.of_whenNotPaused hliquidate)
  have hextra := hliquidation.extra
  refine ⟨?_, ?_, hliquidation.closed.held hbuyer⟩
  · change _ → _ ≤ amount at hextra
    omega
  · refine charged_segment ho rfl hrun ?_ hliquidation.cash ?_ fun g hg => ?_
    · exact fun g _ => ⟨nofun, nofun⟩
    · exact settles_transferFrom.ite.bind (settles_transfer.bind settles_transfer.ite)
    · have hne : g ≠ (w.state.loanOf nftAsset nftTokenId).borrower := by
        rintro rfl
        exact hborrower hg
      unfold liquidationEvents
      rw [flows_append, flows_append, column_add, column_add, column_flows_positive,
        column_flows_positive, column_flows]
      simp only [Pi.add_apply, Pi.sub_apply, Pi.neg_apply, entry_of_ne hne,
        entry_of_ne (IsGateway.ne_cToken hg _), entry_of_ne (IsGateway.ne_lendPool hg)]
      abel

end Calls

/-! ### Loans that are repaid through a gateway -/

section Repayable

variable {setup : GatewaySetup} {w w' : World} {s s' : State} {δ : Sheet}
  {nftAsset other : Address} {nftTokenId otherId amount li vi debt paid scaled : Nat}

/-- The loan's NFT goes to no gateway, and the view shows what the loan costs. -/
def Repayable (setup : GatewaySetup) (s : State) (nftAsset : Address) (nftTokenId : Nat) : Prop :=
  s.loanStore.nftToLoanIds nftAsset nftTokenId ≠ 0 →
    ¬setup.IsGateway (s.loanOf nftAsset nftTokenId).borrower ∧
      Accruing (s.pool.reserves (s.loanOf nftAsset nftTokenId).reserveAsset) s.timestamp

theorem CashStep.repayable (h : CashStep setup w w' δ) :
    Repayable setup w'.state nftAsset nftTokenId ↔ Repayable setup w.state nftAsset nftTokenId := by
  obtain ⟨_, _, _, hstate⟩ := h.state
  rw [hstate]
  rfl

theorem CashStep.loanOf (h : CashStep setup w w' δ) :
    w'.state.loanOf nftAsset nftTokenId = w.state.loanOf nftAsset nftTokenId := by
  obtain ⟨_, _, _, hstate⟩ := h.state
  rw [hstate]
  rfl

theorem CashStep.borrowAmount (h : CashStep setup w w' δ) (loanId : Nat) :
    LendPoolLoan.getLoanReserveBorrowAmount w'.state loanId =
      LendPoolLoan.getLoanReserveBorrowAmount w.state loanId := by
  obtain ⟨_, _, _, hstate⟩ := h.state
  rw [hstate]
  rfl

theorem RepayEffect.same_terms {p : ExecuteRepayParams}
    (h : RepayEffect s p (s.loanOf p.nftAsset p.nftTokenId) s' li vi debt paid scaled)
    (hid : s'.loanStore.nftToLoanIds other otherId ≠ 0) :
    s.loanStore.nftToLoanIds other otherId ≠ 0 ∧
      (s'.loanOf other otherId).borrower = (s.loanOf other otherId).borrower ∧
        (s'.loanOf other otherId).reserveAsset = (s.loanOf other otherId).reserveAsset := by
  have hwritten : ∀ loan : LoanData,
      loan.borrower = (s.loanOf p.nftAsset p.nftTokenId).borrower →
      loan.reserveAsset = (s.loanOf p.nftAsset p.nftTokenId).reserveAsset → ∀ loanId,
        (Function.update s.loanStore.loans (s.loanStore.nftToLoanIds p.nftAsset p.nftTokenId) loan
            loanId).borrower = (s.loanStore.loans loanId).borrower ∧
          (Function.update s.loanStore.loans (s.loanStore.nftToLoanIds p.nftAsset p.nftTokenId) loan
            loanId).reserveAsset = (s.loanStore.loans loanId).reserveAsset := by
    intro loan hborrower hreserve loanId
    rw [Function.update_apply]
    split
    · rename_i heq
      rw [heq]
      exact ⟨hborrower, hreserve⟩
    · exact ⟨rfl, rfl⟩
  rcases h.book with ⟨-, -, hpartly⟩ | ⟨-, hended⟩
  · unfold State.loanOf
    rw [hpartly.loanStore] at hid ⊢
    rw [LoanStore.withLoan_nftToLoanIds] at hid ⊢
    rw [LoanStore.withLoan_loans]
    refine ⟨hid, hwritten _ ?_ ?_ _⟩
    · rfl
    · rfl
  · unfold State.loanOf
    rw [hended.loanStore] at hid ⊢
    rw [LoanStore.closed_nftToLoanIds] at hid ⊢
    rw [LoanStore.closed_loans]
    split at hid
    · exact absurd rfl hid
    · rename_i hother
      rw [if_neg hother]
      refine ⟨hid, hwritten _ ?_ ?_ _⟩
      · rfl
      · rfl

theorem PoolStep.accruing {asset : Address} (h : PoolStep s asset li vi s')
    (hbefore : Accruing (s.pool.reserves other) s.timestamp) :
    Accruing (s'.pool.reserves other) s'.timestamp := by
  obtain ⟨_, _, hpool⟩ := h.pool
  rw [hpool, h.world.timestamp, LendPoolStorage.setReserve_reserves, Function.update_apply]
  split
  · exact .inr rfl
  · exact hbefore

theorem RepayEffect.repayable {p : ExecuteRepayParams}
    (h : RepayEffect s p (s.loanOf p.nftAsset p.nftTokenId) s' li vi debt paid scaled)
    (hbefore : Repayable setup s other otherId) : Repayable setup s' other otherId := by
  intro hid
  obtain ⟨hid, hborrower, hreserve⟩ := h.same_terms hid
  obtain ⟨hnot, haccruing⟩ := hbefore hid
  rw [hborrower, hreserve]
  exact ⟨hnot, h.step.accruing haccruing⟩

theorem RepayEffect.shown_eq {p : ExecuteRepayParams} {shown : Address × Nat}
    (ho : Orderly setup w) (hrepayable : Repayable setup w.state p.nftAsset p.nftTokenId)
    (h : RepayEffect w.state p (w.state.loanOf p.nftAsset p.nftTokenId) s' li vi debt paid scaled)
    (hshown : LendPoolLoan.getLoanReserveBorrowAmount w.state
      (w.state.loanStore.nftToLoanIds p.nftAsset p.nftTokenId) = .ok shown) :
    shown.2 = debt := by
  obtain ⟨cTokens, ha⟩ := h.step.accrual
  have hsame := borrowAmount_shown ho.reachable ho.slot h.registered rfl
    (hrepayable h.registered).2 ha
  rw [borrowAmount_accrued _ rfl, h.debt_eq] at hsame
  have hview := (LendPoolLoan.getLoanReserveBorrowAmount_eq_ok.mp hshown).2
  exact Except.ok.inj (hview.symm.trans hsame.symm)

end Repayable

end Confetti

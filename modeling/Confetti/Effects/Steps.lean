import Confetti.Effects.Borrowing
import Confetti.Effects.Outside
import Confetti.Effects.Selling
import Confetti.Effects.Supplying

/-! Every accepted operation is an action of the pool with a known effect, or keeps
everything the pool relies on. -/
namespace Confetti
open Outcome TransitionSystem

def UserCall.entersPool : UserCall → Bool
  | .deposit .. | .withdraw .. | .borrow .. | .repay .. => true
  | .buyItNow .. | .redeem .. | .liquidate .. => true
  | _ => false

def Operation.entersPool : Operation → Bool
  | .user call => call.entersPool
  | _ => false

def UserCall.ofBorrow (caller : Nat) (p : ExecuteBorrowParams) : UserCall :=
  .borrow caller p.asset p.amount p.nftAsset p.nftTokenId p.onBehalfOf

def UserCall.ofRepay (caller : Nat) (p : ExecuteRepayParams) : UserCall :=
  .repay caller p.nftAsset p.nftTokenId p.amount

def UserCall.ofBuyItNow (caller : Nat) (p : ExecuteBuyItNowParams) : UserCall :=
  .buyItNow caller p.nftAsset p.nftTokenId p.buyItNowPrice p.onBehalfOf

def UserCall.ofRedeem (caller : Nat) (p : ExecuteRedeemParams) : UserCall :=
  .redeem caller p.nftAsset p.nftTokenId p.amount p.buyItNowFine

def UserCall.ofLiquidate (caller : Nat) (p : ExecuteLiquidateParams) : UserCall :=
  .liquidate caller p.nftAsset p.nftTokenId p.amount

/-- The seven actions of the pool; whoever calls is an account. -/
inductive PoolAction (s : State) (operation : Operation) (s' : State) : Prop
  | deposit {asset onBehalfOf : Address} {n amount li vi : Nat}
      (hcall : operation = .user (.deposit n asset amount onBehalfOf))
      (h : SupplyEffect s asset li vi
        (fun token => ERC20.transferFrom asset token .lendPool (.account n) (.cToken asset) amount)
        [⟨asset, .account n, .cToken asset, amount⟩] s')
  | withdraw {asset recipient : Address} {n amount withdrawn li vi : Nat}
      (hcall : operation = .user (.withdraw n asset amount recipient))
      (h : SupplyEffect s asset li vi
        (fun token => ERC20.transfer asset token (.cToken asset) recipient withdrawn)
        [⟨asset, .cToken asset, recipient, withdrawn⟩] s')
  | borrow {p : ExecuteBorrowParams} {n li vi scaled : Nat}
      (hcall : operation = .user (.ofBorrow n p)) (hn : p.initiator = .account n)
      (h : BorrowEffect s p s' li vi scaled)
  | repay {p : ExecuteRepayParams} {n li vi debt paid scaled : Nat}
      (hcall : operation = .user (.ofRepay n p)) (hn : p.initiator = .account n)
      (h : RepayEffect s p (s.loanOf p.nftAsset p.nftTokenId) s' li vi debt paid scaled)
  | buyItNow {p : ExecuteBuyItNowParams} {n li vi debt threshold liquidate : Nat}
      (hcall : operation = .user (.ofBuyItNow n p)) (hn : p.initiator = .account n)
      (h : BuyItNowEffect s p (s.loanOf p.nftAsset p.nftTokenId) s' li vi debt threshold liquidate)
  | redeem {p : ExecuteRedeemParams} {n li vi debt fine scaled lr vr : Nat}
      {cTokens : Address → CToken} {token : ERC20}
      (hcall : operation = .user (.ofRedeem n p)) (hn : p.initiator = .account n)
      (h : Redemption s p (s.loanOf p.nftAsset p.nftTokenId) li vi cTokens debt fine scaled lr vr
        token)
      (hs : s' = afterRedemption s p (s.loanOf p.nftAsset p.nftTokenId) li vi cTokens fine scaled lr
        vr token)
  | liquidate {p : ExecuteLiquidateParams} {n li vi debt scaled lr vr : Nat}
      {cTokens : Address → CToken} {token : ERC20}
      (hcall : operation = .user (.ofLiquidate n p)) (hn : p.initiator = .account n)
      (h : Liquidation s p (s.loanOf p.nftAsset p.nftTokenId) li vi cTokens debt scaled lr vr token)
      (hs : s' = afterLiquidation s p (s.loanOf p.nftAsset p.nftTokenId) li vi cTokens debt scaled lr
        vr token)

variable {s s' : State} {operation : Operation}

theorem LendPool.of_whenNotPaused {α : Type} {program : Except Revert α} {a : α}
    (h : (LendPool.whenNotPaused s >>= fun _ => program) = .ok a) : program = .ok a := by
  obtain ⟨_, -, h⟩ := bind_eq_ok.mp h
  exact h

theorem UserCall.cases (hw : Wired s) (hf : Filed s) {call : UserCall}
    (h : call.run s = .ok s') :
    PoolAction s (.user call) s' ∨ (call.entersPool = false ∧ Kept s s') := by
  have haside : ∀ cTokens', s' = { s with cTokens := cTokens' } → Kept s s' := by
    rintro _ rfl
    exact Kept.of_same_tokens rfl (fun _ => rfl) (fun _ h => h)
      (fun hw => ⟨hw.reserve, hw.nft, hw.proxy⟩) rfl rfl rfl
  cases call with
  | deposit caller asset amount onBehalfOf =>
    obtain ⟨_, _, h⟩ := deposit_effect hw (LendPool.of_whenNotPaused h)
    exact .inl (.deposit rfl h)
  | withdraw caller asset amount recipient =>
    obtain ⟨⟨_, _⟩, h, rfl⟩ := map_eq_ok.mp h
    obtain ⟨_, _, h⟩ := withdraw_effect hw (LendPool.of_whenNotPaused h)
    exact .inl (.withdraw rfl h)
  | borrow caller asset amount nftAsset nftTokenId onBehalfOf =>
    obtain ⟨_, _, _, h⟩ := borrow_effect hw (LendPool.of_whenNotPaused h)
    exact .inl (.borrow rfl rfl h)
  | repay caller nftAsset nftTokenId amount =>
    obtain ⟨⟨_, _, _⟩, h, rfl⟩ := map_eq_ok.mp h
    obtain ⟨_, _, _, _, h, -⟩ := repay_effect hw hf (LendPool.of_whenNotPaused h)
    exact .inl (.repay rfl rfl h)
  | buyItNow caller nftAsset nftTokenId buyItNowPrice onBehalfOf =>
    obtain ⟨_, _, _, _, _, h⟩ := buyItNow_effect hw (LendPool.of_whenNotPaused h)
    exact .inl (.buyItNow rfl rfl h)
  | redeem caller nftAsset nftTokenId amount buyItNowFine =>
    obtain ⟨⟨_, _⟩, h, rfl⟩ := map_eq_ok.mp h
    obtain ⟨_, _, _, _, _, _, _, _, _, h, hs, -⟩ :=
      (executeRedeem_eq_ok hw).mp (LendPool.of_whenNotPaused h)
    exact .inl (.redeem rfl rfl h hs)
  | liquidate caller nftAsset nftTokenId amount =>
    obtain ⟨⟨_, _⟩, h, rfl⟩ := map_eq_ok.mp h
    obtain ⟨_, _, _, _, _, _, _, _, h, hs, -⟩ :=
      (executeLiquidate_eq_ok hw hf).mp (LendPool.of_whenNotPaused h)
    exact .inl (.liquidate rfl rfl h hs)
  | transferCToken caller asset recipient amount =>
    obtain ⟨_, hs⟩ := CToken.transfer_frame h
    exact .inr ⟨rfl, haside _ hs⟩
  | transferCTokenFrom caller asset sender recipient amount =>
    obtain ⟨_, hs⟩ := CToken.transferFrom_frame h
    exact .inr ⟨rfl, haside _ hs⟩
  | approveCToken caller asset spender amount =>
    obtain ⟨_, hs⟩ := CToken.approve_frame h
    exact .inr ⟨rfl, haside _ hs⟩
  | approveDelegation caller asset delegatee amount =>
    obtain ⟨_, hdebt, rfl⟩ := bind_pure_eq_ok.mp h
    obtain ⟨debtAsset, -, rfl⟩ := DebtToken.approveDelegation_eq_ok.mp hdebt
    refine .inr ⟨rfl, Kept.of_same_tokens rfl ?_ (fun _ h => h)
      (fun hw => ⟨hw.reserve, hw.nft, hw.proxy⟩) rfl rfl rfl⟩
    intro other
    by_cases hother : other = debtAsset
    · subst hother
      simp
    · simp [hother]
  | createCNFT nftAsset =>
    obtain rfl := CNFTRegistry.createCNFT_spec h
    refine .inr ⟨rfl, Kept.of_same_tokens rfl (fun _ => rfl) (fun _ h => h) ?_ rfl rfl rfl⟩
    intro hw
    refine ⟨hw.reserve, hw.nft, ?_⟩
    intro other
    by_cases hother : other = nftAsset
    · subst hother
      exact .inr (Function.update_self other (Address.cNFT other) s.cNFTProxys)
    · simpa [hother] using hw.proxy other

theorem Operation.cases (hw : Wired s) (hf : Filed s) (h : operation.run s = .ok s') :
    PoolAction s operation s' ∨ (operation.entersPool = false ∧ Kept s s') := by
  cases operation with
  | user call => exact UserCall.cases hw hf h
  | token call => exact .inr ⟨rfl, TokenCall.kept h⟩
  | admin call => exact .inr ⟨rfl, AdminCall.kept h⟩
  | world event => exact .inr ⟨rfl, WorldEvent.kept h⟩

theorem PoolAction.entersPool {operation : Operation} (h : PoolAction s operation s') :
    operation.entersPool = true := by
  cases h with
  | deposit hcall | withdraw hcall | borrow hcall | repay hcall | buyItNow hcall | redeem hcall
  | liquidate hcall =>
    subst hcall
    rfl

/-- Every action is a step on one reserve, paid for in the token of that reserve. -/
structure Settled (s : State) (asset : Address) (li vi : Nat)
    (program : ERC20 → Except Revert ERC20) (events : List Transfer) (s' : State) : Prop where
  step : PoolStep s asset li vi s'
  cash : Cash s asset program events s'
  protects : Protects program

theorem PoolAction.settled (h : PoolAction s operation s') :
    ∃ asset li vi program events, Settled s asset li vi program events s' := by
  cases h with
  | deposit _ h => exact ⟨_, _, _, _, _, h.step, h.cash, protects_transferFrom⟩
  | withdraw _ h => exact ⟨_, _, _, _, _, h.step, h.cash, protects_transfer⟩
  | borrow _ _ h => exact ⟨_, _, _, _, _, h.step, h.cash, protects_transfer⟩
  | repay _ _ h => exact ⟨_, _, _, _, _, h.step, h.cash, protects_transferFrom⟩
  | buyItNow _ _ h => exact ⟨_, _, _, _, _, h.step, h.cash, protects_transferFrom⟩
  | redeem _ _ h hs =>
    subst hs
    exact ⟨_, _, _, _, _, h.step, h.cash,
      Keeps.bind protects_transferFrom (Keeps.bind protects_transfer protects_transferFrom)⟩
  | liquidate _ _ h hs =>
    subst hs
    exact ⟨_, _, _, _, _, h.step, h.cash,
      Keeps.bind (Keeps.ite protects_transferFrom)
        (Keeps.bind protects_transfer (Keeps.ite protects_transfer))⟩

theorem given_operators (erc721 : Address → ERC721) (asset receiver other owner operator : Address)
    (tokenId : Nat) :
    (Function.update erc721 asset ((erc721 asset).given receiver tokenId) other).operatorApprovals
      owner operator = (erc721 other).operatorApprovals owner operator := by
  by_cases hother : other = asset
  · subst hother
    rw [Function.update_self]
    rfl
  · rw [Function.update_of_ne hother]

end Confetti

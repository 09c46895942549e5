import Confetti.Logic.ReserveIndexes
import Confetti.Protocol.State

/-! `CToken`: the scaled deposits of one reserve, and the contract that holds the
reserve's cash. -/
namespace Confetti
open Outcome

namespace CToken

def mint (cTokens : Address → CToken) (address user : Address) (amount index : Nat) :
    Except Revert (Address → CToken) := do
  let asset ← State.cTokenAt address
  let self := cTokens asset
  let amountScaled ← rayDiv amount index
  require (amountScaled ≠ 0) (.error .CT_INVALID_MINT_AMOUNT)
  let ledger ← ERC20.mint (.cToken asset) self.ledger user amountScaled
  pure (Function.update cTokens asset { self with ledger })

/-- Rounding to nothing is not checked here: the treasury bears the loss. -/
def mintToTreasury (cTokens : Address → CToken) (address : Address) (amount index : Nat) :
    Except Revert (Address → CToken) := do
  let asset ← State.cTokenAt address
  if amount = 0 then pure cTokens
  else do
    let self := cTokens asset
    let amountScaled ← rayDiv amount index
    let ledger ← ERC20.mint (.cToken asset) self.ledger self.treasury amountScaled
    pure (Function.update cTokens asset { self with ledger })

/-- The scaled position is burned and the underlying paid out to the receiver. -/
def burn (s : State) (address user receiverOfUnderlying : Address) (amount index : Nat) :
    Except Revert State := do
  let asset ← State.cTokenAt address
  let self := s.cTokens asset
  let amountScaled ← rayDiv amount index
  require (amountScaled ≠ 0) (.error .CT_INVALID_BURN_AMOUNT)
  let ledger ← ERC20.burn (.cToken asset) self.ledger user amountScaled
  let s := { s with cTokens := Function.update s.cTokens asset { self with ledger } }
  s.safeTransfer asset (.cToken asset) receiverOfUnderlying amount

def transferUnderlyingTo (s : State) (address target : Address) (amount : Nat) :
    Except Revert State := do
  let asset ← State.cTokenAt address
  s.safeTransfer asset (.cToken asset) target amount

def scaledBalanceOf (self : CToken) (user : Address) : Nat := self.ledger.balances user

def scaledTotalSupply (self : CToken) : Nat := self.ledger.totalSupply

def balanceOf (s : State) (address user : Address) : Except Revert Nat := do
  let asset ← State.cTokenAt address
  let index ← ReserveLogic.getNormalizedIncome (s.pool.reserves asset) s.timestamp
  rayMul ((s.cTokens asset).ledger.balances user) index

/-- `LendPool.finalizeTransfer` -/
def finalizeTransfer (s : State) (asset caller : Address) : Except Revert Unit := do
  require (s.pool.paused = false) (.error .LP_IS_PAUSED)
  require (caller = (s.pool.reserves asset).cTokenAddress) (.error .LP_CALLER_MUST_BE_AN_CTOKEN)

/-- `_transfer` -/
def transferScaled (s : State) (asset sender recipient : Address) (amount : Nat) :
    Except Revert ERC20 := do
  let self := s.cTokens asset
  let index ← ReserveLogic.getNormalizedIncome (s.pool.reserves asset) s.timestamp
  let _ ← rayMul (self.ledger.balances sender) index
  let _ ← rayMul (self.ledger.balances recipient) index
  let amountScaled ← rayDiv amount index
  let ledger ← ERC20.transfer (.cToken asset) self.ledger sender recipient amountScaled
  finalizeTransfer s asset (.cToken asset)
  pure ledger

def withLedger (s : State) (asset : Address) (ledger : ERC20) : State :=
  { s with cTokens := Function.update s.cTokens asset { s.cTokens asset with ledger } }

def transfer (s : State) (address caller recipient : Address) (amount : Nat) :
    Except Revert State := do
  let asset ← State.cTokenAt address
  let ledger ← transferScaled s asset caller recipient amount
  pure (withLedger s asset ledger)

def transferFrom (s : State) (address caller sender recipient : Address) (amount : Nat) :
    Except Revert State := do
  let asset ← State.cTokenAt address
  let ledger ← transferScaled s asset sender recipient amount
  require (amount ≤ ledger.allowances sender caller)
    (.erc20 (.cToken asset) sender .transferExceedsAllowance)
  let ledger ← ERC20.approve (.cToken asset) ledger sender caller
    (ledger.allowances sender caller - amount)
  pure (withLedger s asset ledger)

def approve (s : State) (address caller spender : Address) (amount : Nat) :
    Except Revert State := do
  let asset ← State.cTokenAt address
  let ledger ← ERC20.approve (.cToken asset) (s.cTokens asset).ledger caller spender amount
  pure (withLedger s asset ledger)

variable {s s' : State} {cTokens cTokens' : Address → CToken} {amount index : Nat}
  {address caller user sender recipient receiver spender target : Address}

def credited (self : CToken) (user : Address) (scaled : Nat) : CToken :=
  { self with ledger := { self.ledger with
      totalSupply := self.ledger.totalSupply + scaled
      balances := Function.update self.ledger.balances user
        (self.ledger.balances user + scaled) } }

def debited (self : CToken) (user : Address) (scaled : Nat) : CToken :=
  { self with ledger := { self.ledger with
      totalSupply := self.ledger.totalSupply - scaled
      balances := Function.update self.ledger.balances user
        (self.ledger.balances user - scaled) } }

theorem credited_zero (self : CToken) (user : Address) : self.credited user 0 = self := by
  simp [credited]

@[simp] theorem credited_scaledTotalSupply (self : CToken) (user : Address) (scaled : Nat) :
    (self.credited user scaled).scaledTotalSupply = self.scaledTotalSupply + scaled := rfl

/-- An account can be credited: it exists, and neither sum overflows. -/
def Mintable (self : CToken) (user : Address) (scaled : Nat) : Prop :=
  user ≠ .zero ∧ self.ledger.totalSupply + scaled ≤ Uint256.max ∧
    self.ledger.balances user + scaled ≤ Uint256.max

theorem mintToTreasury_eq_ok {asset : Address} (hamount : amount ≠ 0) :
    mintToTreasury cTokens (.cToken asset) amount index = .ok cTokens' ↔
      ∃ scaled, rayDiv amount index = .ok scaled ∧
        (cTokens asset).Mintable (cTokens asset).treasury scaled ∧
          cTokens' = Function.update cTokens asset
            ((cTokens asset).credited (cTokens asset).treasury scaled) := by
  simp only [mintToTreasury, State.cTokenAt, ok_bind, if_neg hamount, bind_eq_ok, pure_eq_ok,
    ERC20.mint_eq_ok, Mintable]
  constructor
  · rintro ⟨scaled, hscaled, _, ⟨hne, hsupply, hbalance, rfl⟩, rfl⟩
    exact ⟨scaled, hscaled, ⟨hne, hsupply, hbalance⟩, rfl⟩
  · rintro ⟨scaled, hscaled, ⟨hne, hsupply, hbalance⟩, rfl⟩
    exact ⟨scaled, hscaled, _, ⟨hne, hsupply, hbalance, rfl⟩, rfl⟩

theorem mint_spec (h : mint cTokens address user amount index = .ok cTokens') :
    ∃ asset scaled, address = .cToken asset ∧ rayDiv amount index = .ok scaled ∧ scaled ≠ 0 ∧
      cTokens' = Function.update cTokens asset ((cTokens asset).credited user scaled) := by
  simp only [mint, bind_eq_ok, State.cTokenAt_eq_ok, require_eq_ok, exists_const,
    ERC20.mint_eq_ok, pure_eq_ok] at h
  obtain ⟨asset, rfl, scaled, hscaled, hne, _, ⟨-, -, -, rfl⟩, rfl⟩ := h
  exact ⟨asset, scaled, rfl, hscaled, hne, rfl⟩

def Burnable (self : CToken) (user : Address) (scaled : Nat) : Prop :=
  user ≠ .zero ∧ scaled ≤ self.ledger.balances user ∧ scaled ≤ self.ledger.totalSupply

theorem burn_eq_ok :
    burn s address user receiver amount index = .ok s' ↔ ∃ asset scaled token,
      address = .cToken asset ∧ rayDiv amount index = .ok scaled ∧ scaled ≠ 0 ∧
        (s.cTokens asset).Burnable user scaled ∧
        ERC20.transfer asset (s.erc20 asset) (.cToken asset) receiver amount = .ok token ∧
          s' = { s with
            cTokens := Function.update s.cTokens asset ((s.cTokens asset).debited user scaled)
            erc20 := Function.update s.erc20 asset token
            transfers := ⟨asset, .cToken asset, receiver, amount⟩ :: s.transfers } := by
  simp only [burn, bind_eq_ok, State.cTokenAt_eq_ok, require_eq_ok, exists_const,
    State.safeTransfer_eq_ok, ERC20.burn_eq_ok, Burnable]
  constructor
  · rintro ⟨asset, rfl, scaled, hscaled, hne, _, ⟨huser, hle, hsupply, rfl⟩, token, htoken, rfl⟩
    exact ⟨asset, scaled, token, rfl, hscaled, hne, ⟨huser, hle, hsupply⟩, htoken, rfl⟩
  · rintro ⟨asset, scaled, token, rfl, hscaled, hne, ⟨huser, hle, hsupply⟩, htoken, rfl⟩
    exact ⟨asset, rfl, scaled, hscaled, hne, _, ⟨huser, hle, hsupply, rfl⟩, token, htoken, rfl⟩

theorem transferUnderlyingTo_eq_ok :
    transferUnderlyingTo s address target amount = .ok s' ↔ ∃ asset token,
      address = .cToken asset ∧
        ERC20.transfer asset (s.erc20 asset) (.cToken asset) target amount = .ok token ∧
          s' = { s with
            erc20 := Function.update s.erc20 asset token
            transfers := ⟨asset, .cToken asset, target, amount⟩ :: s.transfers } := by
  simp only [transferUnderlyingTo, bind_eq_ok, State.cTokenAt_eq_ok, State.safeTransfer_eq_ok]
  constructor
  · rintro ⟨asset, rfl, token, htoken, rfl⟩
    exact ⟨asset, token, rfl, htoken, rfl⟩
  · rintro ⟨asset, token, rfl, htoken, rfl⟩
    exact ⟨asset, rfl, token, htoken, rfl⟩

/-- Both balances are valued before the scaled amount moves. -/
theorem transferScaled_eq_ok {asset : Address} {ledger : ERC20} :
    transferScaled s asset sender recipient amount = .ok ledger ↔ ∃ index scaled,
      ReserveLogic.getNormalizedIncome (s.pool.reserves asset) s.timestamp = .ok index ∧
        (∃ value, rayMul ((s.cTokens asset).ledger.balances sender) index = .ok value) ∧
        (∃ value, rayMul ((s.cTokens asset).ledger.balances recipient) index = .ok value) ∧
        rayDiv amount index = .ok scaled ∧
        ERC20.transfer (.cToken asset) (s.cTokens asset).ledger sender recipient scaled =
          .ok ledger ∧
        s.pool.paused = false ∧ .cToken asset = (s.pool.reserves asset).cTokenAddress := by
  simp only [transferScaled, finalizeTransfer, bind_eq_ok, require_eq_ok, exists_const, pure_eq_ok]
  constructor
  · rintro ⟨index, hindex, _, hsender, _, hrecipient, scaled, hscaled, _, htransfer, hfinal, rfl⟩
    exact ⟨index, scaled, hindex, ⟨_, hsender⟩, ⟨_, hrecipient⟩, hscaled, htransfer, hfinal⟩
  · rintro ⟨index, scaled, hindex, ⟨_, hsender⟩, ⟨_, hrecipient⟩, hscaled, htransfer, hfinal⟩
    exact ⟨index, hindex, _, hsender, _, hrecipient, scaled, hscaled, _, htransfer, hfinal, rfl⟩

theorem transferScaled_spec {asset : Address} {ledger : ERC20}
    (h : transferScaled s asset sender recipient amount = .ok ledger) :
    ∃ index scaled, ReserveLogic.getNormalizedIncome (s.pool.reserves asset) s.timestamp =
        .ok index ∧ rayDiv amount index = .ok scaled ∧
          scaled ≤ (s.cTokens asset).ledger.balances sender ∧ ledger.balances =
            ERC20.moved (s.cTokens asset).ledger.balances sender recipient scaled ∧
              ledger.totalSupply = (s.cTokens asset).ledger.totalSupply := by
  obtain ⟨index, scaled, hindex, -, -, hscaled, htransfer, -⟩ := transferScaled_eq_ok.mp h
  obtain ⟨-, -, hle, -, rfl⟩ := ERC20.transfer_eq_ok.mp htransfer
  exact ⟨index, scaled, hindex, hscaled, hle, rfl, rfl⟩

theorem transferFrom_eq_ok :
    transferFrom s address caller sender recipient amount = .ok s' ↔ ∃ asset ledger,
      address = .cToken asset ∧ transferScaled s asset sender recipient amount = .ok ledger ∧
        amount ≤ ledger.allowances sender caller ∧ caller ≠ .zero ∧
          s' = withLedger s asset { ledger with
            allowances := ERC20.allowed ledger.allowances sender caller
              (ledger.allowances sender caller - amount) } := by
  simp only [transferFrom, bind_eq_ok, State.cTokenAt_eq_ok, require_eq_ok, exists_const,
    ERC20.approve_eq_ok, pure_eq_ok]
  constructor
  · rintro ⟨asset, rfl, ledger, hledger, hallow, _, ⟨hcaller, rfl⟩, rfl⟩
    exact ⟨asset, ledger, rfl, hledger, hallow, hcaller, rfl⟩
  · rintro ⟨asset, ledger, rfl, hledger, hallow, hcaller, rfl⟩
    exact ⟨asset, rfl, ledger, hledger, hallow, _, ⟨hcaller, rfl⟩, rfl⟩

theorem transfer_frame (h : transfer s address caller recipient amount = .ok s') :
    ∃ cTokens', s' = { s with cTokens := cTokens' } := by
  obtain ⟨asset, -, h⟩ := bind_eq_ok.mp h
  obtain ⟨ledger, -, rfl⟩ := bind_pure_eq_ok.mp h
  exact ⟨_, rfl⟩

theorem transferFrom_frame (h : transferFrom s address caller sender recipient amount = .ok s') :
    ∃ cTokens', s' = { s with cTokens := cTokens' } := by
  obtain ⟨asset, ledger, -, -, -, -, rfl⟩ := transferFrom_eq_ok.mp h
  exact ⟨_, rfl⟩

theorem approve_frame (h : approve s address caller spender amount = .ok s') :
    ∃ cTokens', s' = { s with cTokens := cTokens' } := by
  obtain ⟨asset, -, h⟩ := bind_eq_ok.mp h
  obtain ⟨ledger, -, rfl⟩ := bind_pure_eq_ok.mp h
  exact ⟨_, rfl⟩

section Faults

variable {bad : Revert → Prop}

theorem avoids_cTokenAt (hbad : BalanceFault bad) (address : Address) :
    Avoids bad (State.cTokenAt address) := by
  cases address
  case cToken asset => exact avoids_ok _
  all_goals exact avoids_error (hbad.nonContract _)

theorem avoids_mintToTreasury (hbad : BalanceFault bad) :
    Avoids bad (mintToTreasury cTokens address amount index) := by
  refine (avoids_cTokenAt hbad _).bind fun asset _ => ?_
  refine avoids_ite (fun _ => avoids_pure _) fun _ => ?_
  refine (avoids_rayDiv hbad.panic hbad.error _ _).bind fun _ _ => ?_
  exact (ERC20.avoids_mint hbad).bind fun _ _ => avoids_pure _

theorem avoids_balanceOf (hbad : BalanceFault bad) : Avoids bad (balanceOf s address user) := by
  refine (avoids_cTokenAt hbad _).bind fun asset _ => ?_
  refine (ReserveLogic.avoids_getNormalizedIncome hbad.panic hbad.error _ _).bind fun _ _ => ?_
  exact avoids_rayMul hbad.panic hbad.error _ _

theorem avoids_burn (hbad : BalanceFault bad)
    (hbalance : ∀ asset scaled, address = .cToken asset → rayDiv amount index = .ok scaled →
      (s.cTokens asset).ledger.balances user < scaled →
        ¬bad (.erc20 (.cToken asset) user .burnExceedsBalance))
    (hcash : ∀ asset, ¬bad (.erc20 asset (.cToken asset) .transferExceedsBalance)) :
    Avoids bad (burn s address user receiver amount index) := by
  refine (avoids_cTokenAt hbad _).bind fun asset hasset => ?_
  refine (avoids_rayDiv hbad.panic hbad.error _ _).bind fun scaled hscaled => ?_
  refine (avoids_require fun _ => hbad.error _).bind fun _ _ => ?_
  refine Avoids.bind ?_ fun _ _ => ?_
  · exact ERC20.avoids_burn hbad (hbalance asset scaled (State.cTokenAt_eq_ok.mp hasset) hscaled)
  · exact (ERC20.avoids_transfer hbad fun _ => hcash asset).bind fun _ _ => avoids_pure _

end Faults

end CToken

end Confetti

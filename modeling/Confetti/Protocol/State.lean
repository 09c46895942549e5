import Confetti.Types.DataTypes
import Confetti.Tokens.ERC20
import Confetti.Tokens.CNFT
import Confetti.Protocol.InterestRate

/-! The storage of every contract of the protocol and of the third-party contracts
it talks to, as one record. A transaction is a function on it. -/
namespace Confetti
open Outcome

/-- cToken balances are kept scaled by the liquidity index. -/
structure CToken where
  ledger : ERC20
  treasury : Address

/-- Debt balances are kept scaled by the variable borrow index. -/
structure DebtToken where
  ledger : ERC20
  borrowAllowances : Address → Address → Nat

def CToken.empty : CToken := ⟨.empty, .zero⟩

def DebtToken.empty : DebtToken := ⟨.empty, fun _ _ => 0⟩

structure LendPoolStorage where
  reserves : Address → ReserveData
  nfts : Address → NftData
  reservesList : Nat → Address
  reservesCount : Nat
  nftsList : Nat → Address
  nftsCount : Nat
  paused : Bool
  maxNumberOfReserves : Nat
  maxNumberOfNfts : Nat

/-- The storage of `LendPoolLoan`. -/
structure LoanStore where
  loanIdTracker : Nat
  loans : Nat → LoanData
  nftToLoanIds : Address → Nat → Nat
  nftTotalCollateral : Address → Nat
  userNftCollateral : Address → Address → Nat

/-- An account without code, or a contract and whether it accepts ERC-721 tokens. -/
inductive AccountKind
  | externallyOwned
  | contract (acceptsERC721 : Bool)
  deriving DecidableEq, Repr

/-- A `Transfer` event of the token of a reserve. -/
structure Transfer where
  token : Address
  sender : Address
  recipient : Address
  amount : Nat
  deriving DecidableEq, Repr

/-- cTokens, debt tokens and cNFTs are indexed by the asset they belong to;
`transfers` is the event log of the underlying tokens, newest first. An oracle
answers with a price in ETH or with the text it reverts with. `cNFTProxys` is the
registry's map from collections to cNFT proxies. -/
structure State where
  timestamp : Nat
  pool : LendPoolStorage
  loanStore : LoanStore
  cTokens : Address → CToken
  debtTokens : Address → DebtToken
  interestRates : Address → Option InterestRate
  reserveOracle : Address → Except String Nat
  nftOracle : Address → Except String Nat
  erc20 : Address → ERC20
  transfers : List Transfer
  erc721 : Address → ERC721
  cNFTs : Address → CNFT
  cNFTProxys : Address → Address
  accounts : Nat → AccountKind

namespace LendPoolStorage

def setReserve (self : LendPoolStorage) (asset : Address) (reserve : ReserveData) :
    LendPoolStorage :=
  { self with reserves := Function.update self.reserves asset reserve }

def setNft (self : LendPoolStorage) (asset : Address) (nft : NftData) : LendPoolStorage :=
  { self with nfts := Function.update self.nfts asset nft }

variable (self : LendPoolStorage) (asset : Address) (reserve reserve' : ReserveData)

@[simp] theorem setReserve_reserves :
    (self.setReserve asset reserve).reserves = Function.update self.reserves asset reserve := rfl

@[simp] theorem setReserve_nfts : (self.setReserve asset reserve).nfts = self.nfts := rfl

@[simp] theorem setReserve_paused : (self.setReserve asset reserve).paused = self.paused := rfl

@[simp] theorem setReserve_setReserve :
    (self.setReserve asset reserve).setReserve asset reserve' = self.setReserve asset reserve' := by
  simp [setReserve]

end LendPoolStorage

namespace State

variable (s : State)

/-- The same storage in a block of another time. -/
def atTime (now : Nat) : State := { s with timestamp := now }

/-- `AddressUpgradeable.isContract` -/
def isContract : Address → Bool
  | .zero => false
  | .account n => s.accounts n != .externallyOwned
  | _ => true

/-- The answer to `onERC721Received`; accounts without code are not asked. -/
def acceptsERC721 : Address → Bool
  | .account n => s.accounts n != .contract false
  | .cToken _ | .debtToken _ => false
  | _ => true

/-! Calls to a proxy revert when the address holds none. -/

def cTokenAt : Address → Except Revert Address
  | .cToken asset => .ok asset
  | other => .error (.nonContract other)

def debtTokenAt : Address → Except Revert Address
  | .debtToken asset => .ok asset
  | other => .error (.nonContract other)

def cNFTAt : Address → Except Revert Address
  | .cNFT asset => .ok asset
  | other => .error (.nonContract other)

def interestRateAt (address : Address) : Except Revert InterestRate :=
  match s.interestRates address with
  | some interestRate => .ok interestRate
  | none => .error (.nonContract address)

def oraclePrice : Except String Nat → Except Revert Nat
  | .ok price => .ok price
  | .error text => .error (.message text)

/-- `IReserveOracleGetter.getAssetPrice` -/
def getReservePrice (asset : Address) : Except Revert Nat := oraclePrice (s.reserveOracle asset)

/-- `INFTOracleGetter.getAssetPrice` -/
def getNFTPrice (asset : Address) : Except Revert Nat := oraclePrice (s.nftOracle asset)

/-! Transfers of the token of a reserve. -/

def safeTransfer (asset sender recipient : Address) (amount : Nat) : Except Revert State := do
  let token ← ERC20.transfer asset (s.erc20 asset) sender recipient amount
  pure { s with
    erc20 := Function.update s.erc20 asset token
    transfers := ⟨asset, sender, recipient, amount⟩ :: s.transfers }

def safeTransferFrom (asset spender sender recipient : Address) (amount : Nat) :
    Except Revert State := do
  let token ← ERC20.transferFrom asset (s.erc20 asset) spender sender recipient amount
  pure { s with
    erc20 := Function.update s.erc20 asset token
    transfers := ⟨asset, sender, recipient, amount⟩ :: s.transfers }

def safeTransferNFT (asset caller sender recipient : Address) (tokenId : Nat) :
    Except Revert State := do
  let nft ← (s.erc721 asset).safeTransferFrom s.acceptsERC721 caller sender recipient tokenId
  pure { s with erc721 := Function.update s.erc721 asset nft }

@[simp] theorem cTokenAt_eq_ok {address asset : Address} :
    cTokenAt address = .ok asset ↔ address = .cToken asset := by
  cases address <;> simp [cTokenAt]

@[simp] theorem debtTokenAt_eq_ok {address asset : Address} :
    debtTokenAt address = .ok asset ↔ address = .debtToken asset := by
  cases address <;> simp [debtTokenAt]

@[simp] theorem cNFTAt_eq_ok {address asset : Address} :
    cNFTAt address = .ok asset ↔ address = .cNFT asset := by
  cases address <;> simp [cNFTAt]

theorem interestRateAt_eq_ok {s : State} {address : Address} {interestRate : InterestRate} :
    s.interestRateAt address = .ok interestRate ↔
      s.interestRates address = some interestRate := by
  unfold interestRateAt
  cases s.interestRates address <;> simp

theorem avoids_oraclePrice {bad : Revert → Prop} (hbad : BalanceFault bad)
    (answer : Except String Nat) : Avoids bad (oraclePrice answer) := by
  cases answer with
  | ok price => exact avoids_ok price
  | error text => exact avoids_error (hbad.message text)

variable {s} {s' : State} {asset spender sender recipient caller : Address} {amount tokenId : Nat}

theorem safeTransfer_eq_ok :
    s.safeTransfer asset sender recipient amount = .ok s' ↔ ∃ token,
      ERC20.transfer asset (s.erc20 asset) sender recipient amount = .ok token ∧
        s' = { s with
          erc20 := Function.update s.erc20 asset token
          transfers := ⟨asset, sender, recipient, amount⟩ :: s.transfers } := by
  simp only [safeTransfer, bind_pure_eq_ok]

theorem safeTransferFrom_eq_ok :
    s.safeTransferFrom asset spender sender recipient amount = .ok s' ↔ ∃ token,
      ERC20.transferFrom asset (s.erc20 asset) spender sender recipient amount = .ok token ∧
        s' = { s with
          erc20 := Function.update s.erc20 asset token
          transfers := ⟨asset, sender, recipient, amount⟩ :: s.transfers } := by
  simp only [safeTransferFrom, bind_pure_eq_ok]

theorem safeTransferNFT_eq_ok :
    s.safeTransferNFT asset caller sender recipient tokenId = .ok s' ↔
      (s.erc721 asset).owners tokenId = sender ∧ sender ≠ .zero ∧
        (s.erc721 asset).MayMove caller tokenId ∧ recipient ≠ .zero ∧
          s.acceptsERC721 recipient = true ∧
            s' = { s with erc721 :=
              Function.update s.erc721 asset ((s.erc721 asset).given recipient tokenId) } := by
  simp only [safeTransferNFT, bind_pure_eq_ok, ERC721.safeTransferFrom_eq_ok]
  constructor
  · rintro ⟨_, ⟨howner, hz, hmove, hr, haccepts, rfl⟩, rfl⟩
    exact ⟨howner, hz, hmove, hr, haccepts, rfl⟩
  · rintro ⟨howner, hz, hmove, hr, haccepts, rfl⟩
    exact ⟨_, ⟨howner, hz, hmove, hr, haccepts, rfl⟩, rfl⟩

end State

end Confetti

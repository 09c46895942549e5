import Confetti.Library.TransitionSystem
import Mathlib.Logic.Function.Basic

/-! `LendPoolAddressesProvider`: where the contracts of a market are and who holds its roles.
The provider deploys proxies and is their admin. -/
namespace Confetti
open Outcome TransitionSystem

/-- The ids that have a setter of their own, and all others. -/
inductive AddressId
  | LEND_POOL
  | LEND_POOL_CONFIGURATOR
  | POOL_ADMIN
  | EMERGENCY_ADMIN
  | RESERVE_ORACLE
  | NFT_ORACLE
  | LEND_POOL_LOAN
  | CNFT_REGISTRY
  | INCENTIVES_CONTROLLER
  | CONFETTI_DATA_PROVIDER
  | UI_DATA_PROVIDER
  | WALLET_BALANCE_PROVIDER
  | other (id : BitVec 256)
  deriving DecidableEq, Repr

/-- An account or contract from elsewhere, the provider itself, or a proxy that it deploys;
proxies are numbered in the order of their deployment. -/
inductive Party
  | zero
  | account (n : Nat)
  | addressesProvider
  | proxy (n : Nat)
  deriving DecidableEq, Repr

def Party.isProxy : Party → Bool
  | .proxy _ => true
  | _ => false

def Party.isAccount : Party → Bool
  | .account _ => true
  | _ => false

/-- What `encodedCallData` asks for: a function of the proxy itself, or anything else. -/
inductive CallData
  | admin
  | implementation
  | getImplementation
  | changeAdmin (newAdmin : Party)
  | upgradeTo (newImplementation : Party)
  | upgradeToAndCall (newImplementation : Party) (data : List UInt8)
  | foreign (data : List UInt8)
  deriving DecidableEq, Repr

def CallData.isChangeAdmin : CallData → Bool
  | .changeAdmin _ => true
  | _ => false

/-- The code that others deployed: who has any, whether an implementation lets itself be
initialized through a new proxy, what it answers to a call made in its name by a proxy, and
what a contract answers to a call. -/
structure Outside where
  hasCode : Nat → Bool
  initializes : Party → Bool
  delegates : Party → List UInt8 → Bool
  answers : Party → CallData → Bool

/-- The storage of a `ConfettiUpgradeableProxy`. -/
structure UpgradeableProxy where
  implementation : Party
  admin : Party
  deriving DecidableEq, Repr

structure AddressesProvider where
  owner : Party
  marketId : String
  addresses : AddressId → Party
  deployed : Nat
  proxies : Nat → UpgradeableProxy

inductive Refusal
  | ownable (text : String)
  | erc1967 (text : String)
  | adminCannotFallback
  | nonContract (target : Party)
  | refusedByCode (target : Party)
  deriving DecidableEq, Repr

namespace AddressesProvider

variable (self : AddressesProvider) (outside : Outside)

def isContract : Party → Bool
  | .zero => false
  | .account n => outside.hasCode n
  | .addressesProvider => true
  | .proxy n => n < self.deployed

def requireCode (implementation : Party) : Except Refusal Unit :=
  require (self.isContract outside implementation = true)
    (.erc1967 "new implementation is not a contract")

def withProxy (n : Nat) (proxy : UpgradeableProxy) : AddressesProvider :=
  { self with proxies := Function.update self.proxies n proxy }

/-- `new ConfettiUpgradeableProxy`, which calls `initialize` of its implementation. -/
def deployProxy (id : AddressId) (implementation : Party) : Except Refusal AddressesProvider := do
  self.requireCode outside implementation
  require (outside.initializes implementation = true) (.refusedByCode implementation)
  pure { self.withProxy self.deployed ⟨implementation, .addressesProvider⟩ with
    addresses := Function.update self.addresses id (.proxy self.deployed)
    deployed := self.deployed + 1 }

/-- A proxy that is called by its admin. Functions of the implementation are out of its reach. -/
def callAsAdmin (n : Nat) : CallData → Except Refusal AddressesProvider
  | .admin | .implementation | .getImplementation => pure self
  | .changeAdmin newAdmin => do
    require (newAdmin ≠ .zero) (.erc1967 "new admin is the zero address")
    pure (self.withProxy n { self.proxies n with admin := newAdmin })
  | .upgradeTo newImplementation => do
    self.requireCode outside newImplementation
    pure (self.withProxy n { self.proxies n with implementation := newImplementation })
  | .upgradeToAndCall newImplementation data => do
    self.requireCode outside newImplementation
    require (outside.delegates newImplementation data = true) (.refusedByCode newImplementation)
    pure (self.withProxy n { self.proxies n with implementation := newImplementation })
  | .foreign _ => .error .adminCannotFallback

/-- A call of the provider to some address. What is not one of its own proxies decides for
itself, without a say over the provider's storage. -/
def callFromProvider (target : Party) (data : CallData) : Except Refusal AddressesProvider := do
  require (self.isContract outside target = true) (.nonContract target)
  match target with
  | .proxy n =>
    if (self.proxies n).admin = .addressesProvider then self.callAsAdmin outside n data
    else do
      require (outside.answers target data = true) (.refusedByCode target)
      pure self
  | _ => do
    require (outside.answers target data = true) (.refusedByCode target)
    pure self

/-- `_updateImpl` -/
def updateImpl (id : AddressId) (newAddress : Party) : Except Refusal AddressesProvider :=
  if self.addresses id = .zero then self.deployProxy outside id newAddress
  else self.callFromProvider outside (self.addresses id) (.upgradeTo newAddress)

variable (caller : Party)

def onlyOwner : Except Refusal Unit :=
  require (self.owner = caller) (.ownable "caller is not the owner")

def setMarketId (marketId : String) : Except Refusal AddressesProvider := do
  self.onlyOwner caller
  pure { self with marketId }

/-- Without call data there is no call. -/
def setAddressAsProxy (id : AddressId) (implementationAddress : Party)
    (encodedCallData : Option CallData) : Except Refusal AddressesProvider := do
  self.onlyOwner caller
  let self ← self.updateImpl outside id implementationAddress
  match encodedCallData with
  | none => pure self
  | some data => self.callFromProvider outside (self.addresses id) data

def setLendPoolImpl := setAddressAsProxy self outside caller .LEND_POOL

def setLendPoolConfiguratorImpl := setAddressAsProxy self outside caller .LEND_POOL_CONFIGURATOR

def setLendPoolLoanImpl := setAddressAsProxy self outside caller .LEND_POOL_LOAN

def setAddress (id : AddressId) (newAddress : Party) : Except Refusal AddressesProvider := do
  self.onlyOwner caller
  pure { self with addresses := Function.update self.addresses id newAddress }

def setPoolAdmin := setAddress self caller .POOL_ADMIN

def setEmergencyAdmin := setAddress self caller .EMERGENCY_ADMIN

def setReserveOracle := setAddress self caller .RESERVE_ORACLE

def setNFTOracle := setAddress self caller .NFT_ORACLE

def setCNFTRegistry := setAddress self caller .CNFT_REGISTRY

def setIncentivesController := setAddress self caller .INCENTIVES_CONTROLLER

def setUIDataProvider := setAddress self caller .UI_DATA_PROVIDER

def setConfettiDataProvider := setAddress self caller .CONFETTI_DATA_PROVIDER

def setWalletBalanceProvider := setAddress self caller .WALLET_BALANCE_PROVIDER

def transferOwnership (newOwner : Party) : Except Refusal AddressesProvider := do
  self.onlyOwner caller
  require (newOwner ≠ .zero) (.ownable "new owner is the zero address")
  pure { self with owner := newOwner }

def renounceOwnership : Except Refusal AddressesProvider := do
  self.onlyOwner caller
  pure { self with owner := .zero }

end AddressesProvider

inductive ProviderCall
  | setMarketId (marketId : String)
  | setAddressAsProxy (id : AddressId) (implementationAddress : Party)
      (encodedCallData : Option CallData)
  | setLendPoolImpl (pool : Party) (encodedCallData : Option CallData)
  | setLendPoolConfiguratorImpl (configurator : Party) (encodedCallData : Option CallData)
  | setLendPoolLoanImpl (loanAddress : Party) (encodedCallData : Option CallData)
  | setAddress (id : AddressId) (newAddress : Party)
  | setPoolAdmin (admin : Party)
  | setEmergencyAdmin (emergencyAdmin : Party)
  | setReserveOracle (reserveOracle : Party)
  | setNFTOracle (nftOracle : Party)
  | setCNFTRegistry (factory : Party)
  | setIncentivesController (controller : Party)
  | setUIDataProvider (provider : Party)
  | setConfettiDataProvider (provider : Party)
  | setWalletBalanceProvider (provider : Party)
  | transferOwnership (newOwner : Party)
  | renounceOwnership
  deriving DecidableEq, Repr

def ProviderCall.run (outside : Outside) (self : AddressesProvider) (caller : Party) :
    ProviderCall → Except Refusal AddressesProvider
  | .setMarketId marketId => self.setMarketId caller marketId
  | .setAddressAsProxy id implementationAddress encodedCallData =>
    self.setAddressAsProxy outside caller id implementationAddress encodedCallData
  | .setLendPoolImpl pool encodedCallData => self.setLendPoolImpl outside caller pool encodedCallData
  | .setLendPoolConfiguratorImpl configurator encodedCallData =>
    self.setLendPoolConfiguratorImpl outside caller configurator encodedCallData
  | .setLendPoolLoanImpl loanAddress encodedCallData =>
    self.setLendPoolLoanImpl outside caller loanAddress encodedCallData
  | .setAddress id newAddress => self.setAddress caller id newAddress
  | .setPoolAdmin admin => self.setPoolAdmin caller admin
  | .setEmergencyAdmin emergencyAdmin => self.setEmergencyAdmin caller emergencyAdmin
  | .setReserveOracle reserveOracle => self.setReserveOracle caller reserveOracle
  | .setNFTOracle nftOracle => self.setNFTOracle caller nftOracle
  | .setCNFTRegistry factory => self.setCNFTRegistry caller factory
  | .setIncentivesController controller => self.setIncentivesController caller controller
  | .setUIDataProvider provider => self.setUIDataProvider caller provider
  | .setConfettiDataProvider provider => self.setConfettiDataProvider caller provider
  | .setWalletBalanceProvider provider => self.setWalletBalanceProvider caller provider
  | .transferOwnership newOwner => self.transferOwnership caller newOwner
  | .renounceOwnership => self.renounceOwnership caller

def ProviderCall.replaces : ProviderCall → Option (AddressId × Party)
  | .setAddress id newAddress => some (id, newAddress)
  | .setPoolAdmin admin => some (.POOL_ADMIN, admin)
  | .setEmergencyAdmin emergencyAdmin => some (.EMERGENCY_ADMIN, emergencyAdmin)
  | .setReserveOracle reserveOracle => some (.RESERVE_ORACLE, reserveOracle)
  | .setNFTOracle nftOracle => some (.NFT_ORACLE, nftOracle)
  | .setCNFTRegistry factory => some (.CNFT_REGISTRY, factory)
  | .setIncentivesController controller => some (.INCENTIVES_CONTROLLER, controller)
  | .setUIDataProvider provider => some (.UI_DATA_PROVIDER, provider)
  | .setConfettiDataProvider provider => some (.CONFETTI_DATA_PROVIDER, provider)
  | .setWalletBalanceProvider provider => some (.WALLET_BALANCE_PROVIDER, provider)
  | _ => none

/-- The id whose proxy a call upgrades, with what it then sends to it. -/
def ProviderCall.upgrades : ProviderCall → Option (AddressId × Party × Option CallData)
  | .setAddressAsProxy id implementationAddress data => some (id, implementationAddress, data)
  | .setLendPoolImpl pool data => some (.LEND_POOL, pool, data)
  | .setLendPoolConfiguratorImpl configurator data =>
    some (.LEND_POOL_CONFIGURATOR, configurator, data)
  | .setLendPoolLoanImpl loanAddress data => some (.LEND_POOL_LOAN, loanAddress, data)
  | _ => none

def ProviderCall.names (call : ProviderCall) (id : AddressId) : Prop :=
  (∃ newAddress, call.replaces = some (id, newAddress)) ∨
    ∃ implementation data, call.upgrades = some (id, implementation, data)

/-- A call of the provider by some caller, and what the code of others answers to it. -/
structure ProviderStep where
  outside : Outside
  caller : Party
  call : ProviderCall

structure AddressesProvider.Fresh (p : AddressesProvider) : Prop where
  addresses : p.addresses = fun _ => .zero
  deployed : p.deployed = 0

def providers : System AddressesProvider ProviderStep Refusal where
  initial := AddressesProvider.Fresh
  step self s := s.call.run s.outside self s.caller

variable {self self' : AddressesProvider} {outside : Outside} {caller : Party}
  {call : ProviderCall}

namespace AddressesProvider

variable {id other : AddressId} {target implementation : Party} {data : CallData} {n : Nat}

theorem withProxy_of_ne {m : Nat} (h : m ≠ n) (proxy : UpgradeableProxy) :
    (self.withProxy n proxy).proxies m = self.proxies m := by
  simp [withProxy, h]

theorem withProxy_self (n : Nat) : self.withProxy n (self.proxies n) = self := by
  simp [withProxy]

theorem callAsAdmin_spec (h : self.callAsAdmin outside n data = .ok self') :
    (∀ bytes, data ≠ .foreign bytes) ∧ ∃ proxy, self' = self.withProxy n proxy ∧
      (proxy.admin = (self.proxies n).admin ∨ data = .changeAdmin proxy.admin) := by
  cases data with
  | admin | implementation | getImplementation =>
    obtain rfl := pure_eq_ok.mp h
    exact ⟨nofun, self.proxies n, (withProxy_self n).symm, .inl rfl⟩
  | changeAdmin newAdmin =>
    obtain ⟨_, -, rfl⟩ := bind_pure_eq_ok.mp h
    exact ⟨nofun, _, rfl, .inr rfl⟩
  | upgradeTo newImplementation =>
    obtain ⟨_, -, rfl⟩ := bind_pure_eq_ok.mp h
    exact ⟨nofun, _, rfl, .inl rfl⟩
  | upgradeToAndCall newImplementation bytes =>
    obtain ⟨_, -, h⟩ := bind_eq_ok.mp h
    obtain ⟨_, -, rfl⟩ := bind_pure_eq_ok.mp h
    exact ⟨nofun, _, rfl, .inl rfl⟩
  | foreign bytes => cases h

theorem callFromProvider_spec (h : self.callFromProvider outside target data = .ok self') :
    (self' = self ∧ ∀ n, target = .proxy n → n < self.deployed ∧
        (self.proxies n).admin ≠ .addressesProvider) ∨
      ∃ n, target = .proxy n ∧ n < self.deployed ∧
        (self.proxies n).admin = .addressesProvider ∧
          self.callAsAdmin outside n data = .ok self' := by
  obtain ⟨_, hcode, h⟩ := bind_eq_ok.mp h
  cases target with
  | proxy n =>
    dsimp only at h
    by_cases hadmin : (self.proxies n).admin = .addressesProvider
    · rw [if_pos hadmin] at h
      have hdeployed := require_eq_ok.mp hcode
      exact .inr ⟨n, rfl, of_decide_eq_true hdeployed, hadmin, h⟩
    · rw [if_neg hadmin] at h
      obtain ⟨_, -, h⟩ := bind_eq_ok.mp h
      refine .inl ⟨(pure_eq_ok.mp h).symm, ?_⟩
      rintro m ⟨⟩
      exact ⟨of_decide_eq_true (require_eq_ok.mp hcode), hadmin⟩
  | zero | account | addressesProvider =>
    obtain ⟨_, -, h⟩ := bind_eq_ok.mp h
    exact .inl ⟨(pure_eq_ok.mp h).symm, nofun⟩

theorem callFromProvider_ne_zero (h : self.callFromProvider outside target data = .ok self') :
    target ≠ .zero := by
  rintro rfl
  obtain ⟨_, hcode, -⟩ := bind_eq_ok.mp h
  cases require_eq_ok.mp hcode

theorem callFromProvider_frame (h : self.callFromProvider outside target data = .ok self') :
    self' = self ∨ ∃ n proxy, target = .proxy n ∧ n < self.deployed ∧
      self' = self.withProxy n proxy ∧
        (proxy.admin = (self.proxies n).admin ∨ data = .changeAdmin proxy.admin) := by
  rcases callFromProvider_spec h with ⟨rfl, -⟩ | ⟨n, rfl, hdeployed, -, h⟩
  · exact .inl rfl
  · obtain ⟨-, proxy, rfl, hadmin⟩ := callAsAdmin_spec h
    exact .inr ⟨n, proxy, rfl, hdeployed, rfl, hadmin⟩

theorem callFromProvider_addresses (h : self.callFromProvider outside target data = .ok self') :
    self'.addresses = self.addresses := by
  rcases callFromProvider_frame h with rfl | ⟨_, _, -, -, rfl, -⟩
  · rfl
  · rfl

theorem callFromProvider_proxies (h : self.callFromProvider outside target data = .ok self')
    (hne : target ≠ .proxy n) : self'.proxies n = self.proxies n := by
  rcases callFromProvider_frame h with rfl | ⟨m, proxy, rfl, -, rfl, -⟩
  · rfl
  · apply withProxy_of_ne
    rintro rfl
    exact hne rfl

def withDeployed (self : AddressesProvider) (id : AddressId) (implementation : Party) :
    AddressesProvider :=
  { self.withProxy self.deployed ⟨implementation, .addressesProvider⟩ with
    addresses := Function.update self.addresses id (.proxy self.deployed)
    deployed := self.deployed + 1 }

theorem deployProxy_spec (h : self.deployProxy outside id implementation = .ok self') :
    self' = self.withDeployed id implementation := by
  obtain ⟨_, -, h⟩ := bind_eq_ok.mp h
  obtain ⟨_, -, h⟩ := bind_eq_ok.mp h
  exact (pure_eq_ok.mp h).symm

/-- `_updateImpl` leaves a proxy in the entry and touches no other. -/
theorem updateImpl_spec (h : self.updateImpl outside id implementation = .ok self') :
    (self.addresses id = .zero ∧ self' = self.withDeployed id implementation) ∨
      (self.addresses id ≠ .zero ∧ self.callFromProvider outside (self.addresses id)
        (.upgradeTo implementation) = .ok self') := by
  unfold updateImpl at h
  split at h
  · rename_i hzero
    exact .inl ⟨hzero, deployProxy_spec h⟩
  · rename_i hne
    exact .inr ⟨hne, h⟩

theorem withDeployed_addresses_of_ne (h : other ≠ id) (implementation : Party) :
    (self.withDeployed id implementation).addresses other = self.addresses other := by
  simp [withDeployed, h]

theorem withDeployed_proxies_of_lt (h : n < self.deployed) (id : AddressId)
    (implementation : Party) :
    (self.withDeployed id implementation).proxies n = self.proxies n :=
  withProxy_of_ne (Nat.ne_of_lt h) _

end AddressesProvider

open AddressesProvider

theorem ProviderCall.cases (h : call.run outside self caller = .ok self') :
    self.owner = caller ∧
      ((∃ id newAddress, call.replaces = some (id, newAddress) ∧
          self' = { self with addresses := Function.update self.addresses id newAddress }) ∨
        (∃ id implementation data middle, call.upgrades = some (id, implementation, data) ∧
          self.updateImpl outside id implementation = .ok middle ∧
            (data = none ∧ self' = middle ∨ ∃ content, data = some content ∧
              middle.callFromProvider outside (middle.addresses id) content = .ok self')) ∨
        call.replaces = none ∧ call.upgrades = none ∧
          ∃ owner marketId, self' = { self with owner, marketId } ∧
            (owner ≠ self.owner →
              call = .renounceOwnership ∨ ∃ newOwner, call = .transferOwnership newOwner)) := by
  have hsetter : ∀ id newAddress, call.replaces = some (id, newAddress) →
      self.setAddress caller id newAddress = .ok self' → self.owner = caller ∧
        ∃ id newAddress, call.replaces = some (id, newAddress) ∧
          self' = { self with addresses := Function.update self.addresses id newAddress } := by
    intro id newAddress hcall h
    obtain ⟨_, howner, h⟩ := bind_eq_ok.mp h
    exact ⟨require_eq_ok.mp howner, id, newAddress, hcall, (pure_eq_ok.mp h).symm⟩
  have hproxied : ∀ id implementation data, call.upgrades = some (id, implementation, data) →
      self.setAddressAsProxy outside caller id implementation data = .ok self' →
        self.owner = caller ∧
          ∃ id implementation data middle, call.upgrades = some (id, implementation, data) ∧
            self.updateImpl outside id implementation = .ok middle ∧
              (data = none ∧ self' = middle ∨ ∃ content, data = some content ∧
                middle.callFromProvider outside (middle.addresses id) content = .ok self') := by
    intro id implementation data hcall h
    obtain ⟨_, howner, h⟩ := bind_eq_ok.mp h
    obtain ⟨middle, hupdate, h⟩ := bind_eq_ok.mp h
    refine ⟨require_eq_ok.mp howner, id, implementation, data, middle, hcall, hupdate, ?_⟩
    cases data with
    | none => exact .inl ⟨rfl, (pure_eq_ok.mp h).symm⟩
    | some content => exact .inr ⟨content, rfl, h⟩
  cases call with
  | setMarketId marketId =>
    obtain ⟨_, howner, h⟩ := bind_eq_ok.mp h
    obtain rfl := pure_eq_ok.mp h
    exact ⟨require_eq_ok.mp howner, .inr (.inr ⟨rfl, rfl, _, _, rfl, fun hne => absurd rfl hne⟩)⟩
  | transferOwnership newOwner =>
    obtain ⟨_, howner, h⟩ := bind_eq_ok.mp h
    obtain ⟨_, -, h⟩ := bind_eq_ok.mp h
    obtain rfl := pure_eq_ok.mp h
    exact ⟨require_eq_ok.mp howner,
      .inr (.inr ⟨rfl, rfl, _, _, rfl, fun _ => .inr ⟨newOwner, rfl⟩⟩)⟩
  | renounceOwnership =>
    obtain ⟨_, howner, h⟩ := bind_eq_ok.mp h
    obtain rfl := pure_eq_ok.mp h
    exact ⟨require_eq_ok.mp howner, .inr (.inr ⟨rfl, rfl, _, _, rfl, fun _ => .inl rfl⟩)⟩
  | setAddressAsProxy | setLendPoolImpl | setLendPoolConfiguratorImpl | setLendPoolLoanImpl =>
    obtain ⟨howner, hresult⟩ := hproxied _ _ _ rfl h
    exact ⟨howner, .inr (.inl hresult)⟩
  | _ =>
    obtain ⟨howner, hresult⟩ := hsetter _ _ rfl h
    exact ⟨howner, .inl hresult⟩

theorem ProviderCall.addresses_eq {id : AddressId} (hother : ¬call.names id)
    (h : call.run outside self caller = .ok self') : self'.addresses id = self.addresses id := by
  rcases (ProviderCall.cases h).2 with ⟨other, newAddress, hcall, rfl⟩ |
    ⟨other, implementation, data, middle, hcall, hupdate, hsent⟩ | ⟨-, -, owner, marketId, rfl, -⟩
  · have hne : id ≠ other := by
      rintro rfl
      exact hother (.inl ⟨newAddress, hcall⟩)
    simp [hne]
  · have hne : id ≠ other := by
      rintro rfl
      exact hother (.inr ⟨implementation, data, hcall⟩)
    have hmiddle : middle.addresses id = self.addresses id := by
      rcases updateImpl_spec hupdate with ⟨-, rfl⟩ | ⟨-, hupgrade⟩
      · exact withDeployed_addresses_of_ne hne implementation
      · rw [callFromProvider_addresses hupgrade]
    rcases hsent with ⟨-, rfl⟩ | ⟨content, -, hcalled⟩
    · exact hmiddle
    · rw [callFromProvider_addresses hcalled, hmiddle]
  · rfl

theorem callFromProvider_owner {target : Party} {data : CallData}
    (h : self.callFromProvider outside target data = .ok self') : self'.owner = self.owner := by
  rcases callFromProvider_frame h with rfl | ⟨_, _, -, -, rfl, -⟩
  · rfl
  · rfl

theorem ProviderCall.owner_eq (hkeeps : call ≠ .renounceOwnership)
    (hkeeps' : ∀ newOwner, call ≠ .transferOwnership newOwner)
    (h : call.run outside self caller = .ok self') : self'.owner = self.owner := by
  rcases (ProviderCall.cases h).2 with ⟨other, newAddress, hcall, rfl⟩ |
    ⟨other, implementation, data, middle, hcall, hupdate, hsent⟩ |
    ⟨-, -, owner, marketId, rfl, howner⟩
  · rfl
  · have hmiddle : middle.owner = self.owner := by
      rcases updateImpl_spec hupdate with ⟨-, rfl⟩ | ⟨-, hupgrade⟩
      · rfl
      · exact callFromProvider_owner hupgrade
    rcases hsent with ⟨-, rfl⟩ | ⟨content, -, hcalled⟩
    · exact hmiddle
    · rw [callFromProvider_owner hcalled, hmiddle]
  · by_contra hne
    rcases howner hne with hcall | ⟨newOwner, hcall⟩
    · exact hkeeps hcall
    · exact hkeeps' newOwner hcall

end Confetti

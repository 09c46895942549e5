import Confetti.Access.AddressesProvider
import Confetti.Effects.Frames

/-! The protocol together with the provider that it asks for its roles. Anybody may try any
function; the configurator and the pool check who calls. -/
namespace Confetti
open Outcome TransitionSystem

/-- The pool is the first proxy that the provider deployed, the configurator the second and
the loan contract the third. Oracles are outside: whatever the provider has registered for one
shows in the prices alone. -/
structure Governed where
  protocol : State
  provider : AddressesProvider

def lendPoolProxy : Party := .proxy 0

def configuratorProxy : Party := .proxy 1

def lendPoolLoanProxy : Party := .proxy 2

/-- Neither the provider nor the protocol's proxies call anybody unless they are called. -/
def Party.actsAlone : Party → Bool
  | .account _ => true
  | .proxy n => decide (3 ≤ n)
  | .zero | .addressesProvider => false

structure Caller where
  party : Party
  actsAlone : party.actsAlone = true

def Caller.account (n : Nat) : Caller := ⟨.account n, rfl⟩

/-- Why a call of the governed protocol was refused. -/
inductive GovernedRefusal
  | provider (refusal : Refusal)
  | protocol (reason : Revert)
  | CALLER_NOT_POOL_ADMIN
  | LP_CALLER_NOT_LEND_POOL_CONFIGURATOR
  | LPC_CALLER_NOT_EMERGENCY_ADMIN
  deriving DecidableEq, Repr

/-- The functions of the pool that are meant for the configurator. -/
inductive PoolSetter
  | setPause (val : Bool)
  | setMaxNumberOfReserves (val : Nat)
  | setMaxNumberOfNfts (val : Nat)
  | initReserve (asset cTokenAddress debtTokenAddress interestRateAddress : Address)
  | initNft (asset cNFTAddress : Address)
  | setReserveInterestRateAddress (asset rateAddress : Address)
  | setReserveConfiguration (asset : Address) (configuration : ReserveConfigurationMap)
  | setNftConfiguration (asset : Address) (configuration : NftConfigurationMap)
  deriving DecidableEq

def PoolSetter.run (s : State) : PoolSetter → Except Revert State
  | .setPause val => pure (LendPool.setPause s val)
  | .setMaxNumberOfReserves val => pure (LendPool.setMaxNumberOfReserves s val)
  | .setMaxNumberOfNfts val => pure (LendPool.setMaxNumberOfNfts s val)
  | .initReserve asset cTokenAddress debtTokenAddress interestRateAddress =>
    LendPool.initReserve s asset cTokenAddress debtTokenAddress interestRateAddress
  | .initNft asset cNFTAddress => LendPool.initNft s asset cNFTAddress
  | .setReserveInterestRateAddress asset rateAddress =>
    pure (LendPool.setReserveInterestRateAddress s asset rateAddress)
  | .setReserveConfiguration asset configuration =>
    pure (LendPool.setReserveConfiguration s asset configuration)
  | .setNftConfiguration asset configuration =>
    pure (LendPool.setNftConfiguration s asset configuration)

/-- A call from outside, with its caller where that matters. -/
inductive GovernedCall
  | atProvider (outside : Outside) (caller : Caller) (call : ProviderCall)
  | atConfigurator (caller : Caller) (call : AdminCall)
  | atPool (caller : Caller) (setter : PoolSetter)
  | user (call : UserCall)
  | token (call : TokenCall)
  | world (event : WorldEvent)

def AdminCall.role : AdminCall → AddressId
  | .setPoolPause _ => .EMERGENCY_ADMIN
  | _ => .POOL_ADMIN

namespace Governed

variable (g : Governed)

/-- `onlyPoolAdmin` -/
def onlyPoolAdmin (caller : Party) : Except GovernedRefusal Unit :=
  require (g.provider.addresses .POOL_ADMIN = caller) .CALLER_NOT_POOL_ADMIN

/-- `onlyEmergencyAdmin` -/
def onlyEmergencyAdmin (caller : Party) : Except GovernedRefusal Unit :=
  require (g.provider.addresses .EMERGENCY_ADMIN = caller) .LPC_CALLER_NOT_EMERGENCY_ADMIN

/-- `_onlyLendPoolConfigurator` -/
def onlyLendPoolConfigurator (caller : Party) : Except GovernedRefusal Unit :=
  require (g.provider.addresses .LEND_POOL_CONFIGURATOR = caller)
    .LP_CALLER_NOT_LEND_POOL_CONFIGURATOR

def answered (x : Except Revert State) : Except GovernedRefusal Governed :=
  match x with
  | .ok protocol => .ok { g with protocol }
  | .error reason => .error (.protocol reason)

/-- The configurator checks its caller, and the pool that it is the configurator. -/
def configure (caller : Party) (call : AdminCall) : Except GovernedRefusal Governed := do
  match call with
  | .setPoolPause _ => g.onlyEmergencyAdmin caller
  | _ => g.onlyPoolAdmin caller
  g.onlyLendPoolConfigurator configuratorProxy
  g.answered (call.run g.protocol)

def setInPool (caller : Party) (setter : PoolSetter) : Except GovernedRefusal Governed := do
  g.onlyLendPoolConfigurator caller
  g.answered (setter.run g.protocol)

end Governed

/-- The provider points to the contracts of the protocol, and it alone may upgrade them. There is
a registry of collections, and no incentives are paid. -/
structure AddressesProvider.InPlace (p : AddressesProvider) : Prop where
  lendPool : p.addresses .LEND_POOL = lendPoolProxy
  configurator : p.addresses .LEND_POOL_CONFIGURATOR = configuratorProxy
  lendPoolLoan : p.addresses .LEND_POOL_LOAN = lendPoolLoanProxy
  registry : p.addresses .CNFT_REGISTRY ≠ .zero
  incentives : p.addresses .INCENTIVES_CONTROLLER = .zero
  admin : ∀ n < 3, (p.proxies n).admin = .addressesProvider

def AddressId.ofCode : List AddressId :=
  [.LEND_POOL, .LEND_POOL_CONFIGURATOR, .LEND_POOL_LOAN, .CNFT_REGISTRY, .INCENTIVES_CONTROLLER]

def AddressesProvider.SameCode (p p' : AddressesProvider) : Prop :=
  (∀ id ∈ AddressId.ofCode, p'.addresses id = p.addresses id) ∧
    ∀ n < 3, p'.proxies n = p.proxies n

instance (p p' : AddressesProvider) : Decidable (p.SameCode p') :=
  inferInstanceAs (Decidable (_ ∧ _))

theorem AddressesProvider.SameCode.inPlace {p p' : AddressesProvider} (h : p.SameCode p')
    (hplace : p.InPlace) : p'.InPlace where
  lendPool := (h.1 .LEND_POOL (by decide)).trans hplace.lendPool
  configurator := (h.1 .LEND_POOL_CONFIGURATOR (by decide)).trans hplace.configurator
  lendPoolLoan := (h.1 .LEND_POOL_LOAN (by decide)).trans hplace.lendPoolLoan
  registry := (h.1 .CNFT_REGISTRY (by decide)).symm ▸ hplace.registry
  incentives := (h.1 .INCENTIVES_CONTROLLER (by decide)).trans hplace.incentives
  admin n hn := (congrArg UpgradeableProxy.admin (h.2 n hn)).trans (hplace.admin n hn)

/-- The protocol's own functions answer as long as its code is in place. -/
def GovernedCall.run (g : Governed) : GovernedCall → Except GovernedRefusal Governed
  | .atProvider outside caller call =>
    match call.run outside g.provider caller.party with
    | .ok provider => .ok { g with provider }
    | .error refusal => .error (.provider refusal)
  | .atConfigurator caller call => g.configure caller.party call
  | .atPool caller setter => g.setInPool caller.party setter
  | .user call => g.answered (call.run g.protocol)
  | .token call => g.answered (call.run g.protocol)
  | .world event => g.answered (event.run g.protocol)

/-- The protocol as it is deployed and registered with its provider. -/
structure Governed.Genesis (g : Governed) : Prop where
  protocol : Confetti.Genesis g.protocol
  inPlace : g.provider.InPlace

def governed : System Governed GovernedCall GovernedRefusal := ⟨Governed.Genesis, GovernedCall.run⟩

variable {g g' : Governed} {caller : Caller} {history : List (Transition Governed GovernedCall)}

theorem Governed.answered_eq_ok {x : Except Revert State} :
    g.answered x = .ok g' ↔ ∃ protocol, x = .ok protocol ∧ g' = { g with protocol } := by
  cases x with
  | error reason => simp [answered]
  | ok protocol => simp [answered, eq_comm]

theorem Governed.configure_eq_ok {party : Party} {call : AdminCall} :
    g.configure party call = .ok g' ↔ g.provider.addresses call.role = party ∧
      g.provider.addresses .LEND_POOL_CONFIGURATOR = configuratorProxy ∧
        ∃ protocol, call.run g.protocol = .ok protocol ∧ g' = { g with protocol } := by
  cases call <;> simp [configure, AdminCall.role, onlyPoolAdmin, onlyEmergencyAdmin,
    onlyLendPoolConfigurator, bind_eq_ok, answered_eq_ok]

theorem provider_eq_ok {outside : Outside} {call : ProviderCall} :
    (GovernedCall.atProvider outside caller call).run g = .ok g' ↔
      ∃ provider, call.run outside g.provider caller.party = .ok provider ∧
        g' = { g with provider } := by
  cases hrun : call.run outside g.provider caller.party with
  | error refusal => simp [GovernedCall.run, hrun]
  | ok provider => simp [GovernedCall.run, hrun, eq_comm]

/-! ### The contracts in place -/

/-- A call that is accepted exchanges none of the protocol's code. -/
def Governed.KeepsCode (g : Governed) (call : GovernedCall) : Prop :=
  match call.run g with
  | .ok g' => g.provider.SameCode g'.provider
  | .error _ => True

instance (g : Governed) (call : GovernedCall) : Decidable (g.KeepsCode call) :=
  match h : call.run g with
  | .ok g' => decidable_of_iff (g.provider.SameCode g'.provider) (by simp [Governed.KeepsCode, h])
  | .error _ => .isTrue (by simp [Governed.KeepsCode, h])

/-- What is reached without exchanging the code. With other code it is no longer this protocol. -/
def ReachableInPlace (g : Governed) : Prop :=
  ∃ g₀ history, g₀.Genesis ∧ Run governed g₀ history g ∧
    ∀ t ∈ history, t.pre.KeepsCode t.label

/-- The protocol is in one of its own states, and in place. -/
structure Standing (g : Governed) : Prop where
  inPlace : g.provider.InPlace
  protocol : Reachable operations g.protocol

/-- In place, nobody passes for the configurator. -/
theorem setInPool_refused (hplace : g.provider.InPlace) (caller : Caller) (setter : PoolSetter) :
    g.setInPool caller.party setter = .error .LP_CALLER_NOT_LEND_POOL_CONFIGURATOR := by
  have hne : g.provider.addresses .LEND_POOL_CONFIGURATOR ≠ caller.party := by
    intro heq
    have halone := caller.actsAlone
    rw [← heq, hplace.configurator] at halone
    cases halone
  unfold Governed.setInPool Governed.onlyLendPoolConfigurator require
  rw [if_neg hne]
  rfl

/-- The accepted calls: of the provider, by the holder of a role, or by anybody. -/
inductive GovernedStep (g : Governed) (call : GovernedCall) : Governed → Prop
  | provider {outside : Outside} {caller : Caller} {action : ProviderCall}
      {provider : AddressesProvider} (hcall : call = .atProvider outside caller action)
      (h : action.run outside g.provider caller.party = .ok provider) :
      GovernedStep g call { g with provider }
  | configurator {caller : Caller} {action : AdminCall} {protocol : State}
      (hcall : call = .atConfigurator caller action)
      (hrole : g.provider.addresses action.role = caller.party)
      (h : Operation.run g.protocol (.admin action) = .ok protocol) :
      GovernedStep g call { g with protocol }
  | anybody {protocol : State} (operation : Operation)
      (haside : ∀ action, operation ≠ .admin action)
      (h : operation.run g.protocol = .ok protocol) : GovernedStep g call { g with protocol }

theorem GovernedStep.of_run {call : GovernedCall} (hplace : g.provider.InPlace)
    (h : call.run g = .ok g') : GovernedStep g call g' := by
  cases call with
  | atProvider outside caller action =>
    obtain ⟨provider, hrun, rfl⟩ := provider_eq_ok.mp h
    exact .provider rfl hrun
  | atConfigurator caller action =>
    obtain ⟨hrole, -, protocol, hrun, rfl⟩ := Governed.configure_eq_ok.mp h
    exact .configurator rfl hrole hrun
  | atPool caller setter =>
    have hrefused := setInPool_refused hplace caller setter
    rw [show g.setInPool caller.party setter = .ok g' from h] at hrefused
    cases hrefused
  | user action =>
    obtain ⟨protocol, hrun, rfl⟩ := Governed.answered_eq_ok.mp h
    exact .anybody (.user action) nofun hrun
  | token action =>
    obtain ⟨protocol, hrun, rfl⟩ := Governed.answered_eq_ok.mp h
    exact .anybody (.token action) nofun hrun
  | world event =>
    obtain ⟨protocol, hrun, rfl⟩ := Governed.answered_eq_ok.mp h
    exact .anybody (.world event) nofun hrun

theorem GovernedStep.reachable {call : GovernedCall} (hs : Reachable operations g.protocol)
    (h : GovernedStep g call g') : Reachable operations g'.protocol := by
  cases h with
  | provider _ _ => exact hs
  | @configurator caller action protocol _ _ h =>
    have hstep : operations.step g.protocol (.admin action) = .ok protocol := h
    exact .step hs hstep
  | @anybody protocol operation _ h =>
    have hstep : operations.step g.protocol operation = .ok protocol := h
    exact .step hs hstep

theorem Standing.step {call : GovernedCall} (hg : Standing g) (hkeeps : g.KeepsCode call)
    (h : call.run g = .ok g') : Standing g' := by
  unfold Governed.KeepsCode at hkeeps
  rw [h] at hkeeps
  exact ⟨hkeeps.inPlace hg.inPlace, (GovernedStep.of_run hg.inPlace h).reachable hg.protocol⟩

theorem ReachableInPlace.standing (h : ReachableInPlace g) : Standing g := by
  obtain ⟨g₀, history, hg₀, hrun, hkeeps⟩ := h
  have hstep : ∀ m call m', Reachable governed m → m.KeepsCode call → Standing m →
      governed.step m call = .ok m' → Standing m' :=
    fun _ _ _ _ hkeeps hm h => hm.step hkeeps h
  exact (Run.preserves hstep hrun (.initial hg₀) hkeeps ⟨hg₀.inPlace, .initial hg₀.protocol⟩).1

theorem ReachableInPlace.initial (hg : g.Genesis) : ReachableInPlace g :=
  ⟨g, [], hg, .nil g, fun _ ht => absurd ht List.not_mem_nil⟩

theorem ReachableInPlace.reachable (h : ReachableInPlace g) : Reachable governed g := by
  obtain ⟨g₀, history, hg₀, hrun, -⟩ := h
  exact hrun.reachable (.initial hg₀)

theorem ReachableInPlace.run (hg : ReachableInPlace g) (hrun : Run governed g history g')
    (hkeeps : ∀ t ∈ history, t.pre.KeepsCode t.label) : ReachableInPlace g' := by
  obtain ⟨g₀, before, hg₀, hbefore, hkeeps₀⟩ := hg
  refine ⟨g₀, before ++ history, hg₀, hbefore.append hrun, fun t ht => ?_⟩
  rcases List.mem_append.mp ht with hold | hnew
  · exact hkeeps₀ t hold
  · exact hkeeps t hnew

end Confetti

import Confetti.Access.Governance
import Confetti.Access.Parameters
import Confetti.Properties.ProxyLives
import Confetti.Protocol.Deployment

/-! The roles of the protocol. Behind its checks of the callers nothing becomes possible that
the admins' own calls could not do, and whatever changes was changed by whoever held the
role for it at that moment. -/
namespace Confetti
open Outcome TransitionSystem

variable {g g' : Governed} {s : State}
  {history : List (Transition Governed GovernedCall)}

/-! ### The protocol behind the roles -/

/-- A provider right after deployment, with one account in all roles. -/
def sampleRegistry : AddressesProvider where
  owner := .account 1
  marketId := "Confetti"
  addresses
    | .LEND_POOL => lendPoolProxy
    | .LEND_POOL_CONFIGURATOR => configuratorProxy
    | .LEND_POOL_LOAN => lendPoolLoanProxy
    | .POOL_ADMIN | .EMERGENCY_ADMIN => .account 1
    | .CNFT_REGISTRY => .account 8
    | _ => .zero
  deployed := 3
  proxies := fun n => ⟨.account (n + 10), .addressesProvider⟩

theorem sampleRegistry_inPlace : sampleRegistry.InPlace :=
  ⟨rfl, rfl, rfl, by decide, rfl, fun _ _ => rfl⟩

theorem sampleRegistry_role (call : AdminCall) :
    sampleRegistry.addresses call.role = .account 1 := by
  cases call <;> rfl

/-- The call that brings about an operation when one account has all roles. -/
def Operation.governed : Operation → GovernedCall
  | .user call => .user call
  | .token call => .token call
  | .admin call => .atConfigurator (.account 1) call
  | .world event => .world event

theorem Operation.governed_run {operation : Operation} {s' : State}
    (h : operation.run s = .ok s') :
    operation.governed.run ⟨s, sampleRegistry⟩ = .ok ⟨s', sampleRegistry⟩ := by
  cases operation with
  | admin call =>
    exact Governed.configure_eq_ok.mpr ⟨sampleRegistry_role call, rfl, s', h, rfl⟩
  | user | token | world => exact Governed.answered_eq_ok.mpr ⟨s', h, rfl⟩

theorem Operation.governed_keepsCode {operation : Operation} {s' : State}
    (h : operation.run s = .ok s') :
    Governed.KeepsCode ⟨s, sampleRegistry⟩ operation.governed := by
  unfold Governed.KeepsCode
  rw [Operation.governed_run h]
  exact ⟨fun _ _ => rfl, fun _ _ => rfl⟩

/-- Without the code in place, whoever is registered as the configurator does as he likes. -/
example :
    let registered := replayed governed ⟨sampleWorld, sampleRegistry⟩
      [.atProvider sampleOutside (.account 1)
        (.setAddress .LEND_POOL_CONFIGURATOR (.account 5))]
    ¬Governed.KeepsCode ⟨sampleWorld, sampleRegistry⟩ (.atProvider sampleOutside (.account 1)
        (.setAddress .LEND_POOL_CONFIGURATOR (.account 5))) ∧
      (replayed governed registered
        [.atPool (.account 5) (.setPause true)]).protocol.pool.paused = true := by
  decide +kernel

/-! ### Who changes what -/

def Governed.byAdmin (role : AddressId) (g : Governed) (call : GovernedCall) : Prop :=
  ∃ caller action, call = .atConfigurator caller action ∧ action.role = role ∧
    g.provider.addresses role = caller.party

def Governed.byOwner (what : ProviderCall → Prop) (g : Governed) (call : GovernedCall) : Prop :=
  ∃ outside caller action, call = .atProvider outside caller action ∧ what action ∧
    g.provider.owner = caller.party

theorem GovernedStep.parameters_kept {call : GovernedCall} (hs : Reachable operations g.protocol)
    (hcause : ¬g.byAdmin .POOL_ADMIN call) (h : GovernedStep g call g') :
    g'.protocol.parameters = g.protocol.parameters := by
  have hreg := regular_of_reachable hs
  cases h with
  | provider _ _ => rfl
  | @configurator caller action protocol hcall hrole h =>
    cases action with
    | setPoolPause val =>
      obtain rfl := pure_eq_ok.mp h
      rfl
    | _ => exact absurd ⟨caller, _, hcall, rfl, hrole⟩ hcause
  | anybody operation haside h =>
    exact (Operation.parameters_kept hreg.sound.wired hreg.book.toFiled haside h).1

theorem GovernedStep.paused_kept {call : GovernedCall} (hs : Reachable operations g.protocol)
    (hcause : ¬g.byAdmin .EMERGENCY_ADMIN call) (h : GovernedStep g call g') :
    g'.protocol.pool.paused = g.protocol.pool.paused := by
  have hreg := regular_of_reachable hs
  cases h with
  | provider _ _ => rfl
  | @configurator caller action protocol hcall hrole h =>
    apply AdminCall.paused_kept _ h
    rintro val rfl
    exact hcause ⟨caller, _, hcall, rfl, hrole⟩
  | anybody operation haside h =>
    exact (Operation.parameters_kept hreg.sound.wired hreg.book.toFiled haside h).2

theorem GovernedStep.addresses_kept {call : GovernedCall} {id : AddressId}
    (hcause : ¬g.byOwner (ProviderCall.names · id) call) (h : GovernedStep g call g') :
    g'.provider.addresses id = g.provider.addresses id := by
  cases h with
  | @provider outside caller action provider hcall h =>
    apply ProviderCall.addresses_eq _ h
    intro hnames
    exact hcause ⟨outside, caller, action, hcall, hnames, (ProviderCall.cases h).1⟩
  | configurator _ _ _ => rfl
  | anybody _ _ _ => rfl

def ProviderCall.handsOver (call : ProviderCall) : Prop :=
  call = .renounceOwnership ∨ ∃ newOwner, call = .transferOwnership newOwner

theorem GovernedStep.owner_kept {call : GovernedCall}
    (hcause : ¬g.byOwner ProviderCall.handsOver call) (h : GovernedStep g call g') :
    g'.provider.owner = g.provider.owner := by
  cases h with
  | @provider outside caller action provider hcall h =>
    have howner := (ProviderCall.cases h).1
    apply ProviderCall.owner_eq _ _ h
    · rintro rfl
      exact hcause ⟨outside, caller, _, hcall, .inl rfl, howner⟩
    · rintro newOwner rfl
      exact hcause ⟨outside, caller, _, hcall, .inr ⟨newOwner, rfl⟩, howner⟩
  | configurator _ _ _ => rfl
  | anybody _ _ _ => rfl

theorem ReachableInPlace.change_caused {β : Type} {view : Governed → β}
    {cause : Governed → GovernedCall → Prop}
    (hkeep : ∀ m call m', Reachable operations m.protocol → ¬cause m call →
      GovernedStep m call m' → view m' = view m)
    (hg : ReachableInPlace g) (hrun : Run governed g history g')
    (hkeeps : ∀ t ∈ history, t.pre.KeepsCode t.label) (hchange : view g' ≠ view g) :
    ∃ t ∈ history, cause t.pre t.label := by
  have hstep : ∀ m call m', Reachable governed m → m.KeepsCode call → Standing m →
      governed.step m call = .ok m' → Standing m' :=
    fun _ _ _ _ hkeeps hm h => hm.step hkeeps h
  apply Run.change_caused hstep _ hrun hg.reachable hkeeps hg.standing hchange
  intro m call m' hm hcause h
  exact hkeep m call m' hm.protocol hcause (GovernedStep.of_run hm.inPlace h)

/-- The owner hands the role of the pool admin to another account, pauses and leaves. -/
def sampleHandover : List GovernedCall :=
  [.atProvider sampleOutside (.account 1) (.setPoolAdmin (.account 2)),
    .atConfigurator (.account 1) (.setMaxNumberOfReserves 40),
    .atConfigurator (.account 2) (.setMaxNumberOfReserves 50),
    .atConfigurator (.account 1) (.setPoolPause true),
    .atProvider sampleOutside (.account 1) .renounceOwnership]

theorem sampleGoverned_genesis : Governed.Genesis ⟨sampleWorld, sampleRegistry⟩ :=
  ⟨State.fresh_genesis (by decide) _ _ _, sampleRegistry_inPlace⟩

theorem sampleGoverned_inPlace : ReachableInPlace ⟨sampleWorld, sampleRegistry⟩ :=
  .initial sampleGoverned_genesis

structure Abandoned (p : AddressesProvider) : Prop where
  owner : p.owner.actsAlone = false
  poolAdmin : (p.addresses .POOL_ADMIN).actsAlone = false
  emergencyAdmin : (p.addresses .EMERGENCY_ADMIN).actsAlone = false

theorem Abandoned.role (h : Abandoned g.provider) (action : AdminCall) (caller : Caller) :
    g.provider.addresses action.role ≠ caller.party := by
  intro hrole
  have hadmin : (g.provider.addresses action.role).actsAlone = false := by
    cases action with
    | setPoolPause val => exact h.emergencyAdmin
    | _ => exact h.poolAdmin
  rw [hrole, caller.actsAlone] at hadmin
  cases hadmin

theorem Abandoned.step {call : GovernedCall} (ha : Abandoned g.provider)
    (hs : Reachable operations g.protocol) (h : GovernedStep g call g') :
    g'.provider = g.provider ∧ g'.protocol.parameters = g.protocol.parameters ∧
      g'.protocol.pool.paused = g.protocol.pool.paused := by
  have hreg := regular_of_reachable hs
  cases h with
  | @provider _ caller _ _ _ h =>
    have howner := ha.owner
    rw [(ProviderCall.cases h).1, caller.actsAlone] at howner
    cases howner
  | configurator _ hrole _ => exact absurd hrole (ha.role _ _)
  | anybody operation haside h =>
    exact ⟨rfl, Operation.parameters_kept hreg.sound.wired hreg.book.toFiled haside h⟩

def sampleFarewell : List GovernedCall :=
  [.atProvider sampleOutside (.account 1) (.setPoolAdmin .zero),
    .atProvider sampleOutside (.account 1) (.setEmergencyAdmin .zero),
    .atProvider sampleOutside (.account 1) .renounceOwnership]

def sampleVisitors : List GovernedCall :=
  [.world (.tick 86400), .token (.mint (.account 100) (.account 1) 5),
    .atConfigurator (.account 1) (.setPoolPause true), .atPool (.account 1) (.setPause true)]

end Confetti

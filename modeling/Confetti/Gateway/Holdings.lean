import Mathlib.Algebra.Group.Pi.Lemmas
import Mathlib.Algebra.Order.Ring.Int
import Mathlib.Tactic.Abel
import Confetti.Effects.Payment
import Confetti.Gateway.World

/-! What everybody holds, as one sheet of numbers to which moves are added. -/
namespace Confetti
open Outcome TransitionSystem

/-- Ether, the tokens of the reserves, and the scaled positions in their cTokens. -/
inductive Coin
  | ether
  | token (asset : Address)
  | cToken (asset : Address)
  deriving DecidableEq, Repr

abbrev Sheet := Address → Coin → ℤ

def entry (a : Address) (k : Coin) (v : ℤ) : Sheet := Pi.single a (Pi.single k v)

def column (k : Coin) (q : Address → ℤ) : Sheet := fun a => Pi.single k (q a)

def State.holdings (s : State) : Sheet
  | _, .ether => 0
  | a, .token asset => (s.erc20 asset).balances a
  | a, .cToken asset => (s.cTokens asset).ledger.balances a

def amounts (balances : Address → Nat) : Address → ℤ := fun a => balances a

namespace World

variable (w : World)

def holdings : Sheet := w.state.holdings + column .ether (amounts w.ether)

/-- What the recorded calls of the pool gave to everybody, and took where negative. -/
def given : Sheet := (w.poolCalls.map fun t => t.post.holdings - t.pre.holdings).sum

/-- What everybody holds apart from what the recorded calls of the pool gave. -/
def own : Sheet := w.holdings - w.given

theorem own_add_given : w.own + w.given = w.holdings := sub_add_cancel _ _

end World

section Sheets

variable {a b : Address} {k : Coin} {v v' : ℤ} {q q' : Address → ℤ}

theorem entry_apply (a b : Address) (k : Coin) (v : ℤ) :
    entry a k v b = if b = a then Pi.single k v else 0 := by
  unfold entry
  rw [Pi.single_apply]

@[simp] theorem entry_self : entry a k v a = Pi.single k v := by
  unfold entry
  rw [Pi.single_eq_same]

theorem entry_of_ne (h : b ≠ a) : entry a k v b = 0 := by
  unfold entry
  rw [Pi.single_eq_of_ne h]

@[simp] theorem entry_zero : entry a k 0 = 0 := by
  unfold entry
  rw [Pi.single_zero, Pi.single_zero]

theorem entry_add : entry a k (v + v') = entry a k v + entry a k v' := by
  unfold entry
  rw [Pi.single_add, Pi.single_add]

theorem entry_neg : entry a k (-v) = -entry a k v := by
  unfold entry
  rw [Pi.single_neg, Pi.single_neg]

theorem entry_sub : entry a k (v - v') = entry a k v - entry a k v' := by
  unfold entry
  rw [Pi.single_sub, Pi.single_sub]

theorem column_add : column k (q + q') = column k q + column k q' := by
  funext a j
  simp only [column, Pi.add_apply, Pi.single_apply]
  split
  · rfl
  · rfl

theorem column_sub : column k (q - q') = column k q - column k q' := by
  funext a j
  simp only [column, Pi.sub_apply, Pi.single_apply]
  split
  · rfl
  · rfl

theorem column_single : column k (Pi.single a v) = entry a k v := by
  funext b
  rw [entry_apply]
  unfold column
  rw [Pi.single_apply]
  split
  · rfl
  · rw [Pi.single_zero]

theorem amounts_moved {balances : Address → Nat} {sender recipient : Address} {amount : Nat}
    (h : amount ≤ balances sender) :
    amounts (ERC20.moved balances sender recipient amount) =
      amounts balances + (Pi.single recipient (amount : ℤ) - Pi.single sender (amount : ℤ)) := by
  funext holder
  simp only [amounts, ERC20.moved, Pi.add_apply, Pi.sub_apply, Pi.single_apply,
    Function.update_apply]
  by_cases hsender : holder = sender
  · subst hsender
    by_cases hrecipient : holder = recipient
    · subst hrecipient
      simp only [if_pos]
      omega
    · simp only [if_neg hrecipient, if_pos]
      omega
  · by_cases hrecipient : holder = recipient
    · subst hrecipient
      simp only [if_neg hsender, if_pos]
      omega
    · simp only [if_neg hsender, if_neg hrecipient]
      omega

theorem amounts_update {balances : Address → Nat} {v : Nat} :
    amounts (Function.update balances a v) =
      amounts balances + Pi.single a ((v : ℤ) - balances a) := by
  funext holder
  simp only [amounts, Pi.add_apply, Pi.single_apply, Function.update_apply]
  split
  · rename_i heq
    rw [heq]
    omega
  · omega

end Sheets

/-! ### Payments -/

section Payments

variable {token spender sender recipient : Address} {amount : Nat}
  {first next : ERC20 → Except Revert ERC20} {events events' : List Transfer}

def flows (events : List Transfer) : Address → ℤ :=
  (events.map fun e => Pi.single e.recipient (e.amount : ℤ) - Pi.single e.sender (e.amount : ℤ)).sum

/-- The events of a program settle what everybody gains and loses. -/
def Settles (program : ERC20 → Except Revert ERC20) (events : List Transfer) : Prop :=
  ∀ self self', program self = .ok self' →
    amounts self'.balances = amounts self.balances + flows events

theorem flows_append (later earlier : List Transfer) :
    flows (later ++ earlier) = flows later + flows earlier := by
  unfold flows
  rw [List.map_append, List.sum_append]

theorem settles_transfer :
    Settles (fun self => ERC20.transfer token self sender recipient amount)
      [⟨token, sender, recipient, amount⟩] := by
  intro self self' h
  obtain ⟨-, -, hle, -, rfl⟩ := ERC20.transfer_eq_ok.mp h
  simp only [flows, List.map_cons, List.map_nil, List.sum_singleton]
  exact amounts_moved hle

theorem settles_transferFrom :
    Settles (fun self => ERC20.transferFrom token self spender sender recipient amount)
      [⟨token, sender, recipient, amount⟩] := by
  intro self self' h
  obtain ⟨-, -, -, hle, -, -, rfl⟩ := ERC20.transferFrom_eq_ok.mp h
  simp only [flows, List.map_cons, List.map_nil, List.sum_singleton]
  exact amounts_moved hle

theorem Settles.ite {condition : Prop} [Decidable condition] (h : Settles first events) :
    Settles (fun self => if condition then first self else pure self)
      (if condition then events else []) := by
  intro self self' hself
  by_cases hcondition : condition
  · simp only [if_pos hcondition] at hself ⊢
    exact h self self' hself
  · simp only [if_neg hcondition, pure_eq_ok] at hself ⊢
    rw [hself]
    exact (add_zero _).symm

theorem Settles.bind (hfirst : Settles first events) (hnext : Settles next events') :
    Settles (fun self => first self >>= next) (events' ++ events) := by
  intro self self' h
  obtain ⟨m, hm, h⟩ := bind_eq_ok.mp h
  rw [hnext m self' h, hfirst self m hm, flows_append]
  abel

end Payments

section Moves

variable {s s' : State} {asset : Address} {q : Address → ℤ}

theorem holdings_of_token (hcTokens : s'.cTokens = s.cTokens) {ledger : ERC20}
    (herc20 : s'.erc20 = Function.update s.erc20 asset ledger)
    (hledger : amounts ledger.balances = amounts (s.erc20 asset).balances + q) :
    s'.holdings = s.holdings + column (.token asset) q := by
  funext a k
  cases k with
  | ether => simp [State.holdings, column]
  | cToken other => simp [State.holdings, column, hcTokens]
  | token other =>
    simp only [State.holdings, Pi.add_apply, herc20, column]
    by_cases hother : other = asset
    · subst hother
      rw [Function.update_self, Pi.single_eq_same]
      exact congrFun hledger a
    · rw [Function.update_of_ne hother, Pi.single_eq_of_ne (fun h => hother (Coin.token.inj h)),
        add_zero]

theorem holdings_of_cToken (herc20 : s'.erc20 = s.erc20) {cToken : CToken}
    (hcTokens : s'.cTokens = Function.update s.cTokens asset cToken)
    (hledger : amounts cToken.ledger.balances =
      amounts (s.cTokens asset).ledger.balances + q) :
    s'.holdings = s.holdings + column (.cToken asset) q := by
  funext a k
  cases k with
  | ether => simp [State.holdings, column]
  | token other => simp [State.holdings, column, herc20]
  | cToken other =>
    simp only [State.holdings, Pi.add_apply, hcTokens, column]
    by_cases hother : other = asset
    · subst hother
      rw [Function.update_self, Pi.single_eq_same]
      exact congrFun hledger a
    · rw [Function.update_of_ne hother, Pi.single_eq_of_ne (fun h => hother (Coin.cToken.inj h)),
        add_zero]

theorem holdings_congr (herc20 : s'.erc20 = s.erc20) (hcTokens : s'.cTokens = s.cTokens) :
    s'.holdings = s.holdings := by
  funext a k
  cases k <;> simp [State.holdings, herc20, hcTokens]

variable {w : World} {call : UserCall}

theorem given_called (w : World) (call : UserCall) (s' : State) :
    (w.called call s').given = w.given + (s'.holdings - w.state.holdings) := by
  simp [World.given, World.called]

theorem own_called (w : World) (call : UserCall) (s' : State) : (w.called call s').own = w.own := by
  have hholdings : (w.called call s').holdings =
      w.holdings + (s'.holdings - w.state.holdings) := by
    unfold World.holdings World.called
    abel
  unfold World.own
  rw [given_called, hholdings]
  abel

end Moves

end Confetti

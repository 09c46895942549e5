import Confetti.Protocol.State

/-! Payments: programs on the ledger of one token together with the events they
leave behind. An operation's payments compose into one. -/
namespace Confetti
open Outcome

/-- The state after a program on one token and its events, newest first. -/
def State.pays (s : State) (asset : Address) (token : ERC20) (events : List Transfer) : State :=
  { s with
    erc20 := Function.update s.erc20 asset token
    transfers := events ++ s.transfers }

def Paid (s : State) (asset : Address) (program : ERC20 → Except Revert ERC20)
    (events : List Transfer) (s' : State) : Prop :=
  ∃ token, program (s.erc20 asset) = .ok token ∧ s' = s.pays asset token events

variable {s s' : State} {asset spender sender recipient : Address} {amount : Nat}
  {first next : ERC20 → Except Revert ERC20} {events events' : List Transfer}

theorem safeTransfer_eq_paid :
    s.safeTransfer asset sender recipient amount = .ok s' ↔
      Paid s asset (fun token => ERC20.transfer asset token sender recipient amount)
        [⟨asset, sender, recipient, amount⟩] s' :=
  State.safeTransfer_eq_ok

theorem safeTransferFrom_eq_paid :
    s.safeTransferFrom asset spender sender recipient amount = .ok s' ↔
      Paid s asset (fun token => ERC20.transferFrom asset token spender sender recipient amount)
        [⟨asset, sender, recipient, amount⟩] s' :=
  State.safeTransferFrom_eq_ok

theorem pays_nothing (s : State) (asset : Address) : s.pays asset (s.erc20 asset) [] = s := by
  simp [State.pays]

theorem pure_eq_paid (s s' : State) (asset : Address) :
    (pure s : Except Revert State) = .ok s' ↔ Paid s asset pure [] s' := by
  rw [pure_eq_ok]
  constructor
  · rintro rfl
    exact ⟨_, rfl, (pays_nothing s asset).symm⟩
  · rintro ⟨_, htoken, rfl⟩
    rw [← pure_eq_ok.mp htoken, pays_nothing]

theorem ite_eq_paid {condition : Prop} [Decidable condition] {program : Except Revert State}
    (h : program = .ok s' ↔ Paid s asset first events s') :
    (if condition then program else pure s) = .ok s' ↔
      Paid s asset (fun token => if condition then first token else pure token)
        (if condition then events else []) s' := by
  by_cases hcondition : condition
  · simp only [if_pos hcondition]
    exact h
  · simp only [if_neg hcondition]
    exact pure_eq_paid s s' asset

theorem paid_comp :
    (∃ m, Paid s asset first events m ∧ Paid m asset next events' s') ↔
      Paid s asset (fun token => first token >>= next) (events' ++ events) s' := by
  constructor
  · rintro ⟨_, ⟨token, hfirst, rfl⟩, token', hnext, rfl⟩
    refine ⟨token', ?_, ?_⟩
    · simp only [State.pays, Function.update_self] at hnext
      exact bind_eq_ok.mpr ⟨token, hfirst, hnext⟩
    · simp [State.pays]
  · rintro ⟨token', hboth, rfl⟩
    obtain ⟨token, hfirst, hnext⟩ := bind_eq_ok.mp hboth
    refine ⟨s.pays asset token events, ⟨token, hfirst, rfl⟩, token', ?_, ?_⟩
    · simp only [State.pays, Function.update_self]
      exact hnext
    · simp [State.pays]

def Keeps (inv : ERC20 → Prop) (program : ERC20 → Except Revert ERC20) : Prop :=
  ∀ self self', inv self → program self = .ok self' → inv self'

theorem Keeps.bind {inv : ERC20 → Prop} (hfirst : Keeps inv first) (hnext : Keeps inv next) :
    Keeps inv (fun self => first self >>= next) := by
  intro self self' hinv h
  obtain ⟨m, hm, h⟩ := bind_eq_ok.mp h
  exact hnext m self' (hfirst self m hinv hm) h

theorem Keeps.ite {inv : ERC20 → Prop} {condition : Prop} [Decidable condition]
    (h : Keeps inv first) : Keeps inv (fun self => if condition then first self else pure self) := by
  intro self self' hinv hself
  by_cases hcondition : condition
  · simp only [if_pos hcondition] at hself
    exact h self self' hinv hself
  · simp only [if_neg hcondition, pure_eq_ok] at hself
    exact hself ▸ hinv

/-- What a payment does to the ledgers and the event log, in an operation that does
other things besides. -/
structure Cash (s : State) (asset : Address) (program : ERC20 → Except Revert ERC20)
    (events : List Transfer) (s' : State) : Prop where
  ledger : ∃ token, program (s.erc20 asset) = .ok token ∧
    s'.erc20 = Function.update s.erc20 asset token
  transfers : s'.transfers = events ++ s.transfers

def newTransfers (s s' : State) : List Transfer :=
  s'.transfers.take (s'.transfers.length - s.transfers.length)

theorem Cash.newTransfers (h : Cash s asset first events s') : newTransfers s s' = events := by
  unfold Confetti.newTransfers
  rw [h.transfers, List.length_append, Nat.add_sub_cancel, List.take_left]

/-! ### What the events say about the balances -/

def settled (balances : Address → Nat) (events : List Transfer) : Address → Nat :=
  events.foldr (fun e balances => ERC20.moved balances e.sender e.recipient e.amount) balances

theorem settled_append (balances : Address → Nat) (later earlier : List Transfer) :
    settled balances (later ++ earlier) = settled (settled balances earlier) later :=
  List.foldr_append

def Recorded (program : ERC20 → Except Revert ERC20) (events : List Transfer) : Prop :=
  ∀ self self', program self = .ok self' → self'.balances = settled self.balances events

theorem recorded_transfer (token : Address) :
    Recorded (fun self => ERC20.transfer token self sender recipient amount)
      [⟨token, sender, recipient, amount⟩] := by
  intro self self' h
  obtain ⟨-, -, -, -, rfl⟩ := ERC20.transfer_eq_ok.mp h
  rfl

theorem recorded_transferFrom (token : Address) :
    Recorded (fun self => ERC20.transferFrom token self spender sender recipient amount)
      [⟨token, sender, recipient, amount⟩] := by
  intro self self' h
  obtain ⟨-, -, -, -, -, -, rfl⟩ := ERC20.transferFrom_eq_ok.mp h
  rfl

theorem Recorded.ite {condition : Prop} [Decidable condition] (h : Recorded first events) :
    Recorded (fun self => if condition then first self else pure self)
      (if condition then events else []) := by
  intro self self' hself
  by_cases hcondition : condition
  · simp only [if_pos hcondition] at hself ⊢
    exact h self self' hself
  · simp only [if_neg hcondition, pure_eq_ok] at hself ⊢
    subst hself
    rfl

theorem Recorded.bind (hfirst : Recorded first events) (hnext : Recorded next events') :
    Recorded (fun self => first self >>= next) (events' ++ events) := by
  intro self self' h
  obtain ⟨m, hm, h⟩ := bind_eq_ok.mp h
  rw [hnext m self' h, hfirst self m hm, settled_append]

theorem Cash.balances (h : Cash s asset first events s') (hrecorded : Recorded first events) :
    (s'.erc20 asset).balances = settled (s.erc20 asset).balances events := by
  obtain ⟨token, htoken, herc20⟩ := h.ledger
  rw [herc20, Function.update_self]
  exact hrecorded _ _ htoken

end Confetti

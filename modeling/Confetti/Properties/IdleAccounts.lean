import Confetti.Properties.DelegatedCredit
import Confetti.Properties.DepositorBalances

/-! What everybody else can do to an account that makes no call. Approving the protocol's own
contracts is no risk: they use an approval only in calls of the account itself. Other accounts
may be trusted as well, as long as they make no use of it. -/
namespace Confetti
open Outcome TransitionSystem

variable {trusted : Nat → Prop} {s₀ s s' : State} {n : Nat} {asset nftAsset : Address}
  {tokenId : Nat} {operation : Operation} {history : List (Transition State Operation)}

/-! ### Who calls -/

def UserCall.caller : UserCall → Option Nat
  | .deposit caller .. | .withdraw caller .. | .borrow caller .. | .repay caller .. => some caller
  | .buyItNow caller .. | .redeem caller .. | .liquidate caller .. => some caller
  | .transferCToken caller .. | .transferCTokenFrom caller .. => some caller
  | .approveCToken caller .. | .approveDelegation caller .. => some caller
  | .createCNFT _ => none

def TokenCall.caller : TokenCall → Option Nat
  | .transfer caller .. | .transferFrom caller .. | .approve caller .. => some caller
  | .burn caller .. | .transferNFT caller .. | .safeTransferNFT caller .. => some caller
  | .approveNFT caller .. | .setApprovalForAll caller .. | .burnNFT caller .. => some caller
  | .mintCNFT caller .. | .burnCNFT caller .. => some caller
  | .mint .. | .mintNFT .. => none

def Operation.caller : Operation → Option Nat
  | .user call => call.caller
  | .token call => call.caller
  | .admin _ | .world _ => none

/-- The call needs an approval of the account, unless it is its own. -/
def UserCall.Draws (n : Nat) : UserCall → Prop
  | .borrow _ _ _ _ _ onBehalfOf => onBehalfOf = .account n
  | .transferCTokenFrom _ _ sender _ _ => sender = .account n
  | _ => False

def TokenCall.Draws (n : Nat) (s : State) : TokenCall → Prop
  | .transferFrom _ _ sender _ _ => sender = .account n
  | .transferNFT _ _ sender _ _ | .safeTransferNFT _ _ sender _ _ => sender = .account n
  | .approveNFT _ nftAsset _ tokenId | .burnNFT _ nftAsset tokenId =>
    (s.erc721 nftAsset).owners tokenId = .account n
  | _ => False

def Operation.Draws (n : Nat) (s : State) : Operation → Prop
  | .user call => call.Draws n
  | .token call => call.Draws n s
  | .admin _ | .world _ => False

/-- The operation is not the account's own, and nobody uses its trust. -/
structure Operation.Respects (trusted : Nat → Prop) (n : Nat) (s : State)
    (operation : Operation) : Prop where
  caller : operation.caller ≠ some n
  entrusted : ∀ m, operation.caller = some m → trusted m → ¬operation.Draws n s

theorem Operation.Respects.untrusted {m : Nat} (h : operation.Respects trusted n s)
    (hcaller : operation.caller = some m) (hdraws : operation.Draws n s) : ¬trusted m :=
  fun hm => h.entrusted m hcaller hm hdraws

theorem account_ne {m : Nat} (h : some m ≠ some n) : Address.account m ≠ .account n := by
  simpa using h

/-! ### Fungible tokens -/

/-- The account has at least the amount, and no account may spend it but the trusted ones. -/
structure ERC20.Reserved (trusted : Nat → Prop) (n amount : Nat) (ledger : ERC20) : Prop where
  balance : amount ≤ ledger.balances (.account n)
  unapproved : ∀ m, ¬trusted m → ledger.allowances (.account n) (.account m) = 0

section Tokens

variable {token sender recipient spender owner holder : Address} {ledger : ERC20}
  {amount value scaled : Nat}

theorem ERC20.Reserved.moved (h : ledger.Reserved trusted n amount)
    (hsender : sender ≠ .account n) : ERC20.Reserved trusted n amount { ledger with
      balances := ERC20.moved ledger.balances sender recipient value } where
  balance := h.balance.trans (ERC20.le_moved (Ne.symm hsender))
  unapproved := h.unapproved

theorem ERC20.Reserved.allowed (h : ledger.Reserved trusted n amount)
    (howner : owner = .account n → value = 0) :
    ERC20.Reserved trusted n amount { ledger with
      allowances := ERC20.allowed ledger.allowances owner spender value } := by
  refine ⟨h.balance, fun m hm => ?_⟩
  have hold := h.unapproved m hm
  simp only [ERC20.allowed]
  by_cases hown : owner = .account n
  · rw [← hown, Function.update_self]
    by_cases hspender : spender = .account m
    · rw [← hspender, Function.update_self, howner hown]
    · rw [Function.update_of_ne (Ne.symm hspender), hown]
      exact hold
  · rw [Function.update_of_ne (Ne.symm hown)]
    exact hold

theorem reserved_transfer (hsender : sender ≠ .account n) : Keeps (ERC20.Reserved trusted n amount)
    (fun ledger => ERC20.transfer token ledger sender recipient value) := by
  intro ledger ledger' h htransfer
  obtain ⟨-, -, -, -, rfl⟩ := ERC20.transfer_eq_ok.mp htransfer
  exact h.moved hsender

/-- Who is not trusted spends, or a contract of the protocol on behalf of another account. -/
theorem reserved_transferFrom
    (hspender : sender = .account n → ∃ m, ¬trusted m ∧ spender = .account m) :
    Keeps (ERC20.Reserved trusted n amount)
      (fun ledger => ERC20.transferFrom token ledger spender sender recipient value) := by
  intro ledger ledger' h htransfer
  obtain ⟨-, -, -, hbalance, -, hallowed, rfl⟩ := ERC20.transferFrom_eq_ok.mp htransfer
  have hnothing : sender = .account n → value = 0 := by
    rintro rfl
    obtain ⟨m, hm, rfl⟩ := hspender rfl
    rw [h.unapproved m hm] at hallowed
    omega
  have hmoved : ERC20.Reserved trusted n amount { ledger with
      balances := ERC20.moved ledger.balances sender recipient value } := by
    refine ⟨?_, h.unapproved⟩
    by_cases hsender : sender = .account n
    · obtain rfl := hnothing hsender
      exact h.balance.trans (ERC20.le_moved_add hbalance)
    · exact (h.moved hsender).balance
  apply hmoved.allowed
  intro hsender
  obtain ⟨m, hm, rfl⟩ := hspender hsender
  rw [hsender, h.unapproved m hm]
  exact Nat.zero_sub _

theorem reserved_approve (howner : owner ≠ .account n) : Keeps (ERC20.Reserved trusted n amount)
    (fun ledger => ERC20.approve token ledger owner spender value) := by
  intro ledger ledger' h happrove
  obtain ⟨-, rfl⟩ := ERC20.approve_eq_ok.mp happrove
  exact h.allowed fun heq => absurd heq howner

theorem ERC20.Reserved.credited (h : ledger.Reserved trusted n amount) (supply : Nat) :
    ERC20.Reserved trusted n amount { ledger with
      totalSupply := supply
      balances := Function.update ledger.balances holder (ledger.balances holder + value) } := by
  refine ⟨h.balance.trans ?_, h.unapproved⟩
  simp only [Function.update_apply]
  split
  · rename_i heq
    rw [heq]
    exact Nat.le_add_right _ _
  · exact Nat.le_refl _

theorem ERC20.Reserved.debited (h : ledger.Reserved trusted n amount) (supply : Nat)
    (hholder : holder ≠ .account n) :
    ERC20.Reserved trusted n amount { ledger with
      totalSupply := supply
      balances := Function.update ledger.balances holder (ledger.balances holder - value) } := by
  refine ⟨?_, h.unapproved⟩
  simp only [Function.update_of_ne (Ne.symm hholder)]
  exact h.balance

theorem reserved_mint : Keeps (ERC20.Reserved trusted n amount)
    (fun ledger => ERC20.mint token ledger holder value) := by
  intro ledger ledger' h hmint
  obtain ⟨-, -, -, rfl⟩ := ERC20.mint_eq_ok.mp hmint
  exact h.credited _

theorem reserved_burn (hholder : holder ≠ .account n) : Keeps (ERC20.Reserved trusted n amount)
    (fun ledger => ERC20.burn token ledger holder value) := by
  intro ledger ledger' h hburn
  obtain ⟨-, -, -, rfl⟩ := ERC20.burn_eq_ok.mp hburn
  exact h.debited _ hholder

def TokensReserved (trusted : Nat → Prop) (n : Nat) (amounts : Address → Nat) (s : State) : Prop :=
  ∀ token, (s.erc20 token).Reserved trusted n (amounts token)

variable {amounts : Address → Nat}

theorem TokensReserved.of_program (h : TokensReserved trusted n amounts s)
    {program : ERC20 → Except Revert ERC20}
    (hkeeps : Keeps (ERC20.Reserved trusted n (amounts token)) program)
    (hprogram : program (s.erc20 token) = .ok ledger)
    (herc20 : s'.erc20 = Function.update s.erc20 token ledger) :
    TokensReserved trusted n amounts s' := by
  intro other
  rw [herc20, Function.update_apply]
  split
  · rename_i heq
    rw [heq]
    exact hkeeps _ _ (h token) hprogram
  · exact h other

theorem TokensReserved.of_cash {program : ERC20 → Except Revert ERC20} {events : List Transfer}
    (h : TokensReserved trusted n amounts s)
    (hkeeps : Keeps (ERC20.Reserved trusted n (amounts token)) program)
    (hcash : Cash s token program events s') : TokensReserved trusted n amounts s' := by
  obtain ⟨ledger, hledger, herc20⟩ := hcash.ledger
  exact h.of_program hkeeps hledger herc20

theorem PoolAction.tokensReserved (h : TokensReserved trusted n amounts s)
    (hcaller : operation.caller ≠ some n) (haction : PoolAction s operation s') :
    TokensReserved trusted n amounts s' := by
  have hown : ∀ {initiator : Address} {m : Nat}, initiator = .account m → some m ≠ some n →
      initiator = .account n → ∃ m', ¬trusted m' ∧ Address.lendPool = .account m' := by
    rintro _ m rfl hm heq
    exact absurd heq (account_ne hm)
  cases haction with
  | deposit hcall heffect =>
    subst hcall
    exact h.of_cash (reserved_transferFrom (hown rfl hcaller)) heffect.cash
  | withdraw hcall heffect => exact h.of_cash (reserved_transfer (by simp)) heffect.cash
  | borrow hcall hn heffect => exact h.of_cash (reserved_transfer (by simp)) heffect.cash
  | repay hcall hn heffect =>
    subst hcall
    exact h.of_cash (reserved_transferFrom (hown hn hcaller)) heffect.cash
  | buyItNow hcall hn heffect =>
    subst hcall
    exact h.of_cash (reserved_transferFrom (hown hn hcaller)) heffect.cash
  | redeem hcall hn heffect hs =>
    subst hcall hs
    apply h.of_cash _ heffect.cash
    exact Keeps.bind (reserved_transferFrom (hown hn hcaller))
      (Keeps.bind (reserved_transfer (by simp)) (reserved_transferFrom (hown hn hcaller)))
  | liquidate hcall hn heffect hs =>
    subst hcall hs
    apply h.of_cash _ heffect.cash
    exact Keeps.bind (Keeps.ite (reserved_transferFrom (hown hn hcaller)))
      (Keeps.bind (reserved_transfer (by simp)) (Keeps.ite (reserved_transfer (by simp))))

theorem TokenCall.tokensReserved {call : TokenCall} (h : TokensReserved trusted n amounts s)
    (hrespects : (Operation.token call).Respects trusted n s) (hrun : call.run s = .ok s') :
    TokensReserved trusted n amounts s' := by
  have hcaller : call.caller ≠ some n := hrespects.caller
  cases call with
  | transfer caller token recipient value =>
    obtain ⟨ledger, hledger, rfl⟩ := State.safeTransfer_eq_ok.mp hrun
    exact h.of_program (reserved_transfer (account_ne hcaller)) hledger rfl
  | transferFrom caller token sender recipient value =>
    obtain ⟨ledger, hledger, rfl⟩ := State.safeTransferFrom_eq_ok.mp hrun
    have hdraws := fun hsender => hrespects.untrusted (m := caller) rfl hsender
    exact h.of_program (reserved_transferFrom fun hs => ⟨caller, hdraws hs, rfl⟩) hledger rfl
  | approve caller token spender value =>
    obtain ⟨ledger, hledger, rfl⟩ := map_eq_ok.mp hrun
    exact h.of_program (reserved_approve (account_ne hcaller)) hledger rfl
  | mint token recipient value =>
    obtain ⟨ledger, hledger, rfl⟩ := map_eq_ok.mp hrun
    exact h.of_program reserved_mint hledger rfl
  | burn caller token value =>
    obtain ⟨ledger, hledger, rfl⟩ := map_eq_ok.mp hrun
    exact h.of_program (reserved_burn (account_ne hcaller)) hledger rfl
  | safeTransferNFT caller nftAsset sender recipient tokenId =>
    obtain ⟨-, -, -, -, -, rfl⟩ := State.safeTransferNFT_eq_ok.mp hrun
    exact h
  | mintCNFT caller nftAsset recipient tokenId =>
    obtain ⟨_, -, hrun⟩ := bind_eq_ok.mp hrun
    obtain ⟨_, -, rfl⟩ := bind_pure_eq_ok.mp hrun
    exact h
  | burnCNFT caller nftAsset tokenId =>
    obtain ⟨_, -, hrun⟩ := bind_eq_ok.mp hrun
    obtain ⟨_, -, rfl⟩ := bind_pure_eq_ok.mp hrun
    exact h
  | _ =>
    obtain ⟨_, -, rfl⟩ := map_eq_ok.mp hrun
    exact h

theorem TokensReserved.step (h : TokensReserved trusted n amounts s) (hreg : Regular s)
    (hrespects : operation.Respects trusted n s) (hrun : operation.run s = .ok s') :
    TokensReserved trusted n amounts s' := by
  cases operation with
  | user call =>
    rcases UserCall.cases hreg.sound.wired hreg.book.toFiled hrun with haction | ⟨haside, -⟩
    · exact haction.tokensReserved h hrespects.caller
    · obtain ⟨_, _, _, rfl⟩ := UserCall.frame haside hrun
      exact h
  | token call => exact TokenCall.tokensReserved h hrespects hrun
  | admin call =>
    obtain ⟨_, _, _, rfl⟩ := (AdminCall.frame hrun).shape
    exact h
  | world event =>
    obtain ⟨_, _, _, _, _, -, rfl⟩ := WorldEvent.frame hrun
    exact h

end Tokens

/-! ### Deposits -/

section Deposits

variable {amounts : Address → Nat} {sender recipient holder other : Address} {value : Nat}

def DepositsReserved (trusted : Nat → Prop) (n : Nat) (amounts : Address → Nat)
    (cTokens : Address → CToken) : Prop :=
  ∀ asset, (cTokens asset).ledger.Reserved trusted n (amounts asset)

theorem DepositsReserved.update {cTokens : Address → CToken} {self : CToken}
    (h : DepositsReserved trusted n amounts cTokens)
    (hself : self.ledger.Reserved trusted n (amounts asset)) :
    DepositsReserved trusted n amounts (Function.update cTokens asset self) := by
  intro other
  rw [Function.update_apply]
  split
  · rename_i heq
    rw [heq]
    exact hself
  · exact h other

theorem Accrual.depositsReserved {li vi : Nat} {cTokens : Address → CToken}
    (h : DepositsReserved trusted n amounts s.cTokens) (ha : Accrual s asset li vi cTokens) :
    DepositsReserved trusted n amounts cTokens := by
  rw [ReserveLogic.mintToTreasury_spec ha.listed.cToken ha.treasury]
  exact h.update ((h asset).credited _)

theorem rayDiv_zero {index scaled : Nat} (h : rayDiv 0 index = .ok scaled) : scaled = 0 := by
  obtain ⟨-, -, rfl⟩ := rayDiv_eq_ok.mp h
  rw [Nat.zero_mul, HalfUp.halfUp_zero]

theorem transferScaled_allowances {ledger : ERC20}
    (h : CToken.transferScaled s asset sender recipient value = .ok ledger) :
    ledger.allowances = (s.cTokens asset).ledger.allowances := by
  obtain ⟨_, _, -, -, -, -, htransfer, -⟩ := CToken.transferScaled_eq_ok.mp h
  obtain ⟨-, -, -, -, rfl⟩ := ERC20.transfer_eq_ok.mp htransfer
  rfl

theorem reserved_transferScaled {ledger : ERC20}
    (h : (s.cTokens asset).ledger.Reserved trusted n (amounts asset))
    (hsender : sender = .account n → value = 0)
    (htransfer : CToken.transferScaled s asset sender recipient value = .ok ledger) :
    ledger.Reserved trusted n (amounts asset) := by
  obtain ⟨_, scaled, -, -, -, hscaled, htransfer, -⟩ := CToken.transferScaled_eq_ok.mp htransfer
  obtain ⟨-, -, hbalance, -, rfl⟩ := ERC20.transfer_eq_ok.mp htransfer
  by_cases hown : sender = .account n
  · obtain rfl := hsender hown
    obtain rfl := rayDiv_zero hscaled
    exact ⟨h.balance.trans (ERC20.le_moved_add hbalance), h.unapproved⟩
  · exact h.moved hown

theorem UserCall.depositsReserved {call : UserCall}
    (h : DepositsReserved trusted n amounts s.cTokens) (hw : Wired s) (hf : Filed s)
    (hrespects : (Operation.user call).Respects trusted n s)
    (hrun : call.run s = .ok s') : DepositsReserved trusted n amounts s'.cTokens := by
  have hcaller : call.caller ≠ some n := hrespects.caller
  by_cases hpool : call.entersPool = true
  · obtain ⟨own, li, vi, cTokens, haccrual, hmove⟩ := depositors_move hw hf hpool hrun
    have haccrued := haccrual.depositsReserved h
    cases hmove with
    | kept hkept =>
      rw [hkept]
      exact haccrued
    | minted _ _ _ hminted =>
      rw [hminted]
      exact haccrued.update ((haccrued own).credited _)
    | burned hcall _ hburned =>
      subst hcall
      rw [hburned]
      exact haccrued.update ((haccrued own).debited _ (account_ne hcaller))
  · cases call with
    | transferCToken caller own recipient value =>
      obtain ⟨asset', hown, hrun⟩ := bind_eq_ok.mp hrun
      obtain ⟨ledger, hledger, rfl⟩ := bind_pure_eq_ok.mp hrun
      have hsender := account_ne hcaller
      exact h.update (reserved_transferScaled (h asset') (fun heq => absurd heq hsender) hledger)
    | transferCTokenFrom caller own sender recipient value =>
      obtain ⟨asset', ledger, hown, hledger, hallowed, -, rfl⟩ := CToken.transferFrom_eq_ok.mp hrun
      have hdraws := fun hsender => hrespects.untrusted (m := caller) rfl hsender
      have hnothing : sender = .account n → value = 0 := by
        intro hsender
        have hnone := (h asset').unapproved caller (hdraws hsender)
        rw [transferScaled_allowances hledger, hsender, hnone] at hallowed
        omega
      have hmoved := reserved_transferScaled (h asset') hnothing hledger
      refine h.update (hmoved.allowed fun hsender => ?_)
      rw [hsender, hmoved.unapproved caller (hdraws hsender)]
      exact Nat.zero_sub _
    | approveCToken caller own spender value =>
      obtain ⟨asset', -, hrun⟩ := bind_eq_ok.mp hrun
      obtain ⟨ledger, happrove, rfl⟩ := bind_pure_eq_ok.mp hrun
      exact h.update (reserved_approve (account_ne hcaller) _ _ (h asset') happrove)
    | approveDelegation caller own delegatee value =>
      obtain ⟨_, -, rfl⟩ := bind_pure_eq_ok.mp hrun
      exact h
    | createCNFT nftAsset =>
      obtain rfl := CNFTRegistry.createCNFT_spec hrun
      exact h
    | deposit | withdraw | borrow | repay | buyItNow | redeem | liquidate => exact absurd rfl hpool

theorem DepositsReserved.step (h : DepositsReserved trusted n amounts s.cTokens) (hreg : Regular s)
    (hrespects : operation.Respects trusted n s) (hrun : operation.run s = .ok s') :
    DepositsReserved trusted n amounts s'.cTokens := by
  cases operation with
  | user call =>
    exact UserCall.depositsReserved h hreg.sound.wired hreg.book.toFiled hrespects hrun
  | token call =>
    obtain ⟨_, _, _, _, rfl⟩ := TokenCall.frame hrun
    exact h
  | admin call =>
    intro asset
    rw [(AdminCall.frame hrun).ledgers]
    exact h asset
  | world event =>
    obtain ⟨_, _, _, _, _, -, rfl⟩ := WorldEvent.frame hrun
    exact h

end Deposits

/-! ### Debts -/

/-- The account owes at most the scaled amount, and no account may borrow for it but the trusted
ones. -/
structure DebtToken.Uncharged (trusted : Nat → Prop) (n debt : Nat) (debtToken : DebtToken) :
    Prop where
  debt : debtToken.ledger.balances (.account n) ≤ debt
  undelegated : ∀ m, ¬trusted m → debtToken.borrowAllowances (.account n) (.account m) = 0

section Debts

variable {amounts : Address → Nat}

def DebtsBounded (trusted : Nat → Prop) (n : Nat) (amounts : Address → Nat)
    (debtTokens : Address → DebtToken) : Prop :=
  ∀ asset, (debtTokens asset).Uncharged trusted n (amounts asset)

theorem DebtsBounded.update {debtTokens : Address → DebtToken} {debtToken : DebtToken}
    (h : DebtsBounded trusted n amounts debtTokens)
    (hself : debtToken.Uncharged trusted n (amounts asset)) :
    DebtsBounded trusted n amounts (Function.update debtTokens asset debtToken) := by
  intro other
  rw [Function.update_apply]
  split
  · rename_i heq
    rw [heq]
    exact hself
  · exact h other

theorem DebtToken.Uncharged.debited {debt : Nat} {debtToken : DebtToken}
    (h : debtToken.Uncharged trusted n debt) (borrower : Address) (scaled : Nat) :
    (debtToken.debited borrower scaled).Uncharged trusted n debt := by
  refine ⟨le_trans ?_ h.debt, h.undelegated⟩
  simp only [DebtToken.debited, Function.update_apply]
  split
  · rename_i heq
    rw [heq]
    exact Nat.sub_le _ _
  · exact Nat.le_refl _

/-- A borrower can only charge itself, or whoever has delegated credit to it. -/
theorem DebtToken.Uncharged.minted {debt m amount index : Nat} {onBehalfOf : Address}
    {debtTokens debtTokens' : Address → DebtToken} (hm : m ≠ n)
    (hdraws : onBehalfOf = .account n → ¬trusted m)
    (h : (debtTokens asset).Uncharged trusted n debt)
    (hmint : DebtToken.mint debtTokens (.debtToken asset) (.account m) onBehalfOf amount index =
      .ok debtTokens') : (debtTokens' asset).Uncharged trusted n debt := by
  obtain ⟨own, scaled, self, hown, hscaled, hne, -, hself, hledger, rfl⟩ :=
    DebtToken.mint_spec hmint
  obtain rfl := Address.debtToken.inj hown
  rw [Function.update_self]
  have hself' : self.Uncharged trusted n debt := by
    split at hself
    · obtain ⟨hallowed, rfl⟩ := DebtToken.decreaseBorrowAllowance_eq_ok.mp hself
      refine ⟨h.debt, fun m' hm' => ?_⟩
      have hold := h.undelegated m' hm'
      simp only [ERC20.allowed, Function.update_apply]
      split
      · rename_i hbehalf
        rw [← hbehalf]
        simp only [Function.update_apply]
        split
        · rename_i hspender
          rw [← hspender, hold]
          exact Nat.zero_sub _
        · exact hold
      · exact hold
    · obtain rfl := pure_eq_ok.mp hself
      exact h
  have hother : onBehalfOf ≠ .account n := by
    rintro rfl
    have hinitiator : Address.account m ≠ .account n := by simpa using hm
    rw [if_pos hinitiator] at hself
    have hallowed := (DebtToken.decreaseBorrowAllowance_eq_ok.mp hself).1
    rw [h.undelegated m (hdraws rfl)] at hallowed
    obtain rfl : amount = 0 := by omega
    exact hne (rayDiv_zero hscaled)
  refine ⟨?_, hself'.undelegated⟩
  simp only [DebtToken.credited, Function.update_of_ne (Ne.symm hother)]
  exact hself'.debt

theorem UserCall.debtsBounded {call : UserCall} (h : DebtsBounded trusted n amounts s.debtTokens)
    (hw : Wired s) (hf : Filed s) (hrespects : (Operation.user call).Respects trusted n s)
    (hrun : call.run s = .ok s') : DebtsBounded trusted n amounts s'.debtTokens := by
  have hcaller : call.caller ≠ some n := hrespects.caller
  cases debt_move hw hf hrun with
  | kept _ hkept =>
    rw [hkept]
    exact h
  | @minted m amount _ vi own _ onBehalfOf hcall hmint =>
    subst hcall
    have hm : m ≠ n := fun heq => hcaller (congrArg some heq)
    intro other
    by_cases hother : other = own
    · subst hother
      exact (h other).minted hm (hrespects.untrusted rfl) hmint
    · obtain ⟨own', scaled, self, hown, -, -, -, -, -, hminted⟩ := DebtToken.mint_spec hmint
      obtain rfl := Address.debtToken.inj hown
      rw [hminted, Function.update_of_ne hother]
      exact h other
  | burned _ hburned =>
    rw [hburned]
    exact h.update ((h _).debited _ _)
  | @delegated m amount own delegatee hcall hdelegated =>
    subst hcall
    rw [hdelegated]
    refine h.update ⟨(h own).debt, fun m' hm' => ?_⟩
    have howner : Address.account n ≠ .account m := Ne.symm (account_ne hcaller)
    simp only [ERC20.allowed, Function.update_of_ne howner]
    exact (h own).undelegated m' hm'

theorem DebtsBounded.step (h : DebtsBounded trusted n amounts s.debtTokens) (hreg : Regular s)
    (hrespects : operation.Respects trusted n s) (hrun : operation.run s = .ok s') :
    DebtsBounded trusted n amounts s'.debtTokens := by
  cases operation with
  | user call => exact UserCall.debtsBounded h hreg.sound.wired hreg.book.toFiled hrespects hrun
  | token | admin | world =>
    rw [Operation.debtTokens_eq (fun _ h => by cases h) hrun]
    exact h

end Debts

/-! ### NFTs -/

/-- No account may move all NFTs of the account but the trusted ones. -/
def ERC721.Unoperated (trusted : Nat → Prop) (n : Nat) (nft : ERC721) : Prop :=
  ∀ m, ¬trusted m → nft.operatorApprovals (.account n) (.account m) = false

/-- The account owns the NFT, and no account may move it but the trusted ones. -/
structure ERC721.OwnedBy (trusted : Nat → Prop) (n tokenId : Nat) (nft : ERC721) : Prop where
  owner : nft.owners tokenId = .account n
  unapproved : ∀ m, ¬trusted m → nft.tokenApprovals tokenId ≠ .account m

section Collections

variable {nft nft' : ERC721} {m other : Nat} {sender recipient spender : Address}

theorem ERC721.OwnedBy.not_mayMove (h : nft.OwnedBy trusted n tokenId)
    (hoperators : nft.Unoperated trusted n) (hm : m ≠ n) (htrusted : ¬trusted m) :
    ¬nft.MayMove (.account m) tokenId := by
  rintro (howner | happroved | hoperator)
  · rw [h.owner] at howner
    exact hm (Address.account.inj howner)
  · exact h.unapproved m htrusted happroved
  · rw [h.owner, hoperators m htrusted] at hoperator
    cases hoperator

theorem ERC721.OwnedBy.given (h : nft.OwnedBy trusted n tokenId) (hother : other ≠ tokenId) :
    (nft.given recipient other).OwnedBy trusted n tokenId := by
  obtain ⟨howners, happrovals⟩ := given_of_ne nft (a := recipient) (Ne.symm hother)
  refine ⟨?_, ?_⟩
  · rw [howners]
    exact h.owner
  · rw [happrovals]
    exact h.unapproved

/-- In every collection the account trusts nobody else, and owns these NFTs. -/
structure NFTsKept (trusted : Nat → Prop) (n : Nat) (owned : Address → Nat → Prop) (s : State) :
    Prop where
  unoperated : ∀ nftAsset, (s.erc721 nftAsset).Unoperated trusted n
  owned : ∀ nftAsset tokenId, owned nftAsset tokenId → (s.erc721 nftAsset).OwnedBy trusted n tokenId

variable {owned : Address → Nat → Prop}

theorem NFTsKept.congr (h : NFTsKept trusted n owned s) (hsame : s'.erc721 = s.erc721) :
    NFTsKept trusted n owned s' := by
  refine ⟨?_, ?_⟩
  · rw [hsame]
    exact h.unoperated
  · rw [hsame]
    exact h.owned

theorem NFTsKept.update (h : NFTsKept trusted n owned s)
    (herc721 : s'.erc721 = Function.update s.erc721 nftAsset nft)
    (hoperators : nft.Unoperated trusted n)
    (hnft : ∀ tokenId, (s.erc721 nftAsset).OwnedBy trusted n tokenId →
      nft.OwnedBy trusted n tokenId) :
    NFTsKept trusted n owned s' := by
  refine ⟨fun asset => ?_, fun asset tokenId hown => ?_⟩
  · rw [herc721, Function.update_apply]
    split
    · exact hoperators
    · exact h.unoperated asset
  · rw [herc721, Function.update_apply]
    split
    · rename_i heq
      apply hnft
      rw [← heq]
      exact h.owned asset tokenId hown
    · exact h.owned asset tokenId hown

theorem NFTsKept.unowned (h : NFTsKept trusted n owned s)
    (hother : ¬(s.erc721 nftAsset).OwnedBy trusted n other)
    (herc721 : s'.erc721 = Function.update s.erc721 nftAsset
      ((s.erc721 nftAsset).given recipient other)) : NFTsKept trusted n owned s' := by
  apply h.update herc721 (h.unoperated nftAsset)
  intro tokenId hown
  apply hown.given
  rintro rfl
  exact hother hown

theorem NFTsKept.given (h : NFTsKept trusted n owned s)
    (hother : (s.erc721 nftAsset).owners other ≠ .account n)
    (herc721 : s'.erc721 = Function.update s.erc721 nftAsset
      ((s.erc721 nftAsset).given recipient other)) : NFTsKept trusted n owned s' :=
  h.unowned (fun hown => hother hown.owner) herc721

theorem NFTsKept.moved (h : NFTsKept trusted n owned s) (hm : m ≠ n)
    (hdraws : (s.erc721 nftAsset).owners other = .account n → ¬trusted m)
    (hmove : (s.erc721 nftAsset).MayMove (.account m) other)
    (herc721 : s'.erc721 = Function.update s.erc721 nftAsset
      ((s.erc721 nftAsset).given recipient other)) : NFTsKept trusted n owned s' := by
  refine h.unowned (fun hown => ?_) herc721
  exact hown.not_mayMove (h.unoperated nftAsset) hm (hdraws hown.owner) hmove

theorem Unoperated.setApprovalForAll {owner operator : Address} {approved : Bool}
    (h : nft.Unoperated trusted n) (howner : owner ≠ .account n)
    (hset : nft.setApprovalForAll owner operator approved = .ok nft') :
    nft'.Unoperated trusted n ∧
      ∀ tokenId, nft.OwnedBy trusted n tokenId → nft'.OwnedBy trusted n tokenId := by
  obtain ⟨-, rfl⟩ := ERC721.setApprovalForAll_eq_ok.mp hset
  refine ⟨fun m hm => ?_, fun tokenId hown => ⟨hown.owner, hown.unapproved⟩⟩
  simp only [Function.update_of_ne (Ne.symm howner)]
  exact h m hm

theorem openLoan_owner {p : ExecuteBorrowParams} (hw : Wired s)
    (hid : s.loanStore.nftToLoanIds p.nftAsset p.nftTokenId = 0)
    (h : BorrowLogic.borrow s p = .ok s') :
    (s.erc721 p.nftAsset).owners p.nftTokenId = p.initiator := by
  simp only [BorrowLogic.borrow, bind_eq_ok, updateState_iff hw] at h
  obtain ⟨_, -, _, ⟨li, vi, cTokens, -, rfl⟩, _, -, s₂, hbook, -⟩ := h
  have hnone : LendPoolLoan.getCollateralLoanId (s.accrued p.asset li vi cTokens) p.nftAsset
      p.nftTokenId = 0 := hid
  rw [if_pos hnone] at hbook
  obtain ⟨_, htransfer, -⟩ := bind_eq_ok.mp hbook
  exact (State.safeTransferNFT_eq_ok.mp htransfer).1

theorem UserCall.nftsKept {call : UserCall} (h : NFTsKept trusted n owned s) (hw : Wired s)
    (hf : Filed s) (hcaller : call.caller ≠ some n) (hrun : call.run s = .ok s') :
    NFTsKept trusted n owned s' := by
  rcases UserCall.cases hw hf hrun with haction | ⟨haside, -⟩
  swap
  · obtain ⟨_, _, _, rfl⟩ := UserCall.frame haside hrun
    exact h.congr rfl
  have hclosed : ∀ {loanId : Nat} {ended : LoanData} {receiver : Address},
      LoanClosed s loanId ended receiver s' → NFTsKept trusted n owned s' := by
    intro loanId ended receiver hclosed
    refine h.given ?_ hclosed.erc721
    rw [hclosed.releasable.2.2.2.2]
    simp
  cases haction with
  | deposit _ heffect => exact h.congr heffect.book.erc721
  | withdraw _ heffect => exact h.congr heffect.book.erc721
  | @borrow p m _ _ _ hcall hn heffect =>
    cases hcall
    rcases heffect.book with hopened | htopped
    · refine h.given ?_ hopened.erc721
      have hborrow : BorrowLogic.borrow s { p with initiator := .account m } = .ok s' :=
        LendPool.of_whenNotPaused hrun
      have howner : (s.erc721 p.nftAsset).owners p.nftTokenId = .account m :=
        openLoan_owner hw (p := { p with initiator := .account m }) hopened.unregistered hborrow
      change (s.erc721 p.nftAsset).owners p.nftTokenId ≠ _
      rw [howner]
      exact account_ne hcaller
    · exact h.congr htopped.replaced.erc721
  | repay _ _ heffect =>
    rcases heffect.book with ⟨-, -, hpartly⟩ | ⟨-, hended⟩
    · exact h.congr hpartly.erc721
    · exact hclosed hended
  | buyItNow _ _ heffect => exact h.congr heffect.replaced.erc721
  | redeem _ _ heffect hs =>
    subst hs
    exact h.congr heffect.replaced.erc721
  | liquidate _ _ heffect hs =>
    subst hs
    exact hclosed heffect.closed

theorem TokenCall.nftsKept {call : TokenCall} (h : NFTsKept trusted n owned s)
    (hrespects : (Operation.token call).Respects trusted n s) (hrun : call.run s = .ok s') :
    NFTsKept trusted n owned s' := by
  have hcaller : call.caller ≠ some n := hrespects.caller
  have hne : ∀ {m : Nat}, some m ≠ some n → m ≠ n := fun hm heq => hm (congrArg some heq)
  cases call with
  | transfer caller token recipient value =>
    obtain ⟨_, -, rfl⟩ := State.safeTransfer_eq_ok.mp hrun
    exact h.congr rfl
  | transferFrom caller token sender recipient value =>
    obtain ⟨_, -, rfl⟩ := State.safeTransferFrom_eq_ok.mp hrun
    exact h.congr rfl
  | approve | mint | burn =>
    obtain ⟨_, -, rfl⟩ := map_eq_ok.mp hrun
    exact h.congr rfl
  | transferNFT caller asset sender recipient entry =>
    obtain ⟨_, hmoved, rfl⟩ := map_eq_ok.mp hrun
    obtain ⟨howner, -, hmove, -, rfl⟩ := ERC721.transferFrom_eq_ok.mp hmoved
    refine h.moved (hne hcaller) (fun hown => ?_) hmove rfl
    exact hrespects.untrusted rfl (howner.symm.trans hown)
  | safeTransferNFT caller asset sender recipient entry =>
    obtain ⟨howner, -, hmove, -, -, rfl⟩ := State.safeTransferNFT_eq_ok.mp hrun
    refine h.moved (hne hcaller) (fun hown => ?_) hmove rfl
    exact hrespects.untrusted rfl (howner.symm.trans hown)
  | burnNFT caller asset entry =>
    obtain ⟨_, hburned, rfl⟩ := map_eq_ok.mp hrun
    obtain ⟨-, hmove, rfl⟩ := ERC721.burn_eq_ok.mp hburned
    exact h.moved (hne hcaller) (hrespects.untrusted rfl) hmove rfl
  | approveNFT caller asset spender entry =>
    obtain ⟨_, happroved, rfl⟩ := map_eq_ok.mp hrun
    obtain ⟨-, -, hallowed, rfl⟩ := ERC721.approve_eq_ok.mp happroved
    refine h.update rfl (h.unoperated asset) fun tokenId hown => ⟨hown.owner, fun m hm => ?_⟩
    have hother : tokenId ≠ entry := by
      rintro rfl
      have huntrusted := hrespects.untrusted (m := caller) rfl hown.owner
      have hown' := hown.not_mayMove (h.unoperated asset) (hne hcaller) huntrusted
      rcases hallowed with howner | hoperator
      · exact hown' (.inl howner)
      · exact hown' (.inr (.inr hoperator))
    simp only [Function.update_of_ne hother]
    exact hown.unapproved m hm
  | setApprovalForAll caller asset operator approved =>
    obtain ⟨_, hset, rfl⟩ := map_eq_ok.mp hrun
    obtain ⟨hoperators, hnft⟩ :=
      Unoperated.setApprovalForAll (h.unoperated asset) (account_ne hcaller) hset
    exact h.update rfl hoperators hnft
  | mintNFT asset recipient entry =>
    obtain ⟨_, hminted, rfl⟩ := map_eq_ok.mp hrun
    obtain ⟨-, hfree, rfl⟩ := ERC721.mint_eq_ok.mp hminted
    refine h.update rfl (h.unoperated asset) fun tokenId hown => ⟨?_, hown.unapproved⟩
    have hother : tokenId ≠ entry := by
      rintro rfl
      rw [hown.owner] at hfree
      cases hfree
    simp only [Function.update_of_ne hother]
    exact hown.owner
  | mintCNFT caller asset recipient entry =>
    obtain ⟨other, -, hrun⟩ := bind_eq_ok.mp hrun
    obtain ⟨⟨_, _⟩, hmint, rfl⟩ := bind_pure_eq_ok.mp hrun
    obtain ⟨-, -, howner, -, -, -, -, rfl, -⟩ := CNFT.mint_eq_ok.mp hmint
    refine h.given ?_ rfl
    rw [howner]
    exact account_ne hcaller
  | burnCNFT caller asset entry =>
    obtain ⟨other, -, hrun⟩ := bind_eq_ok.mp hrun
    obtain ⟨⟨_, _⟩, hburn, rfl⟩ := bind_pure_eq_ok.mp hrun
    obtain ⟨-, -, -, howner, -, -, rfl, -⟩ := CNFT.burn_eq_ok.mp hburn
    refine h.given ?_ rfl
    rw [howner]
    simp

theorem AdminStep.nftsKept {call : AdminCall} (h : NFTsKept trusted n owned s)
    (hstep : AdminStep call s s') : NFTsKept trusted n owned s' := by
  cases hstep with
  | listReserve _ _ hlist =>
    obtain ⟨-, _, _, _, -, -, rfl⟩ := executeInitReserve_spec hlist
    exact h.congr rfl
  | @listNft _ asset _ _ _ hlist =>
    obtain ⟨-, _, _, _, -, -, hcollection, rfl⟩ := executeInitNft_spec hlist
    obtain ⟨_, hfirst, hsecond⟩ := bind_eq_ok.mp hcollection
    obtain ⟨hoperators, hnft⟩ :=
      Unoperated.setApprovalForAll (h.unoperated asset) (by simp) hfirst
    obtain ⟨hoperators', hnft'⟩ := Unoperated.setApprovalForAll hoperators (by simp) hsecond
    exact h.update rfl hoperators' fun tokenId hown => hnft' tokenId (hnft tokenId hown)
  | _ => exact h.congr rfl

theorem NFTsKept.step (h : NFTsKept trusted n owned s) (hreg : Regular s)
    (hrespects : operation.Respects trusted n s) (hrun : operation.run s = .ok s') :
    NFTsKept trusted n owned s' := by
  cases operation with
  | user call => exact UserCall.nftsKept h hreg.sound.wired hreg.book.toFiled hrespects.caller hrun
  | token call => exact TokenCall.nftsKept h hrespects hrun
  | admin call =>
    exact AdminCall.preserves (NFTsKept trusted n owned) (fun _ _ hs h => hs.nftsKept h) hrun h
  | world event =>
    obtain ⟨_, _, _, _, _, -, rfl⟩ := WorldEvent.frame hrun
    exact h.congr rfl

end Collections

/-! ### Idle accounts -/

/-- No account may act for this one but the trusted ones. What the protocol's contracts may do is
left open. -/
structure TrustsOnly (trusted : Nat → Prop) (s : State) (n : Nat) : Prop where
  tokens : ∀ token m, ¬trusted m → (s.erc20 token).allowances (.account n) (.account m) = 0
  deposits : ∀ asset m, ¬trusted m →
    (s.cTokens asset).ledger.allowances (.account n) (.account m) = 0
  credit : ∀ asset m, ¬trusted m →
    (s.debtTokens asset).borrowAllowances (.account n) (.account m) = 0
  operators : ∀ nftAsset, (s.erc721 nftAsset).Unoperated trusted n

/-- The account has at least what it had, and owes at most what it owed. It keeps the NFTs that it
owns and has approved nobody for. -/
structure Unharmed (trusted : Nat → Prop) (s s' : State) (n : Nat) : Prop where
  tokens : ∀ token, (s.erc20 token).balances (.account n) ≤ (s'.erc20 token).balances (.account n)
  deposits : ∀ asset, s.position asset (.account n) ≤ s'.position asset (.account n)
  debts : ∀ asset, s'.scaledDebt asset (.account n) ≤ s.scaledDebt asset (.account n)
  nfts : ∀ nftAsset tokenId, (s.erc721 nftAsset).OwnedBy trusted n tokenId →
    (s'.erc721 nftAsset).owners tokenId = .account n

/-- What an idle account had in `s₀` is all there, and still nobody else may act for it. -/
structure Spared (trusted : Nat → Prop) (n : Nat) (s₀ s : State) : Prop where
  tokens : TokensReserved trusted n (fun token => (s₀.erc20 token).balances (.account n)) s
  deposits : DepositsReserved trusted n (s₀.position · (.account n)) s.cTokens
  debts : DebtsBounded trusted n (s₀.scaledDebt · (.account n)) s.debtTokens
  nfts : NFTsKept trusted n
    (fun nftAsset tokenId => (s₀.erc721 nftAsset).OwnedBy trusted n tokenId) s

theorem TrustsOnly.spared (h : TrustsOnly trusted s n) : Spared trusted n s s where
  tokens := fun token => ⟨Nat.le_refl _, h.tokens token⟩
  deposits := fun asset => ⟨Nat.le_refl _, h.deposits asset⟩
  debts := fun asset => ⟨Nat.le_refl _, h.credit asset⟩
  nfts := ⟨h.operators, fun _ _ hown => hown⟩

theorem Spared.unharmed (h : Spared trusted n s₀ s) : Unharmed trusted s₀ s n where
  tokens := fun token => (h.tokens token).balance
  deposits := fun asset => (h.deposits asset).balance
  debts := fun asset => (h.debts asset).debt
  nfts := fun nftAsset tokenId hown => (h.nfts.owned nftAsset tokenId hown).owner

theorem Spared.step (h : Spared trusted n s₀ s) (hreg : Regular s)
    (hrespects : operation.Respects trusted n s) (hrun : operation.run s = .ok s') :
    Spared trusted n s₀ s' where
  tokens := h.tokens.step hreg hrespects hrun
  deposits := h.deposits.step hreg hrespects hrun
  debts := h.debts.step hreg hrespects hrun
  nfts := h.nfts.step hreg hrespects hrun

theorem Spared.trustsOnly (h : Spared trusted n s₀ s) : TrustsOnly trusted s n where
  tokens := fun token => (h.tokens token).unapproved
  deposits := fun asset => (h.deposits asset).unapproved
  credit := fun asset => (h.debts asset).undelegated
  operators := h.nfts.unoperated

theorem Operation.respects_self (hcaller : operation.caller ≠ some n) :
    operation.Respects (· = n) n s := by
  refine ⟨hcaller, fun m hm heq => ?_⟩
  rw [hm, heq] at hcaller
  exact absurd rfl hcaller

theorem TrustsOnly.run (htrusts : TrustsOnly (· = n) s n) (hs : Reachable operations s)
    (hrun : Run operations s history s') (hidle : ∀ t ∈ history, t.label.caller ≠ some n) :
    Spared (· = n) n s s' ∧ ∀ t ∈ history, Spared (· = n) n s t.post := by
  have hstep : ∀ m (operation : Operation) m', Reachable operations m →
      operation.caller ≠ some n → Spared (· = n) n s m → operations.step m operation = .ok m' →
        Spared (· = n) n s m' :=
    fun m operation m' hm hcaller h hrun =>
      h.step (regular_of_reachable hm) (Operation.respects_self hcaller) hrun
  exact Run.preserves hstep hrun hs hidle htrusts.spared

/-- An account that makes no call and has approved no other account loses nothing and owes
nothing new, however the run goes. -/
theorem idle_accounts_lose_nothing (hs : Reachable operations s)
    (hrun : Run operations s history s') (hidle : ∀ t ∈ history, t.label.caller ≠ some n)
    (htrusts : TrustsOnly (· = n) s n) :
    Unharmed (· = n) s s' n ∧ ∀ t ∈ history, Unharmed (· = n) s t.post n := by
  obtain ⟨hlast, hall⟩ := htrusts.run hs hrun hidle
  exact ⟨hlast.unharmed, fun t ht => (hall t ht).unharmed⟩

/-- Account 4 is given tokens, a deposit and an NFT. -/
def sampleGifts : List Operation :=
  sampleLending ++
    [.token (.mint sampleMarket.asset (.account 4) 500),
      .token (.mintNFT sampleMarket.nftAsset (.account 4) 8),
      .user (.deposit 1 sampleMarket.asset (10 ^ 18) (.account 4))]

/-- Others reach for what account 4 has, between calls that succeed. -/
def sampleRaid : List Operation :=
  [.world (.tick 86400),
    .token (.transferFrom 3 sampleMarket.asset (.account 4) (.account 3) 500),
    .token (.transferNFT 3 sampleMarket.nftAsset (.account 4) (.account 3) 8),
    .user (.transferCTokenFrom 3 sampleMarket.asset (.account 4) (.account 3) 1),
    .user (.borrow 3 sampleMarket.asset 10 sampleMarket.nftAsset 8 (.account 4)),
    .user (.repay 3 sampleMarket.nftAsset 7 (10 ^ 18)),
    .user (.withdraw 1 sampleMarket.asset (10 ^ 18) (.account 1))]

theorem sampleWorld_trusts : TrustsOnly trusted sampleWorld n :=
  ⟨fun _ _ _ => rfl, fun _ _ _ => rfl, fun _ _ _ => rfl, fun _ _ _ => rfl⟩

theorem idle_accounts_lose_nothing_raid :
    let s := replayed operations sampleWorld sampleGifts
    let s' := replayed operations s sampleRaid
    Unharmed (· = 4) s s' 4 ∧
      ∀ t ∈ trace operations s sampleRaid, Unharmed (· = 4) s t.post 4 := by
  intro s s'
  have hgenesis : Reachable operations sampleWorld :=
    .initial (State.fresh_genesis (by decide) _ _ _)
  have hgifts : Run operations sampleWorld (trace operations sampleWorld sampleGifts) s :=
    trace_run _ _
  have htrusts : TrustsOnly (· = 4) s 4 :=
    (sampleWorld_trusts.run hgenesis hgifts (by decide +kernel)).1.trustsOnly
  exact idle_accounts_lose_nothing (hgifts.reachable hgenesis) (trace_run s sampleRaid)
    (by decide +kernel) htrusts

end Confetti

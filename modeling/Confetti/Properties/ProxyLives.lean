import Confetti.Access.AddressesProvider

/-! The address of a proxied contract is for life. Upgrades replace its implementation, but
call data that is sent along with an upgrade never arrives there. -/
namespace Confetti
open Outcome TransitionSystem AddressesProvider

/-- No plain setter registers a proxy of the provider under another id. -/
def ProviderStep.Plain (s : ProviderStep) : Prop :=
  ∀ entry ∈ s.call.replaces, entry.2.isProxy = false

def ProviderStep.Keeps (id : AddressId) (s : ProviderStep) : Prop :=
  ∀ entry ∈ s.call.replaces, entry.1 ≠ id

def ProviderStep.KeepsAdmin (s : ProviderStep) : Prop :=
  ∀ upgrade ∈ s.call.upgrades, ∀ data ∈ upgrade.2.2, data.isChangeAdmin = false

instance (s : ProviderStep) : Decidable s.Plain :=
  inferInstanceAs (Decidable (∀ entry ∈ s.call.replaces, entry.2.isProxy = false))

instance (id : AddressId) (s : ProviderStep) : Decidable (s.Keeps id) :=
  inferInstanceAs (Decidable (∀ entry ∈ s.call.replaces, entry.1 ≠ id))

instance (s : ProviderStep) : Decidable s.KeepsAdmin :=
  inferInstanceAs (Decidable (∀ upgrade ∈ s.call.upgrades, ∀ data ∈ upgrade.2.2,
    data.isChangeAdmin = false))

variable {self self' : AddressesProvider} {outside : Outside} {caller : Party}
  {call : ProviderCall} {id : AddressId} {implementation : Party} {n : Nat}

structure OneProxyEach (p : AddressesProvider) : Prop where
  deployed : ∀ id n, p.addresses id = .proxy n → n < p.deployed
  unique : ∀ id id' n, p.addresses id = .proxy n → p.addresses id' = .proxy n → id = id'

theorem OneProxyEach.of_addresses (h : OneProxyEach self)
    (haddresses : self'.addresses = self.addresses) (hdeployed : self'.deployed = self.deployed) :
    OneProxyEach self' := by
  constructor
  · intro id n hproxy
    rw [haddresses] at hproxy
    rw [hdeployed]
    exact h.deployed id n hproxy
  · intro id id' n hproxy hproxy'
    rw [haddresses] at hproxy hproxy'
    exact h.unique id id' n hproxy hproxy'

theorem OneProxyEach.withDeployed (h : OneProxyEach self) (id : AddressId)
    (implementation : Party) : OneProxyEach (self.withDeployed id implementation) := by
  have hold : ∀ other n, other ≠ id →
      (self.withDeployed id implementation).addresses other = .proxy n → n < self.deployed := by
    intro other n hne hproxy
    simp only [AddressesProvider.withDeployed, Function.update_of_ne hne] at hproxy
    exact h.deployed other n hproxy
  have hnew : ∀ n, (self.withDeployed id implementation).addresses id = .proxy n →
      n = self.deployed := by
    intro n hproxy
    simp only [AddressesProvider.withDeployed, Function.update_self] at hproxy
    exact (Party.proxy.inj hproxy).symm
  constructor
  · intro other n hproxy
    change n < self.deployed + 1
    by_cases hid : other = id
    · subst hid
      have heq := hnew n hproxy
      omega
    · have hlt := hold other n hid hproxy
      omega
  · intro a b n ha hb
    by_cases haid : a = id
    · subst haid
      by_contra hne
      have heq := hnew n ha
      have hlt := hold b n (Ne.symm hne) hb
      omega
    · have hlt := hold a n haid ha
      by_cases hbid : b = id
      · subst hbid
        have heq := hnew n hb
        omega
      · simp only [AddressesProvider.withDeployed, Function.update_of_ne haid] at ha
        simp only [AddressesProvider.withDeployed, Function.update_of_ne hbid] at hb
        exact h.unique a b n ha hb

theorem OneProxyEach.replaced (h : OneProxyEach self) (id : AddressId) {newAddress : Party}
    (hplain : newAddress.isProxy = false) :
    OneProxyEach { self with addresses := Function.update self.addresses id newAddress } := by
  have hold : ∀ other n, Function.update self.addresses id newAddress other = .proxy n →
      self.addresses other = .proxy n := by
    intro other n hproxy
    by_cases hid : other = id
    · subst hid
      rw [Function.update_self] at hproxy
      rw [hproxy] at hplain
      cases hplain
    · rw [Function.update_of_ne hid] at hproxy
      exact hproxy
  constructor
  · exact fun other n hproxy => h.deployed other n (hold other n hproxy)
  · exact fun a b n ha hb => h.unique a b n (hold a n ha) (hold b n hb)

theorem AddressesProvider.Fresh.oneProxyEach (h : self.Fresh) : OneProxyEach self := by
  constructor
  · intro id n hproxy
    rw [h.addresses] at hproxy
    cases hproxy
  · intro id id' n hproxy
    rw [h.addresses] at hproxy
    cases hproxy

theorem OneProxyEach.of_call {target : Party} {data : CallData} (h : OneProxyEach self)
    (hcall : self.callFromProvider outside target data = .ok self') : OneProxyEach self' := by
  rcases callFromProvider_frame hcall with rfl | ⟨n, proxy, -, -, rfl, -⟩
  · exact h
  · exact h.of_addresses rfl rfl

theorem OneProxyEach.step {s : ProviderStep} (h : OneProxyEach self) (hplain : s.Plain)
    (hstep : providers.step self s = .ok self') : OneProxyEach self' := by
  rcases (ProviderCall.cases hstep).2 with ⟨id, newAddress, hcall, rfl⟩ |
    ⟨id, implementation, data, middle, -, hupdate, hsent⟩ | ⟨-, -, owner, marketId, rfl, -⟩
  · exact h.replaced id (hplain _ hcall)
  · have hmiddle : OneProxyEach middle := by
      rcases updateImpl_spec hupdate with ⟨-, rfl⟩ | ⟨-, hcall⟩
      · exact h.withDeployed id implementation
      · exact h.of_call hcall
    rcases hsent with ⟨-, rfl⟩ | ⟨content, -, hcall⟩
    · exact hmiddle
    · exact hmiddle.of_call hcall
  · exact h.of_addresses rfl rfl

/-! ### One proxy over time -/

/-- A call that neither replaces nor upgrades an entry leaves its proxy as it is; an upgrade
leaves it in the entry. -/
theorem proxy_step {s : ProviderStep} (h : OneProxyEach self) (hproxy : self.addresses id = .proxy n)
    (hkept : s.Keeps id)
    (hstep : providers.step self s = .ok self') :
    self'.addresses id = .proxy n ∧ (self'.proxies n = self.proxies n ∨
      self.owner = s.caller ∧ ∃ implementation data,
        s.call.upgrades = some (id, implementation, data)) := by
  have hlt := h.deployed id n hproxy
  obtain ⟨howner, hcases⟩ := ProviderCall.cases hstep
  rcases hcases with ⟨other, newAddress, hcall, rfl⟩ |
    ⟨other, implementation, data, middle, hupgrades, hupdate, hsent⟩ |
    ⟨-, -, owner, marketId, rfl, -⟩
  · have hne : id ≠ other := by
      rintro rfl
      exact hkept _ hcall rfl
    refine ⟨?_, .inl rfl⟩
    simp only [Function.update_of_ne hne]
    exact hproxy
  · by_cases hid : other = id
    · subst hid
      refine ⟨?_, .inr ⟨howner, implementation, data, hupgrades⟩⟩
      have hmiddle : middle.addresses = self.addresses := by
        rcases updateImpl_spec hupdate with ⟨hzero, -⟩ | ⟨-, hcall⟩
        · rw [hproxy] at hzero
          cases hzero
        · exact callFromProvider_addresses hcall
      rcases hsent with ⟨-, rfl⟩ | ⟨content, -, hcall⟩
      · rw [hmiddle, hproxy]
      · rw [callFromProvider_addresses hcall, hmiddle, hproxy]
    · have hother : ∀ {p : AddressesProvider}, OneProxyEach p → p.addresses id = .proxy n →
          p.addresses other ≠ .proxy n :=
        fun hp hid' hother => hid (hp.unique other id n hother hid')
      have hmiddle : OneProxyEach middle ∧ middle.addresses id = .proxy n ∧
          middle.proxies n = self.proxies n := by
        rcases updateImpl_spec hupdate with ⟨-, rfl⟩ | ⟨-, hcall⟩
        · refine ⟨h.withDeployed other implementation, ?_,
            withDeployed_proxies_of_lt hlt other implementation⟩
          rw [withDeployed_addresses_of_ne (Ne.symm hid), hproxy]
        · refine ⟨h.of_call hcall, ?_, callFromProvider_proxies hcall (hother h hproxy)⟩
          rw [callFromProvider_addresses hcall, hproxy]
      obtain ⟨hone, hproxy', hsame⟩ := hmiddle
      rcases hsent with ⟨-, rfl⟩ | ⟨content, -, hcall⟩
      · exact ⟨hproxy', .inl hsame⟩
      · refine ⟨?_, .inl ?_⟩
        · rw [callFromProvider_addresses hcall, hproxy']
        · rw [callFromProvider_proxies hcall (hother hone hproxy'), hsame]
  · exact ⟨hproxy, .inl rfl⟩

theorem OneProxyEach.run {history : List (Transition AddressesProvider ProviderStep)}
    (h : OneProxyEach self) (hrun : Run providers self history self')
    (hplain : ∀ t ∈ history, t.label.Plain) : OneProxyEach self' := by
  induction hrun with
  | nil => exact h
  | snoc _ hlast ih =>
    apply OneProxyEach.step _ (hplain _ (List.mem_append_right _ List.mem_cons_self)) hlast
    exact ih fun t ht => hplain t (List.mem_append_left _ ht)

theorem proxy_run {history : List (Transition AddressesProvider ProviderStep)}
    (h : OneProxyEach self) (hrun : Run providers self history self')
    (hplain : ∀ t ∈ history, t.label.Plain) (hproxy : self.addresses id = .proxy n)
    (hkept : ∀ t ∈ history, t.label.Keeps id) :
    self'.addresses id = .proxy n ∧
      (self'.proxies n = self.proxies n ∨ ∃ t ∈ history, t.pre.owner = t.label.caller ∧
        ∃ implementation data, t.label.call.upgrades = some (id, implementation, data)) := by
  induction hrun with
  | nil => exact ⟨hproxy, .inl rfl⟩
  | @snoc m self' s history hrun hlast ih =>
    have hbefore : ∀ t ∈ history, t.label.Plain := fun t ht =>
      hplain t (List.mem_append_left _ ht)
    obtain ⟨hstays, hchange⟩ := ih hbefore fun t ht => hkept t (List.mem_append_left _ ht)
    have hnow : (⟨m, s, self'⟩ : Transition AddressesProvider ProviderStep) ∈
        history ++ [⟨m, s, self'⟩] := List.mem_append_right _ List.mem_cons_self
    obtain ⟨hstays', hstep⟩ := proxy_step (h.run hrun hbefore) hstays (hkept _ hnow) hlast
    refine ⟨hstays', ?_⟩
    rcases hstep with hsame | ⟨howner, hupgrade⟩
    · rcases hchange with hold | ⟨t, ht, hupgrade⟩
      · exact .inl (hsame.trans hold)
      · exact .inr ⟨t, List.mem_append_left _ ht, hupgrade⟩
    · exact .inr ⟨_, hnow, howner, hupgrade⟩

/-- Once a proxy stands under an id that is not replaced, it stays there and under no other id,
and only the owner changes it, by an upgrade of this id. -/
theorem proxies_for_life {deployed : AddressesProvider} {before after :
      List (Transition AddressesProvider ProviderStep)} (hfresh : deployed.Fresh)
    (hbefore : Run providers deployed before self) (hafter : Run providers self after self')
    (hplain : ∀ t ∈ before ++ after, t.label.Plain) (hproxy : self.addresses id = .proxy n)
    (hkept : ∀ t ∈ after, t.label.Keeps id) :
    self'.addresses id = .proxy n ∧ (∀ other, self'.addresses other = .proxy n → other = id) ∧
      (self'.proxies n = self.proxies n ∨ ∃ t ∈ after, t.pre.owner = t.label.caller ∧
        ∃ implementation data, t.label.call.upgrades = some (id, implementation, data)) := by
  have hone := hfresh.oneProxyEach.run hbefore fun t ht => hplain t (List.mem_append_left _ ht)
  have hlater : ∀ t ∈ after, t.label.Plain := fun t ht => hplain t (List.mem_append_right _ ht)
  obtain ⟨hstays, hchange⟩ := proxy_run hone hafter hlater hproxy hkept
  refine ⟨hstays, ?_, hchange⟩
  intro other hother
  exact (hone.run hafter hlater).unique other id n hother hstays

/-! ### Call data -/

def AdminOfAll (p : AddressesProvider) : Prop :=
  ∀ n, n < p.deployed → (p.proxies n).admin = .addressesProvider

theorem AdminOfAll.of_call {target : Party} {data : CallData} (h : AdminOfAll self)
    (hdata : data.isChangeAdmin = false)
    (hcall : self.callFromProvider outside target data = .ok self') : AdminOfAll self' := by
  rcases callFromProvider_frame hcall with rfl | ⟨m, proxy, -, hm, rfl, hadmin⟩
  · exact h
  · intro n hn
    by_cases heq : n = m
    · subst heq
      simp only [withProxy, Function.update_self]
      rcases hadmin with hsame | rfl
      · rw [hsame, h n hm]
      · cases hdata
    · rw [withProxy_of_ne heq]
      exact h n hn

theorem AdminOfAll.withDeployed (h : AdminOfAll self) (id : AddressId) (implementation : Party) :
    AdminOfAll (self.withDeployed id implementation) := by
  intro n hn
  by_cases heq : n = self.deployed
  · subst heq
    simp [AddressesProvider.withDeployed, withProxy]
  · have hlt : n < self.deployed + 1 := hn
    rw [withDeployed_proxies_of_lt (by omega)]
    exact h n (by omega)

theorem AdminOfAll.updateImpl (h : AdminOfAll self)
    (hupdate : self.updateImpl outside id implementation = .ok self') :
    AdminOfAll self' ∧ (self'.addresses id = self.addresses id ∨ ∃ n, self'.addresses id = .proxy n ∧
      n < self'.deployed) := by
  rcases updateImpl_spec hupdate with ⟨-, rfl⟩ | ⟨-, hcall⟩
  · refine ⟨h.withDeployed id implementation, .inr ⟨self.deployed, ?_, Nat.lt_succ_self _⟩⟩
    simp [AddressesProvider.withDeployed]
  · exact ⟨h.of_call rfl hcall, .inl (congrFun (callFromProvider_addresses hcall) id)⟩

theorem AdminOfAll.step {s : ProviderStep} (h : AdminOfAll self) (hkeeps : s.KeepsAdmin)
    (hstep : providers.step self s = .ok self') : AdminOfAll self' := by
  rcases (ProviderCall.cases hstep).2 with ⟨id, newAddress, -, rfl⟩ |
    ⟨id, implementation, data, middle, hupgrades, hupdate, hsent⟩ | ⟨-, -, owner, marketId, rfl, -⟩
  · exact h
  · have hmiddle := (h.updateImpl hupdate).1
    rcases hsent with ⟨-, rfl⟩ | ⟨content, rfl, hcall⟩
    · exact hmiddle
    · exact hmiddle.of_call (hkeeps _ hupgrades content rfl) hcall
  · exact h

theorem AddressesProvider.Fresh.adminOfAll (h : self.Fresh) : AdminOfAll self := by
  intro n hn
  rw [h.deployed] at hn
  cases hn

/-- A call that the provider makes for its owner ends at the proxy. -/
theorem AdminOfAll.no_proxy {target : Party} {bytes : List UInt8} (h : AdminOfAll self)
    (hcall : self.callFromProvider outside target (.foreign bytes) = .ok self') (n : Nat) :
    target ≠ .proxy n := by
  rcases callFromProvider_spec hcall with ⟨-, hproxy⟩ | ⟨m, -, -, -, hcall⟩
  · intro heq
    obtain ⟨hlt, hadmin⟩ := hproxy n heq
    exact hadmin (h n hlt)
  · cases hcall

theorem upgrade_without_data {s : ProviderStep} {bytes : List UInt8} (h : AdminOfAll self)
    (hstep : providers.step self s = .ok self')
    (hdata : s.call.upgrades = some (id, implementation, some (.foreign bytes))) :
    self.addresses id ≠ .zero ∧ (self.addresses id).isProxy = false := by
  rcases (ProviderCall.cases hstep).2 with ⟨other, newAddress, hcall, rfl⟩ |
    ⟨other, _, _, middle, hupgrades, hupdate, hsent⟩ | ⟨-, hnone, -⟩
  · cases hc : s.call <;> simp [hc, ProviderCall.upgrades, ProviderCall.replaces] at hcall hdata
  · rw [hdata] at hupgrades
    cases hupgrades
    rcases hsent with ⟨hnone, -⟩ | ⟨content, hcontent, hcall⟩
    · cases hnone
    · cases hcontent
      obtain ⟨hmiddle, hentry⟩ := h.updateImpl hupdate
      have hnot := hmiddle.no_proxy hcall
      rcases hentry with hsame | ⟨n, hproxy, -⟩
      · have hne := callFromProvider_ne_zero hcall
        rw [hsame] at hnot hne
        refine ⟨hne, ?_⟩
        generalize self.addresses id = entry at hnot
        cases entry with
        | proxy n => exact absurd rfl (hnot n)
        | zero | account | addressesProvider => rfl
      · exact absurd hproxy (hnot n)
  · rw [hdata] at hnone
    cases hnone

theorem AdminOfAll.run {history : List (Transition AddressesProvider ProviderStep)}
    (h : AdminOfAll self) (hrun : Run providers self history self')
    (hkeeps : ∀ t ∈ history, t.label.KeepsAdmin) : AdminOfAll self' := by
  induction hrun with
  | nil => exact h
  | snoc _ hlast ih =>
    apply AdminOfAll.step _ (hkeeps _ (List.mem_append_right _ List.mem_cons_self)) hlast
    exact ih fun t ht => hkeeps t (List.mem_append_left _ ht)

/-- As long as no proxy was handed to another admin, no accepted call for a proxied contract
carries a call of its implementation: the proxies turn their admin away. -/
theorem call_data_stays_out {history : List (Transition AddressesProvider ProviderStep)}
    (hfresh : self.Fresh) (hrun : Run providers self history self')
    (hkeeps : ∀ t ∈ history, t.label.KeepsAdmin) :
    ∀ t ∈ history, ∀ id implementation bytes,
      t.label.call.upgrades = some (id, implementation, some (.foreign bytes)) →
        t.pre.addresses id ≠ .zero ∧ (t.pre.addresses id).isProxy = false := by
  intro t ht id implementation bytes hdata
  induction hrun with
  | nil => cases ht
  | @snoc m self' s history hrun hlast ih =>
    have hbefore : ∀ t ∈ history, t.label.KeepsAdmin := fun t ht =>
      hkeeps t (List.mem_append_left _ ht)
    rcases List.mem_append.mp ht with hold | hnow
    · exact ih hbefore hold
    · cases List.mem_singleton.mp hnow
      exact upgrade_without_data (hfresh.adminOfAll.run hrun hbefore) hlast hdata

/-! ### A deployment -/

/-- Every account has code that accepts whatever it is asked. -/
def sampleOutside : Outside := ⟨fun _ => true, fun _ => true, fun _ _ => true, fun _ _ => true⟩

def sampleProvider : AddressesProvider :=
  ⟨.account 1, "Confetti", fun _ => .zero, 0, fun _ => ⟨.zero, .zero⟩⟩

def sampleDeployment : List ProviderStep :=
  [⟨sampleOutside, .account 1, .setLendPoolImpl (.account 10) none⟩,
    ⟨sampleOutside, .account 1, .setLendPoolLoanImpl (.account 11) none⟩]

/-- An upgrade of the pool, another with call data, and one by somebody else. -/
def sampleUpgrades : List ProviderStep :=
  [⟨sampleOutside, .account 1, .setLendPoolImpl (.account 12) none⟩,
    ⟨sampleOutside, .account 1, .setLendPoolImpl (.account 13) (some (.foreign [1]))⟩,
    ⟨sampleOutside, .account 2, .setLendPoolImpl (.account 14) none⟩,
    ⟨sampleOutside, .account 1, .setAddress (.other 7) (.account 20)⟩,
    ⟨sampleOutside, .account 1, .setAddressAsProxy (.other 7) (.account 12)
      (some (.foreign [1]))⟩]

theorem sampleProvider_fresh : sampleProvider.Fresh := ⟨rfl, rfl⟩

theorem proxies_for_life_upgraded :
    let self := replayed providers sampleProvider sampleDeployment
    let self' := replayed providers self sampleUpgrades
    self'.addresses .LEND_POOL = .proxy 0 ∧
      (∀ other, self'.addresses other = .proxy 0 → other = .LEND_POOL) ∧
        (self'.proxies 0 = self.proxies 0 ∨ ∃ t ∈ trace providers self sampleUpgrades,
          t.pre.owner = t.label.caller ∧ ∃ implementation data,
            t.label.call.upgrades = some (.LEND_POOL, implementation, data)) :=
  proxies_for_life sampleProvider_fresh (trace_run _ sampleDeployment)
    (trace_run _ sampleUpgrades) (by decide +kernel) rfl (by decide +kernel)

theorem call_data_stays_out_upgraded :
    ∃ t ∈ trace providers sampleProvider (sampleDeployment ++ sampleUpgrades),
      t.label.call.upgrades = some (.other 7, .account 12, some (.foreign [1])) ∧
        t.pre.addresses (.other 7) ≠ .zero ∧ (t.pre.addresses (.other 7)).isProxy = false := by
  obtain ⟨t, ht, hdata⟩ : ∃ t ∈ trace providers sampleProvider (sampleDeployment ++ sampleUpgrades),
      t.label.call.upgrades = some (.other 7, .account 12, some (.foreign [1])) := by
    decide +kernel
  have hout := call_data_stays_out sampleProvider_fresh
    (trace_run _ (sampleDeployment ++ sampleUpgrades)) (by decide +kernel) t ht _ _ _ hdata
  exact ⟨t, ht, hdata, hout⟩

end Confetti

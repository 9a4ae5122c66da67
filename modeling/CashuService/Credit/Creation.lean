import CashuService.Credit.Idempotence
set_option autoImplicit false

namespace CashuService

def ValueClass.liability : ValueClass → Balance
  | peerCredit => .outstanding
  | closedLoopDeposit => .closedAllocated
  | reserveBackedWithdrawable => .reserveAllocated

def IssuerState.available (s : IssuerState) : ValueClass → Nat
  | .peerCredit => 0
  | .closedLoopDeposit => s.closedLoop.availableBackingSat.toNat
  | .reserveBackedWithdrawable => s.withdrawable.availableSat.toNat

/-- The calls that may create value of a class as a liability of issuer `i`, all of them
authenticated as `i`, and the amount. -/
inductive Creates (i : String) : ValueClass → Operation → UInt64 → Prop where
  | peerReceipt {c : ServiceReceiptClaim} {mode : AcceptanceMode} {now : UInt64}
      (issuer : c.issuer = i) (peer : c.valueClass = .peerCredit) :
      Creates i .peerCredit (.applyReceipt c i mode now) c.amountSat
  | novation {n : CreditNovation} {now : UInt64} (issuer : n.toIssuer = i) :
      Creates i .peerCredit (.novatePeerCredit n i now) n.amountSat
  | receipt {c : ServiceReceiptClaim} {now : UInt64} (issuer : c.issuer = i)
      (backed : c.valueClass ≠ .peerCredit) :
      Creates i c.valueClass (.applyReceipt c i .online now) c.amountSat
  | backed {b : BackedCreditSettlement} {now : UInt64} (issuer : b.backingIssuer = i)
      (backed : b.valueClass ≠ .peerCredit) :
      Creates i b.valueClass (.settlePeerCreditWithBacking b i now) b.amountSat

inductive Backs (i : String) : ValueClass → Operation → UInt64 → Prop where
  | deposit {d : BackingDeposit} (issuer : d.issuer = i) (backed : d.valueClass ≠ .peerCredit) :
      Backs i d.valueClass (.recordBackingDeposit d i) d.amountSat

namespace Movement

def backs (c : ValueClass) : Movement → Nat
  | depositClosedLoop amount => if c = .closedLoopDeposit then amount.toNat else 0
  | depositReserve amount => if c = .reserveBackedWithdrawable then amount.toNat else 0
  | _ => 0

def allocates (c : ValueClass) : Movement → Nat
  | allocateClosedLoop amount => if c = .closedLoopDeposit then amount.toNat else 0
  | allocateReserve amount => if c = .reserveBackedWithdrawable then amount.toNat else 0
  | _ => 0

end Movement

theorem Moves.available {s s' : IssuerState} {mv : Movement} (h : Moves s mv s')
    (c : ValueClass) : s'.available c + mv.allocates c = s.available c + mv.backs c := by
  cases h with
  | credit step | debit step | depositClosedLoop step | allocateClosedLoop step | consume step
  | depositReserve step | allocateReserve step | authorize step | release step =>
    cases step
    cases c
    all_goals simp_all [IssuerState.available, Movement.allocates, Movement.backs]

open KeyedRun

theorem posted_levels {m m' : BTreeMap String IssuerState} {es : List (String × Movement)}
    (h : Posted m es m') {i : String} {s : IssuerState} (hs : m[i]? = some s) :
    ∃ s', m'[i]? = some s' ∧ ∀ c : ValueClass,
      c.liability.of s' + amountAt i (Movement.decrease c.liability) es =
        c.liability.of s + amountAt i (Movement.increase c.liability) es ∧
      s'.available c + amountAt i (Movement.allocates c) es =
        s.available c + amountAt i (Movement.backs c) es := by
  have hi : i ∈ m' := (h.mem_iff i).mpr (BTreeMap.mem_of_getElem? hs)
  obtain ⟨s', hs'⟩ := BTreeMap.mem_iff_exists.mp hi
  refine ⟨s', hs', fun c => ?_⟩
  obtain ⟨t, ht, hliability⟩ := h.level_at _ (fun _ _ _ hm => hm.balance c.liability) hs
  obtain ⟨u, hu, havailable⟩ := h.level_at (IssuerState.available · c)
    (fun _ _ _ hm => hm.available c) hs
  rw [hs', Option.some.injEq] at ht hu
  subst ht hu
  exact ⟨hliability, havailable⟩

section

variable (i j : String) (amount : UInt64) (c class' : ValueClass)

@[simp] theorem amountAt_backing :
    amountAt i (Movement.backs c) (backing j amount class') =
      if j = i ∧ class' = c ∧ c ≠ .peerCredit then amount.toNat else 0 := by
  cases class' <;> cases c <;> simp [backing, Movement.backs]

@[simp] theorem amountAt_allocation :
    amountAt i (Movement.allocates c) (allocation j amount class') =
      if j = i ∧ class' = c ∧ c ≠ .peerCredit then amount.toNat else 0 := by
  cases class' <;> cases c <;> simp [allocation, Movement.allocates]

@[simp] theorem amountAt_liability_allocation :
    amountAt i (Movement.increase c.liability) (allocation j amount class') =
      if j = i ∧ class' = c ∧ c ≠ .peerCredit then amount.toNat else 0 := by
  cases class' <;> cases c <;> simp [allocation, Movement.increase, ValueClass.liability]

@[simp] theorem amountAt_liability_backing :
    amountAt i (Movement.increase c.liability) (backing j amount class') = 0 := by
  cases class' <;> cases c <;> simp [backing, Movement.increase, ValueClass.liability]

@[simp] theorem amountAt_backs_allocation :
    amountAt i (Movement.backs c) (allocation j amount class') = 0 := by
  cases class' <;> cases c <;> simp [allocation, Movement.backs]

@[simp] theorem amountAt_allocates_backing :
    amountAt i (Movement.allocates c) (backing j amount class') = 0 := by
  cases class' <;> cases c <;> simp [backing, Movement.allocates]

@[simp] theorem amountAt_decrease_allocation (b : Balance) :
    amountAt i (Movement.decrease b) (allocation j amount class') = 0 := by
  cases class' <;> simp [allocation, Movement.decrease]

@[simp] theorem increase_liability_credit (offline : Bool) :
    Movement.increase c.liability (.credit amount offline) =
      if c = .peerCredit then amount.toNat else 0 := by
  cases c <;> rfl

@[simp] theorem increase_debit (b : Balance) : Movement.increase b (.debit amount) = 0 := rfl

@[simp] theorem decrease_liability_debit :
    Movement.decrease c.liability (.debit amount) =
      if c = .peerCredit then amount.toNat else 0 := by
  cases c <;> rfl

@[simp] theorem decrease_credit (b : Balance) (offline : Bool) :
    Movement.decrease b (.credit amount offline) = 0 := rfl

@[simp] theorem backs_credit (offline : Bool) :
    Movement.backs c (.credit amount offline) = 0 := rfl

@[simp] theorem backs_debit : Movement.backs c (.debit amount) = 0 := rfl

@[simp] theorem allocates_debit : Movement.allocates c (.debit amount) = 0 := rfl

end

namespace CreditAccount

variable {a : CreditAccount} {auth : String} {now : UInt64}

theorem validateBackingDeposit_auth {d : BackingDeposit}
    (h : a.validateBackingDeposit d auth = .ok ()) : d.issuer = auth := by
  simp only [validateBackingDeposit, Except.bind_eq_ok, rejectIf_eq_ok] at h
  obtain ⟨_, hauth, _⟩ := h
  exact not_not.mp hauth

theorem validateReceipt_auth {c : ServiceReceiptClaim}
    (h : a.validateReceipt c auth now = .ok ()) : c.issuer = auth := by
  simp only [validateReceipt, validateReceiptIdentity, Except.bind_eq_ok, rejectIf_eq_ok] at h
  obtain ⟨_, ⟨_, _, _, hauth, _⟩, _⟩ := h
  exact not_not.mp hauth

theorem validateNovation_auth {n : CreditNovation} (h : a.validateNovation n auth now = .ok ()) :
    n.toIssuer = auth := by
  simp only [validateNovation, validateNovationIdentity, Except.bind_eq_ok, rejectIf_eq_ok] at h
  obtain ⟨_, ⟨_, _, _, hauth, _⟩, _⟩ := h
  exact not_not.mp hauth

theorem validateBackedSettlement_auth {b : BackedCreditSettlement}
    (h : a.validateBackedSettlement b auth now = .ok ()) : b.backingIssuer = auth := by
  simp only [validateBackedSettlement, validateBackedSettlementIdentity, Except.bind_eq_ok,
    rejectIf_eq_ok] at h
  obtain ⟨_, ⟨_, _, _, hauth, _⟩, _⟩ := h
  exact not_not.mp hauth

structure FirstApplication (a : CreditAccount) (op : Operation) : Prop where
  fresh : ¬a.Used op.key
  accepted : ∃ r, op.run a = .ok r (op.exec a)

structure Extinguishes (a : CreditAccount) (i : String) (amount : UInt64) (a' : CreditAccount) :
    Prop where
  outstanding : ∃ s s', a.issuers[i]? = some s ∧ a'.issuers[i]? = some s' ∧
    s'.peerCredit.outstandingSat.toNat + amount.toNat = s.peerCredit.outstandingSat.toNat
  total : a'.totalPeerCreditSat.toNat + amount.toNat = a.totalPeerCreditSat.toNat

/-- How the books of issuer `i` may grow in one call. -/
structure GrowsOnlyBy (a : CreditAccount) (op : Operation) (i : String)
    (s s' : IssuerState) (a' : CreditAccount) : Prop where
  created : ∀ c : ValueClass, c.liability.of s < c.liability.of s' → ∃ amount,
    Creates i c op amount ∧ c.liability.of s' = c.liability.of s + amount.toNat ∧
      (c ≠ .peerCredit → s'.available c + amount.toNat = s.available c) ∧
      ∀ b auth now, op = .settlePeerCreditWithBacking b auth now →
        a.Extinguishes b.fromIssuer amount a'
  backed : ∀ c : ValueClass, s.available c < s'.available c → ∃ amount,
    Backs i c op amount ∧ s'.available c = s.available c + amount.toNat

end CreditAccount

open CreditAccount

theorem growsOnlyBy_of_still {a a' : CreditAccount} {op : Operation} {i : String}
    {s : IssuerState} {es : List (String × Movement)} (posted : Posted a.issuers es a'.issuers)
    (hs : a.issuers[i]? = some s)
    (still : ∀ c : ValueClass, amountAt i (Movement.increase c.liability) es = 0 ∧
      amountAt i (Movement.backs c) es = 0) :
    ∃ s', a'.issuers[i]? = some s' ∧ a.GrowsOnlyBy op i s s' a' := by
  obtain ⟨s', hs', hlevels⟩ := posted_levels posted hs
  refine ⟨s', hs', fun c hc => ?_, fun c hc => ?_⟩
  · have hl := (hlevels c).1
    have hz := (still c).1
    omega
  · have hl := (hlevels c).2
    have hz := (still c).2
    omega

theorem growsOnlyBy_deposit {a a' : CreditAccount} {i : String} {s : IssuerState}
    {d : BackingDeposit} {auth : String} (valid : a.validateBackingDeposit d auth = .ok ())
    (posted : Posted a.issuers (backing d.issuer d.amountSat d.valueClass) a'.issuers)
    (hs : a.issuers[i]? = some s) :
    ∃ s', a'.issuers[i]? = some s' ∧ a.GrowsOnlyBy (.recordBackingDeposit d auth) i s s' a' := by
  have hauth := validateBackingDeposit_auth valid
  have hclass := (validateBackingDeposit_kept valid).backed
  subst hauth
  obtain ⟨s', hs', hlevels⟩ := posted_levels posted hs
  refine ⟨s', hs', fun c hc => ?_, fun c hc => ?_⟩
  · have hl := (hlevels c).1
    simp only [amountAt_liability_backing] at hl
    omega
  · have hl := (hlevels c).2
    simp only [amountAt_backing, amountAt_allocates_backing] at hl
    by_cases hwhere : d.issuer = i ∧ d.valueClass = c ∧ c ≠ .peerCredit
    · rw [if_pos hwhere] at hl
      obtain ⟨rfl, rfl, _⟩ := hwhere
      exact ⟨_, .deposit rfl hclass, hl⟩
    · rw [if_neg hwhere] at hl
      omega

theorem growsOnlyBy_receipt {a a' : CreditAccount} {i : String} {s : IssuerState}
    {c : ServiceReceiptClaim} {auth : String} {mode : AcceptanceMode} {now : UInt64}
    (valid : a.validateReceipt c auth now = .ok ())
    (online : c.valueClass ≠ .peerCredit → mode = .online)
    (posted : Posted a.issuers (receiptEntry c mode) a'.issuers) (hs : a.issuers[i]? = some s) :
    ∃ s', a'.issuers[i]? = some s' ∧ a.GrowsOnlyBy (.applyReceipt c auth mode now) i s s' a' := by
  have hauth := validateReceipt_auth valid
  subst hauth
  obtain ⟨s', hs', hlevels⟩ := posted_levels posted hs
  refine ⟨s', hs', fun k hk => ?_, fun k hk => ?_⟩
  · obtain ⟨hl, ha⟩ := hlevels k
    by_cases hwhere : c.issuer = i ∧ c.valueClass = k
    · obtain ⟨rfl, rfl⟩ := hwhere
      by_cases hpeer : c.valueClass = .peerCredit
      · simp [receiptEntry, hpeer] at hl
        rw [hpeer]
        exact ⟨_, .peerReceipt rfl hpeer, hl, by simp, by simp⟩
      · have honline := online hpeer
        subst honline
        simp [receiptEntry, hpeer] at hl ha
        exact ⟨_, .receipt rfl hpeer, hl, fun _ => ha, by simp⟩
    · by_cases hpeer : c.valueClass = .peerCredit
      · have hne : ¬(c.issuer = i ∧ k = .peerCredit) := fun h => hwhere ⟨h.1, hpeer.trans h.2.symm⟩
        simp [receiptEntry, hpeer] at hl
        grind
      · have hne : ¬(c.issuer = i ∧ c.valueClass = k ∧ k ≠ .peerCredit) :=
          fun h => hwhere ⟨h.1, h.2.1⟩
        simp only [receiptEntry, hpeer, if_false, amountAt_liability_allocation,
          amountAt_decrease_allocation, if_neg hne] at hl
        omega
  · have hl := (hlevels k).2
    by_cases hpeer : c.valueClass = .peerCredit <;> simp [receiptEntry, hpeer] at hl <;> omega

theorem growsOnlyBy_novation {a a' : CreditAccount} {i : String} {s : IssuerState}
    {n : CreditNovation} {auth : String} {now : UInt64}
    (valid : a.validateNovation n auth now = .ok ())
    (posted : Posted a.issuers
      [(n.fromIssuer, .debit n.amountSat), (n.toIssuer, .credit n.amountSat false)] a'.issuers)
    (hs : a.issuers[i]? = some s) :
    ∃ s', a'.issuers[i]? = some s' ∧ a.GrowsOnlyBy (.novatePeerCredit n auth now) i s s' a' := by
  have hauth := validateNovation_auth valid
  have hne := (validateNovation_kept valid).distinct
  subst hauth
  obtain ⟨s', hs', hlevels⟩ := posted_levels posted hs
  refine ⟨s', hs', fun c hc => ?_, fun c hc => ?_⟩
  · have hl := (hlevels c).1
    by_cases hto : n.toIssuer = i
    · subst hto
      by_cases hpeer : c = .peerCredit
      · subst hpeer
        simp [hne] at hl
        exact ⟨_, .novation rfl, hl, by simp, by simp⟩
      · simp [hpeer, hne] at hl
        omega
    · simp [hto] at hl
      omega
  · have hl := (hlevels c).2
    simp at hl
    omega

theorem extinguishes_of_backed {a a' : CreditAccount} {b : BackedCreditSettlement}
    (hfrom : b.fromIssuer ∈ a.issuers)
    (posted : Posted a.issuers (allocation b.backingIssuer b.amountSat b.valueClass ++
      [(b.fromIssuer, .debit b.amountSat)]) a'.issuers)
    (sum : a'.totalPeerCreditSat.toNat + b.amountSat.toNat = a.totalPeerCreditSat.toNat) :
    a.Extinguishes b.fromIssuer b.amountSat a' := by
  obtain ⟨s, hs⟩ := BTreeMap.mem_iff_exists.mp hfrom
  obtain ⟨s', hs', hlevels⟩ := posted_levels posted hs
  have hl := (hlevels .peerCredit).1
  simp at hl
  exact ⟨⟨s, s', hs, hs', hl⟩, sum⟩

theorem growsOnlyBy_backed {a a' : CreditAccount} {i : String} {s : IssuerState}
    {b : BackedCreditSettlement} {auth : String} {now : UInt64}
    (valid : a.validateBackedSettlement b auth now = .ok ())
    (posted : Posted a.issuers (allocation b.backingIssuer b.amountSat b.valueClass ++
      [(b.fromIssuer, .debit b.amountSat)]) a'.issuers)
    (sum : a'.totalPeerCreditSat.toNat + b.amountSat.toNat = a.totalPeerCreditSat.toNat)
    (hs : a.issuers[i]? = some s) :
    ∃ s', a'.issuers[i]? = some s' ∧
      a.GrowsOnlyBy (.settlePeerCreditWithBacking b auth now) i s s' a' := by
  have hauth := validateBackedSettlement_auth valid
  have hkept := validateBackedSettlement_kept valid
  subst hauth
  obtain ⟨s', hs', hlevels⟩ := posted_levels posted hs
  refine ⟨s', hs', fun c hc => ?_, fun c hc => ?_⟩
  · obtain ⟨hl, ha⟩ := hlevels c
    by_cases hwhere : b.backingIssuer = i ∧ b.valueClass = c
    · obtain ⟨rfl, rfl⟩ := hwhere
      simp [hkept.backed] at hl ha
      refine ⟨_, .backed rfl hkept.backed, hl, fun _ => ha, ?_⟩
      intro b' auth now hb
      cases hb
      exact extinguishes_of_backed hkept.fromIssuer posted sum
    · have hne : ¬(b.backingIssuer = i ∧ b.valueClass = c ∧ c ≠ .peerCredit) :=
        fun h => hwhere ⟨h.1, h.2.1⟩
      simp only [amountAt_append, amountAt_liability_allocation, if_neg hne, amountAt_cons,
        increase_debit, ite_self, amountAt_nil] at hl
      omega
  · have hl := (hlevels c).2
    simp at hl
    omega

theorem Applied.growsOnlyBy {a a' : CreditAccount} {op : Operation} {r : Response}
    (h : Applied a op r a') {i : String} {s : IssuerState} (hs : a.issuers[i]? = some s) :
    ∃ s', a'.issuers[i]? = some s' ∧ a.GrowsOnlyBy op i s s' a' := by
  cases h with
  | deposit valid fresh next posted => exact growsOnlyBy_deposit valid posted hs
  | receipt fresh valid next online posted => exact growsOnlyBy_receipt valid online posted hs
  | novation fresh valid next posted => exact growsOnlyBy_novation valid posted hs
  | backed fresh valid next posted sum => exact growsOnlyBy_backed valid posted sum hs
  | consumption valid fresh next posted =>
    exact growsOnlyBy_of_still posted hs fun c => by
      cases c <;> simp [ValueClass.liability, Movement.increase, Movement.backs]
  | authorization fresh valid next reserve posted =>
    exact growsOnlyBy_of_still posted hs fun c => by
      cases c <;> simp [ValueClass.liability, Movement.increase, Movement.backs]
  | completion stored state fits next posted =>
    exact growsOnlyBy_of_still posted hs fun c => by
      cases c <;> simp [ValueClass.liability, Movement.increase, Movement.backs]
  | cancellation stored state next posted =>
    exact growsOnlyBy_of_still posted hs fun c => by
      cases c <;> simp [ValueClass.liability, Movement.increase, Movement.backs]

def Operation.allocatesReserve : Operation → Bool
  | applyReceipt c _ _ _ => c.valueClass = .reserveBackedWithdrawable
  | settlePeerCreditWithBacking b _ _ => b.valueClass = .reserveBackedWithdrawable
  | _ => false

theorem Creates.allocatesReserve {i : String} {op : Operation} {amount : UInt64}
    (h : Creates i .reserveBackedWithdrawable op amount) : op.allocatesReserve = true := by
  generalize hc : ValueClass.reserveBackedWithdrawable = c at h
  cases h with
  | peerReceipt | novation => cases hc
  | receipt | backed => simp [Operation.allocatesReserve, hc.symm]

namespace CreditAccount

/-- Nothing can be cashed out: no reserve-backed value is owed and no external settlement was
ever authorized. -/
structure NoCashout (a : CreditAccount) : Prop where
  owed : a.issuers.Each fun _ s => ValueClass.reserveBackedWithdrawable.liability.of s = 0
  settlements : a.settlements = ∅

variable {a a' : CreditAccount} {op : Operation} {r : Response}

theorem noCashout_new {policy : AccountPolicy} (h : new policy = .ok a) : a.NoCashout := by
  simp only [new, Except.bind_eq_ok, rejectIf_eq_ok, Except.pure_eq_ok] at h
  obtain ⟨_, _, _, hne, issuers, hissuers, rfl⟩ := h
  have hempty : (∅ : BTreeMap String IssuerState).Each fun i s => s = .new s.policy ∧ s.Sound i :=
    fun _ _ hs => by simp at hs
  obtain ⟨_, hnew⟩ := foldlM_insertIssuer hempty hissuers (.inl hne)
  refine ⟨?_, rfl⟩
  intro i s hs
  rw [(hnew i s hs).1]
  rfl

theorem NoCashout.not_authorized {q : ExternalSettlementRequest} {auth : String} {now : UInt64}
    (hn : a.NoCashout) : ¬Applied a (.authorizeExternalSettlement q auth now) r a' := by
  intro h
  cases h with
  | authorization fresh valid next reserve posted =>
    have hamount := (validateSettlement_kept valid reserve).amount
    have hpositive : 0 < q.amountSat.toNat := Nat.pos_of_ne_zero fun h =>
      hamount (UInt64.toNat_inj.mp h)
    cases posted with
    | cons present taken =>
      have howed := hn.owed _ _ present
      cases taken with
      | authorize step =>
        have hredeemable := step.redeemable
        simp only [ValueClass.liability, Balance.of] at howed
        omega

/-- A call that allocates no reserve leaves nothing to cash out, whatever else it does. -/
theorem NoCashout.applied (hn : a.NoCashout) (hop : op.allocatesReserve = false)
    (h : Applied a op r a') : a'.NoCashout := by
  constructor
  case owed =>
    intro i s' hs'
    obtain ⟨s, hs⟩ := BTreeMap.mem_iff_exists.mp
      ((h.grows.issuers i).mp (BTreeMap.mem_of_getElem? hs'))
    obtain ⟨t, ht, hgrows⟩ := h.growsOnlyBy hs
    rw [hs', Option.some.injEq] at ht
    subst ht
    have howed := hn.owed i s hs
    by_contra hne
    obtain ⟨amount, hcreates, _⟩ := hgrows.created .reserveBackedWithdrawable (by omega)
    rw [hcreates.allocatesReserve] at hop
    contradiction
  case settlements =>
    cases h with
    | authorization fresh valid next reserve posted =>
      exact absurd (.authorization fresh valid next reserve posted) hn.not_authorized
    | completion stored | cancellation stored => simp [hn.settlements] at stored
    | _ => exact hn.settlements

theorem NoCashout.after (hn : a.NoCashout) (ops : List Operation)
    (hops : ∀ op ∈ ops, op.allocatesReserve = false) : (a.after ops).NoCashout := by
  induction ops generalizing a with
  | nil => exact hn
  | cons op ops ih =>
    obtain ⟨hop, hrest⟩ := List.forall_mem_cons.mp hops
    have hnext : (op.exec a).NoCashout := by
      rcases op.exec_cases a with hsame | ⟨_, _, happlied⟩
      · rwa [hsame]
      · exact hn.applied hop happlied
    exact ih hnext hrest

theorem NoCashout.refuses (hn : a.NoCashout) (q : ExternalSettlementRequest) (auth : String)
    (now : UInt64) :
    ∃ e, (Operation.authorizeExternalSettlement q auth now).run a = .error e a := by
  have hends := (Operation.authorizeExternalSettlement q auth now).run_ends a
  cases hr : (Operation.authorizeExternalSettlement q auth now).run a with
  | error e a' => exact ⟨e, by rw [hends.of_error hr]⟩
  | ok r a' =>
    rcases hends.of_ok hr with ⟨_, hreplayed⟩ | happlied
    · cases hreplayed with
      | authorization identity stored => simp [hn.settlements] at stored
    · exact absurd happlied hn.not_authorized

theorem firstApplication_of_changed (h : op.exec a ≠ a) : a.FirstApplication op := by
  rcases op.exec_cases a with hsame | ⟨r, hrun, happlied⟩
  · exact absurd hsame h
  · exact ⟨happlied.unused, r, hrun⟩

theorem growsOnlyBy_exec (a : CreditAccount) (op : Operation) {i : String} {s : IssuerState}
    (hs : a.issuers[i]? = some s) :
    ∃ s', (op.exec a).issuers[i]? = some s' ∧ a.GrowsOnlyBy op i s s' (op.exec a) := by
  rcases op.exec_cases a with hsame | ⟨_, _, happlied⟩
  · rw [hsame]
    exact ⟨s, hs, fun _ hc => absurd hc (Nat.lt_irrefl _), fun _ hc => absurd hc (Nat.lt_irrefl _)⟩
  · exact happlied.growsOnlyBy hs

/-- Value creation is authenticated and class-separated: in every reachable account, every call
changes something only as a first application, and lets the books of an issuer grow only by the
amount of a call of the right class that is authenticated as that issuer. So without an
allocation of reserve-backed value no run makes anything redeemable. -/
theorem value_creation :
    (∀ (a : CreditAccount) (op : Operation), a.Reachable →
      (op.exec a ≠ a → a.FirstApplication op) ∧
      a.issuers.Each fun i s => ∃ s', (op.exec a).issuers[i]? = some s' ∧
        a.GrowsOnlyBy op i s s' (op.exec a)) ∧
    ∀ policy a ops, new policy = .ok a →
      (∀ op ∈ ops, Operation.allocatesReserve op = false) →
      (a.after ops).NoCashout ∧ ∀ q auth now, ∃ e,
        (Operation.authorizeExternalSettlement q auth now).run (a.after ops) =
          .error e (a.after ops) := by
  constructor
  · intro a op _
    exact ⟨firstApplication_of_changed, fun _ _ hs => growsOnlyBy_exec a op hs⟩
  · intro policy a ops hnew hops
    have hn := (noCashout_new hnew).after ops hops
    exact ⟨hn, hn.refuses⟩

theorem value_creation_sample :
    ((sampleAccount.after sampleOperations).FirstApplication
      (.recordBackingDeposit ⟨"d3", "alpha", 1, .closedLoopDeposit⟩ "alpha")) ∧
    (sampleAccount.after
      [.recordBackingDeposit ⟨"d2", "beta", 30, .closedLoopDeposit⟩ "beta",
        .applyReceipt (sampleReceipt "r2" 25 .peerCredit) "alpha" .offlineDeferred 15,
        .settlePeerCreditWithBacking
          ⟨"b1", "peer", "alpha", "beta", 5, .closedLoopDeposit, 20⟩ "beta" 15]).NoCashout :=
  ⟨(value_creation.1 _ _ sampleAccount_reachable).1 (by decide +kernel),
    (value_creation.2 _ _ _ sampleAccount_new (by decide)).1⟩

end CreditAccount
end CashuService

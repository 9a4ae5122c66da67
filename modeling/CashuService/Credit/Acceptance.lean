import CashuService.Credit.Order
set_option autoImplicit false

namespace CashuService

/-! When a first application succeeds. All sums are sums of naturals, so the conditions below do
not mention overflow: the invariant of the account rules it out. -/

namespace IssuerState

def HasRoom (s : IssuerState) (amount : Nat) : ValueClass → Prop
  | .peerCredit => False
  | .closedLoopDeposit =>
    s.closedLoop.claimableSat.toNat + amount ≤ s.policy.maxClosedLoopSat.toNat ∧
      amount ≤ s.closedLoop.availableBackingSat.toNat
  | .reserveBackedWithdrawable =>
    s.withdrawable.redeemableSat.toNat + s.withdrawable.pendingExternalSat.toNat + amount ≤
        s.policy.maxWithdrawableSat.toNat ∧
      amount ≤ s.withdrawable.availableSat.toNat

def deposited (s : IssuerState) : ValueClass → Option UInt64
  | .peerCredit => none
  | .closedLoopDeposit => some s.closedLoop.totalDepositedSat
  | .reserveBackedWithdrawable => some s.withdrawable.totalDepositedSat

theorem ensureActive_eq_error {s : IssuerState} {now : UInt64} {e : CreditError} :
    s.ensureActive now = .error e ↔
      (∃ expires, s.policy.expiresAtUnix = some expires ∧ expires ≤ now) ∧ .policyExpired = e := by
  unfold ensureActive
  cases s.policy.expiresAtUnix <;> simp [rejectIf_eq_error]

end IssuerState

/-- A receipt fits: its issuer, the account and, where it was accepted offline, the offline cap
can take it. Backed value changes hands online only. -/
def ServiceReceiptClaim.Fits (c : ServiceReceiptClaim) (mode : AcceptanceMode)
    (a : CreditAccount) (s : IssuerState) : Prop :=
  match c.valueClass with
  | .peerCredit =>
    s.peerCredit.outstandingSat.toNat + c.amountSat.toNat ≤ s.policy.maxPeerCreditSat.toNat ∧
      a.totalPeerCreditSat.toNat + c.amountSat.toNat ≤ a.maxTotalPeerCreditSat.toNat ∧
      (mode = .offlineDeferred → s.peerCredit.offlineOutstandingSat.toNat + c.amountSat.toNat ≤
        s.policy.maxOfflinePeerCreditSat.toNat)
  | backed => mode = .online ∧ s.HasRoom c.amountSat.toNat backed

namespace Operation

/-- The checks of a call that look at neither a balance nor the value class. -/
def Checked (a : CreditAccount) : Operation → Prop
  | recordBackingDeposit d auth =>
    ∀ e, a.validateBackingDeposit d auth = .error e → e = .unsupportedBackingClass
  | applyReceipt c auth _ now => a.validateReceipt c auth now = .ok ()
  | novatePeerCredit n auth now => a.validateNovation n auth now = .ok ()
  | settlePeerCreditWithBacking b auth now =>
    ∀ e, a.validateBackedSettlement b auth now = .error e → e = .unsupportedBackingClass
  | consumeClosedLoop c auth => a.validateClosedLoopConsumption c auth = .ok ()
  | authorizeExternalSettlement r auth now => a.validateSettlement r auth now = .ok ()
  | completeExternalSettlement _ _ | cancelExternalSettlement _ => True

/-- The balances and caps leave room for a call. -/
def Fits (a : CreditAccount) : Operation → Prop
  | recordBackingDeposit d _ => ∃ s total, a.issuers[d.issuer]? = some s ∧
      s.deposited d.valueClass = some total ∧ total.toNat + d.amountSat.toNat < 2 ^ 64
  | applyReceipt c _ mode _ => ∃ s, a.issuers[c.issuer]? = some s ∧ c.Fits mode a s
  | novatePeerCredit n _ _ => ∃ s t, a.issuers[n.fromIssuer]? = some s ∧
      a.issuers[n.toIssuer]? = some t ∧
      n.amountSat.toNat ≤ s.peerCredit.outstandingSat.toNat ∧
      t.peerCredit.outstandingSat.toNat + n.amountSat.toNat ≤ t.policy.maxPeerCreditSat.toNat
  | settlePeerCreditWithBacking b _ _ => ∃ s t, a.issuers[b.fromIssuer]? = some s ∧
      a.issuers[b.backingIssuer]? = some t ∧
      b.amountSat.toNat ≤ s.peerCredit.outstandingSat.toNat ∧
      t.HasRoom b.amountSat.toNat b.valueClass
  | consumeClosedLoop c _ => ∃ s, a.issuers[c.issuer]? = some s ∧
      c.amountSat.toNat ≤ s.closedLoop.claimableSat.toNat
  | authorizeExternalSettlement r _ _ => ∃ s, a.issuers[r.issuer]? = some s ∧
      r.amountSat.toNat + r.maxFeeSat.toNat ≤ s.withdrawable.redeemableSat.toNat
  | completeExternalSettlement id fee => ∃ x, a.settlements[id]? = some x ∧
      fee ≤ x.request.maxFeeSat
  | cancelExternalSettlement id => id ∈ a.settlements

end Operation

namespace CreditAccount

variable {a a' : CreditAccount} {op : Operation} {r : Response} {i : String} {s : IssuerState}

theorem hasRoom_of_posted {amount : UInt64} {kind : ValueClass} {es : List (String × Movement)}
    {m m' : BTreeMap String IssuerState} (hclass : kind ≠ .peerCredit)
    (h : Posted m (allocation i amount kind ++ es) m') :
    ∃ s s', m[i]? = some s ∧ s.HasRoom amount.toNat kind ∧ s'.peerCredit = s.peerCredit ∧
      Posted (m.modify i fun _ => s') es m' := by
  cases kind with
  | peerCredit => contradiction
  | closedLoopDeposit =>
    cases h with
    | cons present taken tail =>
      cases taken with
      | allocateClosedLoop step cap =>
        have hclaimable := step.claimable
        have havailable := step.available
        refine ⟨_, _, present, ⟨by omega, by omega⟩, ?_, tail⟩
        rfl
  | reserveBackedWithdrawable =>
    cases h with
    | cons present taken tail =>
      cases taken with
      | allocateReserve step cap =>
        have hredeemable := step.redeemable
        have hpending := congrArg UInt64.toNat step.pending
        have havailable := step.available
        refine ⟨_, _, present, ⟨by omega, by omega⟩, ?_, tail⟩
        rfl

theorem deposited_of_posted {d : BackingDeposit} {m m' : BTreeMap String IssuerState}
    (hclass : d.valueClass ≠ .peerCredit)
    (h : Posted m (backing d.issuer d.amountSat d.valueClass) m') :
    ∃ s total, m[d.issuer]? = some s ∧ s.deposited d.valueClass = some total ∧
      total.toNat + d.amountSat.toNat < 2 ^ 64 := by
  generalize d.valueClass = kind at *
  cases kind with
  | peerCredit => contradiction
  | closedLoopDeposit =>
    cases h with
    | cons present taken tail =>
      cases taken with
      | @depositClosedLoop _ l step =>
        have htotal := step.total
        have hlt := l.totalDepositedSat.toNat_lt
        exact ⟨_, _, present, rfl, by omega⟩
  | reserveBackedWithdrawable =>
    cases h with
    | cons present taken tail =>
      cases taken with
      | @depositReserve _ l step =>
        have htotal := step.total
        have hlt := l.totalDepositedSat.toNat_lt
        exact ⟨_, _, present, rfl, by omega⟩

theorem receipt_fits {c : ServiceReceiptClaim} {mode : AcceptanceMode} {total : UInt64}
    {m' : BTreeMap String IssuerState} (online : c.valueClass ≠ .peerCredit → mode = .online)
    (posted : Posted a.issuers (receiptEntry c mode) m')
    (sum : total.toNat = a.totalPeerCreditSat.toNat +
      if c.valueClass = .peerCredit then c.amountSat.toNat else 0)
    (cap : c.valueClass = .peerCredit → total.toNat ≤ a.maxTotalPeerCreditSat.toNat) :
    ∃ s, a.issuers[c.issuer]? = some s ∧ c.Fits mode a s := by
  by_cases hclass : c.valueClass = .peerCredit
  · have htotal := cap hclass
    simp only [receiptEntry, hclass, if_true] at posted sum
    cases posted with
    | cons present taken tail =>
      cases taken with
      | credit step peerCap offlineCap =>
        have houtstanding := step.outstanding
        have hoffline := step.offlineOutstanding
        refine ⟨_, present, ?_⟩
        simp only [ServiceReceiptClaim.Fits, hclass]
        refine ⟨by omega, by omega, fun hmode => ?_⟩
        have hcap := offlineCap (by simp [hmode])
        simp only [hmode, decide_true, if_true] at hoffline
        omega
  · simp only [receiptEntry, hclass, if_false] at posted
    rw [← List.append_nil (allocation _ _ _)] at posted
    obtain ⟨s, _, hs, hroom, _⟩ := hasRoom_of_posted hclass posted
    refine ⟨s, hs, ?_⟩
    unfold ServiceReceiptClaim.Fits
    split
    · contradiction
    · exact ⟨online hclass, hroom⟩

theorem novation_fits {n : CreditNovation} {m' : BTreeMap String IssuerState}
    (hne : n.fromIssuer ≠ n.toIssuer)
    (posted : Posted a.issuers
      [(n.fromIssuer, .debit n.amountSat), (n.toIssuer, .credit n.amountSat false)] m') :
    ∃ s t, a.issuers[n.fromIssuer]? = some s ∧ a.issuers[n.toIssuer]? = some t ∧
      n.amountSat.toNat ≤ s.peerCredit.outstandingSat.toNat ∧
      t.peerCredit.outstandingSat.toNat + n.amountSat.toNat ≤ t.policy.maxPeerCreditSat.toNat := by
  cases posted with
  | cons hs taken tail =>
    cases tail with
    | cons ht taken' _ =>
      rw [BTreeMap.getElem?_modify_ne _ _ hne] at ht
      cases taken with
      | debit step =>
        cases taken' with
        | credit step' cap _ =>
          have hdebited := step.outstanding
          have hcredited := step'.outstanding
          exact ⟨_, _, hs, ht, by omega, by omega⟩

theorem backed_fits {b : BackedCreditSettlement} {m' : BTreeMap String IssuerState}
    (hclass : b.valueClass ≠ .peerCredit)
    (posted : Posted a.issuers (allocation b.backingIssuer b.amountSat b.valueClass ++
      [(b.fromIssuer, .debit b.amountSat)]) m') :
    ∃ s t, a.issuers[b.fromIssuer]? = some s ∧ a.issuers[b.backingIssuer]? = some t ∧
      b.amountSat.toNat ≤ s.peerCredit.outstandingSat.toNat ∧
      t.HasRoom b.amountSat.toNat b.valueClass := by
  obtain ⟨t, t', ht, hroom, hpeer, tail⟩ := hasRoom_of_posted hclass posted
  cases tail with
  | @cons _ _ _ _ _ s _ hs taken _ =>
    cases taken with
    | debit step =>
      have hdebited := step.outstanding
      by_cases he : b.backingIssuer = b.fromIssuer
      · rw [he, BTreeMap.getElem?_modify_self, ← he, ht, Option.map_some, Option.some.injEq] at hs
        rw [← he]
        exact ⟨t, t, ht, ht, by rw [← hpeer, hs]; omega, hroom⟩
      · rw [BTreeMap.getElem?_modify_ne _ _ he] at hs
        exact ⟨s, t, hs, ht, by omega, hroom⟩

theorem fits_of_applied (h : Applied a op r a') : op.Fits a := by
  cases h with
  | deposit valid _ _ posted =>
    exact deposited_of_posted (validateBackingDeposit_kept valid).backed posted
  | receipt _ _ _ online posted sum cap => exact receipt_fits online posted sum cap
  | novation _ valid _ posted =>
    exact novation_fits (validateNovation_kept valid).distinct posted
  | backed _ valid _ posted =>
    exact backed_fits (validateBackedSettlement_kept valid).backed posted
  | consumption _ _ _ posted =>
    cases posted with
    | cons present taken _ =>
      cases taken with
      | consume step =>
        have hclaimable := step.claimable
        exact ⟨_, present, by omega⟩
  | authorization _ _ _ reserve posted =>
    cases posted with
    | cons present taken _ =>
      cases taken with
      | authorize step =>
        have hredeemable := step.redeemable
        exact ⟨_, present, by omega⟩
  | completion stored _ fits => exact ⟨_, stored, UInt64.le_iff_toNat_le.mpr fits⟩
  | cancellation stored => exact BTreeMap.mem_of_getElem? stored

section

variable {amount : UInt64}

theorem credit_exists (offline : Bool) (hsound : s.Sound i)
    (hroom : s.peerCredit.outstandingSat.toNat + amount.toNat ≤ s.policy.maxPeerCreditSat.toNat) :
    ∃ l, onClone (PeerCreditLedger.credit amount offline) s.peerCredit = .ok l ∧
      s.peerCredit.Credited amount offline l := by
  have hoffline := hsound.offline
  have hmax := s.policy.maxPeerCreditSat.toNat_lt
  exact (PeerCreditLedger.credit_ends s.peerCredit amount offline).exists_onClone
    fun _ _ h => by omega

theorem allocateClosedLoop_exists (hroom : s.HasRoom amount.toNat .closedLoopDeposit) :
    ∃ resulting l, s.closedLoop.claimableSat.checkedAdd amount = some resulting ∧
      ¬s.policy.maxClosedLoopSat < resulting ∧
      onClone (ClosedLoopLedger.allocate amount) s.closedLoop = .ok l := by
  obtain ⟨hcap, havailable⟩ := hroom
  have hmax := s.policy.maxClosedLoopSat.toNat_lt
  have hsum := UInt64.checkedAdd_of_fits (a := s.closedLoop.claimableSat) (b := amount) (by omega)
  have hresult := UInt64.checkedAdd_eq_some.mp hsum
  obtain ⟨l, hl, _⟩ :=
    (ClosedLoopLedger.allocate_ends s.closedLoop amount).exists_onClone fun _ _ h => by omega
  exact ⟨_, l, hsum, UInt64.not_lt.mpr (UInt64.le_iff_toNat_le.mpr (by omega)), hl⟩

theorem allocateReserve_exists (hs : a.issuers[i]? = some s)
    (hroom : s.HasRoom amount.toNat .reserveBackedWithdrawable) :
    ∃ l, a.ensureWithdrawableCapacity i s.withdrawable amount = .ok () ∧
      onClone (WithdrawableReserveLedger.allocate amount) s.withdrawable = .ok l := by
  obtain ⟨hcap, havailable⟩ := hroom
  have hmax := s.policy.maxWithdrawableSat.toNat_lt
  have hpart := UInt64.checkedAdd_of_fits (a := s.withdrawable.redeemableSat)
    (b := s.withdrawable.pendingExternalSat) (by omega)
  have hpartNat := UInt64.checkedAdd_eq_some.mp hpart
  have hsum := UInt64.checkedAdd_of_fits
    (a := s.withdrawable.redeemableSat + s.withdrawable.pendingExternalSat) (b := amount)
    (by omega)
  have hsumNat := UInt64.checkedAdd_eq_some.mp hsum
  obtain ⟨l, hl, _⟩ := (WithdrawableReserveLedger.allocate_ends s.withdrawable
    amount).exists_onClone fun _ _ h => by omega
  refine ⟨l, ?_, hl⟩
  simp only [ensureWithdrawableCapacity, Except.bind_eq_ok, okOr_eq_ok, issuer_eq_ok,
    rejectIf_eq_ok, Option.bind_eq_some_iff]
  exact ⟨_, ⟨_, hpart, hsum⟩, s, hs,
    UInt64.not_lt.mpr (UInt64.le_iff_toNat_le.mpr (by omega))⟩

end
theorem validateBackingDeposit_of_checked {d : BackingDeposit} {auth : String}
    (h : (Operation.recordBackingDeposit d auth).Checked a) (hclass : d.valueClass ≠ .peerCredit) :
    a.validateBackingDeposit d auth = .ok () := by
  cases hv : a.validateBackingDeposit d auth with
  | ok _ => rfl
  | error e =>
    have he := h e hv
    subst he
    simp [validateBackingDeposit, Except.bind_eq_error, rejectIf_eq_error, issuer, hclass] at hv

theorem validateBackedSettlement_of_checked {b : BackedCreditSettlement} {auth : String}
    {now : UInt64} (h : (Operation.settlePeerCreditWithBacking b auth now).Checked a)
    (hclass : b.valueClass ≠ .peerCredit) : a.validateBackedSettlement b auth now = .ok () := by
  cases hv : a.validateBackedSettlement b auth now with
  | ok _ => rfl
  | error e =>
    have he := h e hv
    subst he
    simp [validateBackedSettlement, validateBackedSettlementIdentity, Except.bind_eq_error,
      rejectIf_eq_error, issuer, IssuerState.ensureActive_eq_error, hclass] at hv

theorem recordBackingDeposit_cannotFail {d : BackingDeposit} {auth : String} (hc : a.Coherent)
    (hrev : a.revision.toNat < 2 ^ 64 - 1)
    (hfresh : a.backingDeposits[(d.issuer, d.depositId)]? = none)
    (hchecked : (Operation.recordBackingDeposit d auth).Checked a)
    (hfits : (Operation.recordBackingDeposit d auth).Fits a) :
    CannotFail (recordBackingDeposit d auth) a := by
  obtain ⟨s, total, hs, htotal, hroom⟩ := hfits
  have hsound := hc.sound _ s hs
  obtain ⟨revision, hnext⟩ := nextRevision_exists hrev
  have hclass : d.valueClass ≠ .peerCredit := by
    intro h
    simp [IssuerState.deposited, h] at htotal
  refine .get_bind (.attempt_ok_bind (validateBackingDeposit_of_checked hchecked hclass)
    (.get_bind ?_))
  simp only [hfresh]
  refine .get_bind (.attempt_ok_bind hnext (.seq (q := fun _ _ => True) ?_ fun _ _ _ =>
    .modify_bind (.modify_bind (.pure trivial))))
  cases hkind : d.valueClass with
  | peerCredit => contradiction
  | closedLoopDeposit =>
    simp only [IssuerState.deposited, hkind, Option.some.injEq] at htotal
    subst htotal
    have hconserved := hsound.closedLoopConserved
    exact issuerMut_cannotFail hs (.zoom ((ClosedLoopLedger.deposit_ends _ _).imp
      (fun _ _ h => by omega) fun _ _ _ => trivial))
  | reserveBackedWithdrawable =>
    simp only [IssuerState.deposited, hkind, Option.some.injEq] at htotal
    subst htotal
    have hconserved := hsound.withdrawableConserved
    exact issuerMut_cannotFail hs (.zoom ((WithdrawableReserveLedger.deposit_ends _ _).imp
      (fun _ _ h => by omega) fun _ _ _ => trivial))

theorem applyPeerCredit_cannotFail {c : ServiceReceiptClaim} {mode : AcceptanceMode}
    (hc : a.Coherent) (hs : a.issuers[c.issuer]? = some s) (hclass : c.valueClass = .peerCredit)
    (hfits : c.Fits mode a s) : CannotFail (applyPeerCredit c mode) a := by
  simp only [ServiceReceiptClaim.Fits, hclass] at hfits
  obtain ⟨hcap, htotalCap, hofflineCap⟩ := hfits
  have hsound := hc.sound _ s hs
  have hmax := a.maxTotalPeerCreditSat.toNat_lt
  obtain ⟨l, hl, hcredited⟩ := credit_exists (mode = .offlineDeferred) hsound hcap
  have houtstanding := hcredited.outstanding
  have hoffline := hcredited.offlineOutstanding
  have hkept := hsound.offlineCap
  have hpeer : ¬s.policy.maxPeerCreditSat < l.outstandingSat :=
    UInt64.not_lt.mpr (UInt64.le_iff_toNat_le.mpr (by omega))
  have hofflinePeer : ¬s.policy.maxOfflinePeerCreditSat < l.offlineOutstandingSat := by
    refine UInt64.not_lt.mpr (UInt64.le_iff_toNat_le.mpr ?_)
    cases mode with
    | online => simpa using hoffline ▸ hkept
    | offlineDeferred =>
      have hadded := hofflineCap rfl
      simp only [decide_true, if_true] at hoffline
      omega
  have htotal := UInt64.checkedAdd_of_fits (a := a.totalPeerCreditSat) (b := c.amountSat)
    (by omega)
  have hsum := UInt64.checkedAdd_eq_some.mp htotal
  have hcapped : ¬a.maxTotalPeerCreditSat < a.totalPeerCreditSat + c.amountSat :=
    UInt64.not_lt.mpr (UInt64.le_iff_toNat_le.mpr (by omega))
  refine .get_bind (.attempt_ok_bind (a := (l, a.totalPeerCreditSat + c.amountSat)) ?_ ?_)
  · simp only [Except.bind_eq_ok, issuer_eq_ok, rejectIf_eq_ok, okOr_eq_ok, Except.pure_eq_ok]
    exact ⟨s, hs, l, hl, s, hs, (), hpeer, (), hofflinePeer, _, htotal, (), hcapped, rfl⟩
  · exact (issuerMut_commit hs).seq fun _ _ _ => .modify trivial

theorem applyClosedLoop_cannotFail {c : ServiceReceiptClaim} (hs : a.issuers[c.issuer]? = some s)
    (hroom : s.HasRoom c.amountSat.toNat .closedLoopDeposit) :
    CannotFail (applyClosedLoop c) a := by
  obtain ⟨resulting, l, hsum, hcap, hl⟩ := allocateClosedLoop_exists hroom
  refine .get_bind (.attempt_ok_bind (a := l) ?_ ((issuerMut_commit hs).imp
    (fun _ _ h => h) fun _ _ _ => trivial))
  simp only [Except.bind_eq_ok, issuer_eq_ok, rejectIf_eq_ok, okOr_eq_ok]
  exact ⟨s, hs, resulting, hsum, s, hs, (), hcap, hl⟩

theorem applyWithdrawable_cannotFail {c : ServiceReceiptClaim}
    (hs : a.issuers[c.issuer]? = some s)
    (hroom : s.HasRoom c.amountSat.toNat .reserveBackedWithdrawable) :
    CannotFail (applyWithdrawable c) a := by
  obtain ⟨l, hcap, hl⟩ := allocateReserve_exists hs hroom
  refine .get_bind (.attempt_ok_bind (a := l) ?_ ((issuerMut_commit hs).imp
    (fun _ _ h => h) fun _ _ _ => trivial))
  simp only [Except.bind_eq_ok, issuer_eq_ok]
  exact ⟨s, hs, (), hcap, hl⟩

theorem applyReceipt_cannotFail {c : ServiceReceiptClaim} {auth : String} {mode : AcceptanceMode}
    {now : UInt64} (hc : a.Coherent) (hrev : a.revision.toNat < 2 ^ 64 - 1)
    (hfresh : a.appliedReceipts[c.receiptId]? = none)
    (hchecked : a.validateReceipt c auth now = .ok ())
    (hfits : (Operation.applyReceipt c auth mode now).Fits a) :
    CannotFail (applyReceipt c auth mode now) a := by
  obtain ⟨s, hs, hroom⟩ := hfits
  obtain ⟨revision, hnext⟩ := nextRevision_exists hrev
  have hidentity : a.validateReceiptIdentity c auth = .ok () := Except.first_eq_ok hchecked
  refine .get_bind (.attempt_ok_bind hidentity (.get_bind ?_))
  simp only [hfresh]
  refine .get_bind (.attempt_ok_bind hchecked (.get_bind (.attempt_ok_bind hnext
    (.seq (q := fun _ _ => True) ?_ fun _ _ _ =>
      .modify_bind (.modify_bind (.modify_bind (.pure trivial)))))))
  cases hclass : c.valueClass with
  | peerCredit => exact applyPeerCredit_cannotFail hc hs hclass hroom
  | closedLoopDeposit =>
    simp only [ServiceReceiptClaim.Fits, hclass] at hroom
    obtain ⟨rfl, hroom⟩ := hroom
    exact .attempt_ok_bind (a := ()) rfl (applyClosedLoop_cannotFail hs hroom)
  | reserveBackedWithdrawable =>
    simp only [ServiceReceiptClaim.Fits, hclass] at hroom
    obtain ⟨rfl, hroom⟩ := hroom
    exact .attempt_ok_bind (a := ()) rfl (applyWithdrawable_cannotFail hs hroom)

theorem debit_exists {amount : UInt64}
    (hroom : amount.toNat ≤ s.peerCredit.outstandingSat.toNat) :
    ∃ l, onClone (PeerCreditLedger.debit amount) s.peerCredit = .ok l := by
  obtain ⟨l, hl, _⟩ := (PeerCreditLedger.debit_ends s.peerCredit amount).exists_onClone
    fun _ _ h => by omega
  exact ⟨l, hl⟩

theorem novatePeerCredit_cannotFail {n : CreditNovation} {auth : String} {now : UInt64}
    (hc : a.Coherent) (hrev : a.revision.toNat < 2 ^ 64 - 1)
    (hfresh : a.novations[n.novationId]? = none)
    (hchecked : a.validateNovation n auth now = .ok ())
    (hfits : (Operation.novatePeerCredit n auth now).Fits a) :
    CannotFail (novatePeerCredit n auth now) a := by
  obtain ⟨s, t, hs, ht, hdebit, hcredit⟩ := hfits
  obtain ⟨revision, hnext⟩ := nextRevision_exists hrev
  obtain ⟨source, hsource⟩ := debit_exists hdebit
  obtain ⟨target, htarget, hcredited⟩ := credit_exists false (hc.sound _ t ht) hcredit
  have houtstanding := hcredited.outstanding
  have hcap : ¬t.policy.maxPeerCreditSat < target.outstandingSat :=
    UInt64.not_lt.mpr (UInt64.le_iff_toNat_le.mpr (by omega))
  have hidentity : a.validateNovationIdentity n auth = .ok () := Except.first_eq_ok hchecked
  refine .get_bind (.attempt_ok_bind hidentity (.get_bind ?_))
  simp only [hfresh]
  refine .get_bind (.attempt_ok_bind hchecked (.get_bind (.attempt_ok_bind hnext (.get_bind
    (.attempt_ok_bind (a := (source, target)) ?_ ?_)))))
  · simp only [Except.bind_eq_ok, issuer_eq_ok, rejectIf_eq_ok, Except.pure_eq_ok]
    exact ⟨s, hs, t, ht, source, hsource, target, htarget, t, ht, (), hcap, rfl⟩
  · have hne := (validateNovation_kept hchecked).distinct
    have ht₁ := (BTreeMap.getElem?_modify_ne a.issuers
      (fun _ => { s with peerCredit := source }) hne).trans ht
    refine (issuerMut_commit hs).seq ?_
    rintro _ _ rfl
    exact (issuerMut_commit ht₁).seq fun _ _ _ =>
      .modify_bind (.modify_bind (.modify trivial))

theorem Coherent.outstanding_le_total (hc : a.Coherent) (hs : a.issuers[i]? = some s) :
    s.peerCredit.outstandingSat.toNat ≤ a.totalPeerCreditSat.toNat := by
  rw [hc.total]
  exact BTreeMap.le_sumOf (Balance.of .outstanding) hs

theorem settlePeerCreditWithBacking_cannotFail {b : BackedCreditSettlement} {auth : String}
    {now : UInt64} (hc : a.Coherent) (hrev : a.revision.toNat < 2 ^ 64 - 1)
    (hfresh : a.backedSettlements[b.settlementId]? = none)
    (hchecked : (Operation.settlePeerCreditWithBacking b auth now).Checked a)
    (hfits : (Operation.settlePeerCreditWithBacking b auth now).Fits a) :
    CannotFail (settlePeerCreditWithBacking b auth now) a := by
  obtain ⟨s, t, hs, ht, hdebit, hroom⟩ := hfits
  obtain ⟨revision, hnext⟩ := nextRevision_exists hrev
  obtain ⟨source, hsource⟩ := debit_exists hdebit
  have hclass : b.valueClass ≠ .peerCredit := by
    intro h
    simp [IssuerState.HasRoom, h] at hroom
  have hvalid := validateBackedSettlement_of_checked hchecked hclass
  have hidentity : a.validateBackedSettlementIdentity b auth = .ok () := Except.first_eq_ok hvalid
  have hremaining : a.totalPeerCreditSat.checkedSub b.amountSat =
      some (a.totalPeerCreditSat - b.amountSat) :=
    if_pos (Nat.le_trans hdebit (hc.outstanding_le_total hs))
  refine .get_bind (.attempt_ok_bind hidentity (.get_bind ?_))
  simp only [hfresh]
  refine .get_bind (.attempt_ok_bind hvalid (.get_bind (.attempt_ok_bind hnext (.get_bind
    (.attempt_ok_bind (a := (source, a.totalPeerCreditSat - b.amountSat)) ?_ (.seq (q := fun _ a' =>
      ∃ s', a'.issuers[b.fromIssuer]? = some s') ?_ ?_))))))
  · simp only [Except.bind_eq_ok, issuer_eq_ok, okOr_eq_ok, Except.pure_eq_ok]
    exact ⟨s, hs, source, hsource, _, hremaining, rfl⟩
  · cases hkind : b.valueClass with
    | peerCredit => contradiction
    | closedLoopDeposit =>
      rw [hkind] at hroom
      obtain ⟨resulting, l, hsum, hcap, hl⟩ := allocateClosedLoop_exists hroom
      refine .attempt_ok_bind (a := l) ?_ ((issuerMut_commit ht).imp (fun _ _ h => h) ?_)
      · simp only [Except.bind_eq_ok, issuer_eq_ok, rejectIf_eq_ok, okOr_eq_ok]
        exact ⟨t, ht, resulting, hsum, t, ht, (), hcap, hl⟩
      · rintro _ _ rfl
        have hpeer : ({ t with closedLoop := l } : IssuerState).peerCredit = t.peerCredit := rfl
        obtain ⟨s', hs', _⟩ := peerCredit_of_modify hs ht hpeer
        exact ⟨s', hs'⟩
    | reserveBackedWithdrawable =>
      rw [hkind] at hroom
      obtain ⟨l, hcap, hl⟩ := allocateReserve_exists ht hroom
      refine .attempt_ok_bind (a := l) ?_ ((issuerMut_commit ht).imp (fun _ _ h => h) ?_)
      · simp only [Except.bind_eq_ok, issuer_eq_ok]
        exact ⟨t, ht, (), hcap, hl⟩
      · rintro _ _ rfl
        have hpeer : ({ t with withdrawable := l } : IssuerState).peerCredit = t.peerCredit := rfl
        obtain ⟨s', hs', _⟩ := peerCredit_of_modify hs ht hpeer
        exact ⟨s', hs'⟩
  · intro _ a' h
    obtain ⟨s', hs'⟩ := h
    exact (issuerMut_commit hs').seq fun _ _ _ =>
      .modify_bind (.modify_bind (.modify_bind (.modify_bind (.pure trivial))))

theorem consumeClosedLoop_cannotFail {c : ClosedLoopConsumption} {auth : String}
    (hc : a.Coherent) (hrev : a.revision.toNat < 2 ^ 64 - 1)
    (hfresh : a.closedLoopConsumptions[c.consumptionId]? = none)
    (hchecked : a.validateClosedLoopConsumption c auth = .ok ())
    (hfits : (Operation.consumeClosedLoop c auth).Fits a) :
    CannotFail (consumeClosedLoop c auth) a := by
  obtain ⟨s, hs, hroom⟩ := hfits
  have hconserved := (hc.sound _ s hs).closedLoopConserved
  have hdeposited := s.closedLoop.totalDepositedSat.toNat_lt
  obtain ⟨revision, hnext⟩ := nextRevision_exists hrev
  have hpost : CannotFail (issuerMut c.issuer
      (IssuerState.closedLoopMut (ClosedLoopLedger.consume c.amountSat))) a :=
    issuerMut_cannotFail hs (.zoom ((ClosedLoopLedger.consume_ends _ _).imp
      (fun _ _ h => by omega) fun _ _ _ => trivial))
  refine .get_bind (.attempt_ok_bind hchecked (.get_bind ?_))
  simp only [hfresh]
  exact .get_bind (.attempt_ok_bind hnext (hpost.seq fun _ _ _ =>
    .modify_bind (.modify_bind (.pure trivial))))

theorem authorizeExternalSettlement_cannotFail {q : ExternalSettlementRequest} {auth : String}
    {now : UInt64} (hc : a.Coherent) (hrev : a.revision.toNat < 2 ^ 64 - 1)
    (hfresh : a.settlements[q.settlementId]? = none)
    (hchecked : a.validateSettlement q auth now = .ok ())
    (hfits : (Operation.authorizeExternalSettlement q auth now).Fits a) :
    CannotFail (authorizeExternalSettlement q auth now) a := by
  obtain ⟨s, hs, hroom⟩ := hfits
  have hconserved := (hc.sound _ s hs).withdrawableConserved
  have hdeposited := s.withdrawable.totalDepositedSat.toNat_lt
  obtain ⟨revision, hnext⟩ := nextRevision_exists hrev
  have hreserved := UInt64.checkedAdd_of_fits (a := q.amountSat) (b := q.maxFeeSat) (by omega)
  have hsum := UInt64.checkedAdd_eq_some.mp hreserved
  have hpost : CannotFail (issuerMut q.issuer (IssuerState.withdrawableMut
      (WithdrawableReserveLedger.authorize (q.amountSat + q.maxFeeSat)))) a :=
    issuerMut_cannotFail hs (.zoom ((WithdrawableReserveLedger.authorize_ends _ _).imp
      (fun _ _ h => by omega) fun _ _ _ => trivial))
  have hidentity : a.validateSettlementIdentity q auth = .ok () := Except.first_eq_ok hchecked
  refine .get_bind (.attempt_ok_bind hidentity (.get_bind ?_))
  simp only [hfresh]
  exact .get_bind (.attempt_ok_bind hchecked (.get_bind (.attempt_ok_bind hnext
    (.attempt_ok_bind (okOr_eq_ok.mpr hreserved) (hpost.seq fun _ _ _ =>
      .modify_bind (.modify_bind (.pure trivial)))))))

theorem eq_none_of_map {α β : Type} {o : Option α} {f : α → β} (h : ¬∃ x, o.map f = some x) :
    o = none := by
  cases o with
  | none => rfl
  | some v => exact (h ⟨f v, rfl⟩).elim

theorem pending_of_unused {id : String} {x : SettlementRecord} (h : ¬a.Used (.decision id))
    (hx : a.settlements[id]? = some x) : x.state = .pending := by
  by_contra hdecided
  exact h ⟨x, hx, hdecided⟩

theorem cannotFail_of_fits (hc : a.Coherent) (hrev : a.revision.toNat < 2 ^ 64 - 1)
    (hfresh : ¬a.Used op.key) (hchecked : op.Checked a) (hfits : op.Fits a) :
    CannotFail op.run a := by
  cases op with
  | recordBackingDeposit d auth =>
    exact (recordBackingDeposit_cannotFail hc hrev (eq_none_of_map hfresh) hchecked
      hfits).seq fun _ _ _ => .pure trivial
  | applyReceipt c auth mode now =>
    exact (applyReceipt_cannotFail hc hrev (eq_none_of_map hfresh) hchecked
      hfits).seq fun _ _ _ => .pure trivial
  | novatePeerCredit n auth now =>
    exact (novatePeerCredit_cannotFail hc hrev (eq_none_of_map hfresh) hchecked
      hfits).seq fun _ _ _ => .pure trivial
  | settlePeerCreditWithBacking b auth now =>
    exact (settlePeerCreditWithBacking_cannotFail hc hrev (eq_none_of_map hfresh) hchecked
      hfits).seq fun _ _ _ => .pure trivial
  | consumeClosedLoop c auth =>
    exact (consumeClosedLoop_cannotFail hc hrev (eq_none_of_map hfresh) hchecked
      hfits).seq fun _ _ _ => .pure trivial
  | authorizeExternalSettlement q auth now =>
    exact (authorizeExternalSettlement_cannotFail hc hrev (eq_none_of_map hfresh) hchecked
      hfits).seq fun _ _ _ => .pure trivial
  | completeExternalSettlement id fee =>
    obtain ⟨x, hx, hfee⟩ := hfits
    obtain ⟨a', ha'⟩ := complete_progress hc hx (pending_of_unused hfresh hx) hrev hfee
    exact (cannotFail_of_ok ha').seq fun _ _ _ => .pure trivial
  | cancelExternalSettlement id =>
    obtain ⟨x, hx⟩ := BTreeMap.mem_iff_exists.mp hfits
    obtain ⟨a', ha'⟩ := cancel_progress hc hx (pending_of_unused hfresh hx) hrev
    exact (cannotFail_of_ok ha').seq fun _ _ _ => .pure trivial

/-- Acceptance is exact: a call of a reachable account that repeats nothing and passes its checks
succeeds if and only if the caps and balances leave room for it. -/
theorem acceptance_exact (h : a.Reachable) (hrev : a.revision.toNat < 2 ^ 64 - 1)
    (hfresh : ¬a.Used op.key) (hchecked : op.Checked a) :
    (∃ r a', op.run a = .ok r a') ↔ op.Fits a := by
  constructor
  · intro hrun
    obtain ⟨r, a', hok⟩ := hrun
    rcases (op.run_ends a).of_ok hok with ⟨_, hreplayed⟩ | happlied
    · exact absurd hreplayed.used hfresh
    · exact fits_of_applied happlied
  · intro hfits
    obtain ⟨r, a', hok, _⟩ := (cannotFail_of_fits h.coherent hrev hfresh hchecked hfits).exists_ok
    exact ⟨r, a', hok⟩

def sampleOffline (amountSat : UInt64) : Operation :=
  .applyReceipt (sampleReceipt "r3" amountSat .peerCredit) "alpha" .offlineDeferred 15

/-- The offline cap of the sample issuer is exhausted to the sat. -/
theorem acceptance_exact_sample :
    (∃ r a', (sampleOffline 40).run (sampleAccount.after sampleOperations) = .ok r a') ∧
      ¬∃ r a', (sampleOffline 41).run (sampleAccount.after sampleOperations) = .ok r a' := by
  have hs : (sampleAccount.after sampleOperations).issuers["alpha"]? =
      some ⟨samplePolicy "alpha", ⟨10, 10⟩, ⟨0, 0, 0, 0⟩, ⟨60, 20, 17, 12, 11⟩⟩ := by
    decide +kernel
  have htotal : (sampleAccount.after sampleOperations).totalPeerCreditSat = 20 := by
    decide +kernel
  have hmax : (sampleAccount.after sampleOperations).maxTotalPeerCreditSat = 150 := by
    decide +kernel
  have hrev : (sampleAccount.after sampleOperations).revision.toNat < 2 ^ 64 - 1 := by
    decide +kernel
  have hnone : (sampleAccount.after sampleOperations).appliedReceipts["r3"]? = none := by
    decide +kernel
  have hfresh : ∀ amount,
      ¬(sampleAccount.after sampleOperations).Used (sampleOffline amount).key := by
    intro amount hused
    obtain ⟨x, hx⟩ := hused
    simp only [sampleOffline, Operation.key, Submission.key, sampleReceipt, stored, hnone,
      Option.map_none, reduceCtorEq] at hx
  have hchecked (amount : UInt64) (hpositive : amount ≠ 0) :
      (sampleOffline amount).Checked (sampleAccount.after sampleOperations) := by
    have hidentity : (sampleAccount.after sampleOperations).counterparty = "peer" := by
      decide +kernel
    simp [sampleOffline, Operation.Checked, validateReceipt, validateReceiptIdentity, hs,
      hidentity, sampleReceipt, IssuerState.ensureActive, samplePolicy, hpositive]
    decide +kernel
  constructor
  · refine (acceptance_exact sampleAccount_reachable hrev (hfresh 40) ?_).mpr ⟨_, hs, ?_⟩
    · exact hchecked 40 (by decide)
    · simp [ServiceReceiptClaim.Fits, sampleReceipt, samplePolicy, htotal, hmax]
  · rw [acceptance_exact sampleAccount_reachable hrev (hfresh 41) (hchecked 41 (by decide))]
    intro hfits
    obtain ⟨s, hs', hroom⟩ := hfits
    simp [sampleReceipt, hs] at hs'
    subst hs'
    simp [ServiceReceiptClaim.Fits, sampleReceipt, samplePolicy] at hroom

end CreditAccount
end CashuService
